import GerberMask.Proofs.Program.RecordCommands
import GerberMask.Proofs.Settings.FormatLibraries
import GerberMask.Proofs.Settings.SectionValues
import GerberMask.Proofs.Settings.ValidConfigs

/-!
# Saved configurations are loaded again

What `Config.save` writes `Config.load` reads, in both formats (`saved_configs`). The text of a
configuration says its sections, and these say the configuration (`Config.parse?_text`). Of the
libraries that write and read the texts nothing is used but that they are lawful: a configuration is
a document (`Config.isDocument_sections`), and its numbers come through the format. A check that
passed before saving passes again after loading, since the configuration is the same.

The check leaves the alignment alone: its numbers can be infinite. TOML has words for that. JSON has
none, and `null` stands in their place, which is no number when it is read
(`Config.parse?_text_of_lost`).
-/

namespace GerberMask.Settings

/-! ### The document of a configuration -/

variable {exact : Float → Prop}

/-- A number that can be asked of a library: it is a number, and among the exact ones if finite. -/
def IsKept (exact : Float → Prop) (x : Float) : Prop :=
  x.isNaN = false ∧ (x.isFinite = true → exact x)

/-- The values of configurations can be entries of documents. -/
theorem covers_isEntry {numbers : List Float} (h : ∀ x ∈ numbers, IsKept exact x) :
    Covers (IsEntry exact) numbers where
  flag _ := trivial
  text _ := trivial
  integer n hlow hhigh := ⟨hlow.trans' (by decide), hhigh.trans (by decide)⟩
  bytes r g b := by
    have hbyte : ∀ n : UInt8, IsPlain exact (.integer n.toNat) := by
      intro n
      have hn := n.toNat_lt
      exact ⟨by omega, by omega⟩
    show ∀ v ∈ _, IsPlain exact v
    simp only [List.forall_mem_cons]
    exact ⟨hbyte r, hbyte g, hbyte b, nofun⟩
  real x hx := h x hx

/-- The entries of a record have plain and different names if its fields do. -/
theorem isRecord_entries {σ : Type} {s : Schema σ} {value : σ}
    (hkeys : ∀ key ∈ s.fields.map (·.key), Toml.IsKey key)
    (hdistinct : (s.fields.map (·.key)).Nodup)
    (hvalues : ∀ e ∈ s.entries value, IsEntry exact e.2) : IsRecord exact (s.entries value) where
  keys e he := hkeys e.1 (s.keys_entries_sublist.subset (List.mem_map_of_mem he))
  values := hvalues
  distinct := hdistinct.sublist s.keys_entries_sublist

namespace Config

variable {c : Config} {format : Format} {lib : FormatLibrary}

/-- **A configuration is a document.** -/
theorem isDocument_sections (h : ∀ x ∈ c.numbers, IsKept exact x) :
    IsDocument exact c.sectionEntries where
  keys := by
    have hnames : ∀ name ∈ ["printer", "render", "correction", "drill", "export"],
        Toml.IsKey name := by decide
    exact fun s hs ↦ hnames s.1 (List.mem_map_of_mem hs)
  distinct := (by decide : ["printer", "render", "correction", "drill", "export"].Nodup)
  values := by
    have hvalues := (covers_isEntry h).sectionEntries (c := c) (fun _ ↦ id)
    simp only [sectionEntries, List.forall_mem_cons] at hvalues ⊢
    obtain ⟨hprinter, hrender, hcorrection, hdrill, hexport, -⟩ := hvalues
    exact ⟨isRecord_entries (by decide) (by decide) hprinter,
      isRecord_entries (by decide) (by decide) hrender,
      isRecord_entries (by decide) (by decide) hcorrection,
      isRecord_entries (by decide) (by decide) hdrill,
      isRecord_entries (by decide) (by decide) hexport, List.forall_mem_nil _⟩

/-- A lawful library has a text for a configuration and reads it as what comes through. -/
theorem text?_of_lawful (hlib : lib.Lawful format exact) (h : ∀ x ∈ c.numbers, IsKept exact x) :
    ∃ text, c.text? lib = some text ∧
      lib.read? text = some (format.passage (.group c.sections)) := by
  have hdocument : document c.sectionEntries = .group c.sections := by
    rw [sections_eq]
    rfl
  rw [text?, ← hdocument]
  exact hlib.written c.sectionEntries (isDocument_sections h)

/-- What a lawful library has written for a configuration is read as what comes through. -/
theorem read?_text (hlib : lib.Lawful format exact) (h : ∀ x ∈ c.numbers, IsKept exact x)
    {text : String} (htext : c.text? lib = some text) :
    lib.read? text = some (format.passage (.group c.sections)) := by
  obtain ⟨text', htext', hread⟩ := text?_of_lawful hlib h
  obtain rfl : text = text' := Option.some.inj (htext.symm.trans htext')
  exact hread

/-! ### Reading the text of a configuration -/

/-- **The text of a configuration says the configuration** if its numbers come through. -/
theorem parse?_text (hlib : lib.Lawful format exact) (h : ∀ x ∈ c.numbers, IsKept exact x)
    (hkept : ∀ x ∈ c.numbers, format.passage (.real x) = .real x) {text : String}
    (htext : c.text? lib = some text) : parse? lib text = some c := by
  rw [parse?, read?_text hlib h htext]
  exact read?_sections format.passage_passage _ hlib.real hkept

/-- **An alignment that does not come through makes the text unreadable.** -/
theorem parse?_text_of_lost (hlib : lib.Lawful format exact)
    (h : ∀ x ∈ c.numbers, IsKept exact x) {x : Float} (hx : x ∈ c.correction.numbers)
    (hlost : format.passage (.real x) = .nothing) {text : String}
    (htext : c.text? lib = some text) : parse? lib text = none := by
  rw [parse?, read?_text hlib h htext]
  exact read?_sections_of_lost format.passage_passage _ hlib.nothing hx hlost

/-- In every format the finite numbers come through, and in TOML all of them. -/
theorem passage_real {x : Float} (h : format = .toml ∨ x.isFinite = true) :
    format.passage (.real x) = .real x := by
  cases format with
  | toml => rfl
  | json =>
    obtain hformat | hfinite := h
    · cases hformat
    · show Json.spelled (.real x) = .real x
      rw [Json.spelled, if_pos hfinite]

/-- In JSON a number that is not finite is lost. -/
theorem passage_json_of_not_isFinite {x : Float} (h : x.isFinite = false) :
    Format.json.passage (.real x) = .nothing := by
  show Json.spelled (.real x) = .nothing
  rw [Json.spelled, h, if_neg Bool.false_ne_true]

/-- Only the alignment of a valid configuration can have a number that is not finite. -/
theorem isFinite_of_validate (h : c.validate = .ok ()) {x : Float} (hx : x ∈ c.numbers)
    (hcorrection : x ∈ c.correction.numbers → x.isFinite = true) : x.isFinite = true := by
  obtain ⟨-, -, ⟨hwidth, -⟩, ⟨hheight, -⟩, hdrill⟩ := validate_eq_ok.1 h
  rw [numbers, List.mem_append, List.mem_append] at hx
  obtain (hscreen | hx) | hhole := hx
  · simp only [List.mem_cons, List.not_mem_nil, or_false] at hscreen
    obtain rfl | rfl := hscreen
    · exact hwidth
    · exact hheight
  · exact hcorrection hx
  · exact (hdrill x (Option.mem_toList.1 hhole)).1

/-! ### Files -/

/-- A text is read as it was written. -/
theorem textOf_bytesOf (text : String) : textOf (bytesOf text) = .ok text := by
  have hread : String.fromUTF8? text.toUTF8 = some text := by
    rw [String.fromUTF8?, String.toUTF8_eq_toByteArray, dif_pos text.isValidUTF8]
    rfl
  rw [textOf, bytesOf, hread]

variable {path : String} {format : Format} {f f' : Folder}

/-- Nothing is done with files for a configuration or a path that is refused. -/
theorem save_of_refused {m : Type → Type} [Monad m] (libs : Format → FormatLibrary)
    (files : FileAccess m) {e : ConfigError}
    (h : c.validate = .error e ∨ c.validate = .ok () ∧ Format.ofPath path = .error e) :
    c.save libs files path = pure (.error (.config e)) := by
  have houtput : c.output libs path = .error (.config e) := by
    obtain hvalid | ⟨hvalid, hformat⟩ := h
    · rw [output, hvalid]
      rfl
    · rw [output, hvalid, hformat]
      rfl
  rw [save, houtput]

variable {libs : Format → FormatLibrary}

/-- What is to be saved is the text that the library of the format has. -/
theorem output_eq_ok {text : String} (hformat : Format.ofPath path = .ok format) :
    c.output libs path = .ok text ↔ c.validate = .ok () ∧ c.text? (libs format) = some text := by
  simp only [output, hformat, Except.mapError, bind, Except.bind]
  rcases c.validate with e | ⟨⟩
  · constructor
    · rintro ⟨⟩
    · rintro ⟨⟨⟩, -⟩
  rcases c.text? (libs format) with - | text'
  · constructor
    · rintro ⟨⟩
    · rintro ⟨-, ⟨⟩⟩
  · constructor
    · rintro ⟨⟩
      exact ⟨rfl, rfl⟩
    · rintro ⟨-, ⟨⟩⟩
      rfl

/-- Saving succeeds if the configuration is valid, has a text and this can be written. -/
theorem run_save_eq_ok (hformat : Format.ofPath path = .ok format) :
    (c.save libs Folder.access path).run f = (.ok (), f') ↔
      c.validate = .ok () ∧ ∃ text, c.text? (libs format) = some text ∧
        f.write path (bytesOf text) = .ok f' := by
  have hsave : (c.save libs Folder.access path).run f = (.ok (), f') ↔
      ∃ text, c.output libs path = .ok text ∧ f.write path (bytesOf text) = .ok f' := by
    rw [save]
    cases c.output libs path with
    | error e =>
      constructor
      · rintro ⟨⟩
      · rintro ⟨_, ⟨⟩, _⟩
    | ok text =>
      simp only [Except.ok.injEq, exists_eq_left']
      exact Program.run_mapError_eq_ok.trans Program.run_write_eq_ok
  rw [hsave]
  simp only [output_eq_ok hformat, and_assoc, exists_and_left]

/-- Loading reads the file and accepts its text. -/
theorem run_load (hformat : Format.ofPath path = .ok format) {text : String}
    (hread : f.read path = .ok (bytesOf text)) :
    (load libs Folder.access path).run f = (accept libs format text, f) := by
  have hrun : (load libs Folder.access path).run f =
      ((((f.read path).bind textOf).mapError .file).bind (accept libs format), f) := by
    rw [load, hformat]
    rfl
  rw [hrun, hread, Except.bind, textOf_bytesOf]
  rfl

/-- A valid configuration that is parsed is accepted. -/
theorem accept_of_parse? {text : String} (hvalid : c.validate = .ok ())
    (hparse : parse? (libs format) text = some c) : accept libs format text = .ok c := by
  rw [accept, hparse]
  show (c.validate.mapError SettingsError.config).map _ = .ok c
  rw [hvalid]
  rfl

/-- A text that is not parsed is not accepted. -/
theorem accept_of_parse?_none {text : String} (hparse : parse? (libs format) text = none) :
    accept libs format text = .error format.error := by
  rw [accept, hparse]

end Config

/-- **A saved configuration can be loaded again.** A configuration that is not valid, and a path
without a format, is refused with its own error before anything is done with files. A valid one is
saved wherever its text can be written, and if it is free of "not a number" and its finite numbers
are among those that the library of the format reads as it writes them, then there is such a text.
In TOML it is then loaded as it was; in JSON this holds if its alignment is finite, and otherwise
what was saved cannot be loaded. -/
theorem saved_configs (c : Config) (libs : Format → FormatLibrary) :
    (∀ {m : Type → Type} [Monad m] (files : FileAccess m) (path : String) (e : ConfigError),
      c.validate = .error e ∨ c.validate = .ok () ∧ Format.ofPath path = .error e →
        c.save libs files path = pure (.error (.config e))) ∧
    ∀ (path : String) (format : Format), Format.ofPath path = .ok format →
      (∀ f f' : Folder, (c.save libs Folder.access path).run f = (.ok (), f') ↔
        c.validate = .ok () ∧ ∃ text, c.text? (libs format) = some text ∧
          f.write path (bytesOf text) = .ok f') ∧
      ∀ exact : Float → Prop, (libs format).Lawful format exact →
        (∀ x ∈ c.numbers, x.isNaN = false) →
        (∀ x ∈ c.numbers, x.isFinite = true → exact x) →
          (∃ text, c.text? (libs format) = some text) ∧
          ∀ f f' : Folder, (c.save libs Folder.access path).run f = (.ok (), f') →
            ((format = .toml ∨ ∀ x ∈ c.correction.numbers, x.isFinite = true) →
              (Config.load libs Folder.access path).run f' = (.ok c, f')) ∧
            (format = .json → (∃ x ∈ c.correction.numbers, x.isFinite = false) →
              (Config.load libs Folder.access path).run f' = (.error .json, f')) := by
  refine ⟨fun files path e h ↦ Config.save_of_refused libs files h, fun path format hformat ↦
    ⟨fun f f' ↦ Config.run_save_eq_ok hformat, fun exact hlib hnumber hexact ↦ ?_⟩⟩
  have hkept : ∀ x ∈ c.numbers, IsKept exact x := fun x hx ↦ ⟨hnumber x hx, hexact x hx⟩
  constructor
  · obtain ⟨text, htext, -⟩ := Config.text?_of_lawful hlib hkept
    exact ⟨text, htext⟩
  intro f f' hsave
  obtain ⟨hvalid, text, htext, hwrite⟩ := (Config.run_save_eq_ok hformat).1 hsave
  rw [Config.run_load hformat (Folder.read_write hwrite)]
  constructor
  · intro hfinite
    have hreal : ∀ x ∈ c.numbers, format.passage (.real x) = .real x := fun x hx ↦
      Config.passage_real (hfinite.imp_right fun h ↦ Config.isFinite_of_validate hvalid hx (h x))
    rw [Config.accept_of_parse? hvalid (Config.parse?_text hlib hkept hreal htext)]
  · rintro rfl ⟨x, hx, hfinite⟩
    rw [Config.accept_of_parse?_none (Config.parse?_text_of_lost hlib hkept hx
      (Config.passage_json_of_not_isFinite hfinite) htext)]
    rfl

/-- The default settings with a shift beyond all bounds. -/
def Config.shifted : Config where
  printer := .default
  render := .default
  correction := { CorrectionSettings.default with offsetXMm := 1.0 / 0.0 }
  drill := .default
  exporting := .default

theorem isNaN_of_mem_shifted : ∀ x ∈ Config.shifted.numbers, x.isNaN = false := by
  decide +kernel

/-- The finite numbers of the default settings are read as they are written. -/
theorem readsBack_of_mem_shifted (format : Format) :
    ∀ x ∈ Config.shifted.numbers, x.isFinite = true → format.ReadsBack x := by
  rcases format with - | -
  · decide +kernel
  · decide +kernel

/-- A folder that holds only the text of a configuration. -/
def savedFolder (c : Config) (path : String) (format : Format) : Folder :=
  ⟨[([path.toList], bytesOf ((c.text? format.library).getD ""))]⟩

theorem saved_configs_shifted :
    (Config.load Format.library Folder.access "a.json").run
        (savedFolder .default "a.json" .json) =
      (.ok .default, savedFolder .default "a.json" .json) ∧
    (Config.shifted.save Format.library Folder.access "a.toml").run .empty =
      (.ok (), savedFolder .shifted "a.toml" .toml) ∧
    (Config.load Format.library Folder.access "a.toml").run
        (savedFolder .shifted "a.toml" .toml) =
      (.ok .shifted, savedFolder .shifted "a.toml" .toml) ∧
    (Config.load Format.library Folder.access "a.json").run
        (savedFolder .shifted "a.json" .json) =
      (.error .json, savedFolder .shifted "a.json" .json) ∧
    Config.shifted.save Format.library Folder.access "a.ini" =
      pure (.error (.config (.unsupportedFormat "ini"))) := by
  obtain ⟨-, hdefault⟩ := saved_configs .default Format.library
  obtain ⟨hrefused, hshifted⟩ := saved_configs .shifted Format.library
  obtain ⟨hsaves, hloads⟩ := hdefault "a.json" .json rfl
  have hsaved := (hsaves .empty (savedFolder .default "a.json" .json)).2 ⟨rfl, _, rfl, rfl⟩
  obtain ⟨-, hloads⟩ := hloads _ Json.library_lawful (by decide +kernel) (by decide +kernel)
  have hload := (hloads _ _ hsaved).1 (.inr (by decide +kernel))
  obtain ⟨hsaves, hloads⟩ := hshifted "a.toml" .toml rfl
  have hsaved := (hsaves .empty (savedFolder .shifted "a.toml" .toml)).2 ⟨rfl, _, rfl, rfl⟩
  obtain ⟨-, hloads⟩ := hloads _ Toml.library_lawful isNaN_of_mem_shifted
    (readsBack_of_mem_shifted .toml)
  have htoml := (hloads _ _ hsaved).1 (.inl rfl)
  obtain ⟨hsaves, hloads⟩ := hshifted "a.json" .json rfl
  have hjson := (hsaves .empty (savedFolder .shifted "a.json" .json)).2 ⟨rfl, _, rfl, rfl⟩
  obtain ⟨-, hloads⟩ := hloads _ Json.library_lawful isNaN_of_mem_shifted
    (readsBack_of_mem_shifted .json)
  have hlost := (hloads _ _ hjson).2 rfl ⟨1.0 / 0.0, .head _, by decide +kernel⟩
  exact ⟨hload, hsaved, htoml, hlost, hrefused Folder.access "a.ini" _ (.inr ⟨rfl, rfl⟩)⟩

/-- The settings with a shift beyond all bounds are valid and their finite numbers are read as they
are written in JSON, but after they are saved as JSON they cannot be loaded. -/
theorem shifted_not_loaded :
    Config.shifted.validate = .ok () ∧ (∀ x ∈ Config.shifted.numbers, x.isNaN = false) ∧
      (∀ x ∈ Config.shifted.numbers, x.isFinite = true → Json.ReadsBack x) ∧
      (Config.shifted.save Format.library Folder.access "a.json").run .empty =
        (.ok (), savedFolder .shifted "a.json" .json) ∧
      (Config.load Format.library Folder.access "a.json").run
          (savedFolder .shifted "a.json" .json) =
        (.error .json, savedFolder .shifted "a.json" .json) := by
  have hkept : ∀ x ∈ Config.shifted.numbers, IsKept Json.ReadsBack x := fun x hx ↦
    ⟨isNaN_of_mem_shifted x hx, readsBack_of_mem_shifted .json x hx⟩
  refine ⟨rfl, isNaN_of_mem_shifted, readsBack_of_mem_shifted .json,
    (Config.run_save_eq_ok rfl).2 ⟨rfl, _, rfl, rfl⟩, ?_⟩
  have hparse : Config.parse? (Format.library .json)
      ((Config.shifted.text? Json.library).getD "") = none :=
    Config.parse?_text_of_lost Json.library_lawful hkept
      (.head _ : 1.0 / 0.0 ∈ Config.shifted.correction.numbers)
      (Config.passage_json_of_not_isFinite (by decide +kernel)) rfl
  have hread : (savedFolder .shifted "a.json" .json).read "a.json" =
      .ok (bytesOf ((Config.shifted.text? Json.library).getD "")) := rfl
  rw [Config.run_load rfl hread, Config.accept_of_parse?_none hparse]
  rfl

end GerberMask.Settings
