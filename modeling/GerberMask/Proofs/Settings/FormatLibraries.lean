import GerberMask.Proofs.Settings.JsonRoundTrip
import GerberMask.Proofs.Settings.TomlRoundTrip
import GerberMask.Settings.File

/-!
# What is asked of the library of a format

Configurations are documents of sections (`IsDocument`), and the library of a format writes such a
document and reads it again, with everything in it that the format can say (`Format.passage`). TOML
says everything. JSON has no spelling for a number that is not finite: it writes `null`, and `null`
is no number when it is read. That is all that is known of a library (`FormatLibrary.Lawful`).

Finite numbers are printed and parsed by algorithms of their own, which need not fit together for
every number; those for which they do are a parameter of the law. For the printers and the readers
of this project the law is a theorem (`Format.library_lawful`).
-/

namespace GerberMask.Settings

/-! ### Documents -/

/-- A flag, a text, an integer of 64 bits or a number that is one of these if it is finite. -/
def IsPlain (exact : Float → Prop) : Setting → Prop
  | .flag _ => True
  | .text _ => True
  | .integer n => -0x8000000000000000 ≤ n ∧ n ≤ 0x7fffffffffffffff
  | .real x => x.isNaN = false ∧ (x.isFinite = true → exact x)
  | _ => False

/-- A plain value or a list of plain values. -/
def IsEntry (exact : Float → Prop) : Setting → Prop
  | .list vs => ∀ v ∈ vs, IsPlain exact v
  | v => IsPlain exact v

/-- Named values under plain names that are all different. -/
structure IsRecord (exact : Float → Prop) (entries : List (String × Setting)) : Prop where
  keys : ∀ e ∈ entries, Toml.IsKey e.1
  values : ∀ e ∈ entries, IsEntry exact e.2
  distinct : (entries.map Prod.fst).Nodup

/-- Sections under plain names that are all different. -/
structure IsDocument (exact : Float → Prop)
    (sections : List (String × List (String × Setting))) : Prop where
  keys : ∀ s ∈ sections, Toml.IsKey s.1
  values : ∀ s ∈ sections, IsRecord exact s.2
  distinct : (sections.map Prod.fst).Nodup

/-- The value that a document of sections is. -/
def document (sections : List (String × List (String × Setting))) : Setting :=
  .group (sections.map Toml.sectionSetting)

/-! ### The law -/

/-- What becomes of a value that is written in a format and read again. -/
def Format.passage : Format → Setting → Setting
  | json => Json.spelled
  | toml => id

theorem Format.passage_passage : (format : Format) → Passage format.passage
  | json => Json.passage_spelled
  | toml => passage_id

/-- A library that reads what it writes, as far as its format can say it. -/
structure FormatLibrary.Lawful (format : Format) (exact : Float → Prop) (lib : FormatLibrary) :
    Prop where
  /-- Documents are written, and what is written is read. -/
  written : ∀ sections, IsDocument exact sections → ∃ text,
    lib.write? (document sections) = some text ∧
      lib.read? text = some (format.passage (document sections))
  /-- A number is read as this number. -/
  real : ∀ x, lib.conventions.real? (.real x) = some x
  /-- Nothing is no number. -/
  nothing : lib.conventions.real? .nothing = none

/-! ### JSON -/

namespace Json

theorem representableItems {vs : List Setting} (h : ∀ v ∈ vs, Representable v) :
    RepresentableItems vs := by
  induction vs with
  | nil => trivial
  | cons v vs ih =>
    obtain ⟨hv, hvs⟩ := List.forall_mem_cons.1 h
    exact ⟨hv, ih hvs⟩

theorem representableEntries {es : List (String × Setting)} (h : ∀ e ∈ es, Representable e.2) :
    RepresentableEntries es := by
  induction es with
  | nil => trivial
  | cons e es ih =>
    obtain ⟨he, hes⟩ := List.forall_mem_cons.1 h
    exact ⟨he, ih hes⟩

theorem representable_of_isPlain {v : Setting} (h : IsPlain ReadsBack v) : Representable v := by
  cases v with
  | integer n => exact ⟨h.1, h.2.trans (by decide)⟩
  | real x => exact h.2
  | flag b => trivial
  | text s => trivial
  | nothing | moment | unreadable | list items | group entries => exact h.elim

theorem representable_of_isEntry {v : Setting} (h : IsEntry ReadsBack v) : Representable v := by
  cases v with
  | list vs => exact representableItems fun v hv ↦ representable_of_isPlain (h v hv)
  | nothing | flag b | integer n | real x | text s | moment | unreadable | group entries =>
    exact representable_of_isPlain h

/-- The printer and the reader of JSON fit together. -/
theorem library_lawful : library.Lawful .json ReadsBack where
  written sections h := by
    refine ⟨_, rfl, read?_write (representableEntries ?_)⟩
    simp only [List.forall_mem_map]
    exact fun s hs ↦
      representableEntries fun e he ↦ representable_of_isEntry ((h.values s hs).values e he)
  real _ := rfl
  nothing := rfl

end Json

/-! ### TOML -/

namespace Toml

theorem isScalar_of_isPlain {v : Setting} (h : IsPlain ReadsBack v) : IsScalar v := by
  cases v with
  | integer n => exact h
  | real x =>
    rcases hfinite : x.isFinite with - | -
    · exact readsBack_infinity hfinite h.1
    · exact h.2 hfinite
  | flag b => trivial
  | text s => trivial
  | nothing | moment | unreadable | list items | group entries => exact h.elim

theorem isLine_of_isEntry {v : Setting} (h : IsEntry ReadsBack v) : IsLine v := by
  cases v with
  | list vs => exact fun v hv ↦ isScalar_of_isPlain (h v hv)
  | nothing | flag b | integer n | real x | text s | moment | unreadable | group entries =>
    simp only [IsEntry] at h
    simp only [IsLine]
    exact isScalar_of_isPlain h

/-- The printer and the reader of TOML fit together. -/
theorem library_lawful : library.Lawful .toml ReadsBack where
  written sections h := by
    refine ⟨_, rfl, read?_writeDocument (fun s hs ↦ ?_) h.distinct⟩
    have hrecord := h.values s hs
    exact ⟨h.keys s hs, fun e he ↦ ⟨hrecord.keys e he, isLine_of_isEntry (hrecord.values e he)⟩,
      hrecord.distinct⟩
  real _ := rfl
  nothing := rfl

end Toml

/-! ### The formats -/

/-- A number that is read as it is written by the library of a format. -/
def Format.ReadsBack : Format → Float → Prop
  | json => Json.ReadsBack
  | toml => Toml.ReadsBack

instance (v : Setting) (x : Float) : Decidable (v = .real x) :=
  match v with
  | .real y => decidable_of_iff (y = x) ⟨congrArg Setting.real, Setting.real.inj⟩
  | .nothing | .flag _ | .integer _ | .text _ | .moment | .unreadable | .list _ | .group _ =>
    .isFalse nofun

instance : DecidablePred Toml.ReadsBack := fun x ↦
  decidable_of_iff (∃ v, v ∈ Toml.word? (Toml.writeReal x) ∧ v = .real x) <| by
    simp [Toml.ReadsBack]

instance : DecidablePred Json.ReadsBack := fun x ↦
  decidable_of_iff (∃ r, r ∈ Json.Numeral.read? (Json.writeReal x) ∧
      r.2 = [] ∧ r.1.setting = .real x) <| by
    constructor
    · rintro ⟨⟨n, rest⟩, hread, rfl, hsetting⟩
      exact ⟨n, hread, hsetting⟩
    · rintro ⟨n, hread, hsetting⟩
      exact ⟨(n, []), hread, rfl, hsetting⟩

instance : (format : Format) → DecidablePred format.ReadsBack
  | .json => inferInstanceAs (DecidablePred Json.ReadsBack)
  | .toml => inferInstanceAs (DecidablePred Toml.ReadsBack)

/-- **The libraries of this project are lawful.** -/
theorem Format.library_lawful :
    (format : Format) → format.library.Lawful format format.ReadsBack
  | json => Json.library_lawful
  | toml => Toml.library_lawful

end GerberMask.Settings
