import GerberMask.Settings.File
import Mathlib.Data.List.Basic

/-!
# Reading the sections of a configuration back

A record is written as entries and read from entries, and between the two stands a format, which
may not give every value back as it was: what it makes of a value is `through` it. For a `Passage`,
which goes into lists and groups and leaves flags, integers and texts alone, only the numbers
matter: a configuration whose numbers come through is read back as it was
(`Config.read?_sections`), and one of whose shifts or whose rotation comes through as nothing is
not read at all (`Config.read?_sections_of_lost`).

Neither statement looks at a format. The first needs conventions by which a number is read as this
number, the second such by which nothing is no number. The fields of a section have different names,
so that each of them is read from its own entry (`Schema.read?_entries`).
-/

namespace GerberMask.Settings

variable {σ τ : Type} {through : Setting → Setting}

/-! ### What comes through a format -/

/-- A format that changes numbers at most. -/
structure Passage (through : Setting → Setting) : Prop where
  flag : ∀ b, through (.flag b) = .flag b
  integer : ∀ n, through (.integer n) = .integer n
  text : ∀ s, through (.text s) = .text s
  list : ∀ vs, through (.list vs) = .list (vs.map through)
  group : ∀ es, through (.group es) = .group (es.map fun e ↦ (e.1, through e.2))

/-- Nothing is lost where everything is given back. -/
theorem passage_id : Passage id where
  flag _ := rfl
  integer _ := rfl
  text _ := rfl
  list vs := by simp
  group es := by simp

/-! ### One part of a record -/

/-- What is written for a value is read as this value. -/
def Codec.Keeps (through : Setting → Setting) (c : Codec τ) (t : τ) : Prop :=
  ∀ v, c.write? t = some v → c.read? (through v) = some t

/-- The record after reading a field as it is written for another record. -/
def Field.copy? (through : Setting → Setting) (f : Field σ) (value s : σ) : Option σ :=
  match f.write? value with
  | none => some s
  | some v => f.read? s (through v)

namespace Passage

variable (hp : Passage through)

include hp

theorem keeps_flag (b : Bool) : Codec.flag.Keeps through b := by
  rintro _ ⟨⟩
  rw [hp.flag]
  rfl

theorem keeps_text (s : String) : Codec.text.Keeps through s := by
  rintro _ ⟨⟩
  rw [hp.text]
  rfl

theorem keeps_word32 (n : UInt32) : Codec.word32.Keeps through n := by
  rintro _ ⟨⟩
  have hn := n.toNat_lt
  rw [hp.integer]
  simp only [Codec.word32, Setting.integerWithin?]
  rw [if_pos (by omega)]
  simp

theorem keeps_int32 (n : Int32) : Codec.int32.Keeps through n := by
  rintro _ ⟨⟩
  have hlow := n.le_toInt
  have hhigh := n.toInt_lt
  rw [hp.integer]
  simp only [Codec.int32, Setting.integerWithin?]
  rw [if_pos (by omega)]
  simp

theorem keeps_byte (n : UInt8) : Codec.byte.Keeps through n := by
  rintro _ ⟨⟩
  have hn := n.toNat_lt
  rw [hp.integer]
  simp only [Codec.byte, Setting.integerWithin?]
  rw [if_pos (by omega)]
  simp

theorem keeps_rgb (conv : Conventions) (c : Rgb) : (Codec.rgb conv).Keeps through c := by
  rintro _ ⟨⟩
  have hr : Codec.byte.read? (through (.integer c.r.toNat)) = some c.r := hp.keeps_byte c.r _ rfl
  have hg : Codec.byte.read? (through (.integer c.g.toNat)) = some c.g := hp.keeps_byte c.g _ rfl
  have hb : Codec.byte.read? (through (.integer c.b.toNat)) = some c.b := hp.keeps_byte c.b _ rfl
  rw [hp.list]
  simp [Codec.rgb, hr, hg, hb]

theorem keeps_material (conv : Conventions) (m : Material) :
    (Codec.material conv).Keeps through m := by
  rintro _ ⟨⟩
  rw [hp.text]
  cases m with
  | negative => rfl
  | positive => rfl

end Passage

section
variable {conv : Conventions} (hreal : ∀ x, conv.real? (.real x) = some x) {x : Float}

include hreal

theorem Codec.keeps_real (h : through (.real x) = .real x) :
    (Codec.real conv).Keeps through x := by
  rintro _ ⟨⟩
  rw [h]
  exact hreal x

theorem Codec.keeps_optional_real (h : through (.real x) = .real x) :
    (Codec.optional (.real conv)).Keeps through (some x) := by
  rintro _ ⟨⟩
  have hread : (Codec.real conv).read? (.real x) = some x := hreal x
  rw [h]
  simp only [Codec.optional, hread, Option.map_some]

end

/-- The record after reading fields as they are written for another record. -/
def Field.copyAll? (through : Setting → Setting) (fs : List (Field σ)) (value s : σ) : Option σ :=
  fs.foldlM (fun r f ↦ f.copy? through value r) s

namespace Field

variable {key : String} {c : Codec τ} {get : σ → τ} {put : σ → τ → σ} {fs : List (Field σ)}
  {value s : σ}

/-- A part that is not written stays as it is. -/
theorem copyAll?_unset (hwrite : c.write? (get value) = none) :
    copyAll? through (.of key c get put :: fs) value s = copyAll? through fs value s := by
  rw [copyAll?, List.foldlM_cons]
  have hcopy : (Field.of key c get put).copy? through value s = some s := by
    simp only [copy?, Field.of, hwrite]
  rw [hcopy]
  rfl

/-- A part that is kept is taken over. -/
theorem copyAll?_of {v : Setting} (hkeeps : c.Keeps through (get value))
    (hwrite : c.write? (get value) = some v) :
    copyAll? through (.of key c get put :: fs) value s =
      copyAll? through fs value (put s (get value)) := by
  rw [copyAll?, List.foldlM_cons]
  have hcopy : (Field.of key c get put).copy? through value s = some (put s (get value)) := by
    simp only [copy?, Field.of, hwrite, hkeeps v hwrite, Option.map_some]
  rw [hcopy]
  rfl

/-- A part that is read as nothing cannot be taken over. -/
theorem copy?_of_lost {v : Setting} (hwrite : c.write? (get value) = some v)
    (hlost : c.read? (through v) = none) (s : σ) :
    (Field.of key c get put).copy? through value s = none := by
  simp only [copy?, Field.of, hwrite, hlost, Option.map_none]

/-- One part that cannot be read makes the record unreadable. -/
theorem copyAll?_of_lost {f : Field σ} (hf : f ∈ fs) (hlost : ∀ s, f.copy? through value s = none) :
    copyAll? through fs value s = none := by
  rw [copyAll?]
  induction fs generalizing s with
  | nil => simp at hf
  | cons g gs ih =>
    rw [List.foldlM_cons]
    rcases List.mem_cons.1 hf with rfl | hf
    · rw [hlost]
      rfl
    · cases g.copy? through value s with
      | none => rfl
      | some r => exact ih hf

end Field

/-! ### All parts of a record -/

namespace Schema

variable {s : Schema σ} {value : σ}

/-- A name that no field has is the name of no entry. -/
theorem filter_entries_of_notMem {key : String} (h : key ∉ s.fields.map (·.key)) :
    (s.entries value).filter (·.1 == key) = [] := by
  rw [List.filter_eq_nil_iff]
  intro e he hkey
  obtain ⟨f, hf, hwrite⟩ := List.mem_filterMap.1 he
  obtain ⟨v, -, rfl⟩ := Option.map_eq_some_iff.1 hwrite
  exact h (List.mem_map.2 ⟨f, hf, eq_of_beq hkey⟩)

/-- The entry with the name of a field is the field's own entry. -/
theorem filter_entries (hkeys : (s.fields.map (·.key)).Nodup) {f : Field σ} (hf : f ∈ s.fields) :
    (s.entries value).filter (·.1 == f.key) = ((f.write? value).map (f.key, ·)).toList := by
  obtain ⟨fields, start⟩ := s
  induction fields with
  | nil => simp at hf
  | cons g gs ih =>
    have hcons : entries ⟨g :: gs, start⟩ value =
        ((g.write? value).map (g.key, ·)).toList ++ entries ⟨gs, start⟩ value := by
      rw [entries, List.filterMap_cons]
      cases g.write? value with
      | none => rfl
      | some v => rfl
    obtain ⟨hg, hgs⟩ := List.nodup_cons.1 hkeys
    rw [hcons, List.filter_append]
    rcases List.mem_cons.1 hf with rfl | hf
    · rw [filter_entries_of_notMem hg, List.append_nil]
      cases f.write? value with
      | none => rfl
      | some v => simp
    · have hne : g.key ≠ f.key := fun h ↦ hg (List.mem_map.2 ⟨f, hf, h.symm⟩)
      rw [ih hgs hf]
      cases g.write? value with
      | none => rfl
      | some v => simp [hne]

/-- A record is read from its entries field by field, each from what is written for it. -/
theorem read?_entries (hkeys : (s.fields.map (·.key)).Nodup) (conv : Conventions) :
    s.read? conv (.group ((s.entries value).map fun e ↦ (e.1, through e.2))) =
      Field.copyAll? through s.fields value s.default := by
  rw [read?, Field.copyAll?, List.foldlM_eq_foldl, List.foldlM_eq_foldl]
  refine List.foldl_ext _ _ _ fun r? f hf ↦ ?_
  congr 1
  funext r
  have hown : ((s.entries value).map fun e ↦ (e.1, through e.2)).filter (·.1 == f.key) =
      ((f.write? value).map (f.key, ·)).toList.map fun e ↦ (e.1, through e.2) := by
    rw [← filter_entries hkeys hf, List.filter_map]
    rfl
  rw [Field.readFrom?, hown, Field.copy?]
  cases f.write? value with
  | none => rfl
  | some v => rfl

end Schema

/-! ### The sections -/

/-- The numbers of an alignment. -/
def CorrectionSettings.numbers (c : CorrectionSettings) : List Float :=
  [c.offsetXMm, c.offsetYMm, c.rotationDeg]

theorem CorrectionSettings.nodup_keys (conv : Conventions) :
    ((schema conv).fields.map (·.key)).Nodup :=
  (by decide : ["offset_x_mm", "offset_y_mm", "rotation_deg"].Nodup)

/-- The numbers of a configuration that are not integers. -/
def Config.numbers (c : Config) : List Float :=
  [c.printer.screenWidthMm, c.printer.screenHeightMm] ++ c.correction.numbers ++
    c.drill.holeDiameterMm?.toList

namespace Passage

variable (hp : Passage through) (conv : Conventions)

include hp

/-- A section is read from its fields as they are written for it. -/
theorem read?_codec {s : Schema σ} {value : σ} (hkeys : (s.fields.map (·.key)).Nodup) :
    (s.codec conv).read? (through (.group (s.entries value))) =
      Field.copyAll? through s.fields value s.default := by
  rw [hp.group]
  exact Schema.read?_entries hkeys conv

/-- A section is kept if reading its fields from what is written for them gives it back. -/
theorem keeps_codec {s : Schema σ} {value : σ} (hkeys : (s.fields.map (·.key)).Nodup)
    (h : Field.copyAll? through s.fields value s.default = some value) :
    (s.codec conv).Keeps through value := by
  rintro _ ⟨⟩
  exact (hp.read?_codec conv hkeys).trans h

theorem keeps_printer (hreal : ∀ x, conv.real? (.real x) = some x) {p : PrinterProfile}
    (hwidth : through (.real p.screenWidthMm) = .real p.screenWidthMm)
    (hheight : through (.real p.screenHeightMm) = .real p.screenHeightMm) :
    ((PrinterProfile.schema conv).codec conv).Keeps through p := by
  refine hp.keeps_codec conv (by decide : ["name", "resolution_x", "resolution_y",
    "screen_width_mm", "screen_height_mm", "bezel_margin_x", "bezel_margin_y"].Nodup) ?_
  rw [PrinterProfile.schema, Field.copyAll?_of (hp.keeps_text _) rfl,
    Field.copyAll?_of (hp.keeps_word32 _) rfl, Field.copyAll?_of (hp.keeps_word32 _) rfl,
    Field.copyAll?_of (Codec.keeps_real hreal hwidth) rfl,
    Field.copyAll?_of (Codec.keeps_real hreal hheight) rfl,
    Field.copyAll?_of (hp.keeps_int32 _) rfl, Field.copyAll?_of (hp.keeps_int32 _) rfl]
  rfl

theorem keeps_render (r : RenderSettings) :
    ((RenderSettings.schema conv).codec conv).Keeps through r := by
  refine hp.keeps_codec conv (by decide : ["ink_color"].Nodup) ?_
  rw [RenderSettings.schema, Field.copyAll?_of (hp.keeps_rgb conv _) rfl]
  rfl

theorem keeps_correction (hreal : ∀ x, conv.real? (.real x) = some x)
    {c : CorrectionSettings} (h : ∀ x ∈ c.numbers, through (.real x) = .real x) :
    ((CorrectionSettings.schema conv).codec conv).Keeps through c := by
  refine hp.keeps_codec conv (CorrectionSettings.nodup_keys conv) ?_
  have hx := h c.offsetXMm (by simp [CorrectionSettings.numbers])
  have hy := h c.offsetYMm (by simp [CorrectionSettings.numbers])
  have hrotation := h c.rotationDeg (by simp [CorrectionSettings.numbers])
  rw [CorrectionSettings.schema, Field.copyAll?_of (Codec.keeps_real hreal hx) rfl,
    Field.copyAll?_of (Codec.keeps_real hreal hy) rfl,
    Field.copyAll?_of (Codec.keeps_real hreal hrotation) rfl]
  rfl

theorem keeps_drill (hreal : ∀ x, conv.real? (.real x) = some x) {d : DrillSettings}
    (h : ∀ x ∈ d.holeDiameterMm?.toList, through (.real x) = .real x) :
    ((DrillSettings.schema conv).codec conv).Keeps through d := by
  refine hp.keeps_codec conv (by decide : ["hole_diameter_mm"].Nodup) ?_
  obtain ⟨hole?⟩ := d
  cases hole? with
  | none =>
    rw [DrillSettings.schema, Field.copyAll?_unset rfl]
    rfl
  | some x =>
    rw [DrillSettings.schema, Field.copyAll?_of (v := .real x)]
    · rfl
    · exact Codec.keeps_optional_real hreal (h x (by simp))
    · rfl

theorem keeps_export (e : ExportSettings) :
    ((ExportSettings.schema conv).codec conv).Keeps through e := by
  refine hp.keeps_codec conv (by decide : ["mirror", "material"].Nodup) ?_
  rw [ExportSettings.schema, Field.copyAll?_of (hp.keeps_flag _) rfl,
    Field.copyAll?_of (hp.keeps_material conv _) rfl]
  rfl

/-- An alignment with a number that comes through as nothing is not read. -/
theorem read?_correction_of_lost (hnothing : conv.real? .nothing = none)
    {c : CorrectionSettings} {x : Float} (hx : x ∈ c.numbers)
    (hlost : through (.real x) = .nothing) :
    ((CorrectionSettings.schema conv).codec conv).read?
      (through (.group ((CorrectionSettings.schema conv).entries c))) = none := by
  have hread : (Codec.real conv).read? (through (.real x)) = none := by
    rw [hlost]
    exact hnothing
  rw [hp.read?_codec conv (CorrectionSettings.nodup_keys conv)]
  simp only [CorrectionSettings.numbers, List.mem_cons, List.not_mem_nil, or_false] at hx
  obtain rfl | rfl | rfl := hx
  · exact Field.copyAll?_of_lost (.head _) (Field.copy?_of_lost rfl hread)
  · exact Field.copyAll?_of_lost (.tail _ (.head _)) (Field.copy?_of_lost rfl hread)
  · exact Field.copyAll?_of_lost (.tail _ (.tail _ (.head _))) (Field.copy?_of_lost rfl hread)

end Passage

namespace Config

variable {c : Config} (hp : Passage through) (conv : Conventions)

include hp

/-- The sections of a configuration have different names. -/
theorem read?_sections_eq : (schema conv).read? conv (through (.group c.sections)) =
    Field.copyAll? through (schema conv).fields c .default :=
  hp.read?_codec conv (s := schema conv)
    (by decide : ["printer", "render", "correction", "drill", "export"].Nodup)

/-- **A configuration whose numbers come through is read back as it was.** -/
theorem read?_sections (hreal : ∀ x, conv.real? (.real x) = some x)
    (h : ∀ x ∈ c.numbers, through (.real x) = .real x) :
    (schema conv).read? conv (through (.group c.sections)) = some c := by
  have hwidth := h c.printer.screenWidthMm (by simp [numbers])
  have hheight := h c.printer.screenHeightMm (by simp [numbers])
  have hcorrection : ∀ x ∈ c.correction.numbers, through (.real x) = .real x :=
    fun x hx ↦ h x (by simp [numbers, hx])
  have hdrill : ∀ x ∈ c.drill.holeDiameterMm?.toList, through (.real x) = .real x :=
    fun x hx ↦ h x (List.mem_append_right _ hx)
  rw [read?_sections_eq hp, schema,
    Field.copyAll?_of (hp.keeps_printer conv hreal hwidth hheight) rfl,
    Field.copyAll?_of (hp.keeps_render conv _) rfl,
    Field.copyAll?_of (hp.keeps_correction conv hreal hcorrection) rfl,
    Field.copyAll?_of (hp.keeps_drill conv hreal hdrill) rfl,
    Field.copyAll?_of (hp.keeps_export conv _) rfl]
  rfl

/-- **A configuration whose alignment loses a number is not read at all.** -/
theorem read?_sections_of_lost (hnothing : conv.real? .nothing = none) {x : Float}
    (hx : x ∈ c.correction.numbers)
    (hlost : through (.real x) = .nothing) :
    (schema conv).read? conv (through (.group c.sections)) = none := by
  rw [read?_sections_eq hp]
  exact Field.copyAll?_of_lost (.tail _ (.tail _ (.head _)))
    (Field.copy?_of_lost rfl (hp.read?_correction_of_lost conv hnothing hx hlost))

end Config

end GerberMask.Settings
