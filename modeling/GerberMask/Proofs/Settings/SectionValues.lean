import GerberMask.Proofs.Settings.Sections

/-!
# What a configuration is made of

Whatever the values of a configuration are, they are flags, texts, integers of 32 bits, lists of
three bytes and the numbers of the configuration. A format that can hold such values (`Covers`) can
hold every value of every section (`Covers.sectionEntries`).
-/

namespace GerberMask.Settings

/-! ### The entries of a record -/

namespace Schema

variable {σ : Type} {s : Schema σ} {value : σ}

/-- The values of a record are what its fields write. -/
theorem forall_entries {P : Setting → Prop}
    (h : ∀ f ∈ s.fields, ∀ v, f.write? value = some v → P v) : ∀ e ∈ s.entries value, P e.2 := by
  intro e he
  obtain ⟨f, hf, hwrite⟩ := List.mem_filterMap.1 he
  obtain ⟨v, hv, rfl⟩ := Option.map_eq_some_iff.1 hwrite
  exact h f hf v hv

/-- The names of the entries of a record are names of its fields, in their order. -/
theorem keys_entries_sublist :
    ((s.entries value).map Prod.fst).Sublist (s.fields.map (·.key)) := by
  obtain ⟨fields, start⟩ := s
  induction fields with
  | nil => exact .slnil
  | cons f fs ih =>
    rw [entries, List.filterMap_cons]
    rcases f.write? value with - | v
    · exact ih.cons _
    · exact ih.cons_cons _

end Schema

/-! ### The values of the sections -/

/-- The entries of every section, by its name. -/
def Config.sectionEntries (c : Config) : List (String × List (String × Setting)) :=
  [("printer", (PrinterProfile.schema Json.conventions).entries c.printer),
    ("render", (RenderSettings.schema Json.conventions).entries c.render),
    ("correction", (CorrectionSettings.schema Json.conventions).entries c.correction),
    ("drill", (DrillSettings.schema Json.conventions).entries c.drill),
    ("export", (ExportSettings.schema Json.conventions).entries c.exporting)]

theorem Config.sections_eq (c : Config) :
    c.sections = c.sectionEntries.map fun s ↦ (s.1, .group s.2) := rfl

/-- A kind of values that has everything configurations are made of, and some numbers. -/
structure Covers (P : Setting → Prop) (numbers : List Float) : Prop where
  flag : ∀ b, P (.flag b)
  text : ∀ s, P (.text s)
  integer : ∀ n, -0x80000000 ≤ n → n ≤ 0xffffffff → P (.integer n)
  bytes : ∀ r g b : UInt8, P (.list [.integer r.toNat, .integer g.toNat, .integer b.toNat])
  real : ∀ x ∈ numbers, P (.real x)

namespace Covers

variable {P : Setting → Prop} {numbers : List Float} (hP : Covers P numbers)

include hP

theorem word32 (n : UInt32) : P (.integer n.toNat) := by
  have hn := n.toNat_lt
  exact hP.integer _ (by omega) (by omega)

theorem int32 (n : Int32) : P (.integer n.toInt) := by
  have hlow := n.le_toInt
  have hhigh := n.toInt_lt
  exact hP.integer _ (by omega) (by omega)

theorem printer (conv : Conventions) {p : PrinterProfile} (hwidth : p.screenWidthMm ∈ numbers)
    (hheight : p.screenHeightMm ∈ numbers) :
    ∀ e ∈ (PrinterProfile.schema conv).entries p, P e.2 := by
  refine Schema.forall_entries ?_
  simp only [PrinterProfile.schema, List.forall_mem_cons]
  refine ⟨?_, ?_, ?_, ?_, ?_, ?_, ?_, List.forall_mem_nil _⟩
  · rintro _ ⟨⟩
    exact hP.text _
  · rintro _ ⟨⟩
    exact hP.word32 _
  · rintro _ ⟨⟩
    exact hP.word32 _
  · rintro _ ⟨⟩
    exact hP.real _ hwidth
  · rintro _ ⟨⟩
    exact hP.real _ hheight
  · rintro _ ⟨⟩
    exact hP.int32 _
  · rintro _ ⟨⟩
    exact hP.int32 _

theorem render (conv : Conventions) (r : RenderSettings) :
    ∀ e ∈ (RenderSettings.schema conv).entries r, P e.2 := by
  refine Schema.forall_entries ?_
  simp only [RenderSettings.schema, List.forall_mem_cons]
  refine ⟨?_, List.forall_mem_nil _⟩
  rintro _ ⟨⟩
  exact hP.bytes _ _ _

theorem correction (conv : Conventions) {c : CorrectionSettings}
    (h : ∀ x ∈ c.numbers, x ∈ numbers) :
    ∀ e ∈ (CorrectionSettings.schema conv).entries c, P e.2 := by
  refine Schema.forall_entries ?_
  simp only [CorrectionSettings.numbers, List.forall_mem_cons] at h
  obtain ⟨hx, hy, hrotation, -⟩ := h
  simp only [CorrectionSettings.schema, List.forall_mem_cons]
  refine ⟨?_, ?_, ?_, List.forall_mem_nil _⟩
  · rintro _ ⟨⟩
    exact hP.real _ hx
  · rintro _ ⟨⟩
    exact hP.real _ hy
  · rintro _ ⟨⟩
    exact hP.real _ hrotation

theorem drill (conv : Conventions) {d : DrillSettings}
    (h : ∀ x ∈ d.holeDiameterMm?, x ∈ numbers) :
    ∀ e ∈ (DrillSettings.schema conv).entries d, P e.2 := by
  refine Schema.forall_entries ?_
  simp only [DrillSettings.schema, List.forall_mem_cons]
  refine ⟨fun v hv ↦ ?_, List.forall_mem_nil _⟩
  obtain ⟨x, hx, ⟨⟩⟩ := Option.bind_eq_some_iff.1 hv
  exact hP.real x (h x hx)

theorem exporting (conv : Conventions) (e : ExportSettings) :
    ∀ entry ∈ (ExportSettings.schema conv).entries e, P entry.2 := by
  refine Schema.forall_entries ?_
  simp only [ExportSettings.schema, List.forall_mem_cons]
  refine ⟨?_, ?_, List.forall_mem_nil _⟩
  · rintro _ ⟨⟩
    exact hP.flag _
  · rintro _ ⟨⟩
    exact hP.text _

/-- Whatever covers the values of configurations covers those of every section. -/
theorem sectionEntries {c : Config} (hnumbers : ∀ x ∈ c.numbers, x ∈ numbers) :
    ∀ s ∈ c.sectionEntries, ∀ e ∈ s.2, P e.2 := by
  have hwidth := hnumbers c.printer.screenWidthMm (by simp [Config.numbers])
  have hheight := hnumbers c.printer.screenHeightMm (by simp [Config.numbers])
  have hcorrection : ∀ x ∈ c.correction.numbers, x ∈ numbers :=
    fun x hx ↦ hnumbers x (by simp [Config.numbers, hx])
  have hdrill : ∀ x ∈ c.drill.holeDiameterMm?, x ∈ numbers :=
    fun x hx ↦ hnumbers x (List.mem_append_right _ (Option.mem_toList.2 hx))
  simp only [Config.sectionEntries, List.forall_mem_cons]
  exact ⟨hP.printer _ hwidth hheight, hP.render _ _, hP.correction _ hcorrection, hP.drill _ hdrill,
    hP.exporting _ _, List.forall_mem_nil _⟩

end Covers

end GerberMask.Settings
