import GerberMask.Proofs.Gerber.DrawingFrame

/-!
# The extent that a caller hands in

Layers of a board share one extent: each document is interpreted within the extent that the one
before it has reached. A document cannot see that extent. What it starts within is a drawing without
items in front of its own, and runs do not see what was drawn before them (`State.run_onto`). So the
extent in the end is the one handed in, grown by the items and by nothing else, and all the rest is
as if the document stood alone (`interpretWithin_eq`).
-/

namespace GerberMask.Gerber

namespace Interpretation

/-- The same interpretation, had it started within another extent. -/
def regrown (i : Interpretation) (bounds : Bounds) : Interpretation :=
  { i with bounds := i.items.foldl DrawItem.extend bounds }

variable {α : Type}

theorem ofState_onto_within (bounds : Bounds) (s : State α) :
    ofState (s.onto (.within bounds)) = (ofState s).regrown bounds := by
  have hitems : (#[] : Array DrawItem) ++ s.drawing.items = s.drawing.items := Array.empty_append
  simp only [ofState, regrown, State.drawing_onto, State.modes_onto, State.registry_onto,
    Drawing.append, Drawing.within, hitems]

theorem finish_onto_within (bounds : Bounds) (s : State α) :
    finish (s.onto (.within bounds)) = (·.regrown bounds) <$> finish s := by
  have hregion : (s.onto (.within bounds)).modes.region? = s.modes.region? := rfl
  rw [finish, finish, hregion, ofState_onto_within]
  split
  · rw [map_bind]
    rfl
  · rfl

end Interpretation

variable {α : Type} [Scalar α]

theorem State.initial_onto_within (bounds : Bounds) :
    (State.initial .empty : State α).onto (.within bounds) = State.initial bounds := by
  have hnothing : (#[] : Array DrawItem) ++ #[] = #[] := rfl
  simp only [initial, onto, Drawing.append, Drawing.within, hnothing, List.foldl_toArray',
    List.foldl_nil]

theorem interpretOver_eq_map (source : String) (bounds : Bounds) :
    interpretOver α source bounds = (·.regrown bounds) <$> interpretOver α source .empty := by
  rw [interpretOver, interpretOver, ← State.initial_onto_within, State.run_onto, map_bind,
    bind_map_left]
  exact congrArg _ (funext fun s ↦ Interpretation.finish_onto_within bounds s)

/-- **A starting extent has no influence.** Within any extent a document gives the warnings that it
gives alone, and fails with the same error or draws the same items, ends the same way and defines
the same apertures. The extent it reaches is the one it started within, grown by the corners of each
item in order, whatever its polarity. -/
theorem interpretWithin_eq (source : String) (bounds : Bounds) :
    (interpretWithin source bounds).warnings = (interpret source).warnings ∧
    (interpretWithin source bounds).result = (interpret source).result.map fun i ↦
      { i with bounds := i.items.foldl (fun grown item ↦
          grown.includeRect item.shape.corners.1 item.shape.corners.2) bounds } := by
  have hmap : interpretWithin source bounds = (·.regrown bounds) <$> interpret source :=
    interpretOver_eq_map source bounds
  rw [hmap]
  exact ⟨Report.warnings_map _ _, Report.result_map _ _⟩

/-- A dark flash and a clear one beside it grow the extent of the layer before. -/
theorem interpretWithin_eq_two_flashes :
    ∃ i j, (interpret "%ADD10C,2*%D10*D03*%LPC*%X4000Y0D03*").result = .ok i ∧
      i.items.toList.map (·.polarity) = [.dark, .clear] ∧
      i.bounds = ⟨some ⟨⟨-1, -1⟩, ⟨5, 1⟩⟩⟩ ∧
      (interpretWithin "%ADD10C,2*%D10*D03*%LPC*%X4000Y0D03*"
        ⟨some ⟨⟨-3, 0⟩, ⟨0, 2⟩⟩⟩).result = .ok j ∧
      j = { i with bounds := ⟨some ⟨⟨-3, -1⟩, ⟨5, 2⟩⟩⟩ } := by
  obtain ⟨i, hi, hpolarities, hbounds, hgrown⟩ : ∃ i,
      (interpret "%ADD10C,2*%D10*D03*%LPC*%X4000Y0D03*").result = .ok i ∧
      i.items.toList.map (·.polarity) = [.dark, .clear] ∧
      i.bounds = ⟨some ⟨⟨-1, -1⟩, ⟨5, 1⟩⟩⟩ ∧
      i.items.foldl (fun (grown : Bounds) item ↦
        grown.includeRect item.shape.corners.1 item.shape.corners.2)
        ⟨some ⟨⟨-3, 0⟩, ⟨0, 2⟩⟩⟩ = ⟨some ⟨⟨-3, -1⟩, ⟨5, 2⟩⟩⟩ := by
    decide +kernel
  have hwithin := (interpretWithin_eq "%ADD10C,2*%D10*D03*%LPC*%X4000Y0D03*"
    ⟨some ⟨⟨-3, 0⟩, ⟨0, 2⟩⟩⟩).2
  rw [hi, Except.map, hgrown] at hwithin
  exact ⟨i, _, hi, hpolarities, hbounds, hwithin, rfl⟩

end GerberMask.Gerber
