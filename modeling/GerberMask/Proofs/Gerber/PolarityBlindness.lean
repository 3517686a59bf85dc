import GerberMask.Proofs.Gerber.SideBySide
import GerberMask.Proofs.Gerber.TokenReadings

/-!
# Polarity only colours

A document sets the polarity and never asks for it. Two documents that are the same except for what
their polarity commands set are executed side by side, with any polarity in the place of any other:
they fail alike, or they draw the same shapes in the same order and differ in nothing but the
polarities of their items (`polarity_only_colours`).

Which command is a polarity command is a question of how it is read: the line of a macro that begins
like one is not executed, and a block that begins like one is a block.
-/

namespace GerberMask.Gerber

/-! ### Documents that differ in polarity commands -/

namespace Token

/-- Whether an extended command is one about the polarity. -/
def namesPolarity : Token → Bool
  | toggle => false
  | command text => String.ofList (text.toList.take 2) == "LP"

/-- Whether two rows of tokens, read in a given way, are equally long and the same token by token,
except that a polarity command can stand for another one where it is executed as such. -/
def sameButPolarity (r : Reading) : List Token → List Token → Bool
  | [], [] => true
  | t :: ts, t' :: ts' =>
    (t == t' || (r == .extended && t.namesPolarity && t'.namesPolarity)) &&
      sameButPolarity (r.next t) ts ts'
  | _, _ => false

end Token

/-! ### Their runs -/

/-- Positions are the same, and any polarity can stand for any other. -/
def Variation.anyPolarity : Variation where
  places := Eq
  polarities _ _ := True
  refl _ := trivial
  inverse _ := trivial

namespace State

variable {α : Type} {s s' : State α}

open Variation (anyPolarity)

theorem reads_of_sideBySide {v : Variation} (h : v.States s s') {r : Reading} (hs : s.Reads r) :
    s'.Reads r := by
  obtain ⟨-, -, -⟩ := h
  cases r <;> exact hs

variable [Scalar α]

theorem step_of_namesPolarity {t : Token} (hs : s.Reads .extended)
    (running : s.modes.stoppedAt? = none) (ht : t.namesPolarity = true) (position : Nat) :
    ∃ polarity, (s.step position t).result =
      .ok { s with modes := { s.modes with polarity } } := by
  cases t with
  | toggle => cases ht
  | command text =>
    have hname : String.ofList (text.toList.take 2) = "LP" := by
      simpa [Token.namesPolarity] using ht
    have hstep : s.step position (.command text) = s.setPolarity (text.toList.drop 2) text := by
      simp [step, running, command, hs.1, hs.2, extendedCommand, hname]
    rw [hstep]
    unfold setPolarity
    split
    · exact ⟨.dark, rfl⟩
    · exact ⟨.clear, rfl⟩
    · exact ⟨s.modes.polarity, rfl⟩

/-- Whatever two polarity commands set, the states after them correspond. -/
theorem step_sideBySide_of_namesPolarity {t t' : Token} (h : anyPolarity.States s s')
    (hs : s.Reads .extended) (running : s.modes.stoppedAt? = none) (ht : t.namesPolarity = true)
    (ht' : t'.namesPolarity = true) (position : Nat) :
    anyPolarity.Reports anyPolarity.States (s.step position t) (s'.step position t') := by
  have hrunning' : s'.modes.stoppedAt? = none := by
    rw [← Option.isNone_iff_eq_none, ← Option.not_isSome, h.stopped, running]
    rfl
  obtain ⟨polarity, hstep⟩ := step_of_namesPolarity hs running ht position
  obtain ⟨polarity', hstep'⟩ :=
    step_of_namesPolarity (reads_of_sideBySide h hs) hrunning' ht' position
  rw [Variation.Reports, hstep, hstep']
  obtain ⟨-, hstops, hdrawing⟩ := h
  exact .ok ⟨trivial, hstops, hdrawing⟩

/-- **Polarity commands leave no other trace.** The induction is on the tokens of the first
document, with the reading as it comes. -/
theorem runFrom_sameButPolarity {r : Reading} (h : anyPolarity.States s s') (hs : s.Reads r)
    {tokens tokens' : List Token} (htokens : Token.sameButPolarity r tokens tokens' = true)
    (position : Nat) :
    anyPolarity.Reports anyPolarity.States (runFrom (.ok s) (tokens.zipIdx position))
      (runFrom (.ok s') (tokens'.zipIdx position)) := by
  induction tokens generalizing tokens' s s' r position with
  | nil =>
    cases tokens' with
    | nil => exact .ok h
    | cons t' ts' => cases htokens
  | cons t ts ih =>
    cases tokens' with
    | nil => cases htokens
    | cons t' ts' =>
      cases running : s.modes.stoppedAt? with
      | some p =>
        have hstop : s.modes.stoppedAt?.isSome = true := by simp [running]
        rw [runFrom_of_stopped hstop, runFrom_of_stopped (h.stopped.trans hstop)]
        exact .ok h
      | none =>
        rw [Token.sameButPolarity, Bool.and_eq_true] at htokens
        obtain ⟨hhead, htail⟩ := htokens
        rw [runFrom_cons, runFrom_cons]
        have hstep : anyPolarity.Reports anyPolarity.States (s.step position t)
            (s'.step position t') := by
          rw [Bool.or_eq_true, beq_iff_eq, Bool.and_eq_true, Bool.and_eq_true, beq_iff_eq] at hhead
          obtain rfl | ⟨⟨rfl, ht⟩, ht'⟩ := hhead
          · exact step_sideBySide h rfl t
          · exact step_sideBySide_of_namesPolarity h hs running ht ht' position
        refine (hstep.and_ensures (step_reads hs running position t)).bind ?_
        rintro s₁ s₁' ⟨h₁, hs₁⟩
        exact ih h₁ hs₁ htail (position + 1)

end State

/-! ### Their interpretations -/

/-- An interpretation without the polarities of its items. -/
structure Uncoloured where
  shapes : Array Shape
  bounds : Bounds
  termination : Termination
  apertures : Nat
  deriving DecidableEq

/-- Forgets the polarities of the items, and nothing else. -/
def Interpretation.uncoloured (i : Interpretation) : Uncoloured :=
  ⟨i.items.map (·.shape), i.bounds, i.termination, i.apertures⟩

theorem Variation.Drawings.shapes {v : Variation} {d e : Drawing} (h : v.Drawings d e) :
    d.items.map (·.shape) = e.items.map (·.shape) := by
  rw [← Array.toList_inj, Array.toList_map, Array.toList_map]
  refine List.forall₂_eq_eq_eq ▸ ?_
  exact List.forall₂_map_left_iff.2 (List.forall₂_map_right_iff.2 (h.items.imp fun _ _ hij ↦ hij.1))

variable {α : Type}

theorem uncoloured_ofState {s s' : State α} (h : Variation.anyPolarity.States s s') :
    (Interpretation.ofState s).uncoloured = (Interpretation.ofState s').uncoloured := by
  obtain ⟨-, hstops, hdrawing⟩ := h
  have hstop : ∀ {a b : Option Nat}, Option.Rel Eq a b → a = b := by
    rintro _ _ (⟨⟨⟩⟩ | -) <;> rfl
  simp only [Interpretation.ofState, Interpretation.uncoloured, hdrawing.shapes, hdrawing.bounds,
    hstop hstops]

variable [Scalar α]

variable (α) in
/-- **Polarity only colours.** Two documents that differ in nothing but what their polarity commands
set fail with the same error, or both succeed and draw the same shapes in the same order, in the
same extent; they end in the same way and define equally many apertures. Only the polarities of the
items can differ. -/
theorem polarity_only_colours {source source' : String} (bounds : Bounds)
    (h : Token.sameButPolarity .block (Token.scan source) (Token.scan source') = true) :
    (interpretOver α source bounds).result.map Interpretation.uncoloured =
      (interpretOver α source' bounds).result.map Interpretation.uncoloured := by
  have hinitial : Variation.anyPolarity.States (State.initial bounds : State α) (.initial bounds) :=
    ⟨trivial, .none, ⟨.nil, rfl⟩⟩
  have hrun := State.runFrom_sameButPolarity hinitial (State.initial_reads bounds) h 0
  unfold Variation.Reports at hrun
  simp only [interpretOver, State.run, Report.result_bind, Interpretation.result_finish]
  -- both runs failed, or both ended
  generalize (State.runFrom (.ok (State.initial bounds : State α))
    ((Token.scan source).zipIdx 0)).result = x at hrun ⊢
  generalize (State.runFrom (.ok (State.initial bounds : State α))
    ((Token.scan source').zipIdx 0)).result = y at hrun ⊢
  cases hrun with
  | error places =>
    obtain rfl := places
    rfl
  | ok related => exact congrArg Except.ok (uncoloured_ofState related)

/-- A flash with a hole and a region, dark in one document and clear in the other: the disc and the
region change their colour, the hole does not. -/
theorem polarity_only_colours_hole :
    Token.sameButPolarity .block
        (Token.scan "%ADD10C,1X0.5*%%LPD*%D10*D03*G36*X1D01*G37*%LPC*%D03*")
        (Token.scan "%ADD10C,1X0.5*%%LPC*%D10*D03*G36*X1D01*G37*%LPX*%D03*") = true ∧
    ∃ i j, (interpret "%ADD10C,1X0.5*%%LPD*%D10*D03*G36*X1D01*G37*%LPC*%D03*").result = .ok i ∧
      (interpret "%ADD10C,1X0.5*%%LPC*%D10*D03*G36*X1D01*G37*%LPX*%D03*").result = .ok j ∧
      i.uncoloured = j.uncoloured ∧
      i.items.map (·.polarity) = #[.dark, .clear, .dark, .clear, .clear] ∧
      j.items.map (·.polarity) = #[.clear, .clear, .clear, .clear, .clear] := by
  have hsame : Token.sameButPolarity .block
      (Token.scan "%ADD10C,1X0.5*%%LPD*%D10*D03*G36*X1D01*G37*%LPC*%D03*")
      (Token.scan "%ADD10C,1X0.5*%%LPC*%D10*D03*G36*X1D01*G37*%LPX*%D03*") = true := by
    decide +kernel
  obtain ⟨i, hi, hpolarity⟩ : ∃ i,
      (interpret "%ADD10C,1X0.5*%%LPD*%D10*D03*G36*X1D01*G37*%LPC*%D03*").result = .ok i ∧
        i.items.map (·.polarity) = #[.dark, .clear, .dark, .clear, .clear] := by
    decide +kernel
  obtain ⟨j, hj, hpolarity'⟩ : ∃ j,
      (interpret "%ADD10C,1X0.5*%%LPC*%D10*D03*G36*X1D01*G37*%LPX*%D03*").result = .ok j ∧
        j.items.map (·.polarity) = #[.clear, .clear, .clear, .clear, .clear] := by
    decide +kernel
  have hsides := polarity_only_colours Float .empty hsame
  change (interpret _).result.map _ = (interpret _).result.map _ at hsides
  rw [hi, hj] at hsides
  exact ⟨hsame, i, j, hi, hj, Except.ok.inj hsides, hpolarity, hpolarity'⟩

end GerberMask.Gerber
