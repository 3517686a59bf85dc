import GerberMask.Gerber.Report

/-!
# Laws of reports

Reports are a lawful monad: warnings are appended in order, and an error ends a sequence and keeps
the warnings before it. With that, two computations are compared as *reports*, warnings included,
by the monad laws alone.

`Report.Ensures` is the other way to speak of a report: what its value satisfies if there is one. It
is closed under sequencing (`Ensures.bind`), so an invariant of a long computation is read off its
steps.
-/

namespace GerberMask.Gerber

namespace Report

variable {ε α β : Type}

/-! ### The monad laws -/

theorem mk_ok_bind (ws : Array Warning) (a : α) (f : α → Report ε β) :
    (⟨ws, .ok a⟩ >>= f) = ⟨ws ++ (f a).warnings, (f a).result⟩ := rfl

theorem bind_assoc' {γ : Type} (r : Report ε α) (f : α → Report ε β) (g : β → Report ε γ) :
    r >>= f >>= g = r >>= fun a ↦ f a >>= g := by
  obtain ⟨ws, e | a⟩ := r
  · rfl
  · rw [mk_ok_bind, mk_ok_bind]
    obtain ⟨ws', e | b⟩ := f a
    · rfl
    · rw [mk_ok_bind, mk_ok_bind, Array.append_assoc]

theorem pure_bind' (a : α) (f : α → Report ε β) : pure a >>= f = f a := by
  show (⟨#[] ++ (f a).warnings, (f a).result⟩ : Report ε β) = f a
  rw [Array.empty_append]

theorem id_map' (r : Report ε α) : id <$> r = r := by
  obtain ⟨ws, e | a⟩ := r
  · rfl
  · show (⟨ws ++ #[], .ok a⟩ : Report ε α) = ⟨ws, .ok a⟩
    rw [Array.append_empty]

instance : LawfulMonad (Report ε) :=
  LawfulMonad.mk' (Report ε) id_map' pure_bind' bind_assoc'

@[simp] theorem ok_eq_pure (a : α) : (ok a : Report ε α) = pure a := rfl

@[simp] theorem map_error (f : α → β) (e : ε) : f <$> (error e : Report ε α) = error e := rfl

theorem result_map (f : α → β) (r : Report ε α) : (f <$> r).result = r.result.map f := by
  obtain ⟨ws, _ | _⟩ := r <;> rfl

theorem warnings_map (f : α → β) (r : Report ε α) : (f <$> r).warnings = r.warnings := by
  obtain ⟨ws, e | a⟩ := r
  · rfl
  · show ws ++ #[] = ws
    exact Array.append_empty

theorem map_eq_ok {r : Except ε α} {f : α → β} {b : β} :
    r.map f = .ok b ↔ ∃ a, r = .ok a ∧ f a = b := by
  cases r <;> simp [Except.map]

theorem exists_map_eq_ok {r : Except ε α} {f : α → β} :
    (∃ b, r.map f = .ok b) ↔ ∃ a, r = .ok a := by
  cases r <;> simp [Except.map]

theorem map_eq_error {r : Except ε α} {f : α → β} {e : ε} :
    r.map f = .error e ↔ r = .error e := by
  cases r <;> simp [Except.map]

/-- After an error nothing happens. -/
theorem bind_eq_of_error {r : Report ε α} {e : ε} (h : r.result = .error e)
    (f : α → Report ε β) : (r >>= f) = ⟨r.warnings, .error e⟩ := by
  obtain ⟨ws, _ | _⟩ := r <;> cases h
  rfl

/-- A sequence has a value if both its parts have one. -/
theorem result_bind_eq_ok {r : Report ε α} {f : α → Report ε β} {b : β} :
    (r >>= f).result = .ok b ↔ ∃ a, r.result = .ok a ∧ (f a).result = .ok b := by
  obtain ⟨ws, e | a⟩ := r
  · constructor
    · rintro ⟨⟩
    · rintro ⟨a, ⟨⟩, _⟩
  · constructor
    · exact fun h ↦ ⟨a, rfl, h⟩
    · rintro ⟨_, ⟨⟩, h⟩
      exact h

/-! ### What the value of a report satisfies -/

/-- The value of a report, if there is one, has a property. -/
def Ensures (r : Report ε α) (P : α → Prop) : Prop :=
  ∀ a, r.result = .ok a → P a

variable {P : α → Prop} {Q : β → Prop}

theorem ensures_pure {a : α} (h : P a) : (pure a : Report ε α).Ensures P := by
  rintro _ ⟨⟩
  exact h

theorem ensures_error (e : ε) : (error e : Report ε α).Ensures P := by
  rintro _ ⟨⟩

theorem Ensures.bind {r : Report ε α} {f : α → Report ε β} (hr : r.Ensures P)
    (hf : ∀ a, P a → (f a).Ensures Q) : (r >>= f).Ensures Q := by
  obtain ⟨ws, e | a⟩ := r
  · rintro _ ⟨⟩
  · intro b hb
    exact hf a (hr a rfl) b hb

/-- A step whose value has no property of interest. -/
theorem ensures_bind {r : Report ε α} {f : α → Report ε β} (hf : ∀ a, (f a).Ensures Q) :
    (r >>= f).Ensures Q :=
  Ensures.bind (P := fun _ ↦ True) (fun _ _ ↦ trivial) fun a _ ↦ hf a

theorem Ensures.map {r : Report ε α} {f : α → β} (hr : r.Ensures fun a ↦ Q (f a)) :
    (f <$> r).Ensures Q := by
  obtain ⟨ws, e | a⟩ := r
  · rintro _ ⟨⟩
  · rintro _ ⟨⟩
    exact hr a rfl

/-- Continuations that agree where they are needed are as good as equal. -/
theorem Ensures.bind_congr {r : Report ε α} {f g : α → Report ε β} (hr : r.Ensures P)
    (hfg : ∀ a, P a → f a = g a) : r >>= f = r >>= g := by
  obtain ⟨ws, e | a⟩ := r
  · rfl
  · rw [mk_ok_bind, mk_ok_bind, hfg a (hr a rfl)]

theorem Ensures.mono {r : Report ε α} {P' : α → Prop} (hr : r.Ensures P)
    (h : ∀ a, P a → P' a) : r.Ensures P' :=
  fun a ha ↦ h a (hr a ha)

/-! ### Deciding how a report ends -/

instance [DecidableEq ε] (r : Report ε α) (e : ε) : Decidable (r.result = .error e) :=
  match h : r.result with
  | .error e' => decidable_of_iff (e' = e) (by simp)
  | .ok _ => .isFalse (by simp)

instance [DecidablePred P] (r : Report ε α) : Decidable (∃ a, r.result = .ok a ∧ P a) :=
  match h : r.result with
  | .error _ => .isFalse (by simp)
  | .ok a => decidable_of_iff (P a) (by simp)

end Report

end GerberMask.Gerber
