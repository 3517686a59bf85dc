import GerberMask.Gerber.Warning

/-!
# Reports

A computation that gives warnings on its way and ends in a value or an error. The warnings that
were given before an error are kept. The result of a sequence of computations does not depend on
their warnings: `result_bind` reads it as a sequence in `Except`.
-/

namespace GerberMask.Gerber

/-- Warnings in the order in which they were given, then a value or an error. -/
structure Report (ε α : Type) where
  warnings : Array Warning
  result : Except ε α

namespace Report

variable {ε ε' α β : Type}

/-- A value without a warning. -/
def ok (a : α) : Report ε α := ⟨#[], .ok a⟩

/-- An error without a warning. -/
def error (e : ε) : Report ε α := ⟨#[], .error e⟩

/-- A computation that can fail and gives no warning. -/
def ofExcept (r : Except ε α) : Report ε α := ⟨#[], r⟩

/-- A warning. -/
def warn (w : Warning) : Report ε Unit := ⟨#[w], .ok ()⟩

/-- A row of warnings. -/
def warnAll (ws : List Warning) : Report ε Unit := ⟨ws.toArray, .ok ()⟩

/-- One computation, and if it does not fail the next. -/
def bind (r : Report ε α) (f : α → Report ε β) : Report ε β :=
  match r with
  | ⟨ws, .error e⟩ => ⟨ws, .error e⟩
  | ⟨ws, .ok a⟩ =>
    let next := f a
    ⟨ws ++ next.warnings, next.result⟩

instance : Monad (Report ε) where
  pure := ok
  bind := bind

/-- Changes the error. -/
def mapError (f : ε → ε') (r : Report ε α) : Report ε' α :=
  ⟨r.warnings, r.result.mapError f⟩

/-! ### The result of a sequence -/

@[simp] theorem result_pure (a : α) : (pure a : Report ε α).result = .ok a := rfl

@[simp] theorem warnings_pure (a : α) : (pure a : Report ε α).warnings = #[] := rfl

@[simp] theorem result_error (e : ε) : (error e : Report ε α).result = .error e := rfl

@[simp] theorem result_warn (w : Warning) : (warn w : Report ε Unit).result = .ok () := rfl

@[simp] theorem result_ofExcept (r : Except ε α) : (ofExcept r).result = r := rfl

theorem result_bind (r : Report ε α) (f : α → Report ε β) :
    (r >>= f).result = r.result >>= fun a ↦ (f a).result := by
  obtain ⟨ws, _ | _⟩ := r <;> rfl

theorem bind_eq_of_ok {r : Report ε α} {a : α} (h : r.result = .ok a) (f : α → Report ε β) :
    (r >>= f) = ⟨r.warnings ++ (f a).warnings, (f a).result⟩ := by
  obtain ⟨ws, _ | _⟩ := r <;> cases h; rfl

end Report

end GerberMask.Gerber
