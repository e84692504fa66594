import StrategyCoordinator.Coordinator.Configuration

/-!
# Chains of fallible steps

A chain of steps succeeds if each of its steps does, and fails with the error of the first step
that fails. A reader of words fails on the texts that select nothing. Errors of the option store
keep their identity when they become errors of the optimization.
-/

namespace StrategyCoordinator

variable {ε α β : Type}

/-- A chain succeeds exactly if both of its parts do. -/
theorem bind_eq_ok {x : Except ε α} {f : α → Except ε β} {b : β} :
    x >>= f = .ok b ↔ ∃ a, x = .ok a ∧ f a = .ok b := by
  cases x <;> simp [bind, Except.bind]

/-- A chain fails with the error of its first part, or of its second if the first succeeds. -/
theorem bind_eq_error {x : Except ε α} {f : α → Except ε β} {e : ε} :
    x >>= f = .error e ↔ x = .error e ∨ ∃ a, x = .ok a ∧ f a = .error e := by
  cases x <;> simp [bind, Except.bind]

/-- The error of an answer, if it is one. -/
def errorOf? : Except ε α → Option ε
  | .ok _ => none
  | .error e => some e

/-- An answer with an error is that error. -/
theorem errorOf?_eq_some {x : Except ε α} {e : ε} : errorOf? x = some e ↔ x = .error e := by
  cases x <;> simp [errorOf?]

/-- A chain whose second part fails alike whatever it is handed fails with the first failure of the
two. -/
theorem errorOf?_bind {x : Except ε α} {f : α → Except ε β} {failure : Option ε}
    (h : ∀ a, errorOf? (f a) = failure) : errorOf? (x >>= f) = (errorOf? x).or failure := by
  cases x with
  | error e => rfl
  | ok a => exact h a

/-- An answer without an error is a result. -/
theorem errorOf?_eq_none {x : Except ε α} : errorOf? x = none ↔ ∃ a, x = .ok a := by
  cases x <;> simp [errorOf?]

/-- Reading a strategy fails exactly on the texts that select none. -/
theorem Algorithm.errorOf?_read (text : String) :
    errorOf? (read text) =
      if (parse? text).isSome then none else some (.unknownAlgorithm text) := by
  unfold read
  cases parse? text <;> rfl

/-- Reading an approximation fails exactly on the texts that select none. -/
theorem QuasiNewtonKind.errorOf?_read (text : String) :
    errorOf? (read text) =
      if (parse? text).isSome then none else some (.unknownQuasiNewtonKind text) := by
  unfold read
  cases parse? text <;> rfl

namespace OptionStore

/-- Lifting an answer of the store keeps what was read. -/
@[simp] theorem liftError_eq_ok {x : Except OptionError α} {a : α} :
    liftError x = .ok a ↔ x = .ok a := by
  cases x <;> simp [liftError]

/-- Lifting an answer of the store keeps its error. -/
theorem liftError_eq_error {x : Except OptionError α} {e : OptimizerError} :
    liftError x = .error e ↔ ∃ failure, x = .error failure ∧ e = .option failure := by
  cases x <;> simp [liftError, eq_comm]

/-- An error of the store is one of the configuration. -/
theorem isConfigurationError_of_liftError {x : Except OptionError α} {e : OptimizerError}
    (h : liftError x = .error e) : e.isConfigurationError = true := by
  obtain ⟨failure, -, rfl⟩ := liftError_eq_error.mp h
  rfl

end OptionStore

end StrategyCoordinator
