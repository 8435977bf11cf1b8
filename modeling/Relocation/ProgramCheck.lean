/-!
# Program checks

An operation on storage either runs to its end or is stopped by a program check: a reference
outside the storage at hand, an operand of a width the operation does not take, arithmetic that
leaves its range, or a demand for more storage than there can be.  A check is not an answer of the
relocation engine.  It is kept as a value of its own, so that "no check can occur here" is a
statement about a function.
-/

namespace Relocation

/-- The reason an operation was stopped. -/
inductive ProgramCheck where
  /-- A byte or a register that does not exist was referred to. -/
  | addressing
  /-- An operand has a width or an alignment that the operation does not take. -/
  | specification
  /-- A sum, a difference or an increment left its range. -/
  | overflow
  /-- A remainder by zero was asked for. -/
  | divide
  /-- More bytes were asked for than storage can have. -/
  | capacity
  deriving DecidableEq, Repr

/-- The result of an operation that a program check may stop. -/
abbrev Checked (α : Type) := Except ProgramCheck α

namespace Checked

variable {α β : Type}

/-- After an operation that was not stopped the next one runs. -/
@[simp] theorem ok_bind (a : α) (f : α → Checked β) : ((.ok a : Checked α) >>= f) = f a :=
  rfl

/-- A value that is handed on as it is. -/
@[simp] theorem pure_eq_ok (a : α) : (pure a : Checked α) = .ok a :=
  rfl

/-- Two operations in a row run to their end exactly when both do. -/
theorem bind_eq_ok_iff {x : Checked α} {f : α → Checked β} {b : β} :
    x >>= f = .ok b ↔ ∃ a, x = .ok a ∧ f a = .ok b := by
  cases x with
  | error check => simp [bind, Except.bind]
  | ok a => simp

/-- An operation on every member of a list runs to its end when it does for each of them. -/
theorem mapM_eq_ok {f : α → Checked β} {g : α → β} {members : List α}
    (h : ∀ a ∈ members, f a = .ok (g a)) : members.mapM f = .ok (members.map g) := by
  induction members with
  | nil => rfl
  | cons a members ih =>
    rw [List.mapM_cons, h a List.mem_cons_self, ok_bind,
      ih (fun b hb => h b (List.mem_cons_of_mem a hb)), ok_bind, List.map_cons, pure_eq_ok]

end Checked

end Relocation
