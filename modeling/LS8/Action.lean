/-!
# Actions that may fail

An action works on a state and changes it as it goes.  If it fails, it gives a
reason and the state as it is by then; nothing is undone.  So that a failure
changes nothing is never a matter of course, and has to be proved of the
actions of which it holds.

The lemmas say when an action made of parts succeeds, and when it fails.
-/

namespace LS8

/-- An action on a state of type `σ`, which may fail for a reason of type `ε`. -/
abbrev Action (ε σ α : Type) := EStateM ε σ α

namespace Action

variable {ε ε' σ α β : Type} {s after left : σ}

@[simp] theorem get_bind (rest : σ → Action ε σ β) : (get >>= rest : Action ε σ β) s = rest s s :=
  rfl

@[simp] theorem modify_bind (change : σ → σ) (rest : PUnit → Action ε σ β) :
    (modify change >>= rest : Action ε σ β) s = rest () (change s) := rfl

@[simp] theorem pure_apply (value : α) : (pure value : Action ε σ α) s = .ok value s := rfl

@[simp] theorem modify_apply (change : σ → σ) :
    (modify change : Action ε σ PUnit) s = .ok () (change s) := rfl

@[simp] theorem throw_apply (error : ε) : (throw error : Action ε σ α) s = .error error s := rfl

theorem bind_of_ok {first : Action ε σ α} {rest : α → Action ε σ β} {value : α}
    (succeeded : first s = .ok value after) : (first >>= rest) s = rest value after := by
  change EStateM.bind first rest s = _
  rw [EStateM.bind, succeeded]

theorem bind_of_error {first : Action ε σ α} {rest : α → Action ε σ β} {error : ε}
    (failed : first s = .error error left) : (first >>= rest) s = .error error left := by
  change EStateM.bind first rest s = _
  rw [EStateM.bind, failed]

/-- Two parts succeed one after the other if both do. -/
theorem bind_eq_ok_iff {first : Action ε σ α} {rest : α → Action ε σ β} {result : β} :
    (first >>= rest) s = .ok result after ↔
      ∃ value between, first s = .ok value between ∧ rest value between = .ok result after := by
  change EStateM.bind first rest s = _ ↔ _
  unfold EStateM.bind
  cases first s <;> simp [and_assoc]

/-- Two parts fail one after the other if the first does, or else the second. -/
theorem bind_eq_error_iff {first : Action ε σ α} {rest : α → Action ε σ β} {error : ε} :
    (first >>= rest) s = .error error left ↔
      first s = .error error left ∨
        ∃ value between, first s = .ok value between ∧ rest value between = .error error left := by
  change EStateM.bind first rest s = _ ↔ _
  unfold EStateM.bind
  cases first s <;> simp [and_assoc]

theorem liftExcept_eq_ok_iff {result : Except ε α} {value : α} :
    (liftExcept result : Action ε σ α) s = .ok value after ↔ result = .ok value ∧ after = s := by
  cases result <;> simp [liftExcept, eq_comm]

theorem liftExcept_eq_error_iff {result : Except ε α} {error : ε} :
    (liftExcept result : Action ε σ α) s = .error error left ↔
      result = .error error ∧ left = s := by
  cases result <;> simp [liftExcept, eq_comm]

theorem adaptExcept_eq_ok_iff {action : Action ε σ α} {wrap : ε → ε'} {value : α} :
    action.adaptExcept wrap s = .ok value after ↔ action s = .ok value after := by
  unfold EStateM.adaptExcept
  cases action s <;> simp

theorem adaptExcept_eq_error_iff {action : Action ε σ α} {wrap : ε → ε'} {error : ε'} :
    action.adaptExcept wrap s = .error error left ↔
      ∃ cause, action s = .error cause left ∧ error = wrap cause := by
  unfold EStateM.adaptExcept
  cases action s with
  | ok value after => simp
  | error cause left =>
    constructor
    · intro same
      cases same
      exact ⟨cause, rfl, rfl⟩
    · rintro ⟨_, same, rfl⟩
      cases same
      rfl

end Action

end LS8
