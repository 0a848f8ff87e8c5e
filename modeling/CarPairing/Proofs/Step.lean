import CarPairing.Channel.Secure

/-!
The steps of a channel and of a phone as functions of the state. A step ends
with a value or an error, and in both cases with the state that it has reached.
-/

namespace CarPairing.Step

variable {ε s α β : Type}

-- What follows a step sees its value and its state, or is not run.
theorem run_bind (first : ExceptT ε (StateM s) α) (next : α → ExceptT ε (StateM s) β) (state : s) :
    (first >>= next).run state =
      match first.run state with
      | (.ok value, state) => (next value).run state
      | (.error error, state) => (.error error, state) := by
  change (match first.run state with
    | (outcome, state) => ((ExceptT.bindCont next outcome) : StateM s (Except ε β)) state) = _
  cases first.run state with
  | mk outcome state => cases outcome <;> rfl

theorem run_bind_ok {first : ExceptT ε (StateM s) α} {state middle : s} {value : α}
    (next : α → ExceptT ε (StateM s) β) (ran : first.run state = (.ok value, middle)) :
    (first >>= next).run state = (next value).run middle := by
  rw [run_bind, ran]

theorem run_bind_error {first : ExceptT ε (StateM s) α} {state middle : s} {error : ε}
    (next : α → ExceptT ε (StateM s) β) (ran : first.run state = (.error error, middle)) :
    (first >>= next).run state = (.error error, middle) := by
  rw [run_bind, ran]

theorem run_pure (value : α) (state : s) :
    (pure value : ExceptT ε (StateM s) α).run state = (.ok value, state) := rfl

theorem run_throw (error : ε) (state : s) :
    (throw error : ExceptT ε (StateM s) α).run state = (.error error, state) := rfl

theorem run_get (state : s) : (get : ExceptT ε (StateM s) s).run state = (.ok state, state) := rfl

theorem run_modify (change : s → s) (state : s) :
    (modify change : ExceptT ε (StateM s) PUnit).run state = (.ok ⟨⟩, change state) := rfl

end CarPairing.Step
