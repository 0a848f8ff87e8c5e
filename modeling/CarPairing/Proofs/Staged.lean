/-!
A system that goes through stages. Every move that can be made leads to the next
stage, so a run is told by how many moves have been made: it can go on until the
last stage, and comes to it in one number of moves.
-/

namespace CarPairing

variable {μ α β : Type}

/-- The moves in their order, if each can be made when it is its turn. -/
def runMoves? (step? : μ → α → Option α) : List μ → α → Option α
  | [], state => some state
  | move :: rest, state => (step? move state).bind (runMoves? step? rest)

/-- The system moves as the stages do, which are `view`ed as its states. -/
structure Staged (step? : μ → α → Option α) (view : β → α) (next? : β → μ → Option β)
    (count : β → Nat) (last : β) : Prop where
  simulates : ∀ stage move, step? move (view stage) = (next? stage move).map view
  counts : ∀ {stage next move}, next? stage move = some next → count next = count stage + 1
  bounded : ∀ stage, count stage ≤ count last
  ends : ∀ {stage}, count stage = count last → stage = last
  goes : ∀ stage, stage ≠ last → ∃ move next, next? stage move = some next

namespace Staged

variable {step? : μ → α → Option α} {view : β → α} {next? : β → μ → Option β}
variable {count : β → Nat} {last : β}

theorem move (staged : Staged step? view next? count last) {stage next : β} {move : μ}
    (made : next? stage move = some next) (rest : List μ) :
    runMoves? step? (move :: rest) (view stage) = runMoves? step? rest (view next) := by
  rw [runMoves?, staged.simulates stage move, made, Option.map_some, Option.bind_some]

-- Every run stays in the stages, one move at a time.
theorem run (staged : Staged step? view next? count last) (moves : List μ) (stage : β)
    (after : α) (ran : runMoves? step? moves (view stage) = some after) :
    ∃ reached, after = view reached ∧ count reached = count stage + moves.length := by
  induction moves generalizing stage with
  | nil => exact ⟨stage, (Option.some.inj ran).symm, rfl⟩
  | cons move rest ih =>
      cases made : next? stage move with
      | none =>
          rw [runMoves?, staged.simulates stage move, made] at ran
          cases ran
      | some next =>
          rw [staged.move made] at ran
          obtain ⟨reached, same, total⟩ := ih next ran
          have one := staged.counts made
          refine ⟨reached, same, ?_⟩
          rw [List.length_cons]
          omega

-- A run that has not come to the last stage goes on.
theorem completes (staged : Staged step? view next? count last) (start : β)
    (fresh : count start = 0) (moves : List μ) (after : α)
    (ran : runMoves? step? moves (view start) = some after) :
    moves.length ≤ count last ∧
      (moves.length < count last → ∃ move next, step? move after = some next) ∧
      (moves.length = count last → after = view last) := by
  obtain ⟨reached, rfl, total⟩ := staged.run moves start after ran
  have made : count reached = moves.length := by omega
  have bound := staged.bounded reached
  refine ⟨made ▸ bound, ?_, ?_⟩
  · intro short
    have unfinished : reached ≠ last := by
      rintro rfl
      omega
    obtain ⟨move, next, leads⟩ := staged.goes reached unfinished
    have goes := staged.simulates reached move
    rw [leads] at goes
    exact ⟨move, view next, goes⟩
  · intro whole
    rw [staged.ends (made.trans whole)]

end Staged

end CarPairing
