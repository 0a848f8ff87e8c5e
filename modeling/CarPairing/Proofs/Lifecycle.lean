import CarPairing.Proofs.Association.Introduction
import CarPairing.Proofs.Reconnect.Calls

/-!
The life of a channel as the application sees it, over every run, whatever the
runner and the storage answer. What is true of one call is carried along the
calls, so the runner need not be one that keeps to the protocol.
-/

namespace CarPairing

open Channel

variable {ρ σ : Type} [Runner ρ] [KeyStorage σ]

/-- Over every run of either kind of channel the callbacks come once and the
state never goes down; an association is established only after its device was
named and written, and a reconnection names none. -/
theorem lifecycle_orderly (runner : ρ) (storage : σ) (entropy : Entropy) (now : Int) :
    (∀ calls : List Association.Call,
      let start := make ({} : Association) runner storage entropy now
      let events := (Association.performAll calls start).trace.reverse
      Orderly events ∧
        (.notified .established ∈ events → Association.Introduced events) ∧
        ∀ earlier later, calls = earlier ++ later →
          (Association.performAll earlier start).state.rank ≤
            (Association.performAll calls start).state.rank) ∧
    ∀ (device : String) (calls : List Reconnect.Call),
      let start := Reconnect.paired runner device storage entropy now
      let events := (Reconnect.performAll calls start).trace.reverse
      Orderly events ∧ identities events = [] ∧
        ∀ earlier later, calls = earlier ++ later →
          (Reconnect.performAll earlier start).state.rank ≤
            (Reconnect.performAll calls start).state.rank := by
  constructor
  · intro calls start events
    have turn := Association.performAll_turn calls start
    refine ⟨turn.orderly (oneShot_make _ runner storage entropy now), ?_, ?_⟩
    · intro told
      have story := Association.performAll_story calls
        (Association.story_make runner storage entropy now)
      exact story.introduced (List.mem_reverse.mp told)
    · intro earlier later split
      rw [split, Association.performAll_append]
      exact (Association.performAll_turn later _).climbs
  · intro device calls start events
    have turn := Reconnect.performAll_turn calls start
    refine ⟨turn.orderly (oneShot_make _ runner storage entropy now), ?_, ?_⟩
    · have unnamed := Reconnect.performAll_unnamed calls runner device storage entropy now
      unfold identities at unnamed ⊢
      rw [List.filterMap_reverse, unnamed]
      rfl
    · intro earlier later split
      rw [split, Reconnect.performAll_append]
      exact (Reconnect.performAll_turn later _).climbs

end CarPairing
