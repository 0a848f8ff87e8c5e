import CarPairing.Proofs.Association.Answers

/-!
Every call of an association is a turn, whatever runner and storage it has: it
ends once, names one device at most and shows one code at most.
-/

namespace CarPairing

-- All that an enrolment puts on record is calls of the storage.
theorem Enrolled.calls {σ : Type} [KeyStorage σ] {storage after : σ} {now : Int} {id : String}
    {key : Key} {secret : Bytes} {events : List Event} {outcome : Except StoreError Unit}
    (enrolled : Enrolled storage now id key secret events after outcome) :
    ∃ calls : List (StorageCall × Except StoreError Unit),
      events = calls.map fun (call, answer) => .stored call answer := by
  cases enrolled with
  | unchecked => exact ⟨[(_, _)], rfl⟩
  | unkeyed => exact ⟨[(_, _), (_, _), (_, _)], rfl⟩
  | restored => exact ⟨[(_, _), (_, _), (_, _), (_, _), (_, _)], rfl⟩
  | removed => exact ⟨[(_, _), (_, _), (_, _), (_, _), (_, _)], rfl⟩
  | stored => exact ⟨[(_, _), (_, _), (_, _), (_, _)], rfl⟩

namespace Association

open Channel

variable {ρ σ : Type}

theorem turn_enrolling {events : List Event} (silent : ∀ event ∈ events, event.Silent)
    (device : String) (channel : Channel Association ρ σ) (storage : σ) :
    Turn channel (enrolling channel device events storage) := by
  have told : Turn channel ((released channel).announced device) :=
    (turn_flavor _ channel).trans (turn_announced device (released channel))
  refine told.trans (.silent ⟨events.reverse, rfl, ?_⟩ rfl rfl (Nat.le_refl _))
  intro event member
  exact silent event (List.mem_reverse.mp member)

theorem turn_processIdentity [KeyStorage σ] (message : Bytes) (channel : Channel Association ρ σ) :
    Turn channel ((processIdentity message : Step ρ σ Unit).run channel).2 := by
  have run := processIdentity_cases message channel
  generalize (processIdentity message : Step ρ σ Unit).run channel = ran at run ⊢
  cases run with
  | idle unheld => exact .refl channel
  | garbled key error held unread => exact turn_flavor _ channel
  | enrols key device secret events storage outcome held decoded stores =>
      have silent : ∀ event ∈ events, event.Silent := by
        intro event member
        obtain ⟨calls, rfl⟩ := stores.calls
        obtain ⟨_, -, rfl⟩ := List.mem_map.mp member
        exact ⟨rfl, rfl, rfl⟩
      have turn := turn_enrolling silent device.toText channel storage
      cases outcome with
      | error error => exact turn
      | ok =>
          let stored := enrolling channel device.toText events storage
          let flavor := { stored.flavor with deviceId := some device }
          exact (turn.trans (turn_flavor flavor stored)).trans
            (turn_concluded { stored with flavor })

variable [Runner ρ]

theorem turn_processInit (message : Bytes) (channel : Channel Association ρ σ)
    (unknown : channel.state = .unknown) :
    Turn channel ((processInit message : Step ρ σ Unit).run channel).2 := by
  have grown : Grown Event.Silent channel ((processInit message : Step ρ σ Unit).run channel).2 :=
    processInit_emits message (fun _ _ => ⟨rfl, rfl, rfl⟩) (fun _ => ⟨rfl, rfl, rfl⟩) channel
  obtain ⟨outcome, runner, entropy, state, trace, ran, -⟩ := processInit_answered message channel
  rw [ran] at grown ⊢
  apply Turn.silent grown rfl rfl
  rw [unknown]
  exact Nat.zero_le _

theorem turn_processFinish (message : Bytes) (channel : Channel Association ρ σ)
    (inProgress : channel.state = .inProgress) :
    Turn channel ((processFinish message : Step ρ σ Unit).run channel).2 := by
  have completed := processFinish_completed message channel
  generalize (processFinish message : Step ρ σ Unit).run channel = ran at completed ⊢
  cases completed with
  | refused error runner entropy state answer reached =>
      refine .silent (.one rfl ⟨rfl, rfl, rfl⟩) rfl rfl ?_
      rcases reached with same | asks
      · exact Nat.le_of_eq (congrArg _ same.symm)
      · rw [inProgress]
        exact Nat.le_trans (Nat.le_succ 1) (Nat.le_of_eq asks.symm)
  | shown code runner entropy state answer reached =>
      constructor
      · rw [inProgress]
        exact Nat.le_trans (Nat.le_succ 1) (Nat.le_of_eq reached.symm)
      · exact .rests rfl id
      · exact .rests rfl id
      · refine .fires code rfl ?_ ?_
        · rw [inProgress]
          exact Nat.le_refl 1
        · change ¬state.rank ≤ 1
          rw [reached]
          exact Nat.not_succ_le_self 1

variable [KeyStorage σ]

theorem turn_process (payload : Bytes) (channel : Channel Association ρ σ) :
    Turn channel ((Flavor.process payload : Step ρ σ Unit).run channel).2 := by
  rw [run_process]
  cases state : channel.state with
  | unknown => exact turn_processInit payload channel state
  | inProgress => exact turn_processFinish payload channel state
  | finished => exact turn_processIdentity payload channel
  | _ => exact .refl channel

theorem turn_acceptCode (channel : Channel Association ρ σ) :
    Turn channel ((acceptCode : Step ρ σ Unit).run channel).2 := by
  have grown : Grown Event.Silent channel ((acceptCode : Step ρ σ Unit).run channel).2 :=
    acceptCode_emits (fun _ _ => ⟨rfl, rfl, rfl⟩) (fun _ => ⟨rfl, rfl, rfl⟩)
      (fun _ => ⟨rfl, rfl, rfl⟩) channel
  obtain ⟨outcome, after, ran, accepting⟩ := acceptCode_accepting channel
  rw [ran] at grown ⊢
  have climbs : channel.state.rank ≤ after.state.rank := by
    rcases accepting.climbs with same | finished
    · exact Nat.le_of_eq (congrArg _ same.symm)
    · rw [finished]
      cases channel.state <;> decide
  obtain ⟨runner, storage, entropy, session, state, pending, trace, rfl⟩ := accepting.frame
  exact .silent grown rfl rfl climbs

theorem perform_turn (call : Call) (channel : Channel Association ρ σ) :
    Turn channel (perform call channel) := by
  cases call with
  | frame payload => exact turn_handshake turn_process payload channel
  | receive message operation => exact turn_receive turn_process message operation channel
  | send message => exact turn_send message channel
  | subscribe subscription => exact .silent (.same rfl) rfl rfl (Nat.le_refl _)
  | accept =>
      rw [perform, accept]
      split
      · exact turn_settle (turn_acceptCode channel)
      · exact .refl channel
  | listen on => exact turn_flavor _ channel

theorem performAll_turn (calls : List Call) (channel : Channel Association ρ σ) :
    Turn channel (performAll calls channel) := by
  induction calls generalizing channel with
  | nil => exact .refl channel
  | cons call rest ih => exact (perform_turn call channel).trans (ih (perform call channel))

end Association

end CarPairing
