import CarPairing.Proofs.Association.Enrolment
import CarPairing.Proofs.Channel.Settled

/-!
Everything that can be done to an association from outside, in any order, and
the one place where a device comes in: a handshake frame that is taken while an
accepted key is held. This needs nothing of the runner or the storage.
-/

namespace CarPairing

namespace Association

open Channel

inductive Call where
  /-- A handshake frame in clear. -/
  | frame (payload : Bytes)
  | receive (message : DeviceMessage) (operation : Operation)
  | send (message : DeviceMessage)
  | subscribe (subscription : Subscription)
  | accept
  | listen (on : Bool)

variable {ρ σ : Type}

section Emits

variable {kind : Event → Prop}

theorem showCode_emits (code : String) (shown : kind (.codeShown code)) :
    Emits kind (showCode code : Step ρ σ Unit) := by
  apply emits_bind emits_get
  intro channel
  split
  · exact emits_record _ shown
  · exact emits_throw _

variable [Runner ρ]

theorem processInit_emits (message : Bytes) (asked : ∀ request answer, kind (.asked request answer))
    (sent : ∀ message, kind (.sent .handshake message)) :
    Emits kind (processInit message : Step ρ σ Unit) := by
  apply emits_bind (emits_demand _ (asked _))
  intro response
  cases response.next with
  | none => exact emits_throw _
  | some reply => exact emits_bind (emits_setState _) fun _ => emits_sendHandshake _ _ sent

theorem processFinish_emits (message : Bytes)
    (asked : ∀ request answer, kind (.asked request answer))
    (shown : ∀ code, kind (.codeShown code)) :
    Emits kind (processFinish message : Step ρ σ Unit) := by
  apply emits_bind (emits_demand _ (asked _))
  intro response
  split
  · split
    · exact emits_throw _
    · exact emits_bind (emits_setState _) fun _ => showCode_emits _ (shown _)
  · split
    · exact emits_throw _
    · exact emits_throw _
    · exact emits_bind (emits_setState _) fun _ => showCode_emits _ (shown _)
  · exact emits_throw _

variable [KeyStorage σ]

theorem acceptCode_emits (asked : ∀ request answer, kind (.asked request answer))
    (named : ∀ outcome, kind (.stored .uniqueId outcome))
    (sent : ∀ message, kind (.sent .handshake message)) :
    Emits kind (acceptCode : Step ρ σ Unit) := by
  apply emits_bind emits_get
  intro channel
  split
  · apply emits_bind (emits_ask _ (asked _))
    intro answer
    split
    · exact emits_throw _
    · split
      · split
        · exact emits_throw _
        · apply emits_bind (emits_setState _)
          intro _
          apply emits_bind (emits_installKey _)
          intro _
          refine emits_bind (emits_modify _ fun _ => .same rfl) fun _ => ?_
          apply emits_bind (emits_callStorage _ _ named)
          intro outcome
          apply emits_bind (emits_accepted _)
          intro id
          exact emits_sendHandshake _ _ sent
      · exact emits_throw _
  · exact emits_throw _

end Emits

variable [Runner ρ] [KeyStorage σ]

def perform (call : Call) (channel : Channel Association ρ σ) : Channel Association ρ σ :=
  match call with
  | .frame payload => channel.handshake payload
  | .receive message operation => channel.receive message operation
  | .send message => (channel.send message).2
  | .subscribe subscription => channel.subscribe subscription
  | .accept => accept channel
  | .listen on => setListener on channel

def performAll (calls : List Call) (channel : Channel Association ρ σ) :
    Channel Association ρ σ :=
  calls.foldl (fun channel call => perform call channel) channel

theorem performAll_append (earlier later : List Call) (channel : Channel Association ρ σ) :
    performAll (earlier ++ later) channel = performAll later (performAll earlier channel) :=
  List.foldl_append

/-- A frame brings this payload to the handshake, in clear. -/
inductive Delivers (channel : Channel Association ρ σ) (payload : Bytes) : Call → Prop where
  | frame : Delivers channel payload (.frame payload)
  | receive (message : DeviceMessage) (opened : channel.opened message = .ok payload) :
      Delivers channel payload (.receive message .handshake)

omit [Runner ρ] [KeyStorage σ] in
theorem Delivers.unique {channel : Channel Association ρ σ} {payload other : Bytes} {call : Call}
    (one : Delivers channel payload call) (two : Delivers channel other call) :
    payload = other := by
  cases one with
  | frame =>
      cases two
      rfl
  | receive message opened =>
      cases two with
      | receive _ again => exact Except.ok.inj (opened.symm.trans again)

theorem Delivers.taken {channel : Channel Association ρ σ} {payload : Bytes} {call : Call}
    (delivers : Delivers channel payload call) (active : channel.lifecycle = .active) :
    perform call channel = channel.handshake payload := by
  cases delivers with
  | frame => rfl
  | receive message opened =>
      exact receive_opened channel message payload (not_failed_of_active active) opened

-- The state decides what a handshake frame is taken for.
theorem run_process (payload : Bytes) (channel : Channel Association ρ σ) :
    (Flavor.process payload : Step ρ σ Unit).run channel =
      (match channel.state with
      | .unknown => processInit payload
      | .inProgress => processFinish payload
      | .finished => processIdentity payload
      | other => throw (ChannelError.invalidState
          s!"unexpected handshake message in state {other.name}")).run channel := by
  change (process payload : Step ρ σ Unit).run channel = _
  rw [process, Step.run_bind]
  rfl

theorem settle_process (payload : Bytes) (channel : Channel Association ρ σ) :
    channel.settle (Flavor.process payload) =
      match channel.state with
      | .unknown => channel.settle (processInit payload)
      | .inProgress => channel.settle (processFinish payload)
      | .finished => channel.settle (processIdentity payload)
      | other => channel.settle
          (throw (.invalidState s!"unexpected handshake message in state {other.name}")) := by
  unfold settle
  rw [run_process]
  cases channel.state <;> rfl

theorem handshake_grown (payload : Bytes) (channel : Channel Association ρ σ) :
    Grown (fun event => event.Binds → Identifies channel payload event) channel
      (channel.handshake payload) := by
  by_cases active : channel.lifecycle = .active
  · have unbound (event : Event) (unbinding : ¬event.Binds) :
        event.Binds → Identifies channel payload event :=
      fun binds => absurd binds unbinding
    have framed : Grown (fun event => event.Binds → Identifies channel payload event) channel
        (channel.record (.frame payload)) := .one rfl (unbound _ not_false)
    have quiet (step : Step ρ σ Unit) (emits : Emits (fun event => ¬event.Binds) step) :
        Grown (fun event => event.Binds → Identifies channel payload event)
          (channel.record (.frame payload)) ((channel.record (.frame payload)).settle step) :=
      (settle_grown emits not_false (fun _ => not_false) _).mono unbound
    rw [handshake_active channel payload active]
    refine framed.trans ?_
    rw [settle_process]
    cases state : (channel.record (.frame payload)).state with
    | unknown =>
        exact quiet _ (processInit_emits payload (fun _ _ => not_false) fun _ => not_false)
    | inProgress =>
        exact quiet _ (processFinish_emits payload (fun _ _ => not_false) fun _ => not_false)
    | finished =>
        refine (identity_grown payload (channel.record (.frame payload)) active state).mono ?_
        intro event made binds
        obtain ⟨key, device, secret, events, storage, outcome, -, -, held, decoded, enrols, made⟩ :=
          made binds
        exact ⟨key, device, secret, events, storage, outcome, active, state, held, decoded, enrols,
          made⟩
    | _ => exact quiet _ (emits_throw _)
  · rw [handshake_inactive channel payload active]
    exact .refl _ channel

-- Whatever is done to an association, a device is bound by an identity
-- message only, taken while an accepted key is held.
theorem perform_grown (call : Call) (channel : Channel Association ρ σ) :
    Grown (fun event => event.Binds →
        ∃ payload, Delivers channel payload call ∧ Identifies channel payload event) channel
      (perform call channel) := by
  cases call with
  | frame payload =>
      refine (handshake_grown payload channel).mono ?_
      intro event made binds
      exact ⟨payload, .frame, made binds⟩
  | receive message operation =>
      cases receive_cases channel message operation with
      | ignored failed same =>
          rw [perform, same]
          exact .refl _ channel
      | told notice living traffic same =>
          rw [perform, same]
          refine grown_notify _ channel fun _ binds => ?_
          cases notice with
          | deviceId id => exact absurd traffic not_false
          | _ => exact absurd binds not_false
      | taken payload living handshakes opened same =>
          obtain rfl := handshakes
          rw [perform, same]
          refine (handshake_grown payload channel).mono ?_
          intro event made binds
          exact ⟨payload, .receive message opened, made binds⟩
  | send message =>
      exact send_grown message channel fun _ binds => absurd binds not_false
  | subscribe subscription => exact .same rfl
  | accept =>
      rw [perform, accept]
      split
      · have unbinding : Emits (fun event => ¬event.Binds) (acceptCode : Step ρ σ Unit) :=
          acceptCode_emits (fun _ _ => not_false) (fun _ => not_false) fun _ => not_false
        exact (settle_grown unbinding not_false (fun _ => not_false) channel).mono
          fun event unbound binds => absurd binds unbound
      · exact .refl _ channel
  | listen on => exact .same rfl

-- What is left to do to a failed channel is to listen to it.
theorem perform_failed (call : Call) (channel : Channel Association ρ σ)
    (failed : channel.lifecycle = .failed) :
    ∃ subscription listening, perform call channel =
      { channel with subscription, flavor := { channel.flavor with listening } } := by
  have inactive := not_active_of_failed failed
  have unestablished := not_established_of_failed failed
  have same : perform call channel = channel →
      ∃ subscription listening, perform call channel =
        { channel with subscription, flavor := { channel.flavor with listening } } := by
    intro same
    exact ⟨channel.subscription, channel.flavor.listening, same⟩
  cases call with
  | frame payload => exact same (handshake_inactive channel payload inactive)
  | receive message operation => exact same (receive_failed channel message operation failed)
  | send message => exact same (congrArg Prod.snd (send_refused message channel unestablished))
  | subscribe subscription => exact ⟨subscription, channel.flavor.listening, rfl⟩
  | accept => exact same (if_neg inactive)
  | listen on => exact ⟨channel.subscription, on, rfl⟩

theorem perform_inert (call : Call) (channel : Channel Association ρ σ)
    (ended : channel.lifecycle ≠ .active) :
    (∃ session trace subscription listening, perform call channel =
        { channel with
          session, trace, subscription, flavor := { channel.flavor with listening } }) ∧
      Grown Event.Traffic channel (perform call channel) := by
  have settled (after : Channel Association ρ σ) (inert : Inert channel after) :
      (∃ session trace subscription listening, after =
          { channel with
            session, trace, subscription, flavor := { channel.flavor with listening } }) ∧
        Grown Event.Traffic channel after := by
    obtain ⟨session, trace, same⟩ := inert.frame
    exact ⟨⟨session, trace, channel.subscription, channel.flavor.listening, same⟩, inert.traffic⟩
  cases call with
  | frame payload =>
      rw [perform, handshake_inactive channel payload ended]
      exact settled _ (.refl channel)
  | receive message operation => exact settled _ (inert_receive channel message operation ended)
  | send message => exact settled _ (inert_send channel message)
  | subscribe subscription =>
      exact ⟨⟨channel.session, channel.trace, subscription, channel.flavor.listening, rfl⟩,
        .same rfl⟩
  | accept =>
      rw [perform, accept, if_neg ended]
      exact settled _ (.refl channel)
  | listen on =>
      exact ⟨⟨channel.session, channel.trace, channel.subscription, on, rfl⟩, .same rfl⟩

theorem perform_settled (call : Call) (channel : Channel Association ρ σ)
    (ended : channel.lifecycle ≠ .active) : (perform call channel).lifecycle ≠ .active := by
  obtain ⟨⟨session, trace, subscription, listening, same⟩, -⟩ := perform_inert call channel ended
  rw [same]
  exact ended

end Association

end CarPairing
