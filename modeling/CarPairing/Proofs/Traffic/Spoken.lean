import CarPairing.Proofs.Handshake.Views
import CarPairing.Proofs.Traffic.Outbound

/-!
What a channel has said, whichever handshake it goes through: nothing, its first
frame, or two frames and messages of the application after them. A call may leave
it at that, may end the channel without another word, or may say what is next.
-/

namespace CarPairing

/-- The first frame of a head unit, in clear and to nobody in particular. -/
def Agreement.reply (entropy : Entropy) : DeviceMessage :=
  { encrypted := false, payload := serverInitOf entropy }

/-- The handshake has begun and is not at its end. -/
def HandshakeState.Underway (state : HandshakeState) : Prop :=
  state ≠ .unknown ∧ state ≠ .finished

namespace Channel

variable {φ ρ σ α β : Type}

/-- Nothing can be sealed yet, and the application may not speak. -/
structure Bare (channel : Channel φ ρ σ) : Prop where
  unkeyed : channel.session = none
  unready : channel.lifecycle ≠ .established

theorem Bare.frame {before after : Channel φ ρ σ} (bare : Bare before)
    (session : after.session = before.session) (lifecycle : after.lifecycle = before.lifecycle) :
    Bare after :=
  ⟨session.trans bare.unkeyed, lifecycle ▸ bare.unready⟩

/-- How far a channel has come with what it says. Its first frame is `first`; the
second is known by what it was `due` to. -/
inductive Spoken (first : DeviceMessage) (Due : DeviceMessage → Prop) (channel : Channel φ ρ σ) :
    Prop where
  | silent (said : outbound channel = []) (bare : Bare channel)
      (waits : channel.lifecycle = .active → channel.state = .unknown)
  | replied (said : outbound channel = [(.handshake, first)]) (bare : Bare channel)
      (waits : channel.lifecycle = .active → channel.state.Underway)
  | complete (second : DeviceMessage) (messages : List DeviceMessage) (session : Session)
      (due : Due second)
      (said : outbound channel =
        (.handshake, first) :: (.handshake, second) :: messages.map (Prod.mk .client))
      (numbered : Numbered session channel)
      (waits : channel.lifecycle = .active → channel.state = .finished)

/-- A call has said what is in turn, and the channel has come as far as that. -/
structure SpokenStep (first : DeviceMessage) (Due : DeviceMessage → Prop)
    (before after : Channel φ ρ σ) : Prop where
  spoken : Spoken first Due after
  writes : Writes before after

/-- The frames of a handshake so far, the second one only if it was due. -/
inductive Opening (first : DeviceMessage) (Due : DeviceMessage → Prop) : List DeviceMessage → Prop
    where
  | unsaid : Opening first Due []
  | replied : Opening first Due [first]
  | complete (second : DeviceMessage) (due : Due second) : Opening first Due [first, second]

/-- The stream begins with the frames of the handshake, and with both of them if
there is more. No two of its sealed frames share a nonce. An active channel is
silent until it has taken a request, and one that is through has said both frames. -/
structure Grammatical (first : DeviceMessage) (Due : DeviceMessage → Prop)
    (channel : Channel φ ρ σ) : Prop where
  phrased : ∃ opening messages, Opening first Due opening ∧
    (messages ≠ [] → opening.length = 2) ∧
    outbound channel = opening.map (Prod.mk .handshake) ++ messages.map (Prod.mk .client)
  apart : (nonces channel).Nodup
  begun : channel.lifecycle = .active → (outbound channel = [] ↔ channel.state = .unknown)
  through : channel.lifecycle = .established ∨
      channel.lifecycle = .active ∧ channel.state = .finished →
    ∃ second, Due second ∧ (.handshake, second) ∈ outbound channel

/-- A step that fails has said nothing. -/
def Careful (step : Step φ ρ σ α) : Prop :=
  ∀ channel error after, step.run channel = (.error error, after) →
    outbound after = outbound channel

/-- The channel has failed without another word. -/
structure FailedSilently (before after : Channel φ ρ σ) : Prop where
  failed : after.lifecycle = .failed
  unkeyed : after.session = none
  same : outbound after = outbound before

section Careful

theorem careful_unsent {step : Step φ ρ σ α} (emits : Emits Event.Unsent step) : Careful step := by
  intro channel error after ran
  have grown := emits channel
  rw [ran] at grown
  exact outbound_unsent grown

theorem careful_bind {first : Step φ ρ σ α} {next : α → Step φ ρ σ β}
    (unsent : Emits Event.Unsent first) (careful : ∀ value, Careful (next value)) :
    Careful (first >>= next) := by
  intro channel error after ran
  have grown := unsent channel
  cases start : first.run channel with
  | mk outcome middle =>
  rw [start] at grown
  cases outcome with
  | error refused =>
      rw [Step.run_bind_error _ start] at ran
      cases ran
      exact outbound_unsent grown
  | ok value =>
      rw [Step.run_bind_ok _ start] at ran
      exact (careful value middle error after ran).trans (outbound_unsent grown)

theorem careful_throw (error : ChannelError) : Careful (throw error : Step φ ρ σ α) :=
  careful_unsent (emits_throw error)

-- Sending is what a step does last, so it fails only where sealing does.
theorem careful_sendHandshake (payload : Bytes) (encrypted : Bool) :
    Careful (sendHandshake payload encrypted : Step φ ρ σ Unit) := by
  have send (payload : Bytes) : Careful
      (modify (record (.sent .handshake { encrypted, payload })) : Step φ ρ σ PUnit) :=
    fun _ _ _ ran => nomatch ran
  cases encrypted with
  | true => exact careful_bind (emits_encrypt payload) send
  | false => exact careful_bind (emits_pure payload) send

end Careful

section Failing

variable [Flavor φ] {before middle after : Channel φ ρ σ}

theorem failedSilently_fail (error : ChannelError) (active : middle.lifecycle = .active)
    (same : outbound middle = outbound before) : FailedSilently before (middle.fail error) := by
  have quiet : outbound (middle.fail error) = outbound middle :=
    outbound_unsent (fail_grown error middle rfl rfl)
  obtain ⟨trace, frame⟩ := fail_active error middle active
  refine ⟨?_, ?_, quiet.trans same⟩
  · rw [frame]
  · rw [frame]

theorem failedSilently_settle {step : Step φ ρ σ Unit} (careful : Careful step)
    (lives : (step.run before).2.lifecycle = .active) (fails : Fails step before) :
    FailedSilently before (before.settle step) := by
  obtain ⟨error, after, ran⟩ := fails
  rw [ran] at lives
  rw [settle_error ran]
  exact failedSilently_fail error lives (careful before error after ran)

end Failing

section Spoken

variable {first : DeviceMessage} {Due Wider : DeviceMessage → Prop}
variable {channel before after : Channel φ ρ σ}

theorem Spoken.mono (spoken : Spoken first Due channel)
    (wider : ∀ second, Due second → Wider second) : Spoken first Wider channel := by
  cases spoken with
  | silent said bare waits => exact .silent said bare waits
  | replied said bare waits => exact .replied said bare waits
  | complete second messages session due said numbered waits =>
      exact .complete second messages session (wider second due) said numbered waits

-- As long as it is active, the state tells how far it has come.
theorem Spoken.unknown (spoken : Spoken first Due channel) (active : channel.lifecycle = .active)
    (state : channel.state = .unknown) : outbound channel = [] ∧ Bare channel := by
  cases spoken with
  | silent said bare => exact ⟨said, bare⟩
  | replied _ _ waits => exact absurd state (waits active).1
  | complete _ _ _ _ _ _ waits => exact absurd (state.symm.trans (waits active)) nofun

theorem Spoken.underway (spoken : Spoken first Due channel) (active : channel.lifecycle = .active)
    (underway : channel.state.Underway) :
    outbound channel = [(.handshake, first)] ∧ Bare channel := by
  cases spoken with
  | silent _ _ waits => exact absurd (waits active) underway.1
  | replied said bare => exact ⟨said, bare⟩
  | complete _ _ _ _ _ _ waits => exact absurd (waits active) underway.2

-- The application may speak, or is about to, once both frames are out.
theorem Spoken.both (spoken : Spoken first Due channel)
    (ready : channel.lifecycle = .established ∨
      channel.lifecycle = .active ∧ channel.state = .finished) :
    ∃ second, Due second ∧ (.handshake, second) ∈ outbound channel := by
  cases spoken with
  | silent said bare waits =>
      rcases ready with established | ⟨active, finished⟩
      · exact absurd established bare.unready
      · exact absurd (finished.symm.trans (waits active)) nofun
  | replied said bare waits =>
      rcases ready with established | ⟨active, finished⟩
      · exact absurd established bare.unready
      · exact absurd finished (waits active).2
  | complete second messages session due said numbered waits =>
      refine ⟨second, due, ?_⟩
      rw [said]
      exact List.mem_cons_of_mem _ List.mem_cons_self

theorem nonces_replied (said : outbound channel = [(.handshake, first)])
    (clear : first.encrypted = false) : nonces channel = [] := by
  rw [nonces, said]
  simp only [List.filterMap_cons, DeviceMessage.nonce?, clear, Bool.false_eq_true, if_false,
    List.filterMap_nil]

theorem Spoken.phrased (spoken : Spoken first Due channel) :
    ∃ opening messages, Opening first Due opening ∧ (messages ≠ [] → opening.length = 2) ∧
      outbound channel = opening.map (Prod.mk .handshake) ++ messages.map (Prod.mk .client) := by
  cases spoken with
  | silent said bare waits => exact ⟨[], [], .unsaid, fun more => absurd rfl more, said⟩
  | replied said bare waits => exact ⟨[first], [], .replied, fun more => absurd rfl more, said⟩
  | complete second messages session due said numbered waits =>
      exact ⟨[first, second], messages, .complete second due, fun _ => rfl, said⟩

theorem Spoken.apart (spoken : Spoken first Due channel) (clear : first.encrypted = false) :
    (nonces channel).Nodup := by
  cases spoken with
  | silent said bare waits =>
      rw [nonces, said]
      exact List.nodup_nil
  | replied said bare waits =>
      rw [nonces_replied said clear]
      exact List.nodup_nil
  | complete second messages session due said numbered waits => exact numbered.nodup

theorem Spoken.begun (spoken : Spoken first Due channel) (active : channel.lifecycle = .active) :
    outbound channel = [] ↔ channel.state = .unknown := by
  cases spoken with
  | silent said bare waits => exact iff_of_true said (waits active)
  | replied said bare waits => exact iff_of_false (by simp [said]) (waits active).1
  | complete second messages session due said numbered waits =>
      exact iff_of_false (by simp [said]) (by simp [waits active])

theorem Spoken.grammatical (spoken : Spoken first Due channel) (clear : first.encrypted = false) :
    Grammatical first Due channel :=
  ⟨spoken.phrased, spoken.apart clear, spoken.begun, spoken.both⟩

theorem SpokenStep.unchanged (spoken : Spoken first Due before)
    (same : outbound after = outbound before)
    (session : after.session = before.session) (lifecycle : after.lifecycle = before.lifecycle)
    (state : after.state = before.state) : SpokenStep first Due before after := by
  refine ⟨?_, .nothing same⟩
  have still (bare : Bare before) : Bare after := bare.frame session lifecycle
  have active (active : after.lifecycle = .active) : before.lifecycle = .active :=
    lifecycle.symm.trans active
  cases spoken with
  | silent said bare waits =>
      exact .silent (same.trans said) (still bare) fun living =>
        state.trans (waits (active living))
  | replied said bare waits =>
      exact .replied (same.trans said) (still bare) fun living =>
        state ▸ waits (active living)
  | complete second messages used due said numbered waits =>
      exact .complete second messages used due (same.trans said)
        (numbered.frame same fun living => ⟨lifecycle ▸ living, session⟩)
        fun living => state.trans (waits (active living))

theorem SpokenStep.failed (spoken : Spoken first Due before)
    (silence : FailedSilently before after) : SpokenStep first Due before after := by
  have ended := not_active_of_failed silence.failed
  have bare : Bare after := ⟨silence.unkeyed, not_established_of_failed silence.failed⟩
  refine ⟨?_, .nothing silence.same⟩
  cases spoken with
  | silent said _ waits =>
      exact .silent (silence.same.trans said) bare fun living => absurd living ended
  | replied said _ waits =>
      exact .replied (silence.same.trans said) bare fun living => absurd living ended
  | complete second messages used due said numbered waits =>
      exact .complete second messages used due (silence.same.trans said)
        (numbered.frame silence.same fun living => absurd silence.failed living)
        fun living => absurd living ended

/-- The first frame, which is the reply to a request. -/
theorem SpokenStep.reply (spoken : Spoken first Due before) (active : before.lifecycle = .active)
    (unknown : before.state = .unknown)
    (grew : outbound after = outbound before ++ [(.handshake, first)])
    (session : after.session = before.session) (lifecycle : after.lifecycle = before.lifecycle)
    (underway : after.state.Underway) :
    SpokenStep first Due before after := by
  obtain ⟨silent, bare⟩ := spoken.unknown active unknown
  rw [silent] at grew
  have said : outbound after = [(.handshake, first)] := grew
  refine ⟨.replied said (bare.frame session lifecycle) fun _ => underway, ?_⟩
  exact .handshake first active (by rw [said, silent]; rfl)

/-- A step between the two frames. -/
theorem SpokenStep.proceed (spoken : Spoken first Due before) (active : before.lifecycle = .active)
    (begun : before.state.Underway)
    (same : outbound after = outbound before) (session : after.session = before.session)
    (lifecycle : after.lifecycle = before.lifecycle)
    (underway : after.state.Underway) :
    SpokenStep first Due before after := by
  obtain ⟨said, bare⟩ := spoken.underway active begun
  exact ⟨.replied (same.trans said) (bare.frame session lifecycle) fun _ => underway,
    .nothing same⟩

/-- The second frame, if it is due. -/
theorem SpokenStep.complete {second : DeviceMessage} {session : Session}
    (spoken : Spoken first Due before) (active : before.lifecycle = .active)
    (begun : before.state.Underway) (due : Due second)
    (grew : outbound after = outbound before ++ [(.handshake, second)])
    (numbered : Numbered session after)
    (waits : after.lifecycle = .active → after.state = .finished) :
    SpokenStep first Due before after := by
  obtain ⟨said, -⟩ := spoken.underway active begun
  refine ⟨.complete second [] session due ?_ numbered waits, .handshake second active grew⟩
  rw [grew, said]
  rfl

-- A finished channel that says nothing keeps what it has said, established or not.
theorem SpokenStep.conclude (spoken : Spoken first Due before) (active : before.lifecycle = .active)
    (finished : before.state = .finished) (same : outbound after = outbound before)
    (session : after.session = before.session) (ended : after.lifecycle ≠ .active) :
    SpokenStep first Due before after := by
  refine ⟨?_, .nothing same⟩
  cases spoken with
  | silent _ _ waits => exact absurd (finished.symm.trans (waits active)) nofun
  | replied _ _ waits => exact absurd finished (waits active).2
  | complete second messages used due said numbered waits =>
      exact .complete second messages used due (same.trans said)
        (numbered.frame same fun _ => ⟨not_failed_of_active active, session⟩)
        fun living => absurd living ended

theorem spokenStep_notify (notice : Notice) (spoken : Spoken first Due channel) :
    SpokenStep first Due channel (channel.notify notice) := by
  have same : outbound (channel.notify notice) = outbound channel :=
    outbound_unsent (grown_notify notice channel fun _ => rfl)
  obtain ⟨trace, frame⟩ := notify_frame notice channel
  rw [frame] at same ⊢
  exact .unchanged spoken same rfl rfl rfl

-- Only who is established speaks, and then both frames have been said.
theorem spokenStep_send (message : DeviceMessage) (spoken : Spoken first Due channel) :
    SpokenStep first Due channel (channel.send message).2 := by
  by_cases established : channel.lifecycle = .established
  · cases spoken with
    | silent _ bare => exact absurd established bare.unready
    | replied _ bare => exact absurd established bare.unready
    | complete second messages session due said numbered waits =>
        obtain ⟨⟨left, sent⟩, writes⟩ := numbered.send message established
        have ended : (channel.send message).2.lifecycle ≠ .active := by
          obtain ⟨own, trace, frame⟩ := send_frame message channel
          rw [frame]
          exact fun active => not_established_of_active active established
        refine ⟨?_, writes⟩
        cases writes with
        | nothing same =>
            exact .complete second messages left due (same.trans said) sent fun living =>
              absurd living ended
        | handshake frame active => exact absurd established (not_established_of_active active)
        | client frame _ grew =>
            refine .complete second (messages ++ [frame]) left due ?_ sent fun living =>
              absurd living ended
            rw [grew, said, List.map_append]
            rfl
  · rw [send_refused message channel established]
    exact .unchanged spoken rfl rfl rfl rfl

variable [Flavor φ] [Runner ρ] [KeyStorage σ]

theorem spokenStep_receive (message : DeviceMessage) (operation : Operation)
    (spoken : Spoken first Due channel)
    (handshakes : ∀ payload, channel.receive message operation = channel.handshake payload →
      SpokenStep first Due channel (channel.handshake payload)) :
    SpokenStep first Due channel (channel.receive message operation) := by
  cases receive_cases channel message operation with
  | ignored failed same =>
      rw [same]
      exact .unchanged spoken rfl rfl rfl rfl
  | told notice living traffic same =>
      rw [same]
      exact spokenStep_notify notice spoken
  | taken payload living operates opened same =>
      rw [same]
      exact handshakes payload same

-- A channel that has ended does not hear the handshake any more.
theorem spokenStep_handshake (payload : Bytes) (spoken : Spoken first Due channel)
    (living : channel.lifecycle = .active →
      SpokenStep first Due channel (channel.handshake payload)) :
    SpokenStep first Due channel (channel.handshake payload) := by
  by_cases active : channel.lifecycle = .active
  · exact living active
  · rw [handshake_inactive channel payload active]
    exact .unchanged spoken rfl rfl rfl rfl

end Spoken

end Channel

end CarPairing
