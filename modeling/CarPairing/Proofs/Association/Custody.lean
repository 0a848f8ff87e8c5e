import CarPairing.Proofs.Association.Answers
import CarPairing.Proofs.Channel.Settled

/-!
How long an association keeps what it must not keep. The accepted key is held
from acceptance to the identity message and no longer, whichever way either
goes, and a session does not outlive a failure.
-/

namespace CarPairing

/-- The runner never calls a handshake finished when it has only replied to the
request. The protocol has two steps to go then. -/
def Runner.Discreet (ρ : Type) [Runner ρ] : Prop :=
  ∀ (runner : ρ) (message : Bytes) (entropy : Entropy) (response : HandshakeMessage),
    (Runner.answer runner (.respond message) entropy).1 = .ok response →
      response.state ≠ .finished

namespace Association

open Channel

variable {ρ σ : Type} [Runner ρ] {channel : Channel Association ρ σ}

/-- No key is held, and then a failed channel has no session; or the channel is
active and waits for an identity, with a session made from the key. -/
inductive Custody (channel : Channel Association ρ σ) : Prop where
  | free (unheld : channel.flavor.pending = none)
      (dropped : channel.lifecycle = .failed → channel.session = none)
      (undecided : Runner.Discreet ρ → channel.lifecycle = .active → channel.state ≠ .finished)
  | held (key : Key) (entropy : Entropy) (counter : Nat) (active : channel.lifecycle = .active)
      (finished : channel.state = .finished) (pending : channel.flavor.pending = some key)
      (sealing : channel.session = some { (Session.ofKey key entropy).1 with counter })

theorem Custody.frame {other : Channel Association ρ σ} (custody : Custody channel)
    (pending : other.flavor.pending = channel.flavor.pending)
    (lifecycle : other.lifecycle = channel.lifecycle) (state : other.state = channel.state)
    (session : other.session = channel.session) : Custody other := by
  cases custody with
  | free unheld dropped undecided =>
      refine .free (pending.trans unheld) ?_ ?_
      · intro failed
        exact session.trans (dropped (lifecycle.symm.trans failed))
      · intro discreet active
        rw [state]
        exact undecided discreet (lifecycle.symm.trans active)
  | held key entropy counter active finished pending' sealing =>
      exact .held key entropy counter (lifecycle.trans active) (state.trans finished)
        (pending.trans pending') (session.trans sealing)

theorem Custody.unheld (custody : Custody channel)
    (early : channel.lifecycle ≠ .active ∨ channel.state ≠ .finished) :
    channel.flavor.pending = none := by
  cases custody with
  | free unheld dropped undecided => exact unheld
  | held key entropy counter active finished pending sealing =>
      rcases early with ended | waiting
      · exact absurd active ended
      · exact absurd finished waiting

theorem custody_fail (error : ChannelError) (active : channel.lifecycle = .active) :
    Custody (channel.fail error) := by
  obtain ⟨trace, same⟩ := fail_active error channel active
  rw [same]
  exact .free rfl (fun _ => rfl) nofun

-- A step that fails does so before the channel has ended.
theorem custody_settle {step : Step ρ σ Unit}
    (errs : ∀ error after, step.run channel = (.error error, after) → after.lifecycle = .active)
    (succeeds : ∀ after, step.run channel = (.ok (), after) → Custody after) :
    Custody (channel.settle step) :=
  settle_cases (fun error after ran => custody_fail error (errs error after ran)) succeeds

theorem custody_processInit (payload : Bytes) (custody : Custody channel)
    (active : channel.lifecycle = .active) (unknown : channel.state = .unknown) :
    Custody (channel.settle (processInit payload)) := by
  have early : channel.state ≠ .finished := by
    rw [unknown]
    exact nofun
  obtain ⟨outcome, runner, entropy, state, trace, ran, reached⟩ :=
    processInit_answered payload channel
  apply custody_settle
  · rintro error after failed
    obtain rfl := congrArg Prod.snd (ran.symm.trans failed)
    exact active
  · rintro after succeeded
    obtain rfl := congrArg Prod.snd (ran.symm.trans succeeded)
    refine .free (custody.unheld (Or.inr early)) ?_ ?_
    · intro failed
      exact absurd failed (not_failed_of_active active)
    · intro discreet _
      rcases reached with same | ⟨response, answered, told⟩
      · exact same ▸ early
      · exact told ▸ discreet _ _ _ _ answered

theorem custody_processFinish (payload : Bytes) (custody : Custody channel)
    (active : channel.lifecycle = .active) (inProgress : channel.state = .inProgress) :
    Custody (channel.settle (processFinish payload)) := by
  have early : channel.state ≠ .finished := by
    rw [inProgress]
    exact nofun
  have completed := processFinish_completed payload channel
  apply custody_settle
  · rintro error after failed
    rw [failed] at completed
    cases completed
    exact active
  · rintro after succeeded
    rw [succeeded] at completed
    cases completed with
    | shown code runner entropy state answer reached =>
        refine .free (custody.unheld (Or.inr early)) ?_ ?_
        · intro failed
          exact absurd failed (not_failed_of_active active)
        · rintro _ _ (finished : state = .finished)
          rw [finished] at reached
          exact absurd reached (by decide)

variable [KeyStorage σ]

theorem custody_processIdentity (payload : Bytes) (active : channel.lifecycle = .active) :
    Custody (channel.settle (processIdentity payload)) := by
  have run := processIdentity_cases payload channel
  apply custody_settle
  · rintro error after failed
    rw [failed] at run
    generalize same : (Except.error error, after) = ran at run
    cases run with
    | idle => cases same; exact active
    | garbled => cases same; exact active
    | enrols key device secret events storage outcome =>
        cases outcome with
        | ok => cases same
        | error refused =>
            cases same
            obtain ⟨identified, trace, frame⟩ :=
              enrolling_frame channel device.toText events storage
            rw [frame]
            exact active
  · rintro after succeeded
    rw [succeeded] at run
    generalize same : (Except.ok (), after) = ran at run
    cases run with
    | idle => cases same
    | garbled => cases same
    | enrols key device secret events storage outcome =>
        cases outcome with
        | error refused => cases same
        | ok =>
            cases same
            obtain ⟨identified, trace, frame⟩ :=
              enrolling_frame channel device.toText events storage
            rw [frame]
            obtain ⟨told, concluded⟩ := concluded_active
              { channel with
                flavor := { channel.flavor with pending := none, deviceId := some device }
                storage, identified, trace } active
            rw [concluded]
            exact .free rfl nofun nofun

theorem custody_handshake (payload : Bytes) (custody : Custody channel) :
    Custody (channel.handshake payload) := by
  by_cases active : channel.lifecycle = .active
  · have framed : Custody (channel.record (.frame payload)) := custody.frame rfl rfl rfl rfl
    rw [handshake_active channel payload active, settle_process]
    cases state : (channel.record (.frame payload)).state with
    | unknown => exact custody_processInit payload framed active state
    | inProgress => exact custody_processFinish payload framed active state
    | finished => exact custody_processIdentity payload active
    | _ => exact custody_fail _ active
  · rw [handshake_inactive channel payload active]
    exact custody

theorem custody_acceptCode (active : channel.lifecycle = .active) :
    Custody (channel.settle acceptCode) := by
  obtain ⟨outcome, after, ran, accepting⟩ := acceptCode_accepting channel
  have lifecycle : after.lifecycle = channel.lifecycle := by
    obtain ⟨runner, storage, entropy, session, state, pending, trace, same⟩ := accepting.frame
    rw [same]
  apply custody_settle
  · rintro error other failed
    obtain rfl := congrArg Prod.snd (ran.symm.trans failed)
    exact lifecycle.trans active
  · rintro other succeeded
    obtain ⟨rfl, rfl⟩ := Prod.mk.inj (ran.symm.trans succeeded)
    obtain ⟨finished, key, entropy, counter, pending, sealing⟩ := accepting.holds rfl
    exact .held key entropy counter (lifecycle.trans active) finished pending sealing

theorem perform_custody (call : Call) (custody : Custody channel) :
    Custody (perform call channel) := by
  cases call with
  | frame payload => exact custody_handshake payload custody
  | receive message operation =>
      rw [perform]
      cases receive_cases channel message operation with
      | ignored failed same =>
          rw [same]
          exact custody
      | told notice living traffic same =>
          obtain ⟨trace, frame⟩ := notify_frame notice channel
          rw [same, frame]
          exact custody.frame rfl rfl rfl rfl
      | taken payload living handshakes opened same =>
          rw [same]
          exact custody_handshake payload custody
  | send message =>
      rw [perform]
      by_cases established : channel.lifecycle = .established
      -- Sending moves the session on, but then no key is held any more.
      · obtain ⟨session, trace, same⟩ := send_frame message channel
        have ended : channel.lifecycle ≠ .active :=
          fun active => not_established_of_active active established
        rw [same]
        refine .free (custody.unheld (Or.inl ended)) ?_ ?_
        · rintro (failed : channel.lifecycle = .failed)
          rw [established] at failed
          cases failed
        · rintro _ (active : channel.lifecycle = .active)
          exact absurd active ended
      · rw [send_refused message channel established]
        exact custody
  | subscribe subscription => exact custody.frame rfl rfl rfl rfl
  | accept =>
      rw [perform, accept]
      split
      next active => exact custody_acceptCode active
      · exact custody
  | listen on => exact custody.frame rfl rfl rfl rfl

theorem performAll_custody (calls : List Call) (custody : Custody channel) :
    Custody (performAll calls channel) := by
  induction calls generalizing channel with
  | nil => exact custody
  | cons call rest ih => exact ih (perform_custody call custody)

end Association

end CarPairing
