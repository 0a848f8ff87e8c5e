import CarPairing.Proofs.Association.Calls
import CarPairing.Proofs.Channel.Turns

/-!
An association with a runner that may answer anything. What the steps leave is
then known up to the answers: which fields they touch, what goes on record, and
that a step that succeeds has come as far as it should.
-/

namespace CarPairing.Association

open Channel

variable {ρ σ : Type}

theorem run_showCode (code : String) (channel : Channel Association ρ σ) :
    (showCode code : Step ρ σ Unit).run channel =
      if channel.flavor.listening then (.ok (), channel.record (.codeShown code))
      else (.error (.invalidState "no verification code listener registered"), channel) := by
  rw [showCode, Step.run_bind, Step.run_get]
  by_cases listening : channel.flavor.listening
  · simp only [if_pos listening]
    rfl
  · simp only [if_neg listening]
    rfl

-- Of the session only the counter moves when the id of the head unit is sent.
theorem run_sendId [KeyStorage σ] (channel : Channel Association ρ σ) (session : Session)
    (unused : session.counter = 0) :
    ∃ outcome storage entropy counter trace,
      ((do
        let id ← accepted (← uniqueId)
        sendHandshake id.bytes true) : Step ρ σ Unit).run
          { channel with session := some session } =
        (outcome, { channel with
          storage, entropy, trace, session := some { session with counter } }) := by
  have fresh : session.counter ≠ Session.counterLimit := by
    rw [unused]
    decide
  rw [uniqueId, Step.run_bind_ok _ (run_callStorage _ _ _)]
  dsimp only
  cases (KeyStorage.uniqueId channel.storage channel.entropy).1 with
  | error error => exact ⟨_, _, _, session.counter, _, rfl⟩
  | ok id =>
      rw [accepted, Step.run_bind_ok _ (Step.run_pure _ _),
        run_sendHandshake_sealed id.bytes _ session rfl fresh]
      exact ⟨_, _, _, _, _, rfl⟩

/-- A code is shown at last, or nothing but the answer goes on record. -/
inductive Completed (message : Bytes) (channel : Channel Association ρ σ) :
    Except ChannelError Unit × Channel Association ρ σ → Prop where
  | refused (error : ChannelError) (runner : ρ) (entropy : Entropy) (state : HandshakeState)
      (answer : Answer) (reached : state = channel.state ∨ state.rank = 2) :
      Completed message channel (.error error, { channel with
        runner, entropy, state, trace := .asked (.continue message) answer :: channel.trace })
  | shown (code : String) (runner : ρ) (entropy : Entropy) (state : HandshakeState)
      (answer : Answer) (reached : state.rank = 2) :
      Completed message channel (.ok (), { channel with
        runner, entropy, state
        trace := .codeShown code :: .asked (.continue message) answer :: channel.trace })

theorem completed_shows (message : Bytes) (channel : Channel Association ρ σ) (runner : ρ)
    (entropy : Entropy) (state : HandshakeState) (answer : Answer) (code : String)
    (reached : state.rank = 2) :
    Completed message channel
      ((do
        setState state
        showCode code : Step ρ σ Unit).run { channel with
          runner, entropy, trace := .asked (.continue message) answer :: channel.trace }) := by
  rw [Step.run_bind_ok _ (run_setState _ _), run_showCode]
  dsimp only
  split
  · exact .shown code runner entropy state answer reached
  · exact .refused _ runner entropy state answer (Or.inr reached)

variable [Runner ρ]

/-- The answer to a request, apart from what the runner keeps and draws. -/
def answer (channel : Channel Association ρ σ) (request : Request) : Answer :=
  (Runner.answer channel.runner request channel.entropy).1

theorem processInit_answered (message : Bytes) (channel : Channel Association ρ σ) :
    ∃ outcome runner entropy state trace,
      (processInit message : Step ρ σ Unit).run channel =
        (outcome, { channel with runner, entropy, state, trace }) ∧
      (state = channel.state ∨
        ∃ response, answer channel (.respond message) = .ok response ∧ state = response.state) := by
  rw [answer]
  cases answered : Runner.answer channel.runner (.respond message) channel.entropy with
  | mk report rest =>
  obtain ⟨runner, entropy⟩ := rest
  cases report with
  | error error =>
      rw [processInit, Step.run_bind_error _ (run_demand_error _ channel answered)]
      exact ⟨.error (.invalidHandshake error), runner, entropy, channel.state, _, rfl, Or.inl rfl⟩
  | ok response =>
      rw [processInit, Step.run_bind_ok _ (run_demand_ok _ channel answered)]
      cases response.next with
      | none =>
          exact ⟨.error (.invalidState "runner produced no reply to the init request"), runner,
            entropy, channel.state, _, rfl, Or.inl rfl⟩
      | some reply =>
          exact ⟨.ok (), runner, entropy, response.state, _, rfl, Or.inr ⟨response, rfl, rfl⟩⟩

theorem processFinish_completed (message : Bytes) (channel : Channel Association ρ σ) :
    Completed message channel ((processFinish message : Step ρ σ Unit).run channel) := by
  cases answered : Runner.answer channel.runner (.continue message) channel.entropy with
  | mk report rest =>
  obtain ⟨runner, entropy⟩ := rest
  cases report with
  | error error =>
      rw [processFinish, Step.run_bind_error _ (run_demand_error _ channel answered)]
      exact .refused _ runner entropy channel.state _ (Or.inl rfl)
  | ok response =>
      have kept (error : ChannelError) : Completed message channel (.error error, { channel with
          runner, entropy, trace := .asked (.continue message) (.ok response) :: channel.trace }) :=
        .refused error runner entropy channel.state _ (Or.inl rfl)
      rw [processFinish, Step.run_bind_ok _ (run_demand_ok _ channel answered)]
      cases told : response.state with
      | verificationNeeded =>
          cases response.code with
          | none => exact kept _
          | some code => exact completed_shows message channel runner entropy _ _ code rfl
      | oobVerificationNeeded =>
          match response.oobCode with
          | none => exact kept _
          | some [] => exact kept _
          | some (first :: rest) =>
              exact completed_shows message channel runner entropy _ _ _ rfl
      | _ => exact kept _

variable [KeyStorage σ]

/-- A key is held and sealed under, or the step has failed. -/
structure Accepting (outcome : Except ChannelError Unit)
    (channel after : Channel Association ρ σ) : Prop where
  frame : ∃ runner storage entropy session state pending trace, after = { channel with
    runner, storage, entropy, session, state, trace
    flavor := { channel.flavor with pending } }
  climbs : after.state = channel.state ∨ after.state = .finished
  holds : outcome = .ok () → after.state = .finished ∧ ∃ key entropy counter,
    after.flavor.pending = some key ∧
      after.session = some { (Session.ofKey key entropy).1 with counter }

theorem acceptCode_accepting (channel : Channel Association ρ σ) :
    ∃ outcome after, (acceptCode : Step ρ σ Unit).run channel = (outcome, after) ∧
      Accepting outcome channel after := by
  have refused {error : ChannelError} {runner : ρ} {entropy : Entropy} {trace : List Event} :
      Accepting (.error error) channel { channel with runner, entropy, trace } :=
    ⟨⟨runner, channel.storage, entropy, channel.session, channel.state, channel.flavor.pending,
      trace, rfl⟩, Or.inl rfl, nofun⟩
  rw [acceptCode, Step.run_bind, Step.run_get]
  dsimp only
  split
  · rw [Step.run_bind_ok _ (run_ask _ _)]
    cases answered : Runner.answer channel.runner .verify channel.entropy with
    | mk report rest =>
    obtain ⟨runner, entropy⟩ := rest
    cases report with
    | error error => exact ⟨_, _, rfl, refused⟩
    | ok response =>
        dsimp only
        split
        · cases response.key with
          | none => exact ⟨_, _, rfl, refused⟩
          | some key =>
              dsimp only
              rw [Step.run_bind_ok _ (run_setState _ _), Step.run_bind_ok _ (run_installKey _ _),
                Step.run_bind_ok _ (Step.run_modify _ _)]
              obtain ⟨outcome, storage, drawn, counter, trace, ran⟩ := run_sendId
                { channel with
                  runner
                  state := .finished
                  entropy := (Session.ofKey key entropy).2
                  flavor := { channel.flavor with pending := some key }
                  trace := .asked .verify (.ok response) :: channel.trace }
                (Session.ofKey key entropy).1 rfl
              refine ⟨outcome, _, ran, ⟨_, _, _, _, _, _, _, rfl⟩, Or.inr rfl, ?_⟩
              intro _
              exact ⟨rfl, key, entropy, counter, rfl, rfl⟩
        · exact ⟨_, _, rfl, refused⟩
  · exact ⟨_, _, rfl, refused⟩

end CarPairing.Association
