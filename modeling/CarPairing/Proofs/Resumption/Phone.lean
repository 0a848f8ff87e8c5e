import CarPairing.Proofs.Pairing.Phone

/-!
The phone through a reconnection in which every step goes through. It answers
the reply of the head unit with two frames at once, its key and its proof.
-/

namespace CarPairing.Companion

open Agreement

variable (phone : Phone)

/-- The phone once it has shown its key and proven the previous one. -/
def proving (view : InitiatorView) (previous : Key) : Phone :=
  { phone with
    runner := { phone.runner with phase := .resuming view.secrets }
    state := .resumingSession
    trace :=
      (.prove previous, .ok
        { state := .resumingSession
          next := some (resumeMac previous view.secrets.auth clientLabel) }) ::
      (.continue view.serverInit,
        .ok (phone.runner.completion view.secrets (some view.clientFinish))) :: phone.trace }

theorem run_handleServerInit_resuming (view : InitiatorView) (previous : Key)
    (purpose : phone.purpose = .reconnect previous) (role : phone.runner.role = .initiator)
    (resumes : phone.runner.reconnecting = true)
    (sent : phone.runner.phase = opening view.entropy) :
    (handleServerInit view.serverInit).run phone =
      (.ok [clear view.clientFinish,
        clear (resumeMac previous view.secrets.auth clientLabel)], proving phone view previous) := by
  have answered := reply_exact phone.runner view phone.entropy role sent
  have told : (phone.runner.completion view.secrets (some view.clientFinish)).state =
      .resumingSession := by
    rw [completion, if_pos resumes]
  have phase : phone.runner.completed view.secrets = .resuming view.secrets := by
    rw [completed, if_pos resumes]
  rw [phase] at answered
  have proven := prove_exact { phone.runner with phase := .resuming view.secrets } previous
    view.secrets phone.entropy role rfl
  rw [handleServerInit, Step.run_bind_ok _ (run_demand _ phone answered)]
  simp only [completion_next]
  rw [Step.run_bind, Step.run_get]
  have kept : { phone with purpose := .reconnect previous } = phone := by
    rw [← purpose]
  simp only [told, purpose]
  rw [Step.run_bind_ok _ (run_demand _ _ proven), ← kept]
  rfl

theorem handle_reply_resuming (view : InitiatorView) (previous : Key)
    (unfinished : phone.established = false) (state : phone.state = .inProgress)
    (purpose : phone.purpose = .reconnect previous) (role : phone.runner.role = .initiator)
    (resumes : phone.runner.reconnecting = true)
    (sent : phone.runner.phase = opening view.entropy) :
    handle (clear view.serverInit) phone =
      (.ok [clear view.clientFinish,
        clear (resumeMac previous view.secrets.auth clientLabel)], proving phone view previous) := by
  have ran := run_handleServerInit_resuming phone view previous purpose role resumes sent
  rw [handle, handleFrame, Step.run_bind, Step.run_get]
  simp only [unfinished, opened, clear, state, Bool.false_eq_true, if_false]
  exact ran

/-- The phone once the head unit has proven the previous key as well. -/
def resumed (previous : Key) (secrets : Secrets) : Phone :=
  { phone with
    runner := { phone.runner with phase := .finished }
    key := some (resumedKey previous secrets.next)
    session := some (Session.ofKey (resumedKey previous secrets.next) phone.entropy).1
    entropy := (Session.ofKey (resumedKey previous secrets.next) phone.entropy).2
    state := .finished
    established := true
    trace := (.resume (resumeMac previous secrets.auth serverLabel) previous,
      .ok (secrets.finish previous none)) :: phone.trace }

theorem handle_proof (previous : Key) (secrets : Secrets)
    (unfinished : phone.established = false) (state : phone.state = .resumingSession)
    (purpose : phone.purpose = .reconnect previous) (role : phone.runner.role = .initiator)
    (resuming : phone.runner.phase = .resuming secrets) :
    handle (clear (resumeMac previous secrets.auth serverLabel)) phone =
      (.ok [], resumed phone previous secrets) := by
  have proven : resumeMac previous secrets.auth serverLabel =
      resumeMac previous secrets.auth (peerLabel phone.runner.role) := by
    rw [role]
    rfl
  have owed : owedProof phone.runner.role previous secrets = none := by
    rw [role]
    rfl
  have answered := resume_exact phone.runner _ previous secrets phone.entropy resuming proven
  rw [owed] at answered
  rw [handle, handleFrame, Step.run_bind, Step.run_get]
  simp only [unfinished, opened, clear, state, purpose, Bool.false_eq_true, if_false]
  rw [handleProof, Step.run_bind_ok _ (run_demand _ phone answered)]
  rfl

end CarPairing.Companion
