import CarPairing.Companion
import CarPairing.Proofs.Association.Frames
import CarPairing.Proofs.Identity

/-!
The phone through a pairing in which every step goes through: what it becomes
and what it sends, from the state it is in.
-/

namespace CarPairing

/-- The code as the phone keeps it. -/
def Agreement.verification? (runner : Agreement) (secrets : Agreement.Secrets) :
    Option Verification :=
  if runner.outOfBand then some (.outOfBand secrets.auth.bytes)
  else (VerificationCode.numeric? secrets.auth.bytes runner.digits).map .numeric

-- It displays what the head unit shows.
theorem Agreement.display_verification (runner : Agreement) (secrets : Agreement.Secrets) :
    (runner.verification? secrets).map Verification.display = runner.code? secrets := by
  unfold verification? code?
  split
  · rfl
  · cases VerificationCode.numeric? secrets.auth.bytes runner.digits <;> rfl

namespace Companion

open Agreement

abbrev Phone := Companion Agreement

section Runs

variable (request : Request) (phone : Phone)

theorem run_ask : (ask request : Step Agreement Answer).run phone =
    (.ok (Runner.answer phone.runner request phone.entropy).1,
      { phone with
        runner := (Runner.answer phone.runner request phone.entropy).2.1
        entropy := (Runner.answer phone.runner request phone.entropy).2.2
        trace := (request, (Runner.answer phone.runner request phone.entropy).1) ::
          phone.trace }) := rfl

theorem run_demand {message : HandshakeMessage} {runner : Agreement} {entropy : Entropy}
    (answered : Runner.answer phone.runner request phone.entropy = (.ok message, runner, entropy)) :
    (demand request : Step Agreement HandshakeMessage).run phone =
      (.ok message,
        { phone with runner, entropy, trace := (request, .ok message) :: phone.trace }) := by
  rw [demand, Step.run_bind, run_ask, answered]
  rfl

end Runs

variable (phone : Phone)

def requesting : Phone :=
  { phone with
    runner := { phone.runner with phase := opening phone.entropy }
    entropy := drawnFrom phone.entropy
    state := .inProgress
    trace := (.init, .ok { state := .inProgress, next := some (clientInitOf phone.entropy) }) ::
      phone.trace }

theorem start_exact (state : phone.state = .unknown) (role : phone.runner.role = .initiator)
    (idle : phone.runner.phase = .idle) :
    start.run phone = (.ok (clear (clientInitOf phone.entropy)), requesting phone) := by
  have answered := Agreement.start_exact phone.runner phone.entropy role idle
  rw [start, Step.run_bind, Step.run_get]
  simp only [state, if_true]
  rw [Step.run_bind_ok _ (run_demand .init phone answered)]
  rfl

def comparing (view : InitiatorView) : Phone :=
  { phone with
    runner := { phone.runner with phase := .awaitingVerification view.secrets }
    state := phone.runner.awaited
    verification := phone.runner.verification? view.secrets
    trace := (.continue view.serverInit,
      .ok (phone.runner.completion view.secrets (some view.clientFinish))) :: phone.trace }

-- In both modes of verification the reply comes to a code.
theorem run_handleServerInit (view : InitiatorView) (device : Uuid) (secret : Bytes)
    (purpose : phone.purpose = .associate device secret) (role : phone.runner.role = .initiator)
    (verifies : phone.runner.reconnecting = false)
    (sent : phone.runner.phase = opening view.entropy) :
    (handleServerInit view.serverInit).run phone =
      (.ok [clear view.clientFinish], comparing phone view) := by
  have answered := reply_exact phone.runner view phone.entropy role sent
  obtain ⟨code, shows⟩ := code_exists phone.runner view.secrets
  rw [handleServerInit, Step.run_bind_ok _ (run_demand _ phone answered)]
  simp only [completion_next]
  rw [Step.run_bind, Step.run_get]
  by_cases shown : phone.runner.outOfBand
  · simp only [purpose, completion, completed, verifies, shown, Bool.false_eq_true, if_false,
      if_true]
    rw [Step.run_bind_ok _ (Step.run_modify _ _)]
    simp only [comparing, purpose, completion, verifies, shown, awaited, verification?,
      Bool.false_eq_true, if_false, if_true]
    rfl
  · have displayed : VerificationCode.numeric? view.secrets.auth.bytes phone.runner.digits =
        some code := by
      simpa [code?, shown] using shows
    simp only [purpose, completion, completed, verifies, shown, displayed, Bool.false_eq_true,
      if_false]
    rw [Step.run_bind_ok _ (Step.run_modify _ _)]
    simp only [comparing, purpose, completion, verifies, shown, awaited, verification?, displayed,
      Option.map_some, Bool.false_eq_true, if_false]
    rfl

theorem handle_reply (view : InitiatorView) (device : Uuid) (secret : Bytes)
    (unfinished : phone.established = false) (state : phone.state = .inProgress)
    (purpose : phone.purpose = .associate device secret) (role : phone.runner.role = .initiator)
    (verifies : phone.runner.reconnecting = false)
    (sent : phone.runner.phase = opening view.entropy) :
    handle (clear view.serverInit) phone =
      (.ok [clear view.clientFinish], comparing phone view) := by
  have ran := run_handleServerInit phone view device secret purpose role verifies sent
  rw [handle, handleFrame, Step.run_bind, Step.run_get]
  simp only [unfinished, opened, clear, state, Bool.false_eq_true, if_false]
  exact ran

def accepting (secrets : Secrets) : Phone :=
  { phone with
    runner := { phone.runner with phase := .finished }
    state := .finished
    key := some secrets.next
    session := some (Session.ofKey secrets.next phone.entropy).1
    entropy := (Session.ofKey secrets.next phone.entropy).2
    trace := (.verify, .ok { state := .finished, key := some secrets.next }) :: phone.trace }

theorem accept_exact (secrets : Secrets) (state : phone.state = phone.runner.awaited)
    (waiting : phone.runner.phase = .awaitingVerification secrets) :
    accept phone = (.ok (), accepting phone secrets) := by
  have answered := verify_exact phone.runner secrets phone.entropy waiting
  have verified : (ask .verify : Step Agreement Answer).run phone =
      (.ok (.ok { state := .finished, key := some secrets.next }),
        { phone with
          runner := { phone.runner with phase := .finished }
          trace := (.verify, .ok { state := .finished, key := some secrets.next }) ::
            phone.trace }) := by
    rw [run_ask, answered]
  have asked : phone.state = .verificationNeeded ∨ phone.state = .oobVerificationNeeded := by
    rw [state]
    exact awaited_cases phone.runner
  rw [accept, acceptCode, Step.run_bind, Step.run_get]
  simp only [if_pos asked]
  rw [Step.run_bind_ok _ verified]
  rfl

def identified (session : Session) (car : Uuid) : Phone :=
  { phone with
    session := some { session with counter := session.counter + 1 }
    carId := some car
    established := true }

-- The identity is sealed under the session that opened the id.
theorem handle_carId (payload : Bytes) (session : Session) (car device : Uuid) (secret : Bytes)
    (unfinished : phone.established = false) (state : phone.state = .finished)
    (purpose : phone.purpose = .associate device secret)
    (installed : phone.session = some session) (fresh : session.counter ≠ Session.counterLimit)
    (opens : session.unwrap payload = .ok car.bytes) :
    handle { encrypted := true, payload } phone =
      (.ok [{ encrypted := true
              payload := session.nonce ++ Aead.encrypt session.key.bytes session.nonce
                (Identity.encode device secret) }],
        identified phone session car) := by
  have wrapped := Session.wrap_fresh session (Identity.encode device secret) fresh
  rw [handle, handleFrame, Step.run_bind, Step.run_get]
  simp only [unfinished, opened, decrypted, installed, opens, state, purpose, Bool.false_eq_true,
    if_false, if_true]
  rw [handleCarId]
  simp only [Uuid.ofBytes_bytes]
  have encrypts : (encrypt (Identity.encode device secret) : Step Agreement Bytes).run phone =
      (.ok (session.nonce ++ Aead.encrypt session.key.bytes session.nonce
          (Identity.encode device secret)),
        { phone with session := some { session with counter := session.counter + 1 } }) := by
    rw [encrypt, Step.run_bind, Step.run_get]
    simp only [installed, wrapped]
    rfl
  rw [Step.run_bind_ok _ encrypts]
  rfl

end Companion

end CarPairing
