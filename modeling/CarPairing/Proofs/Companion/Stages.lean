import CarPairing.Proofs.Companion.Calls
import CarPairing.Proofs.Resumption.Phone

/-!
The stages of a phone with the real key agreement, whatever it is handed and in
whatever order it is driven. A phone never fails for good: a call that is out of
place changes nothing, and a reply or a proof that is wrong leaves the phone where
it is with a runner that answers nothing any more. So there are few stages, and
each is known in full but for the record of what the runner was asked.
-/

namespace CarPairing.Companion

open Agreement

section Earlier

variable {ρ : Type} [Runner ρ] {start : Companion ρ} {calls : List Call}
variable {was : Call → Companion ρ → Prop}

/-- One of the calls was made as `was` tells, to the phone as it was then. -/
def Earlier (start : Companion ρ) (calls : List Call) (was : Call → Companion ρ → Prop) : Prop :=
  ∃ sooner call later, calls = sooner ++ call :: later ∧ was call (performAll sooner start)

theorem Earlier.more (earlier : Earlier start calls was) (next : Call) :
    Earlier start (calls ++ [next]) was := by
  obtain ⟨sooner, call, later, rfl, made⟩ := earlier
  exact ⟨sooner, call, later ++ [next], by rw [List.append_assoc, List.cons_append], made⟩

theorem earlier_last {call : Call} (made : was call (performAll calls start)) :
    Earlier start (calls ++ [call]) was :=
  ⟨calls, call, [], rfl, made⟩

end Earlier

/-- The call gave the first frame. -/
def Requests (entropy : Entropy) (call : Call) (phone : Phone) : Prop :=
  call = .start ∧ (perform call phone).1 = .ok [clear (clientInitOf entropy)]

/-- The call was a successful acceptance, in which the runner gave out the key. -/
def Verifies (key : Key) (call : Call) (phone : Phone) : Prop :=
  call = .accept ∧ (perform call phone).1 = .ok [] ∧
    (Runner.answer phone.runner .verify phone.entropy).1 =
      .ok { state := .finished, key := some key }

/-- The call took the reply of the conversation and proved the previous key. -/
def Proves (previous : Key) (view : InitiatorView) (call : Call) (phone : Phone) : Prop :=
  (∃ message, call = .handle message ∧ message.encrypted = false ∧
      message.payload = view.serverInit) ∧
    (perform call phone).1 = .ok [clear view.clientFinish,
      clear (resumeMac previous view.secrets.auth clientLabel)]

/-- A phone before its first frame, with an initiator that has not been used. -/
structure Fresh (start : Phone) : Prop where
  role : start.runner.role = .initiator
  idle : start.runner.phase = .idle
  state : start.state = .unknown
  waiting : start.established = false
  silent : start.session = none
  associates : ∀ device secret, start.purpose = .associate device secret →
    start.runner.reconnecting = false
  resumes : ∀ previous, start.purpose = .reconnect previous → start.runner.reconnecting = true

/-- The phone with a runner that answers nothing any more. -/
def unanswered (phone : Phone) : Phone :=
  { phone with runner := { phone.runner with phase := .failed } }

/-- Where the calls have brought the phone. -/
inductive Stage (start : Phone) (calls : List Call) (phone : Phone) : Prop where
  | fresh (trace : List (Request × Answer)) (same : phone = { start with trace })
  | requested (trace : List (Request × Answer))
      (opened : Earlier start calls (Requests start.entropy))
      (same : phone = { requesting start with trace })
  | lost (trace : List (Request × Answer))
      (same : phone = { unanswered (requesting start) with trace })
  | comparing (view : InitiatorView) (device : Uuid) (secret : Bytes)
      (trace : List (Request × Answer)) (bound : start.purpose = .associate device secret)
      (same : phone = { comparing (requesting start) view with trace })
  | accepted (view : InitiatorView) (device : Uuid) (secret : Bytes)
      (trace : List (Request × Answer)) (bound : start.purpose = .associate device secret)
      (verified : Earlier start calls (Verifies view.secrets.next))
      (same : phone = { accepting (comparing (requesting start) view) view.secrets with trace })
  | proving (view : InitiatorView) (previous : Key) (trace : List (Request × Answer))
      (bound : start.purpose = .reconnect previous) (drawn : view.entropy = start.entropy)
      (opened : Earlier start calls (Requests start.entropy))
      (proved : Earlier start calls (Proves previous view))
      (same : phone = { proving (requesting start) view previous with trace })
  | refused (view : InitiatorView) (previous : Key) (trace : List (Request × Answer))
      (bound : start.purpose = .reconnect previous)
      (same : phone = { unanswered (proving (requesting start) view previous) with trace })
  | through (established : phone.established = true) (finished : phone.state = .finished)

theorem Stage.more {start phone : Phone} {calls : List Call} (stage : Stage start calls phone)
    (next : Call) : Stage start (calls ++ [next]) phone := by
  cases stage with
  | fresh trace same => exact .fresh trace same
  | requested trace opened same => exact .requested trace (opened.more next) same
  | lost trace same => exact .lost trace same
  | comparing view device secret trace bound same =>
      exact .comparing view device secret trace bound same
  | accepted view device secret trace bound verified same =>
      exact .accepted view device secret trace bound (verified.more next) same
  | proving view previous trace bound drawn opened proved same =>
      exact .proving view previous trace bound drawn (opened.more next) (proved.more next) same
  | refused view previous trace bound same => exact .refused view previous trace bound same
  | through established finished => exact .through established finished

/-! ## Calls that are out of place -/

/-- The call fails and changes nothing. -/
def Fails (call : Call) (phone : Phone) : Prop :=
  ∃ error, perform call phone = (.error error, phone)

section Fails

variable {phone : Phone} {message : DeviceMessage}

theorem fails_start (begun : phone.state ≠ .unknown) : Fails .start phone := by
  have ran : (Companion.start : Step Agreement DeviceMessage).run phone =
      (.error (.invalidState "handshake already started"), phone) := by
    rw [Companion.start, Step.run_bind, Step.run_get]
    simp only [if_neg begun]
    exact Step.run_throw _ _
  rw [Fails, perform, ran]
  exact ⟨_, rfl⟩

theorem fails_accept (numeric : phone.state ≠ .verificationNeeded)
    (outOfBand : phone.state ≠ .oobVerificationNeeded) : Fails .accept phone := by
  have ran : accept phone =
      (.error (.invalidState s!"nothing to verify in state {phone.state.name}"), phone) := by
    rw [accept, acceptCode, Step.run_bind, Step.run_get]
    simp only [if_neg (not_or.mpr ⟨numeric, outOfBand⟩)]
    exact Step.run_throw _ _
  rw [Fails, perform, ran]
  exact ⟨_, rfl⟩

theorem fails_through (established : phone.established = true) :
    Fails (.handle message) phone := by
  have ran : handle message phone =
      (.error (.invalidState "handshake already complete"), phone) := by
    rw [handle, handleFrame, Step.run_bind, Step.run_get]
    simp only [established, if_true]
    exact Step.run_throw _ _
  exact ⟨_, ran⟩

theorem fails_unopened (waiting : phone.established = false) {error : ChannelError}
    (unopened : phone.opened message = .error error) : Fails (.handle message) phone := by
  have ran : handle message phone = (.error error, phone) := by
    rw [handle, handleFrame, Step.run_bind, Step.run_get]
    simp only [waiting, unopened, Bool.false_eq_true, if_false]
    exact Step.run_throw _ _
  exact ⟨error, ran⟩

-- There is nothing to open a sealed frame with before a key is accepted.
theorem fails_sealed (waiting : phone.established = false) (silent : phone.session = none)
    (encrypted : message.encrypted = true) : Fails (.handle message) phone := by
  have unopened : phone.opened message =
      .error (.invalidState "no encryption key installed") := by
    rw [opened, if_pos encrypted, decrypted]
    simp only [silent]
  exact fails_unopened waiting unopened

theorem fails_clear (waiting : phone.established = false) (plain : message.encrypted = false)
    (early : phone.state ≠ .inProgress) (verifies : phone.state ≠ .resumingSession) :
    Fails (.handle message) phone := by
  have ran : ∃ error, handle message phone = (.error error, phone) := by
    rw [handle, handleFrame, Step.run_bind, Step.run_get]
    simp only [waiting, opened, plain, Bool.false_eq_true, if_false]
    split
    · contradiction
    · contradiction
    · contradiction
    · exact ⟨_, Step.run_throw _ _⟩
  exact ran

end Fails

/-! ## Frames that are handled -/

section Frames

variable (phone : Phone) {message : DeviceMessage}

-- Whom a frame is for does not matter.
theorem handle_plain (plain : message.encrypted = false) :
    handle message phone = handle (clear message.payload) phone := by
  rw [show clear message.payload = { message with recipient := none } by rw [clear, ← plain]]
  rfl

theorem handle_encrypted (encrypted : message.encrypted = true) :
    handle message phone = handle { encrypted := true, payload := message.payload } phone := by
  rw [show ({ encrypted := true, payload := message.payload } : DeviceMessage) =
    { message with recipient := none } by rw [← encrypted]]
  rfl

theorem run_demand_refused {request : Request} {error : HandshakeError} {runner : Agreement}
    {entropy : Entropy}
    (refused : Runner.answer phone.runner request phone.entropy = (.error error, runner, entropy)) :
    (demand request : Step Agreement HandshakeMessage).run phone =
      (.error (.invalidHandshake error),
        { phone with runner, entropy, trace := (request, .error error) :: phone.trace }) := by
  rw [demand, Step.run_bind, run_ask, refused]
  rfl

theorem handle_inProgress (payload : Bytes) (waiting : phone.established = false)
    (state : phone.state = .inProgress) :
    handle (clear payload) phone = (handleServerInit payload).run phone := by
  rw [handle, handleFrame, Step.run_bind, Step.run_get]
  simp only [waiting, opened, clear, state, Bool.false_eq_true, if_false]

theorem handle_resuming (payload : Bytes) (previous : Key) (waiting : phone.established = false)
    (state : phone.state = .resumingSession) (purpose : phone.purpose = .reconnect previous) :
    handle (clear payload) phone = (handleProof payload previous).run phone := by
  rw [handle, handleFrame, Step.run_bind, Step.run_get]
  simp only [waiting, opened, clear, state, purpose, Bool.false_eq_true, if_false]

theorem handle_reply_refused (payload : Bytes) (waiting : phone.established = false)
    (state : phone.state = .inProgress) {error : HandshakeError} {runner : Agreement}
    {entropy : Entropy} (refused : Runner.answer phone.runner (.continue payload) phone.entropy =
      (.error error, runner, entropy)) :
    handle (clear payload) phone = (.error (.invalidHandshake error), { phone with
      runner, entropy, trace := (.continue payload, .error error) :: phone.trace }) := by
  rw [handle_inProgress phone payload waiting state, handleServerInit,
    Step.run_bind_error _ (run_demand_refused phone refused)]

theorem handle_proof_refused (payload : Bytes) (previous : Key)
    (waiting : phone.established = false) (state : phone.state = .resumingSession)
    (purpose : phone.purpose = .reconnect previous) {error : HandshakeError} {runner : Agreement}
    {entropy : Entropy}
    (refused : Runner.answer phone.runner (.resume payload previous) phone.entropy =
      (.error error, runner, entropy)) :
    handle (clear payload) phone = (.error (.invalidHandshake error), { phone with
      runner, entropy, trace := (.resume payload previous, .error error) :: phone.trace }) := by
  rw [handle_resuming phone payload previous waiting state purpose, handleProof,
    Step.run_bind_error _ (run_demand_refused phone refused)]

-- What opens to an id of the wrong length is not taken for one.
theorem handle_misnamed (payload : Bytes) (session : Session) (device : Uuid) (secret : Bytes)
    (waiting : phone.established = false) (state : phone.state = .finished)
    (purpose : phone.purpose = .associate device secret) (installed : phone.session = some session)
    {plain : Bytes} (opens : session.unwrap payload = .ok plain)
    (misnamed : Uuid.ofBytes? plain = none) :
    Fails (.handle { encrypted := true, payload }) phone := by
  have ran : ∃ error, handle { encrypted := true, payload } phone = (.error error, phone) := by
    rw [handle, handleFrame, Step.run_bind, Step.run_get]
    simp only [waiting, opened, decrypted, installed, opens, state, purpose, Bool.false_eq_true,
      if_false, if_true]
    rw [handleCarId]
    simp only [misnamed]
    exact ⟨_, Step.run_throw _ _⟩
  exact ran

end Frames

end CarPairing.Companion
