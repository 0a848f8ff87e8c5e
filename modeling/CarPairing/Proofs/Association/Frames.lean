import CarPairing.Proofs.Association.Answers
import CarPairing.Proofs.Handshake.Requests

/-!
What an association makes of the two frames of the key agreement and of the
user's acceptance, the key agreement being the real one and the storage any.
Each either goes through, and then leaves what is said here in full, or fails.
-/

namespace CarPairing

namespace Agreement

/-- The code of a complete agreement, as both ends display it. -/
def code? (runner : Agreement) (secrets : Secrets) : Option String :=
  if runner.outOfBand then some (VerificationCode.outOfBand secrets.auth.bytes)
  else VerificationCode.numeric? secrets.auth.bytes runner.digits

/-- What is asked of the user once there is a code. -/
def awaited (runner : Agreement) : HandshakeState :=
  if runner.outOfBand then .oobVerificationNeeded else .verificationNeeded

theorem code_exists (runner : Agreement) (secrets : Secrets) :
    ∃ code, runner.code? secrets = some code := by
  unfold code?
  split
  · exact ⟨_, rfl⟩
  · have long : ¬secrets.auth.bytes.length < 4 := by
      rw [secrets.auth.length_bytes]
      decide
    exact ⟨_, by rw [VerificationCode.numeric?, if_neg long]⟩

theorem awaited_cases (runner : Agreement) :
    runner.awaited = .verificationNeeded ∨ runner.awaited = .oobVerificationNeeded := by
  unfold awaited
  split
  · exact Or.inr rfl
  · exact Or.inl rfl

theorem awaited_ne_unknown (runner : Agreement) : runner.awaited ≠ .unknown := by
  rcases awaited_cases runner with numeric | outOfBand
  · rw [numeric]
    exact nofun
  · rw [outOfBand]
    exact nofun

end Agreement

namespace Association

open Channel Agreement

variable {σ : Type}

/-- An association that runs the real key agreement. -/
abbrev Car (σ : Type) := Channel Association Agreement σ

def afterInit (car : Car σ) (message : Bytes) : Car σ :=
  { car with
    runner := { car.runner with phase := replied car.entropy message }
    entropy := drawnFrom car.entropy
    state := .inProgress
    trace := .sent .handshake { encrypted := false, payload := serverInitOf car.entropy } ::
      .asked (.respond message)
        (.ok { state := .inProgress, next := some (serverInitOf car.entropy) }) :: car.trace }

theorem processInit_replies (message : Bytes) (car : Car σ) (role : car.runner.role = .responder)
    (idle : car.runner.phase = .idle) (framed : Framed message clientInitSize) :
    (processInit message).run car = (.ok (), afterInit car message) := by
  have answered := respond_exact car.runner message car.entropy role idle framed
  rw [processInit, Step.run_bind_ok _ (run_demand_ok _ car answered)]
  rfl

theorem processInit_cases (message : Bytes) (car : Car σ) (role : car.runner.role = .responder)
    (idle : car.runner.phase = .idle) :
    (Framed message clientInitSize ∧
        (processInit message).run car = (.ok (), afterInit car message)) ∨
      Fails (processInit message) car := by
  rcases answer_cases car.runner (.respond message) car.entropy with
    granted | ⟨error, after, refused, -⟩
  · rcases granted_of_idle granted idle with ⟨other, -⟩ | ⟨taken, same, -, framed⟩
    · cases other
    · cases same
      exact Or.inl ⟨framed, processInit_replies message car role idle framed⟩
  · exact Or.inr (demand_fails _ _ car refused)

def atCode (car : Car σ) (view : ResponderView) : Car σ :=
  { car with
    runner := { car.runner with phase := .awaitingVerification view.secrets }
    state := car.runner.awaited
    trace := .asked (.continue view.clientFinish) (.ok (car.runner.completion view.secrets none)) ::
      car.trace }

-- In both modes of verification the peer's key comes to a code to show.
theorem run_processFinish (view : ResponderView) (code : String) (car : Car σ)
    (role : car.runner.role = .responder) (verifies : car.runner.reconnecting = false)
    (sent : car.runner.phase = replied view.entropy view.clientInit)
    (shows : car.runner.code? view.secrets = some code) :
    (processFinish view.clientFinish : Step Agreement σ Unit).run car =
      (showCode code).run (atCode car view) := by
  have answered := finish_exact car.runner view car.entropy role sent
  rw [processFinish, Step.run_bind_ok _ (run_demand_ok _ car answered)]
  by_cases shown : car.runner.outOfBand
  · have nonempty : view.secrets.auth.bytes ≠ [] := by
      intro empty
      have sized := view.secrets.auth.length_bytes
      rw [empty] at sized
      cases sized
    have displayed : VerificationCode.outOfBand view.secrets.auth.bytes = code := by
      simpa [code?, shown] using shows
    simp only [completion, verifies, shown, Bool.false_eq_true, if_false, if_true]
    rw [Step.run_bind_ok _ (run_setState _ _), displayed]
    simp only [atCode, completion, completed, verifies, shown, awaited, Bool.false_eq_true,
      if_false, if_true]
  · have displayed : VerificationCode.numeric? view.secrets.auth.bytes car.runner.digits =
        some code := by
      simpa [code?, shown] using shows
    simp only [completion, verifies, shown, displayed, Bool.false_eq_true, if_false]
    rw [Step.run_bind_ok _ (run_setState _ _)]
    simp only [atCode, completion, completed, verifies, shown, displayed, awaited,
      Bool.false_eq_true, if_false]

theorem processFinish_cases (message : Bytes) (car : Car σ) (entropy : Entropy)
    (clientInit : Bytes) (framedInit : Framed clientInit clientInitSize)
    (role : car.runner.role = .responder) (verifies : car.runner.reconnecting = false)
    (sent : car.runner.phase = replied entropy clientInit) :
    (∃ (view : ResponderView) (code : String), view.entropy = entropy ∧
        view.clientInit = clientInit ∧ view.clientFinish = message ∧
        car.runner.code? view.secrets = some code ∧
        (processFinish message).run car = (.ok (), (atCode car view).record (.codeShown code))) ∨
      Fails (processFinish message) car := by
  rcases answer_cases car.runner (.continue message) car.entropy with
    granted | ⟨error, after, refused, -⟩
  · obtain ⟨taken, same, -, framed, committed⟩ := granted_of_replied granted sent
    cases same
    let view : ResponderView := ⟨entropy, clientInit, message, framedInit, framed, committed⟩
    obtain ⟨code, shows⟩ := code_exists car.runner view.secrets
    have ran := run_processFinish view code car role verifies sent shows
    rw [run_showCode] at ran
    cases listening : (atCode car view).flavor.listening with
    | true =>
        rw [listening, if_pos rfl] at ran
        exact Or.inl ⟨view, code, rfl, rfl, rfl, shows, ran⟩
    | false =>
        rw [listening, if_neg Bool.false_ne_true] at ran
        exact Or.inr ⟨_, _, ran⟩
  · exact Or.inr (demand_fails _ _ car refused)

variable [KeyStorage σ]

/-- The channel with an accepted key in hand, before it has asked for its id. -/
def holding (car : Car σ) (secrets : Secrets) : Car σ :=
  { car with
    runner := { car.runner with phase := .finished }
    state := .finished
    session := some (Session.ofKey secrets.next car.entropy).1
    entropy := (Session.ofKey secrets.next car.entropy).2
    flavor := { car.flavor with pending := some secrets.next }
    trace := .asked .verify (.ok { state := .finished, key := some secrets.next }) :: car.trace }

def afterAccept (car : Car σ) (secrets : Secrets) (id : Uuid) : Car σ :=
  let held := holding car secrets
  let session := (Session.ofKey secrets.next car.entropy).1
  { held with
    storage := (KeyStorage.uniqueId car.storage held.entropy).2.1
    entropy := (KeyStorage.uniqueId car.storage held.entropy).2.2
    session := some { session with counter := 1 }
    trace := .sent .handshake
        { encrypted := true
          payload := session.nonce ++ Aead.encrypt session.key.bytes session.nonce id.bytes } ::
      .stored .uniqueId (.ok ()) :: held.trace }

theorem acceptCode_held (car : Car σ) (secrets : Secrets) (listening : car.flavor.listening = true)
    (waiting : car.runner.phase = .awaitingVerification secrets) :
    (acceptCode : Step Agreement σ Unit).run car =
      ((do
        let id ← accepted (← uniqueId)
        sendHandshake id.bytes true) : Step Agreement σ Unit).run (holding car secrets) := by
  have answered := verify_exact car.runner secrets car.entropy waiting
  have asked : (ask .verify : Step Agreement σ Answer).run car =
      (.ok (.ok { state := .finished, key := some secrets.next }),
        { car with
          runner := { car.runner with phase := .finished }
          trace := .asked .verify (.ok { state := .finished, key := some secrets.next }) ::
            car.trace }) := by
    rw [run_ask, answered]
  rw [acceptCode, Step.run_bind, Step.run_get]
  simp only [listening, if_true]
  rw [Step.run_bind_ok _ asked]
  simp only [if_true]
  rw [Step.run_bind_ok _ (run_setState _ _), Step.run_bind_ok _ (run_installKey _ _),
    Step.run_bind_ok _ (Step.run_modify _ _)]
  rfl

theorem acceptCode_sends (car : Car σ) (secrets : Secrets) (id : Uuid)
    (listening : car.flavor.listening = true)
    (waiting : car.runner.phase = .awaitingVerification secrets)
    (given : (KeyStorage.uniqueId car.storage (holding car secrets).entropy).1 = .ok id) :
    (acceptCode : Step Agreement σ Unit).run car = (.ok (), afterAccept car secrets id) := by
  have fresh : (Session.ofKey secrets.next car.entropy).1.counter ≠ Session.counterLimit := by
    change 0 ≠ Session.counterLimit
    decide
  rw [acceptCode_held car secrets listening waiting, Step.run_bind, uniqueId, run_callStorage]
  simp only [holding] at given ⊢
  simp only [given, accepted]
  rw [Step.run_bind, Step.run_pure]
  dsimp only
  rw [run_sendHandshake_sealed id.bytes _ _ rfl fresh]
  rfl

theorem acceptCode_unheard (car : Car σ) (unheard : car.flavor.listening = false) :
    Fails (acceptCode : Step Agreement σ Unit) car := by
  have ran : (acceptCode : Step Agreement σ Unit).run car =
      (.error (.invalidState "verification accepted with no listener registered"), car) := by
    rw [acceptCode, Step.run_bind, Step.run_get]
    simp only [unheard, Bool.false_eq_true, if_false]
    exact Step.run_throw _ _
  exact ⟨_, _, ran⟩

theorem acceptCode_refused (car : Car σ) {error : HandshakeError} {after : Agreement}
    {entropy : Entropy} (listening : car.flavor.listening = true)
    (refused : Runner.answer car.runner .verify car.entropy = (.error error, after, entropy)) :
    Fails (acceptCode : Step Agreement σ Unit) car := by
  have asked : (ask .verify : Step Agreement σ Answer).run car =
      (.ok (.error error), { car with
        runner := after
        entropy
        trace := .asked .verify (.error error) :: car.trace }) := by
    rw [run_ask, refused]
  have ran : (acceptCode : Step Agreement σ Unit).run car =
      (.error (.invalidVerification error.message), { car with
        runner := after
        entropy
        trace := .asked .verify (.error error) :: car.trace }) := by
    rw [acceptCode, Step.run_bind, Step.run_get]
    simp only [listening, if_true]
    rw [Step.run_bind_ok _ asked]
    rfl
  exact ⟨_, _, ran⟩

theorem acceptCode_nameless (car : Car σ) (secrets : Secrets) {error : StoreError}
    (listening : car.flavor.listening = true)
    (waiting : car.runner.phase = .awaitingVerification secrets)
    (denied : (KeyStorage.uniqueId (holding car secrets).storage (holding car secrets).entropy).1 =
      .error error) : Fails (acceptCode : Step Agreement σ Unit) car := by
  have held := acceptCode_held car secrets listening waiting
  rw [Step.run_bind, uniqueId, run_callStorage] at held
  simp only [denied, accepted] at held
  rw [Step.run_bind, Step.run_throw] at held
  exact ⟨_, _, held⟩

theorem acceptCode_cases (car : Car σ) :
    (∃ secrets id, car.flavor.listening = true ∧
        car.runner.phase = .awaitingVerification secrets ∧
        (KeyStorage.uniqueId car.storage (holding car secrets).entropy).1 = .ok id ∧
        (acceptCode : Step Agreement σ Unit).run car = (.ok (), afterAccept car secrets id)) ∨
      Fails (acceptCode : Step Agreement σ Unit) car := by
  cases listening : car.flavor.listening with
  | false => exact Or.inr (acceptCode_unheard car listening)
  | true =>
      rcases answer_cases car.runner .verify car.entropy with granted | ⟨error, after, refused, -⟩
      · cases granted with
        | verify secrets waiting =>
            cases given : (KeyStorage.uniqueId car.storage (holding car secrets).entropy).1 with
            | ok id =>
                exact Or.inl ⟨secrets, id, rfl, waiting, given,
                  acceptCode_sends car secrets id listening waiting given⟩
            | error error => exact Or.inr (acceptCode_nameless car secrets listening waiting given)
      · exact Or.inr (acceptCode_refused car listening refused)

end Association

end CarPairing
