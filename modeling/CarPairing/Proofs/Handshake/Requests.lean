import CarPairing.Proofs.Handshake.Views

/-!
All that a request can do to a runner. A request is granted in one phase only,
and what it leaves behind is then known in full; a refused one leaves the
runner as it was or dead.
-/

namespace CarPairing.Agreement

/-- The label under which the other end of a resumption proves the previous key. -/
def peerLabel : Role → Bytes
  | .responder => clientLabel
  | .initiator => serverLabel

/-- The requests that succeed, each with what it needs. -/
inductive Granted (runner : Agreement) : Request → Prop where
  | init (role : runner.role = .initiator) (idle : runner.phase = .idle) : Granted runner .init
  | respond (message : Bytes) (role : runner.role = .responder) (idle : runner.phase = .idle)
      (framed : Framed message clientInitSize) : Granted runner (.respond message)
  | reply (message secret clientInit clientFinish : Bytes) (role : runner.role = .initiator)
      (sent : runner.phase = .sentClientInit secret clientInit clientFinish)
      (framed : Framed message serverInitSize) : Granted runner (.continue message)
  | finish (message secret clientInit serverInit commitment : Bytes)
      (role : runner.role = .responder)
      (sent : runner.phase = .sentServerInit secret clientInit serverInit commitment)
      (framed : Framed message clientFinishSize) (committed : sha256 message = commitment) :
      Granted runner (.continue message)
  | verify (secrets : Secrets) (waiting : runner.phase = .awaitingVerification secrets) :
      Granted runner .verify
  | prove (previous : Key) (secrets : Secrets) (role : runner.role = .initiator)
      (resuming : runner.phase = .resuming secrets) : Granted runner (.prove previous)
  | resume (message : Bytes) (previous : Key) (secrets : Secrets)
      (resuming : runner.phase = .resuming secrets)
      (proven : message = resumeMac previous secrets.auth (peerLabel runner.role)) :
      Granted runner (.resume message previous)

/-- Left alone or dead. -/
def Refused (runner after : Agreement) : Prop :=
  after = runner ∨ after = { runner with phase := .failed }

theorem start_exact (runner : Agreement) (entropy : Entropy) (role : runner.role = .initiator)
    (idle : runner.phase = .idle) :
    Runner.answer runner .init entropy =
      (.ok { state := .inProgress, next := some (clientInitOf entropy) },
        { runner with phase := opening entropy }, drawnFrom entropy) := by
  simp only [Runner.answer, start, role, idle]
  rfl

theorem start_cases (runner : Agreement) (entropy : Entropy) :
    Granted runner .init ∨ ∃ error, runner.start entropy = (.error error, runner, entropy) := by
  cases role : runner.role with
  | responder =>
      right
      exact ⟨_, by simp only [start, role]; rfl⟩
  | initiator =>
      cases idle : runner.phase with
      | idle => exact Or.inl (.init role idle)
      | _ =>
          right
          exact ⟨_, by simp only [start, role, idle]; rfl⟩

theorem respond_exact (runner : Agreement) (message : Bytes) (entropy : Entropy)
    (role : runner.role = .responder) (idle : runner.phase = .idle)
    (framed : Framed message clientInitSize) :
    Runner.answer runner (.respond message) entropy =
      (.ok { state := .inProgress, next := some (serverInitOf entropy) },
        { runner with phase := replied entropy message }, drawnFrom entropy) := by
  simp only [Runner.answer, respond, role, idle, (checkFrame_ok_iff message _ _).mpr framed]
  rfl

theorem respond_cases (runner : Agreement) (message : Bytes) (entropy : Entropy) :
    Granted runner (.respond message) ∨
      ∃ error after, runner.respond message entropy = (.error error, after, entropy) ∧
        Refused runner after := by
  cases role : runner.role with
  | initiator =>
      right
      exact ⟨_, _, by simp only [respond, role]; rfl, Or.inl rfl⟩
  | responder =>
      cases idle : runner.phase with
      | idle =>
          rcases checkFrame_cases message clientInitSize "client init" with
            ⟨-, framed⟩ | ⟨error, refused⟩
          · exact Or.inl (.respond message role idle framed)
          · right
            exact ⟨error, _, by simp only [respond, role, idle, refused], Or.inr rfl⟩
      | _ =>
          right
          exact ⟨_, _, by simp only [respond, role, idle]; rfl, Or.inl rfl⟩

theorem same_iff (left right : Bytes) : VerificationCode.same left right = true ↔ left = right := by
  simp [VerificationCode.same]

def completed (runner : Agreement) (secrets : Secrets) : Phase :=
  if runner.reconnecting then .resuming secrets else .awaitingVerification secrets

def completion (runner : Agreement) (secrets : Secrets) (next : Option Bytes) : HandshakeMessage :=
  if runner.reconnecting then { state := .resumingSession, next }
  else if runner.outOfBand then
    { state := .oobVerificationNeeded, oobCode := some secrets.auth.bytes, next }
  else
    { state := .verificationNeeded
      code := VerificationCode.numeric? secrets.auth.bytes runner.digits, next }

theorem agreed_exact (runner : Agreement) (secrets : Secrets) (next : Option Bytes) :
    runner.agreed secrets next =
      (.ok (runner.completion secrets next), { runner with phase := runner.completed secrets }) := by
  unfold agreed completion completed
  by_cases resumes : runner.reconnecting
  · simp only [if_pos resumes]
  · by_cases shown : runner.outOfBand
    · simp only [if_neg resumes, if_pos shown]
    · simp only [if_neg resumes, if_neg shown]

theorem completion_next (runner : Agreement) (secrets : Secrets) (next : Option Bytes) :
    (runner.completion secrets next).next = next := by
  unfold completion
  split
  · rfl
  · split <;> rfl

theorem reply_exact (runner : Agreement) (view : InitiatorView) (entropy : Entropy)
    (role : runner.role = .initiator) (sent : runner.phase = opening view.entropy) :
    Runner.answer runner (.continue view.serverInit) entropy =
      (.ok (runner.completion view.secrets (some view.clientFinish)),
        { runner with phase := runner.completed view.secrets }, entropy) := by
  simp only [Runner.answer, proceed, role, sent, opening,
    (checkFrame_ok_iff _ _ _).mpr view.framed, agreed_exact]
  rfl

theorem finish_exact (runner : Agreement) (view : ResponderView) (entropy : Entropy)
    (role : runner.role = .responder)
    (sent : runner.phase = replied view.entropy view.clientInit) :
    Runner.answer runner (.continue view.clientFinish) entropy =
      (.ok (runner.completion view.secrets none),
        { runner with phase := runner.completed view.secrets }, entropy) := by
  simp only [Runner.answer, proceed, role, sent, replied,
    (checkFrame_ok_iff _ _ _).mpr view.framedFinish, (same_iff _ _).mpr view.committed, if_true, agreed_exact]
  rfl

theorem proceed_cases (runner : Agreement) (message : Bytes) :
    Granted runner (.continue message) ∨
      ∃ error after, runner.proceed message = (.error error, after) ∧ Refused runner after := by
  cases role : runner.role with
  | initiator =>
      cases sent : runner.phase with
      | sentClientInit secret clientInit clientFinish =>
          rcases checkFrame_cases message serverInitSize "server init" with
            ⟨-, framed⟩ | ⟨error, refused⟩
          · exact Or.inl (.reply message _ _ _ role sent framed)
          · right
            exact ⟨error, _, by simp only [proceed, role, sent, refused], Or.inr rfl⟩
      | _ =>
          right
          exact ⟨_, _, by simp only [proceed, role, sent]; rfl, Or.inl rfl⟩
  | responder =>
      cases sent : runner.phase with
      | sentServerInit secret clientInit serverInit commitment =>
          rcases checkFrame_cases message clientFinishSize "client finish" with
            ⟨checked, framed⟩ | ⟨error, refused⟩
          · by_cases committed : sha256 message = commitment
            · exact Or.inl (.finish message _ _ _ _ role sent framed committed)
            · right
              have differs : VerificationCode.same (sha256 message) commitment = false := by
                simpa [VerificationCode.same] using committed
              exact ⟨.commitmentMismatch, _,
                by simp [proceed, role, sent, checked, differs], Or.inr rfl⟩
          · right
            exact ⟨error, _, by simp only [proceed, role, sent, refused], Or.inr rfl⟩
      | _ =>
          right
          exact ⟨_, _, by simp only [proceed, role, sent]; rfl, Or.inl rfl⟩

theorem verify_exact (runner : Agreement) (secrets : Secrets) (entropy : Entropy)
    (waiting : runner.phase = .awaitingVerification secrets) :
    Runner.answer runner .verify entropy =
      (.ok { state := .finished, key := some secrets.next }, { runner with phase := .finished },
        entropy) := by
  simp only [Runner.answer, verify, waiting]

theorem verify_cases (runner : Agreement) :
    Granted runner .verify ∨ ∃ error, runner.verify = (.error error, runner) := by
  cases waiting : runner.phase with
  | awaitingVerification secrets => exact Or.inl (.verify secrets waiting)
  | _ =>
      right
      exact ⟨_, by simp only [verify, waiting]; rfl⟩

theorem prove_exact (runner : Agreement) (previous : Key) (secrets : Secrets) (entropy : Entropy)
    (role : runner.role = .initiator) (resuming : runner.phase = .resuming secrets) :
    Runner.answer runner (.prove previous) entropy =
      (.ok { state := .resumingSession
             next := some (resumeMac previous secrets.auth clientLabel) }, runner, entropy) := by
  simp only [Runner.answer, prove, role, resuming]

theorem prove_cases (runner : Agreement) (previous : Key) :
    Granted runner (.prove previous) ∨ ∃ error, runner.prove previous = (.error error, runner) := by
  cases role : runner.role with
  | responder =>
      right
      exact ⟨_, by simp only [prove, role]; rfl⟩
  | initiator =>
      cases resuming : runner.phase with
      | resuming secrets => exact Or.inl (.prove previous secrets role resuming)
      | _ =>
          right
          exact ⟨_, by simp only [prove, role, resuming]; rfl⟩

/-- The proof that goes back to a peer that has proven the previous key: the
responder owes one still, the initiator has given its own. -/
def owedProof (role : Role) (previous : Key) (secrets : Secrets) : Option Bytes :=
  match role with
  | .responder => some (resumeMac previous secrets.auth serverLabel)
  | .initiator => none

theorem resume_exact (runner : Agreement) (message : Bytes) (previous : Key) (secrets : Secrets)
    (entropy : Entropy) (resuming : runner.phase = .resuming secrets)
    (proven : message = resumeMac previous secrets.auth (peerLabel runner.role)) :
    Runner.answer runner (.resume message previous) entropy =
      (.ok (secrets.finish previous (owedProof runner.role previous secrets)),
        { runner with phase := .finished }, entropy) := by
  cases role : runner.role with
  | responder =>
      rw [role, peerLabel] at proven
      have same := (same_iff message _).mpr proven
      simp only [Runner.answer, resume, resuming, role, same, owedProof, if_true]
  | initiator =>
      rw [role, peerLabel] at proven
      have same := (same_iff message _).mpr proven
      simp only [Runner.answer, resume, resuming, role, same, owedProof, if_true]

theorem resume_cases (runner : Agreement) (message : Bytes) (previous : Key) :
    Granted runner (.resume message previous) ∨
      ∃ error, runner.resume message previous = (.error error, { runner with phase := .failed }) := by
  cases resuming : runner.phase with
  | resuming secrets =>
      by_cases proven : message = resumeMac previous secrets.auth (peerLabel runner.role)
      · exact Or.inl (.resume message previous secrets resuming proven)
      · right
        have differs : ¬VerificationCode.same message
            (resumeMac previous secrets.auth (peerLabel runner.role)) = true :=
          fun same => proven ((same_iff _ _).mp same)
        refine ⟨.resumeAuthenticationFailed, ?_⟩
        cases role : runner.role with
        | responder =>
            rw [role, peerLabel] at differs
            simp only [resume, resuming, role, if_neg differs]
        | initiator =>
            rw [role, peerLabel] at differs
            simp only [resume, resuming, role, if_neg differs]
  | _ =>
      right
      exact ⟨_, by simp only [resume, resuming]; rfl⟩

-- A request is granted, or draws nothing and gives an error.
theorem answer_cases (runner : Agreement) (request : Request) (entropy : Entropy) :
    Granted runner request ∨
      ∃ error after, Runner.answer runner request entropy = (.error error, after, entropy) ∧
        Refused runner after := by
  cases request with
  | init =>
      rcases start_cases runner entropy with granted | ⟨error, refused⟩
      · exact Or.inl granted
      · exact Or.inr ⟨error, runner, refused, Or.inl rfl⟩
  | respond message => exact respond_cases runner message entropy
  | «continue» message =>
      rcases proceed_cases runner message with granted | ⟨error, after, refused, left⟩
      · exact Or.inl granted
      · exact Or.inr ⟨error, after, by simp only [Runner.answer, refused], left⟩
  | verify =>
      rcases verify_cases runner with granted | ⟨error, refused⟩
      · exact Or.inl granted
      · exact Or.inr ⟨error, runner, by simp only [Runner.answer, refused], Or.inl rfl⟩
  | prove previous =>
      rcases prove_cases runner previous with granted | ⟨error, refused⟩
      · exact Or.inl granted
      · exact Or.inr ⟨error, runner, by simp only [Runner.answer, refused], Or.inl rfl⟩
  | resume message previous =>
      rcases resume_cases runner message previous with granted | ⟨error, refused⟩
      · exact Or.inl granted
      · exact Or.inr ⟨error, _, by simp only [Runner.answer, refused], Or.inr rfl⟩

/-! Read by phase: what may be asked of a runner in it. -/

theorem granted_of_idle {runner : Agreement} {request : Request} (granted : Granted runner request)
    (idle : runner.phase = .idle) :
    request = .init ∧ runner.role = .initiator ∨
      ∃ message, request = .respond message ∧ runner.role = .responder ∧
        Framed message clientInitSize := by
  cases granted with
  | init role _ => exact Or.inl ⟨rfl, role⟩
  | respond message role _ framed => exact Or.inr ⟨message, rfl, role, framed⟩
  | _ => simp_all

theorem granted_of_opening {runner : Agreement} {request : Request} {entropy : Entropy}
    (granted : Granted runner request) (sent : runner.phase = opening entropy) :
    ∃ message, request = .continue message ∧ runner.role = .initiator ∧
      Framed message serverInitSize := by
  cases granted with
  | reply message _ _ _ role _ framed => exact ⟨message, rfl, role, framed⟩
  | _ => simp_all [opening]

theorem granted_of_replied {runner : Agreement} {request : Request} {entropy : Entropy}
    {clientInit : Bytes} (granted : Granted runner request)
    (sent : runner.phase = replied entropy clientInit) :
    ∃ message, request = .continue message ∧ runner.role = .responder ∧
      Framed message clientFinishSize ∧ sha256 message = clientInit.drop 33 := by
  cases granted with
  | finish message _ _ _ _ role other framed committed =>
      rw [sent] at other
      injection other with _ _ _ same
      exact ⟨message, rfl, role, framed, committed.trans same.symm⟩
  | _ => simp_all [replied]

theorem granted_of_awaitingVerification {runner : Agreement} {request : Request}
    {secrets : Secrets} (granted : Granted runner request)
    (waiting : runner.phase = .awaitingVerification secrets) : request = .verify := by
  cases granted with
  | verify => rfl
  | _ => simp_all

theorem granted_of_resuming {runner : Agreement} {request : Request} {secrets : Secrets}
    (granted : Granted runner request) (resuming : runner.phase = .resuming secrets) :
    (∃ previous, request = .prove previous ∧ runner.role = .initiator) ∨
      ∃ message previous, request = .resume message previous ∧
        message = resumeMac previous secrets.auth (peerLabel runner.role) := by
  cases granted with
  | prove previous _ role _ => exact Or.inl ⟨previous, rfl, role⟩
  | resume message previous _ other proven =>
      rw [resuming] at other
      injection other with same
      exact Or.inr ⟨message, previous, rfl, same ▸ proven⟩
  | _ => simp_all

-- A runner that is done or dead answers nothing.
theorem not_granted_spent {runner : Agreement} {request : Request}
    (spent : runner.phase = .finished ∨ runner.phase = .failed) : ¬Granted runner request := by
  intro granted
  cases granted <;> simp_all

end CarPairing.Agreement
