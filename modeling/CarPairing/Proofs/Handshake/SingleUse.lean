import CarPairing.Proofs.Handshake.Requests

/-!
The whole life of a runner, whatever it is asked, in whatever order and with
the mode changed at any time. A log keeps every request with its answer. A key
is given once, and only for an agreement that the log shows; after it, and
after a message that was refused for what it holds, there are only errors.
-/

namespace CarPairing

/-- A message was refused for what it holds. A call out of turn is not. -/
def HandshakeError.condemns : HandshakeError → Bool
  | .malformedMessage _ => true
  | .unsupportedVersion _ => true
  | .commitmentMismatch => true
  | .resumeAuthenticationFailed => true
  | .unexpectedCall .. => false
  | .crypto _ => false

namespace Agreement

/-- What can be done to a runner. -/
inductive Use where
  | request (request : Request) (entropy : Entropy)
  | reconnect (on : Bool)

/-- A runner with the answers that it has given, first request first. -/
structure Interview where
  runner : Agreement
  log : List (Request × Answer) := []

namespace Interview

def use (interview : Interview) : Use → Interview
  | .request request entropy =>
      { runner := (Runner.answer interview.runner request entropy).2.1
        log := interview.log ++ [(request, (Runner.answer interview.runner request entropy).1)] }
  | .reconnect on => { interview with runner := Runner.setReconnect interview.runner on }

def useAll (interview : Interview) (uses : List Use) : Interview :=
  uses.foldl use interview

end Interview

/-- The key that an answer hands over. -/
def handed? : Answer → Option Key
  | .ok report => report.key
  | .error _ => none

/-- An answer that hands over a key or condemns the peer's message. -/
inductive Closing : Answer → Prop where
  | hands (report : HandshakeMessage) (key : Key) (handed : report.key = some key) :
      Closing (.ok report)
  | condemns (error : HandshakeError) (refuses : error.condemns = true) : Closing (.error error)

/-- The log shows a complete agreement: the secrets are those of the messages
that were sent and taken, and this state was reported for the last of them. -/
inductive Agreed (log : List (Request × Answer)) : Role → HandshakeState → Secrets → Prop where
  | initiator (view : InitiatorView) (report : HandshakeMessage)
      (opened : (.init, .ok { state := .inProgress, next := some view.clientInit }) ∈ log)
      (continued : (.continue view.serverInit, .ok report) ∈ log) :
      Agreed log .initiator report.state view.secrets
  | responder (view : ResponderView) (report : HandshakeMessage)
      (replied : (.respond view.clientInit,
        .ok { state := .inProgress, next := some view.serverInit }) ∈ log)
      (continued : (.continue view.clientFinish, .ok report) ∈ log) :
      Agreed log .responder report.state view.secrets

/-- What entitles a request to a key, by what came before it. -/
inductive Earned (role : Role) (earlier : List (Request × Answer)) : Request → Key → Prop where
  | verified (state : HandshakeState) (secrets : Secrets)
      (agreed : Agreed earlier role state secrets)
      (asked : state = .verificationNeeded ∨ state = .oobVerificationNeeded) :
      Earned role earlier .verify secrets.next
  | resumed (secrets : Secrets) (message : Bytes) (previous : Key)
      (agreed : Agreed earlier role .resumingSession secrets)
      (proven : message = resumeMac previous secrets.auth (peerLabel role)) :
      Earned role earlier (.resume message previous) (resumedKey previous secrets.next)

/-- What is true of the answers of any runner. -/
structure SingleUse (role : Role) (log : List (Request × Answer)) : Prop where
  once : (log.filterMap fun entry => handed? entry.2).length ≤ 1
  earned : ∀ earlier request report key later, log = earlier ++ (request, .ok report) :: later →
    report.key = some key → Earned role earlier request key
  last : ∀ earlier request answer later, log = earlier ++ (request, answer) :: later →
    Closing answer → ∀ entry ∈ later, ∃ error, entry.2 = .error error

/-- Used up or dead. -/
def Spent (phase : Phase) : Prop :=
  phase = .finished ∨ phase = .failed

/-- How a runner of this role has come to its phase, as far as the log tells. -/
inductive Reached (role : Role) (log : List (Request × Answer)) : Phase → Prop where
  | idle : Reached role log .idle
  | opened (entropy : Entropy) (phone : role = .initiator)
      (sent : (.init, .ok { state := .inProgress, next := some (clientInitOf entropy) }) ∈ log) :
      Reached role log (opening entropy)
  | answered (entropy : Entropy) (clientInit : Bytes) (car : role = .responder)
      (framed : Framed clientInit clientInitSize)
      (sent : (.respond clientInit,
        .ok { state := .inProgress, next := some (serverInitOf entropy) }) ∈ log) :
      Reached role log (replied entropy clientInit)
  | awaiting (state : HandshakeState) (secrets : Secrets) (agreed : Agreed log role state secrets)
      (asked : state = .verificationNeeded ∨ state = .oobVerificationNeeded) :
      Reached role log (.awaitingVerification secrets)
  | resuming (secrets : Secrets) (agreed : Agreed log role .resumingSession secrets) :
      Reached role log (.resuming secrets)
  | spent (phase : Phase) (past : Spent phase) : Reached role log phase

section Log

variable {role : Role} {log : List (Request × Answer)}

theorem Agreed.more {state : HandshakeState} {secrets : Secrets}
    (agreed : Agreed log role state secrets) (later : List (Request × Answer)) :
    Agreed (log ++ later) role state secrets := by
  cases agreed with
  | initiator view report opened continued =>
      exact .initiator view report (List.mem_append_left _ opened)
        (List.mem_append_left _ continued)
  | responder view report replied continued =>
      exact .responder view report (List.mem_append_left _ replied)
        (List.mem_append_left _ continued)

theorem Reached.more {phase : Phase} (reached : Reached role log phase)
    (later : List (Request × Answer)) : Reached role (log ++ later) phase := by
  cases reached with
  | idle => exact .idle
  | opened entropy phone sent => exact .opened entropy phone (List.mem_append_left _ sent)
  | answered entropy clientInit car framed sent =>
      exact .answered entropy clientInit car framed (List.mem_append_left _ sent)
  | awaiting state secrets agreed asked => exact .awaiting state secrets (agreed.more later) asked
  | resuming secrets agreed => exact .resuming secrets (agreed.more later)
  | spent phase past => exact .spent phase past

end Log

-- A complete agreement is waited on in the way that was reported.
theorem reached_completed {role : Role} {log : List (Request × Answer)} (runner : Agreement)
    (secrets : Secrets) (next : Option Bytes)
    (agreed : Agreed log role (runner.completion secrets next).state secrets) :
    Reached role log (runner.completed secrets) := by
  unfold completion at agreed
  unfold completed
  by_cases resumes : runner.reconnecting
  · simp only [resumes, if_true] at agreed ⊢
    exact .resuming secrets agreed
  · simp only [if_neg resumes] at agreed ⊢
    by_cases shown : runner.outOfBand
    · simp only [shown, if_true] at agreed
      exact .awaiting _ secrets agreed (Or.inr rfl)
    · simp only [if_neg shown] at agreed
      exact .awaiting _ secrets agreed (Or.inl rfl)

theorem completion_key (runner : Agreement) (secrets : Secrets) (next : Option Bytes) :
    (runner.completion secrets next).key = none := by
  unfold completion
  by_cases resumes : runner.reconnecting
  · simp [resumes]
  · by_cases shown : runner.outOfBand <;> simp [resumes, shown]

/-- The good answer to a request: where it leads, and the right to its key. -/
structure Progress (role : Role) (log : List (Request × Answer)) (request : Request)
    (report : HandshakeMessage) (after : Agreement) : Prop where
  sameRole : after.role = role
  reached : Reached role (log ++ [(request, .ok report)]) after.phase
  earned : ∀ key, report.key = some key → Earned role log request key ∧ Spent after.phase

-- A complete agreement is reported without its key.
theorem progress_completed {runner : Agreement} {log : List (Request × Answer)} {request : Request}
    (secrets : Secrets) (next : Option Bytes)
    (agreed : Agreed (log ++ [(request, .ok (runner.completion secrets next))]) runner.role
      (runner.completion secrets next).state secrets) :
    Progress runner.role log request (runner.completion secrets next)
      { runner with phase := runner.completed secrets } where
  sameRole := rfl
  reached := reached_completed runner secrets next agreed
  earned key handed := by
    rw [completion_key] at handed
    cases handed

theorem granted_progress {runner : Agreement} {request : Request}
    (log : List (Request × Answer)) (entropy : Entropy) (granted : Granted runner request)
    (reached : Reached runner.role log runner.phase) :
    ∃ report after drawn, Runner.answer runner request entropy = (.ok report, after, drawn) ∧
      Progress runner.role log request report after := by
  have here (entry : Request × Answer) : entry ∈ log ++ [entry] := by simp
  cases granted with
  | init role idle =>
      refine ⟨_, _, _, start_exact runner entropy role idle, rfl, ?_, nofun⟩
      exact .opened entropy role (here _)
  | respond message role idle framed =>
      refine ⟨_, _, _, respond_exact runner message entropy role idle framed, rfl, ?_, nofun⟩
      exact .answered entropy message role framed (here _)
  | reply message secret clientInit clientFinish role sent framed =>
      rw [role, sent] at reached
      generalize same : Phase.sentClientInit secret clientInit clientFinish = phase at reached
      cases reached with
      | opened own _ opened =>
          let view : InitiatorView := ⟨own, message, framed⟩
          have answered := reply_exact runner view entropy role (sent.trans same)
          refine ⟨_, _, _, answered, progress_completed view.secrets _ ?_⟩
          rw [role]
          exact .initiator view _ (List.mem_append_left _ opened) (here _)
      | spent phase past =>
          subst same
          simp [Spent] at past
      | _ => simp [replied] at same
  | finish message secret clientInit serverInit commitment role sent framed committed =>
      rw [role, sent] at reached
      generalize same : Phase.sentServerInit secret clientInit serverInit commitment = phase
        at reached
      cases reached with
      | answered own other _ framedInit replied =>
          have matching : sha256 message = other.drop 33 := by
            injection same with _ _ _ commits
            exact committed.trans commits
          let view : ResponderView := ⟨own, other, message, framedInit, framed, matching⟩
          have answered := finish_exact runner view entropy role (sent.trans same)
          refine ⟨_, _, _, answered, progress_completed view.secrets _ ?_⟩
          rw [role]
          exact .responder view _ (List.mem_append_left _ replied) (here _)
      | spent phase past =>
          subst same
          simp [Spent] at past
      | _ => simp [opening] at same
  | verify secrets waiting =>
      refine ⟨_, _, _, verify_exact runner secrets entropy waiting, rfl, .spent _ (Or.inl rfl), ?_⟩
      rintro key ⟨⟩
      rw [waiting] at reached
      cases reached with
      | awaiting state _ agreed asked => exact ⟨.verified state secrets agreed asked, Or.inl rfl⟩
      | spent _ past => simp [Spent] at past
  | prove previous secrets role resuming =>
      have answered := prove_exact runner previous secrets entropy role resuming
      refine ⟨_, _, _, answered, rfl, reached.more _, ?_⟩
      intro key handed
      cases handed
  | resume message previous secrets resuming proven =>
      refine ⟨_, _, _, resume_exact runner message previous secrets entropy resuming proven, rfl,
        .spent _ (Or.inl rfl), ?_⟩
      rintro key ⟨⟩
      rw [resuming] at reached
      cases reached with
      | resuming _ agreed => exact ⟨.resumed secrets message previous agreed proven, Or.inl rfl⟩
      | spent _ past => simp [Spent] at past

-- What is condemned kills the runner.
theorem condemned_fails {runner after : Agreement} {request : Request} {entropy drawn : Entropy}
    {error : HandshakeError}
    (refused : Runner.answer runner request entropy = (.error error, after, drawn))
    (condemned : error.condemns = true) : after.phase = .failed := by
  cases request with
  | init =>
      simp only [Runner.answer, start] at refused
      split at refused
      · cases refused
      · cases refused
        cases condemned
  | respond message =>
      simp only [Runner.answer, respond] at refused
      split at refused
      · split at refused
        · cases refused
          rfl
        · cases refused
      · cases refused
        cases condemned
  | «continue» message =>
      simp only [Runner.answer, proceed, agreed_exact] at refused
      split at refused
      · split at refused
        · cases refused
          rfl
        · split at refused
          · cases refused
          · cases refused
            rfl
      · split at refused
        · cases refused
          rfl
        · cases refused
      · cases refused
        cases condemned
  | verify =>
      simp only [Runner.answer, verify] at refused
      split at refused
      · cases refused
      · cases refused
        cases condemned
  | prove previous =>
      simp only [Runner.answer, prove] at refused
      split at refused
      · cases refused
      · cases refused
        cases condemned
  | resume message previous =>
      rcases resume_cases runner message previous with granted | ⟨other, left⟩
      · cases granted with
        | resume _ _ secrets resuming proven =>
            rw [resume_exact runner message previous secrets entropy resuming proven] at refused
            cases refused
      · simp only [Runner.answer, left] at refused
        cases refused
        rfl

namespace Interview

/-- The runner stands where its log has brought it, and the log is in order. -/
structure Standing (role : Role) (interview : Interview) : Prop where
  sameRole : interview.runner.role = role
  reached : Reached role interview.log interview.runner.phase
  living : ¬Spent interview.runner.phase → ∀ entry ∈ interview.log, ¬Closing entry.2
  earned : ∀ earlier request report key later,
    interview.log = earlier ++ (request, .ok report) :: later →
      report.key = some key → Earned role earlier request key
  last : interview.log.Pairwise fun one other => Closing one.2 → ∃ error, other.2 = .error error

-- A split of a log with one more entry is at that entry, or one of the log.
theorem split_snoc {α : Type} {log earlier later : List α} {one last : α}
    (split : log ++ [last] = earlier ++ one :: later) :
    log = earlier ∧ last = one ∨ ∃ front, log = earlier ++ one :: front := by
  rcases List.eq_nil_or_concat later with rfl | ⟨front, final, rfl⟩
  · left
    have same := List.append_inj' split rfl
    simpa using same
  · right
    have same : log ++ [last] = (earlier ++ one :: front) ++ [final] := by simpa using split
    exact ⟨front, (List.append_inj' same rfl).1⟩

variable {role : Role}

/-- An answer that follows the log in order. -/
structure Follows (role : Role) (log : List (Request × Answer)) (request : Request)
    (answer : Answer) : Prop where
  entitled : ∀ report key, answer = .ok report → report.key = some key →
    Earned role log request key
  silent : ∀ entry ∈ log, Closing entry.2 → ∃ error, answer = .error error

theorem Standing.follow {interview : Interview} {request : Request} {answer : Answer}
    {after : Agreement} (standing : Standing role interview)
    (follows : Follows role interview.log request answer) (sameRole : after.role = role)
    (reached : Reached role (interview.log ++ [(request, answer)]) after.phase)
    (living : ¬Spent after.phase → ¬Spent interview.runner.phase ∧ ¬Closing answer) :
    Standing role ⟨after, interview.log ++ [(request, answer)]⟩ where
  sameRole := sameRole
  reached := reached
  living unspent entry member := by
    rcases List.mem_append.mp member with old | recent
    · exact standing.living (living unspent).1 entry old
    · rw [List.mem_singleton.mp recent]
      exact (living unspent).2
  earned earlier asked report key later split handed := by
    rcases split_snoc split with ⟨rfl, same⟩ | ⟨front, before⟩
    · cases same
      exact follows.entitled report key rfl handed
    · exact standing.earned earlier asked report key front before handed
  last := by
    rw [List.pairwise_append]
    refine ⟨standing.last, List.pairwise_singleton _ _, ?_⟩
    intro one member other recent closing
    rw [List.mem_singleton.mp recent]
    exact follows.silent one member closing

theorem standing_use {interview : Interview} (step : Use) (standing : Standing role interview) :
    Standing role (interview.use step) := by
  cases step with
  | reconnect on =>
      exact ⟨standing.sameRole, standing.reached, standing.living, standing.earned, standing.last⟩
  | request request entropy =>
      -- Once an answer has closed the log, the runner is spent and grants nothing.
      have closed (entry : Request × Answer) (member : entry ∈ interview.log)
          (closing : Closing entry.2) : Spent interview.runner.phase := by
        by_contra unspent
        exact standing.living unspent entry member closing
      rcases answer_cases interview.runner request entropy with
        granted | ⟨error, after, refused, left⟩
      · have reached := standing.sameRole ▸ standing.reached
        obtain ⟨report, after, drawn, answered, progress⟩ :=
          granted_progress interview.log entropy granted reached
        rw [standing.sameRole] at progress
        simp only [use, answered]
        refine standing.follow ⟨?_, ?_⟩ progress.sameRole progress.reached ?_
        · rintro given key ⟨⟩ handed
          exact (progress.earned key handed).1
        · intro entry member closing
          exact absurd granted (not_granted_spent (closed entry member closing))
        · intro unspent
          refine ⟨fun spent => not_granted_spent spent granted, ?_⟩
          intro closing
          cases closing with
          | hands _ key handed => exact unspent (progress.earned key handed).2
      · simp only [use, refused]
        have follows : Follows role interview.log request (.error error) :=
          ⟨nofun, fun _ _ _ => ⟨error, rfl⟩⟩
        rcases left with rfl | rfl
        · refine standing.follow follows standing.sameRole (standing.reached.more _) ?_
          intro unspent
          refine ⟨unspent, ?_⟩
          intro closing
          cases closing with
          | condemns _ condemned => exact unspent (Or.inr (condemned_fails refused condemned))
        · have dead : Spent Phase.failed := Or.inr rfl
          exact standing.follow follows standing.sameRole (.spent _ dead)
            fun unspent => absurd dead unspent

theorem standing_useAll (uses : List Use) {interview : Interview}
    (standing : Standing role interview) : Standing role (interview.useAll uses) := by
  induction uses generalizing interview with
  | nil => exact standing
  | cons step rest ih => exact ih (standing_use step standing)

-- Nothing is handed over after a key.
theorem handed_once {log : List (Request × Answer)}
    (last : log.Pairwise fun one other => Closing one.2 → ∃ error, other.2 = .error error) :
    (log.filterMap fun entry => handed? entry.2).length ≤ 1 := by
  induction log with
  | nil => simp
  | cons entry rest ih =>
      obtain ⟨first, others⟩ := List.pairwise_cons.mp last
      cases handed : handed? entry.2 with
      | none =>
          simp only [List.filterMap_cons, handed]
          exact ih others
      | some key =>
          have closing : Closing entry.2 := by
            obtain ⟨request, answer⟩ := entry
            cases answer with
            | ok report => exact .hands report key handed
            | error error => cases handed
          have nothing : rest.filterMap (fun entry => handed? entry.2) = [] := by
            rw [List.filterMap_eq_nil_iff]
            intro other member
            obtain ⟨error, refused⟩ := first other member closing
            rw [refused]
            rfl
          simp [handed, nothing]

end Interview

/-- Over every use of a runner, in either role and with any settings: it hands
over one key at most and only where it is due, and after that, or once it has
condemned a message, all of its answers are errors. -/
theorem one_key_then_errors (role : Role) (reconnecting outOfBand : Bool) (digits : Nat)
    (uses : List Use) :
    SingleUse role
      (Interview.useAll ⟨{ role, reconnecting, outOfBand, digits }, []⟩ uses).log := by
  have fresh : Interview.Standing role ⟨{ role, reconnecting, outOfBand, digits }, []⟩ := by
    have empty : ∀ entry ∈ ([] : List (Request × Answer)), ¬Closing entry.2 := by simp
    refine ⟨rfl, .idle, fun _ => empty, ?_, .nil⟩
    intro earlier request report key later split
    simp at split
  have standing := Interview.standing_useAll uses fresh
  refine ⟨Interview.handed_once standing.last, standing.earned, ?_⟩
  intro earlier request answer later split closing entry member
  have last := standing.last
  rw [split, List.pairwise_append, List.pairwise_cons] at last
  exact last.2.1.1 entry member closing

end Agreement

end CarPairing
