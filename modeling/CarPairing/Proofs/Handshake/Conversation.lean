import CarPairing.Proofs.Handshake.Requests

/-!
Two runners that need not hear each other. Each is driven on its own, by any
requests on any entropy, so that somebody in between may keep, change, reorder
and invent messages. What an end can conclude about the other it concludes from
the codes alone.
-/

namespace CarPairing.Agreement

/-- A runner with the messages of the agreement that it has sent and taken. -/
structure Dialogue where
  runner : Agreement
  sent : List Bytes := []
  heard : List Bytes := []

namespace Dialogue

/-- The message of the agreement that a request brings. -/
def brought : Request → List Bytes
  | .respond message => [message]
  | .continue message => [message]
  | _ => []

/-- The message of the agreement in an answer. A proof of an older key is none. -/
def given : Request → HandshakeMessage → List Bytes
  | .init, report => report.next.toList
  | .respond _, report => report.next.toList
  | .continue _, report => report.next.toList
  | _, _ => []

/-- A refused message has not been taken. -/
def step (dialogue : Dialogue) (call : Request × Entropy) : Dialogue :=
  match Runner.answer dialogue.runner call.1 call.2 with
  | (.error _, runner, _) => { dialogue with runner }
  | (.ok report, runner, _) =>
      { runner
        sent := dialogue.sent ++ given call.1 report
        heard := dialogue.heard ++ brought call.1 }

def run (dialogue : Dialogue) (calls : List (Request × Entropy)) : Dialogue :=
  calls.foldl step dialogue

end Dialogue

/-- The states of an initiator that draws from one of `stock`, with what it has
sent and heard. Once its secrets are used up, nothing is claimed. -/
inductive Initiating (fresh : Agreement) (stock : List Entropy) : Dialogue → Prop where
  | idle : Initiating fresh stock ⟨{ fresh with phase := .idle }, [], []⟩
  | waiting (entropy : Entropy) (drawn : entropy ∈ stock) :
      Initiating fresh stock
        ⟨{ fresh with phase := opening entropy }, [clientInitOf entropy], []⟩
  | complete (view : InitiatorView) (drawn : view.entropy ∈ stock) :
      Initiating fresh stock
        ⟨{ fresh with phase := fresh.completed view.secrets },
          [view.clientInit, view.clientFinish], [view.serverInit]⟩
  | ended (dialogue : Dialogue) (spent : dialogue.runner.phase = .finished ∨
      dialogue.runner.phase = .failed) : Initiating fresh stock dialogue

/-- The same for a responder. -/
inductive Responding (fresh : Agreement) (stock : List Entropy) : Dialogue → Prop where
  | idle : Responding fresh stock ⟨{ fresh with phase := .idle }, [], []⟩
  | waiting (entropy : Entropy) (clientInit : Bytes) (drawn : entropy ∈ stock)
      (framed : Framed clientInit clientInitSize) :
      Responding fresh stock
        ⟨{ fresh with phase := replied entropy clientInit },
          [serverInitOf entropy], [clientInit]⟩
  | complete (view : ResponderView) (drawn : view.entropy ∈ stock) :
      Responding fresh stock
        ⟨{ fresh with phase := fresh.completed view.secrets },
          [view.serverInit], [view.clientInit, view.clientFinish]⟩
  | ended (dialogue : Dialogue) (spent : dialogue.runner.phase = .finished ∨
      dialogue.runner.phase = .failed) : Responding fresh stock dialogue

namespace Dialogue

theorem step_refused (dialogue : Dialogue) (call : Request × Entropy) (error : HandshakeError)
    (after : Agreement) (entropy : Entropy)
    (refused : Runner.answer dialogue.runner call.1 call.2 = (.error error, after, entropy)) :
    dialogue.step call = { dialogue with runner := after } := by
  simp only [step, refused]

theorem step_answered (dialogue : Dialogue) (call : Request × Entropy) (report : HandshakeMessage)
    (after : Agreement) (entropy : Entropy)
    (answered : Runner.answer dialogue.runner call.1 call.2 = (.ok report, after, entropy)) :
    dialogue.step call =
      { runner := after
        sent := dialogue.sent ++ given call.1 report
        heard := dialogue.heard ++ brought call.1 } := by
  simp only [step, answered]

end Dialogue

theorem completed_cases (runner : Agreement) (secrets : Secrets) :
    runner.completed secrets = .resuming secrets ∧ runner.reconnecting = true ∨
      runner.completed secrets = .awaitingVerification secrets ∧ runner.reconnecting = false := by
  unfold completed
  cases runner.reconnecting
  · exact Or.inr ⟨rfl, rfl⟩
  · exact Or.inl ⟨rfl, rfl⟩

-- What is refused ends the agreement or changes nothing.
theorem initiating_refused (fresh : Agreement) (stock : List Entropy) (dialogue : Dialogue)
    (after : Agreement) (initiating : Initiating fresh stock dialogue)
    (left : Refused dialogue.runner after) :
    Initiating fresh stock { dialogue with runner := after } := by
  rcases left with rfl | rfl
  · exact initiating
  · exact .ended _ (Or.inr rfl)

theorem responding_refused (fresh : Agreement) (stock : List Entropy) (dialogue : Dialogue)
    (after : Agreement) (responding : Responding fresh stock dialogue)
    (left : Refused dialogue.runner after) :
    Responding fresh stock { dialogue with runner := after } := by
  rcases left with rfl | rfl
  · exact responding
  · exact .ended _ (Or.inr rfl)

-- To hand out the key and to resume end the agreement, to prove an older key
-- does not.
theorem complete_step (runner : Agreement) (secrets : Secrets) (sent heard : List Bytes)
    (call : Request × Entropy) (complete : runner.phase = runner.completed secrets)
    (granted : Granted runner call.1) :
    Dialogue.step ⟨runner, sent, heard⟩ call = ⟨runner, sent, heard⟩ ∨
      (Dialogue.step ⟨runner, sent, heard⟩ call).runner.phase = .finished := by
  obtain ⟨request, entropy⟩ := call
  rcases completed_cases runner secrets with ⟨resumes, -⟩ | ⟨waits, -⟩
  · have resuming := complete.trans resumes
    rcases granted_of_resuming granted resuming with
      ⟨previous, rfl, role⟩ | ⟨message, previous, rfl, proven⟩
    · left
      simp [Dialogue.step, prove_exact runner previous secrets entropy role resuming,
        Dialogue.given, Dialogue.brought]
    · right
      simp only [Dialogue.step,
        resume_exact runner message previous secrets entropy resuming proven]
  · have waiting := complete.trans waits
    obtain rfl := granted_of_awaitingVerification granted waiting
    right
    simp only [Dialogue.step, verify_exact runner secrets entropy waiting]

theorem initiating_step (fresh : Agreement) (role : fresh.role = .initiator)
    (stock : List Entropy) (dialogue : Dialogue) (call : Request × Entropy)
    (drawn : call.2 ∈ stock) (initiating : Initiating fresh stock dialogue) :
    Initiating fresh stock (dialogue.step call) := by
  obtain ⟨request, entropy⟩ := call
  rcases answer_cases dialogue.runner request entropy with granted | ⟨error, after, refused, left⟩
  · cases initiating with
    | idle =>
        rcases granted_of_idle granted rfl with ⟨rfl, -⟩ | ⟨message, -, other, -⟩
        · rw [Dialogue.step_answered _ (.init, entropy) _ _ _
            (start_exact { fresh with phase := .idle } entropy role rfl)]
          exact .waiting entropy drawn
        · simp [role] at other
    | waiting own held =>
        obtain ⟨message, rfl, other, framed⟩ := granted_of_opening granted rfl
        let view : InitiatorView := ⟨own, message, framed⟩
        rw [Dialogue.step_answered _ (.continue message, entropy) _ _ _
          (reply_exact _ view entropy other rfl), Dialogue.given, completion_next]
        exact .complete view held
    | complete view held =>
        rcases complete_step _ view.secrets _ _ (request, entropy) rfl granted with
          same | finished
        · rw [same]
          exact .complete view held
        · exact .ended _ (Or.inl finished)
    | ended dialogue spent => exact absurd granted (not_granted_spent spent)
  · rw [Dialogue.step_refused dialogue (request, entropy) error after _ refused]
    exact initiating_refused fresh stock dialogue after initiating left

theorem responding_step (fresh : Agreement) (role : fresh.role = .responder)
    (stock : List Entropy) (dialogue : Dialogue) (call : Request × Entropy)
    (drawn : call.2 ∈ stock) (responding : Responding fresh stock dialogue) :
    Responding fresh stock (dialogue.step call) := by
  obtain ⟨request, entropy⟩ := call
  rcases answer_cases dialogue.runner request entropy with granted | ⟨error, after, refused, left⟩
  · cases responding with
    | idle =>
        rcases granted_of_idle granted rfl with ⟨-, other⟩ | ⟨message, rfl, -, framed⟩
        · simp [role] at other
        · rw [Dialogue.step_answered _ (.respond message, entropy) _ _ _
            (respond_exact { fresh with phase := .idle } message entropy role rfl framed)]
          exact .waiting entropy message drawn framed
    | waiting own clientInit held framedInit =>
        obtain ⟨message, rfl, other, framed, committed⟩ := granted_of_replied granted rfl
        let view : ResponderView := ⟨own, clientInit, message, framedInit, framed, committed⟩
        rw [Dialogue.step_answered _ (.continue message, entropy) _ _ _
          (finish_exact _ view entropy other rfl), Dialogue.given, completion_next]
        exact .complete view held
    | complete view held =>
        rcases complete_step _ view.secrets _ _ (request, entropy) rfl granted with
          same | finished
        · rw [same]
          exact .complete view held
        · exact .ended _ (Or.inl finished)
    | ended dialogue spent => exact absurd granted (not_granted_spent spent)
  · rw [Dialogue.step_refused dialogue (request, entropy) error after _ refused]
    exact responding_refused fresh stock dialogue after responding left

theorem initiating_run (fresh : Agreement) (role : fresh.role = .initiator)
    (stock : List Entropy) (dialogue : Dialogue) (calls : List (Request × Entropy))
    (drawn : ∀ call ∈ calls, call.2 ∈ stock) (initiating : Initiating fresh stock dialogue) :
    Initiating fresh stock (dialogue.run calls) := by
  induction calls generalizing dialogue with
  | nil => exact initiating
  | cons call rest ih =>
      have first := initiating_step fresh role stock dialogue call
        (drawn call List.mem_cons_self) initiating
      exact ih _ (fun later member => drawn later (List.mem_cons_of_mem _ member)) first

theorem responding_run (fresh : Agreement) (role : fresh.role = .responder)
    (stock : List Entropy) (dialogue : Dialogue) (calls : List (Request × Entropy))
    (drawn : ∀ call ∈ calls, call.2 ∈ stock) (responding : Responding fresh stock dialogue) :
    Responding fresh stock (dialogue.run calls) := by
  induction calls generalizing dialogue with
  | nil => exact responding
  | cons call rest ih =>
      have first := responding_step fresh role stock dialogue call
        (drawn call List.mem_cons_self) responding
      exact ih _ (fun later member => drawn later (List.mem_cons_of_mem _ member)) first

end CarPairing.Agreement
