import CarPairing.Proofs.Handshake.Conversation

/-!
Equal codes stand for one conversation. The first message commits to the third
and both are bound into the auth string with the second, so two ends that were
told different things and still show one code have found a collision of one of
the two hashes, and the runs themselves exhibit it.
-/

namespace CarPairing.Agreement

/-- One auth string from two different inputs. -/
structure KeyCollision (mine : InitiatorView) (theirs : ResponderView) : Prop where
  distinct : ¬(mine.shared = theirs.shared ∧
    mine.clientInit ++ mine.serverInit = theirs.clientInit ++ theirs.serverInit)
  same : hkdf authSalt mine.shared (mine.clientInit ++ mine.serverInit) =
    hkdf authSalt theirs.shared (theirs.clientInit ++ theirs.serverInit)

/-- One commitment to two different keys. -/
structure CommitmentCollision (mine : InitiatorView) (theirs : ResponderView) : Prop where
  distinct : theirs.clientFinish ≠ mine.clientFinish
  same : sha256 theirs.clientFinish = sha256 mine.clientFinish

-- The first two messages have fixed lengths, so their concatenation is read
-- in one way only.
theorem transcript_split (mine : InitiatorView) (theirs : ResponderView)
    (same : mine.clientInit ++ mine.serverInit = theirs.clientInit ++ theirs.serverInit) :
    mine.clientInit = theirs.clientInit ∧ mine.serverInit = theirs.serverInit := by
  have sized : mine.clientInit.length = theirs.clientInit.length :=
    (framed_clientInit mine.entropy).1.trans theirs.framedInit.1.symm
  exact List.append_inj same sized

theorem matching_or_collision (mine : InitiatorView) (theirs : ResponderView)
    (same : mine.secrets.auth = theirs.secrets.auth) :
    Matching mine theirs ∨ KeyCollision mine theirs ∨ CommitmentCollision mine theirs := by
  have derived := congrArg Key.bytes same
  by_cases inputs : mine.shared = theirs.shared ∧
      mine.clientInit ++ mine.serverInit = theirs.clientInit ++ theirs.serverInit
  · obtain ⟨clientInit, serverInit⟩ := transcript_split mine theirs inputs.2
    have commitment : sha256 theirs.clientFinish = sha256 mine.clientFinish := by
      rw [theirs.committed, ← clientInit]
      exact commitment_of_clientInit mine.entropy
    by_cases finish : theirs.clientFinish = mine.clientFinish
    · exact Or.inl ⟨clientInit.symm, serverInit, finish⟩
    · exact Or.inr (Or.inr ⟨finish, commitment⟩)
  · exact Or.inr (Or.inl ⟨inputs, derived⟩)

/-- The view that a complete dialogue leaves, drawn from one of `stock`. -/
structure InitiatorView.Of (view : InitiatorView) (dialogue : Dialogue) (stock : List Entropy) :
    Prop where
  drawn : view.entropy ∈ stock
  sent : dialogue.sent = [view.clientInit, view.clientFinish]
  heard : dialogue.heard = [view.serverInit]
  secrets : dialogue.runner.secrets? = some view.secrets

structure ResponderView.Of (view : ResponderView) (dialogue : Dialogue) (stock : List Entropy) :
    Prop where
  drawn : view.entropy ∈ stock
  sent : dialogue.sent = [view.serverInit]
  heard : dialogue.heard = [view.clientInit, view.clientFinish]
  secrets : dialogue.runner.secrets? = some view.secrets

theorem secrets_completed (runner : Agreement) (secrets : Secrets) :
    secrets? { runner with phase := runner.completed secrets } = some secrets := by
  rcases completed_cases runner secrets with ⟨resumes, -⟩ | ⟨waits, -⟩
  · simp only [secrets?, resumes]
  · simp only [secrets?, waits]

theorem secrets_spent (runner : Agreement) (spent : runner.phase = .finished ∨
    runner.phase = .failed) : runner.secrets? = none := by
  rcases spent with finished | failed
  · simp only [secrets?, finished]
  · simp only [secrets?, failed]

theorem initiating_complete (fresh : Agreement) (stock : List Entropy) (dialogue : Dialogue)
    (initiating : Initiating fresh stock dialogue) (secrets : Secrets)
    (complete : dialogue.runner.secrets? = some secrets) :
    ∃ view : InitiatorView, view.Of dialogue stock ∧ secrets = view.secrets ∧
      dialogue.runner = { fresh with phase := fresh.completed view.secrets } := by
  cases initiating with
  | idle => simp [secrets?] at complete
  | waiting entropy _ => simp [secrets?, opening] at complete
  | complete view drawn =>
      have held := secrets_completed fresh view.secrets
      exact ⟨view, ⟨drawn, rfl, rfl, held⟩, Option.some.inj (complete.symm.trans held), rfl⟩
  | ended _ spent =>
      rw [secrets_spent _ spent] at complete
      simp at complete

theorem responding_complete (fresh : Agreement) (stock : List Entropy) (dialogue : Dialogue)
    (responding : Responding fresh stock dialogue) (secrets : Secrets)
    (complete : dialogue.runner.secrets? = some secrets) :
    ∃ view : ResponderView, view.Of dialogue stock ∧ secrets = view.secrets ∧
      dialogue.runner = { fresh with phase := fresh.completed view.secrets } := by
  cases responding with
  | idle => simp [secrets?] at complete
  | waiting entropy clientInit _ _ => simp [secrets?, replied] at complete
  | complete view drawn =>
      have held := secrets_completed fresh view.secrets
      exact ⟨view, ⟨drawn, rfl, rfl, held⟩, Option.some.inj (complete.symm.trans held), rfl⟩
  | ended _ spent =>
      rw [secrets_spent _ spent] at complete
      simp at complete

theorem verify_completed (fresh : Agreement) (secrets : Secrets) (entropy : Entropy)
    (verifies : fresh.reconnecting = false) :
    (Runner.answer { fresh with phase := fresh.completed secrets } .verify entropy).1 =
      .ok { state := .finished, key := some secrets.next } := by
  have waiting : fresh.completed secrets = .awaitingVerification secrets := by
    simp [completed, verifies]
  rw [verify_exact _ secrets entropy waiting]

/-- Every message was taken as it was sent, and where the code is verified both
ends get one key. -/
structure SameConversation (initiator responder : Agreement) (mine theirs : Dialogue)
    (secrets secrets' : Secrets) : Prop where
  received : theirs.heard = mine.sent
  answered : mine.heard = theirs.sent
  next : secrets.next = secrets'.next
  verified : initiator.reconnecting = false → responder.reconnecting = false →
    ∀ entropy entropy', ∃ key,
      (Runner.answer mine.runner .verify entropy).1 = .ok { state := .finished, key := some key } ∧
      (Runner.answer theirs.runner .verify entropy').1 = .ok { state := .finished, key := some key }

def InitiatorView.calls (view : InitiatorView) : List (Request × Entropy) :=
  [(.init, view.entropy), (.continue view.serverInit, drawnFrom view.entropy)]

def ResponderView.calls (view : ResponderView) : List (Request × Entropy) :=
  [(.respond view.clientInit, view.entropy), (.continue view.clientFinish, drawnFrom view.entropy)]

theorem InitiatorView.run_calls (view : InitiatorView) (fresh : Agreement)
    (initiates : fresh.role = .initiator ∧ fresh.phase = .idle) :
    Dialogue.run ⟨fresh, [], []⟩ view.calls =
      ⟨{ fresh with phase := fresh.completed view.secrets },
        [view.clientInit, view.clientFinish], [view.serverInit]⟩ := by
  have started := start_exact fresh view.entropy initiates.1 initiates.2
  have answered := reply_exact { fresh with phase := opening view.entropy } view
    (drawnFrom view.entropy) initiates.1 rfl
  rw [calls, Dialogue.run, List.foldl_cons, List.foldl_cons, List.foldl_nil,
    Dialogue.step_answered _ (.init, view.entropy) _ _ _ started,
    Dialogue.step_answered _ (.continue view.serverInit, drawnFrom view.entropy) _ _ _ answered]
  simp only [Dialogue.given, completion_next]
  rfl

theorem ResponderView.run_calls (view : ResponderView) (fresh : Agreement)
    (responds : fresh.role = .responder ∧ fresh.phase = .idle) :
    Dialogue.run ⟨fresh, [], []⟩ view.calls =
      ⟨{ fresh with phase := fresh.completed view.secrets },
        [view.serverInit], [view.clientInit, view.clientFinish]⟩ := by
  have replies := respond_exact fresh view.clientInit view.entropy responds.1 responds.2
    view.framedInit
  have answered := finish_exact { fresh with phase := replied view.entropy view.clientInit } view
    (drawnFrom view.entropy) responds.1 rfl
  rw [calls, Dialogue.run, List.foldl_cons, List.foldl_cons, List.foldl_nil,
    Dialogue.step_answered _ (.respond view.clientInit, view.entropy) _ _ _ replies,
    Dialogue.step_answered _ (.continue view.clientFinish, drawnFrom view.entropy) _ _ _ answered]
  simp only [Dialogue.given, completion_next]
  rfl

/-- Two ends whose auth strings are equal have had one conversation and hold
one next secret, unless their runs exhibit a collision. -/
theorem equal_auth_same_conversation (initiator responder : Agreement)
    (initiates : initiator.role = .initiator ∧ initiator.phase = .idle)
    (responds : responder.role = .responder ∧ responder.phase = .idle)
    (calls calls' : List (Request × Entropy)) (mine theirs : Dialogue)
    (ran : mine = Dialogue.run ⟨initiator, [], []⟩ calls)
    (ran' : theirs = Dialogue.run ⟨responder, [], []⟩ calls')
    (secrets secrets' : Secrets) (complete : mine.runner.secrets? = some secrets)
    (complete' : theirs.runner.secrets? = some secrets') (equal : secrets.auth = secrets'.auth) :
    ∃ (own : InitiatorView) (peer : ResponderView), own.Of mine (calls.map Prod.snd) ∧
      peer.Of theirs (calls'.map Prod.snd) ∧
      (SameConversation initiator responder mine theirs secrets secrets' ∨
        KeyCollision own peer ∨ CommitmentCollision own peer) := by
  have drawn (calls : List (Request × Entropy)) :
      ∀ call ∈ calls, call.2 ∈ calls.map Prod.snd :=
    fun call member => List.mem_map_of_mem member
  have starts : Initiating initiator (calls.map Prod.snd) ⟨initiator, [], []⟩ := by
    have fresh : initiator = { initiator with phase := .idle } := by rw [← initiates.2]
    rw [fresh]
    exact .idle
  have starts' : Responding responder (calls'.map Prod.snd) ⟨responder, [], []⟩ := by
    have fresh : responder = { responder with phase := .idle } := by rw [← responds.2]
    rw [fresh]
    exact .idle
  have initiating := initiating_run initiator initiates.1 _ _ calls (drawn calls) starts
  have responding := responding_run responder responds.1 _ _ calls' (drawn calls') starts'
  rw [← ran] at initiating
  rw [← ran'] at responding
  obtain ⟨own, ownOf, rfl, reached⟩ := initiating_complete _ _ _ initiating secrets complete
  obtain ⟨peer, peerOf, rfl, reached'⟩ := responding_complete _ _ _ responding secrets' complete'
  refine ⟨own, peer, ownOf, peerOf, ?_⟩
  rcases matching_or_collision own peer equal with matching | collision
  · left
    have same := matching.secrets_eq
    constructor
    · rw [peerOf.heard, ownOf.sent, matching.clientInit, matching.clientFinish]
    · rw [ownOf.heard, peerOf.sent, matching.serverInit]
    · rw [same]
    · intro verifies verifies' entropy entropy'
      refine ⟨own.secrets.next, ?_, ?_⟩
      · rw [reached]
        exact verify_completed initiator own.secrets entropy verifies
      · rw [reached', same]
        exact verify_completed responder peer.secrets entropy' verifies'
  · exact Or.inr collision

theorem equal_auth_same_conversation_honest :
    let own : Entropy := { byteAt := fun _ => 1 }
    let peer : Entropy := { byteAt := fun _ => 2 }
    let mine := Dialogue.run ⟨{ role := .initiator }, [], []⟩ (honestInitiator own peer).calls
    let theirs := Dialogue.run ⟨{ role := .responder }, [], []⟩ (honestResponder peer own).calls
    ∃ (view : InitiatorView) (view' : ResponderView),
      view.Of mine ((honestInitiator own peer).calls.map Prod.snd) ∧
      view'.Of theirs ((honestResponder peer own).calls.map Prod.snd) ∧
      (SameConversation { role := .initiator } { role := .responder } mine theirs
          (honestInitiator own peer).secrets (honestResponder peer own).secrets ∨
        KeyCollision view view' ∨ CommitmentCollision view view') := by
  intro own peer mine theirs
  have complete : mine.runner.secrets? = some (honestInitiator own peer).secrets := by
    have ran := (honestInitiator own peer).run_calls { role := .initiator } ⟨rfl, rfl⟩
    simp only [mine, ran]
    exact secrets_completed { role := .initiator } (honestInitiator own peer).secrets
  have complete' : theirs.runner.secrets? = some (honestResponder peer own).secrets := by
    have ran := (honestResponder peer own).run_calls { role := .responder } ⟨rfl, rfl⟩
    simp only [theirs, ran]
    exact secrets_completed { role := .responder } (honestResponder peer own).secrets
  exact equal_auth_same_conversation { role := .initiator } { role := .responder } ⟨rfl, rfl⟩
    ⟨rfl, rfl⟩ (honestInitiator own peer).calls (honestResponder peer own).calls mine theirs rfl rfl
    _ _ complete complete' (congrArg Secrets.auth (honest_matching own peer).secrets_eq)

end CarPairing.Agreement
