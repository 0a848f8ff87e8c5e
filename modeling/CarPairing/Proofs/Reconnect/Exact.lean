import CarPairing.Proofs.Handshake.Requests
import CarPairing.Proofs.Reconnect.Calls

/-!
A reconnection with the real key agreement, step by step: what each frame makes
of the channel if it is the right one, and that any other ends it and writes
nothing.
-/

namespace CarPairing.Reconnect

open Channel Agreement

variable {σ : Type}

/-- A reconnection that runs the real key agreement. -/
abbrev Car (σ : Type) := Channel Reconnect Agreement σ

section States

variable (car : Car σ)

def afterInit (previous : Key) (message : Bytes) : Car σ :=
  { car with
    flavor := { car.flavor with previous := some previous }
    runner := { car.runner with phase := replied car.entropy message }
    entropy := drawnFrom car.entropy
    state := .inProgress
    trace := .sent .handshake { encrypted := false, payload := serverInitOf car.entropy } ::
      .asked (.respond message)
        (.ok { state := .inProgress, next := some (serverInitOf car.entropy) }) ::
      .stored (.key car.flavor.deviceId) (.ok ()) :: car.trace }

def afterFinish (view : ResponderView) : Car σ :=
  { car with
    runner := { car.runner with phase := .resuming view.secrets }
    state := .resumingSession
    trace := .asked (.continue view.clientFinish) (.ok (car.runner.completion view.secrets none)) ::
      car.trace }

/-- The proof was right, so that there is a new key. -/
def afterProof (previous : Key) (secrets : Secrets) : Car σ :=
  renewed (resumedKey previous secrets.next) (resumeMac previous secrets.auth serverLabel)
    { holding none car with
      runner := { car.runner with phase := .finished }
      trace := .asked (.resume (resumeMac previous secrets.auth clientLabel) previous)
          (.ok (secrets.finish previous (some (resumeMac previous secrets.auth serverLabel)))) ::
        car.trace }

end States

variable (car : Car σ)

theorem processFinish_exact (view : ResponderView) (role : car.runner.role = .responder)
    (resumes : car.runner.reconnecting = true)
    (sent : car.runner.phase = replied view.entropy view.clientInit) :
    (processFinish view.clientFinish : Step Agreement σ Unit).run car =
      (.ok (), afterFinish car view) := by
  have answered := finish_exact car.runner view car.entropy role sent
  have told : (car.runner.completion view.secrets none).state = .resumingSession := by
    rw [completion, if_pos resumes]
  have phase : car.runner.completed view.secrets = .resuming view.secrets := by
    rw [completed, if_pos resumes]
  rw [processFinish, Step.run_bind_ok _ (run_demand_ok _ car answered), if_pos told, told, phase]
  rfl

variable [KeyStorage σ]

theorem processInit_exact (previous : Key) (message : Bytes)
    (known : KeyStorage.key? car.storage car.flavor.deviceId = some previous)
    (role : car.runner.role = .responder) (idle : car.runner.phase = .idle)
    (framed : Framed message clientInitSize) :
    (processInit message : Step Agreement σ Unit).run car =
      (.ok (), afterInit car previous message) := by
  have answered := respond_exact car.runner message car.entropy role idle framed
  rw [processInit_known message car previous known, replying,
    Step.run_bind_ok _ (run_demand_ok _ (holding (some previous) (looked car)) answered)]
  rfl

theorem processProof_exact (previous : Key) (secrets : Secrets)
    (held : car.flavor.previous = some previous) (role : car.runner.role = .responder)
    (resuming : car.runner.phase = .resuming secrets) {outcome : Except StoreError Unit}
    {storage : σ}
    (saved : KeyStorage.saveKey car.storage car.now car.flavor.deviceId
      (resumedKey previous secrets.next) = (outcome, storage)) :
    (processProof (resumeMac previous secrets.auth clientLabel) : Step Agreement σ Unit).run car =
      ending (written car.flavor.deviceId (resumedKey previous secrets.next) outcome storage
        (afterProof car previous secrets)) outcome := by
  have proven : resumeMac previous secrets.auth clientLabel =
      resumeMac previous secrets.auth (peerLabel car.runner.role) := by
    rw [role]
    rfl
  have owed : owedProof car.runner.role previous secrets =
      some (resumeMac previous secrets.auth serverLabel) := by
    rw [role]
    rfl
  have answered := resume_exact car.runner _ previous secrets car.entropy resuming proven
  rw [owed] at answered
  rw [processProof_held _ car previous held,
    resuming_answered _ _ previous (holding none car) answered rfl rfl rfl]
  exact run_renewing _ _ _ _ saved

section Frames

theorem request_exact (previous : Key) (payload : Bytes) (active : car.lifecycle = .active)
    (state : car.state = .unknown)
    (known : KeyStorage.key? car.storage car.flavor.deviceId = some previous)
    (role : car.runner.role = .responder) (idle : car.runner.phase = .idle)
    (framed : Framed payload clientInitSize) :
    car.handshake payload = afterInit (car.record (.frame payload)) previous payload := by
  have here : (car.record (.frame payload)).state = .unknown := state
  rw [handshake_active car payload active, settle_process]
  simp only [here]
  apply settle_ok
  exact processInit_exact (car.record (.frame payload)) previous payload known role idle framed

theorem finish_resumes (view : ResponderView) (active : car.lifecycle = .active)
    (state : car.state = .inProgress) (role : car.runner.role = .responder)
    (resumes : car.runner.reconnecting = true)
    (sent : car.runner.phase = replied view.entropy view.clientInit) :
    car.handshake view.clientFinish = afterFinish (car.record (.frame view.clientFinish)) view := by
  have here : (car.record (.frame view.clientFinish)).state = .inProgress := state
  rw [handshake_active car view.clientFinish active, settle_process]
  simp only [here]
  apply settle_ok
  exact processFinish_exact (car.record (.frame view.clientFinish)) view role resumes sent

/-- The channel that has written the new key, or tried to. -/
def afterWriting (previous : Key) (secrets : Secrets) (outcome : Except StoreError Unit)
    (storage : σ) : Car σ :=
  let proof := resumeMac previous secrets.auth clientLabel
  written car.flavor.deviceId (resumedKey previous secrets.next) outcome storage
    (afterProof (car.record (.frame proof)) previous secrets)

/-- And has come to its end by that. -/
def afterEnding (previous : Key) (secrets : Secrets) (outcome : Except StoreError Unit)
    (storage : σ) : Car σ :=
  match outcome with
  | .ok () => (afterWriting car previous secrets outcome storage).concluded
  | .error error => (afterWriting car previous secrets outcome storage).fail (.storage error)

theorem proof_exact (previous : Key) (secrets : Secrets) (active : car.lifecycle = .active)
    (state : car.state = .resumingSession) (held : car.flavor.previous = some previous)
    (role : car.runner.role = .responder) (resuming : car.runner.phase = .resuming secrets)
    {outcome : Except StoreError Unit} {storage : σ}
    (saved : KeyStorage.saveKey car.storage car.now car.flavor.deviceId
      (resumedKey previous secrets.next) = (outcome, storage)) :
    car.handshake (resumeMac previous secrets.auth clientLabel) =
      afterEnding car previous secrets outcome storage := by
  let framed := car.record (.frame (resumeMac previous secrets.auth clientLabel))
  have here : framed.state = .resumingSession := state
  have ran := processProof_exact framed previous secrets held role resuming saved
  simp only [framed] at here ran
  rw [handshake_active car _ active, settle_process]
  simp only [here]
  cases outcome with
  | ok => exact settle_ok ran
  | error error => exact settle_error ran

/-- The frame has ended the channel, and that is all that it has done. -/
structure Lost (payload : Bytes) (after : Car σ) : Prop where
  failed : after.lifecycle = .failed
  storage : after.storage = car.storage
  aside : Grown Event.Aside (car.record (.frame payload)) after

variable {car}

omit [KeyStorage σ] in
theorem lost_error {payload : Bytes} {after : Car σ} (error : ChannelError)
    (active : after.lifecycle = .active) (storage : after.storage = car.storage)
    (aside : Grown Event.Aside (car.record (.frame payload)) after) :
    Lost car payload (after.fail error) := by
  have failing : Grown Event.Aside after (after.fail error) :=
    fail_grown error after ⟨rfl, rfl⟩ ⟨rfl, rfl⟩
  obtain ⟨trace, same⟩ := fail_active error after active
  rw [same] at failing ⊢
  exact ⟨rfl, storage, aside.trans failing⟩

omit [KeyStorage σ] in
theorem lost_agreeing {payload : Bytes} {step : Step Agreement σ Unit}
    (active : car.lifecycle = .active) (fails : Fails step (car.record (.frame payload)))
    (aside : Grown Event.Aside (car.record (.frame payload))
      (step.run (car.record (.frame payload))).2)
    (agreeing : Agreeing (car.record (.frame payload))
      (step.run (car.record (.frame payload))).2) :
    Lost car payload ((car.record (.frame payload)).settle step) := by
  obtain ⟨error, after, ran⟩ := fails
  rw [ran] at aside agreeing
  obtain ⟨runner, entropy, state, previous, trace, same⟩ := agreeing
  rw [settle_error ran]
  apply lost_error error _ _ aside
  · rw [same]
    exact active
  · rw [same]
    rfl

theorem processInit_fails (car : Car σ) (payload : Bytes)
    (wrong : ∀ previous, KeyStorage.key? car.storage car.flavor.deviceId = some previous →
      ¬Framed payload clientInitSize) : Fails (processInit payload : Step Agreement σ Unit) car := by
  cases known : KeyStorage.key? car.storage car.flavor.deviceId with
  | none => exact ⟨_, _, processInit_unknown payload car known⟩
  | some previous =>
      rcases answer_cases car.runner (.respond payload) car.entropy with
        granted | ⟨error, runner, refused, -⟩
      · cases granted with
        | respond _ _ _ sized => exact absurd sized (wrong previous known)
      · rw [Fails, processInit_known payload car previous known]
        exact demand_fails _ _ (holding (some previous) (looked car)) refused

theorem request_lost (car : Car σ) (payload : Bytes) (active : car.lifecycle = .active)
    (state : car.state = .unknown)
    (wrong : ∀ previous, KeyStorage.key? car.storage car.flavor.deviceId = some previous →
      ¬Framed payload clientInitSize) : Lost car payload (car.handshake payload) := by
  let framed := car.record (.frame payload)
  have here : framed.state = .unknown := state
  have fails := processInit_fails framed payload wrong
  have lost := lost_agreeing active fails
    (processInit_emits payload (fun _ _ => ⟨rfl, rfl⟩) (fun _ => ⟨rfl, rfl⟩)
      (fun _ => ⟨rfl, rfl⟩) framed) (processInit_agreeing payload framed)
  simp only [framed] at here
  rw [handshake_active car payload active, settle_process]
  simp only [here]
  exact lost

theorem finish_lost (car : Car σ) (payload : Bytes) (entropy : Entropy) (clientInit : Bytes)
    (active : car.lifecycle = .active) (state : car.state = .inProgress)
    (sent : car.runner.phase = replied entropy clientInit)
    (wrong : Framed payload clientFinishSize → sha256 payload ≠ clientInit.drop 33) :
    Lost car payload (car.handshake payload) := by
  let framed := car.record (.frame payload)
  have here : framed.state = .inProgress := state
  have fails : Fails (processFinish payload : Step Agreement σ Unit) framed := by
    rcases answer_cases car.runner (.continue payload) car.entropy with
      granted | ⟨error, runner, refused, -⟩
    · obtain ⟨message, same, -, sized, committed⟩ := granted_of_replied granted sent
      cases same
      exact absurd committed (wrong sized)
    · exact demand_fails _ _ framed refused
  have lost := lost_agreeing active fails
    (processFinish_emits payload (fun _ _ => ⟨rfl, rfl⟩) framed)
    (processFinish_agreeing payload framed).1
  simp only [framed] at here
  rw [handshake_active car payload active, settle_process]
  simp only [here]
  exact lost

/-- The channel that has been told that the proof is wrong. -/
def disproved (car : Car σ) (payload : Bytes) (previous : Key) (error : HandshakeError)
    (runner : Agreement) : Car σ :=
  { holding none (car.record (.frame payload)) with
    runner
    trace := .asked (.resume payload previous) (.error error) :: .frame payload :: car.trace }

theorem proof_refused (car : Car σ) (payload : Bytes) (previous : Key) (secrets : Secrets)
    (active : car.lifecycle = .active) (state : car.state = .resumingSession)
    (held : car.flavor.previous = some previous) (role : car.runner.role = .responder)
    (resuming : car.runner.phase = .resuming secrets)
    (wrong : payload ≠ resumeMac previous secrets.auth clientLabel) :
    ∃ error runner, car.handshake payload =
      (disproved car payload previous error runner).fail (.invalidHandshake error) := by
  let framed := car.record (.frame payload)
  have here : framed.state = .resumingSession := state
  rcases answer_cases car.runner (.resume payload previous) car.entropy with
    granted | ⟨error, runner, refused, -⟩
  · rcases granted_of_resuming granted resuming with
      ⟨other, same, -⟩ | ⟨message, other, same, proven⟩
    · cases same
    · cases same
      rw [role] at proven
      exact absurd proven wrong
  · have ran : (processProof payload : Step Agreement σ Unit).run framed =
        (.error (.invalidHandshake error), disproved car payload previous error runner) := by
      rw [processProof_held payload framed previous held, Reconnect.resuming,
        Step.run_bind_error _ (run_demand_error _ (holding none framed) refused)]
      rfl
    refine ⟨error, runner, ?_⟩
    simp only [framed] at here ran
    rw [handshake_active car payload active, settle_process]
    simp only [here]
    exact settle_error ran

theorem proof_lost (car : Car σ) (payload : Bytes) (previous : Key) (secrets : Secrets)
    (active : car.lifecycle = .active) (state : car.state = .resumingSession)
    (held : car.flavor.previous = some previous) (role : car.runner.role = .responder)
    (resuming : car.runner.phase = .resuming secrets)
    (wrong : payload ≠ resumeMac previous secrets.auth clientLabel) :
    Lost car payload (car.handshake payload) := by
  obtain ⟨error, runner, refused⟩ :=
    proof_refused car payload previous secrets active state held role resuming wrong
  rw [refused]
  exact lost_error _ active rfl (.one rfl ⟨rfl, rfl⟩)

/-- How a conversation ends, by what became of the writing of the key. -/
def verdict : Except StoreError Unit → Lifecycle
  | .ok () => .established
  | .error _ => .failed

/-- The right proof has come, and the new key has been written or refused. -/
structure Ended (car : Car σ) (previous : Key) (secrets : Secrets)
    (outcome : Except StoreError Unit) (kept : σ) (after : Car σ) : Prop where
  lifecycle : after.lifecycle = verdict outcome
  storage : after.storage = kept
  aside : Grown Event.Aside (afterWriting car previous secrets outcome kept) after

theorem proof_ends (car : Car σ) (previous : Key) (secrets : Secrets)
    (active : car.lifecycle = .active) (state : car.state = .resumingSession)
    (held : car.flavor.previous = some previous) (role : car.runner.role = .responder)
    (resuming : car.runner.phase = .resuming secrets) {outcome : Except StoreError Unit} {kept : σ}
    (saved : KeyStorage.saveKey car.storage car.now car.flavor.deviceId
      (resumedKey previous secrets.next) = (outcome, kept)) :
    Ended car previous secrets outcome kept
      (car.handshake (resumeMac previous secrets.auth clientLabel)) := by
  have came := proof_exact car previous secrets active state held role resuming saved
  cases outcome with
  | ok =>
      obtain ⟨trace, same⟩ :=
        concluded_active (afterWriting car previous secrets (.ok ()) kept) active
      have aside : Grown Event.Aside (afterWriting car previous secrets (.ok ()) kept)
        (afterWriting car previous secrets (.ok ()) kept).concluded :=
          concluded_grown _ ⟨rfl, rfl⟩
      rw [came, afterEnding]
      rw [same] at aside ⊢
      exact ⟨rfl, rfl, aside⟩
  | error error =>
      obtain ⟨trace, same⟩ :=
        fail_active (.storage error) (afterWriting car previous secrets (.error error) kept) active
      have aside : Grown Event.Aside (afterWriting car previous secrets (.error error) kept)
        ((afterWriting car previous secrets (.error error) kept).fail (.storage error)) :=
          fail_grown _ _ ⟨rfl, rfl⟩ ⟨rfl, rfl⟩
      rw [came, afterEnding]
      rw [same] at aside ⊢
      exact ⟨rfl, rfl, aside⟩

-- The writing of the key is all that the last step writes.
omit [KeyStorage σ] in
theorem written_log {frames : List Bytes} {previous : Key} {secrets : Secrets}
    (log : Log car frames []) (outcome : Except StoreError Unit) (kept : σ) :
    Log (afterWriting car previous secrets outcome kept)
      (frames ++ [resumeMac previous secrets.auth clientLabel])
      [(.saveKey car.flavor.deviceId (resumedKey previous secrets.next), outcome)] := by
  have proof : Log (afterProof (car.record (.frame (resumeMac previous secrets.auth clientLabel)))
      previous secrets) (frames ++ [resumeMac previous secrets.auth clientLabel]) [] := by
    refine (log.frame _).aside ⟨[_, _], rfl, ?_⟩
    intro event member
    simp only [List.mem_cons, List.not_mem_nil, or_false] at member
    rcases member with rfl | rfl
    · exact ⟨rfl, rfl⟩
    · exact ⟨rfl, rfl⟩
  exact proof.write rfl rfl

end Frames

end CarPairing.Reconnect
