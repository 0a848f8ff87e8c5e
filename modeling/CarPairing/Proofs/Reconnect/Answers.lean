import CarPairing.Channel.Reconnect
import CarPairing.Proofs.Channel.Turns

/-!
A reconnection with a runner that may answer anything. The first two steps only
agree on a key; the last takes the stored one, and either fails or has written
the new one in its place.
-/

namespace CarPairing.Reconnect

open Channel

variable {ρ σ : Type}

section Emits

variable [Runner ρ] {kind : Event → Prop}

theorem processInit_emits [KeyStorage σ] (message : Bytes)
    (asked : ∀ request answer, kind (.asked request answer))
    (looked : ∀ id, kind (.stored (.key id) (.ok ())))
    (sent : ∀ message, kind (.sent .handshake message)) :
    Emits kind (processInit message : Step ρ σ Unit) := by
  apply emits_bind emits_get
  intro channel
  apply emits_bind (fun _ => .one rfl (looked _) : Emits kind (storedKey? _))
  intro held
  split
  · exact emits_throw _
  · refine emits_bind (emits_modify _ fun _ => .same rfl) fun _ => ?_
    apply emits_bind (emits_demand _ (asked _))
    intro response
    split
    · exact emits_throw _
    · exact emits_bind (emits_setState _) fun _ => emits_sendHandshake _ _ sent

theorem processFinish_emits (message : Bytes)
    (asked : ∀ request answer, kind (.asked request answer)) :
    Emits kind (processFinish message : Step ρ σ Unit) := by
  apply emits_bind (emits_demand _ (asked _))
  intro response
  split
  · exact emits_setState _
  · exact emits_throw _

end Emits

def looked (channel : Channel Reconnect ρ σ) : Channel Reconnect ρ σ :=
  channel.record (.stored (.key channel.flavor.deviceId) (.ok ()))

def holding (previous : Option Key) (channel : Channel Reconnect ρ σ) : Channel Reconnect ρ σ :=
  { channel with flavor := { channel.flavor with previous } }

/-- What is left of the first step once there is a key. -/
def replying [Runner ρ] (message : Bytes) : Step ρ σ Unit := do
  let response ← demand (.respond message)
  match response.next with
  | none => throw (.invalidState "runner produced no reply to the init request")
  | some reply =>
      setState response.state
      sendHandshake reply false

/-- What is left of the last step once the runner has made a key. -/
def renewing [KeyStorage σ] (id : String) (key : Key) (proof : Bytes) : Step ρ σ Unit := do
  sendHandshake proof false
  setState .finished
  installKey key
  accepted (← saveKey id key)
  notifyEstablished

/-- The channel that has a new key, before it is written. -/
def renewed (key : Key) (proof : Bytes) (channel : Channel Reconnect ρ σ) :
    Channel Reconnect ρ σ :=
  { channel with
    state := .finished
    session := some (Session.ofKey key channel.entropy).1
    entropy := (Session.ofKey key channel.entropy).2
    trace := .sent .handshake { encrypted := false, payload := proof } :: channel.trace }

/-- And after. -/
def written (id : String) (key : Key) (outcome : Except StoreError Unit) (storage : σ)
    (channel : Channel Reconnect ρ σ) : Channel Reconnect ρ σ :=
  { channel with storage, trace := .stored (.saveKey id key) outcome :: channel.trace }

/-- How the last step ends, by what became of the writing of the key. -/
def ending (channel : Channel Reconnect ρ σ) :
    Except StoreError Unit → Except ChannelError Unit × Channel Reconnect ρ σ
  | .ok () => (.ok (), channel.concluded)
  | .error error => (.error (.storage error), channel)

theorem run_renewing [KeyStorage σ] (id : String) (key : Key) (proof : Bytes)
    (channel : Channel Reconnect ρ σ) {outcome : Except StoreError Unit} {storage : σ}
    (saved : KeyStorage.saveKey channel.storage channel.now id key = (outcome, storage)) :
    (renewing id key proof : Step ρ σ Unit).run channel =
      ending (written id key outcome storage (renewed key proof channel)) outcome := by
  have kept : KeyStorage.saveKey (renewed key proof channel).storage
      (renewed key proof channel).now id key = (outcome, storage) := saved
  change ((do
    accepted (← saveKey id key)
    notifyEstablished) : Step ρ σ Unit).run (renewed key proof channel) = _
  rw [Step.run_bind_ok _ (run_saveKey _ kept)]
  cases outcome with
  | ok => rfl
  | error error => rfl

/-- The last step up to its conclusion: the key held is gone. -/
structure Resumed (channel after : Channel Reconnect ρ σ) : Prop where
  frame : ∃ runner storage entropy session state trace, after = { channel with
    runner, storage, entropy, session, state, trace
    flavor := { channel.flavor with previous := none } }
  silent : Grown Event.Silent channel after
  climbs : channel.state.rank ≤ after.state.rank

/-- The ways of the last frame: it fails somewhere, or all is well. -/
inductive ProofRun (channel : Channel Reconnect ρ σ) :
    Except ChannelError Unit × Channel Reconnect ρ σ → Prop where
  | refused (error : ChannelError) (after : Channel Reconnect ρ σ)
      (resumed : Resumed channel after) : ProofRun channel (.error error, after)
  | concludes (after : Channel Reconnect ρ σ) (resumed : Resumed channel after) :
      ProofRun channel (.ok (), after.concluded)

theorem Resumed.idle {channel : Channel Reconnect ρ σ} (unheld : channel.flavor.previous = none) :
    Resumed channel channel := by
  have same : { channel.flavor with previous := none } = channel.flavor := by
    rw [← unheld]
  refine ⟨⟨channel.runner, channel.storage, channel.entropy, channel.session, channel.state,
    channel.trace, ?_⟩, .refl _ channel, Nat.le_refl _⟩
  rw [same]

theorem Resumed.renewed {channel after : Channel Reconnect ρ σ} (resumed : Resumed channel after)
    (id : String) (key : Key) (proof : Bytes) (outcome : Except StoreError Unit) (storage : σ) :
    Resumed channel (written id key outcome storage (renewed key proof after)) := by
  obtain ⟨runner, storage', entropy, session, state, trace, rfl⟩ := resumed.frame
  refine ⟨⟨runner, storage, _, _, .finished, _, rfl⟩, resumed.silent.trans ⟨[_, _], rfl, ?_⟩, ?_⟩
  · intro event member
    simp only [List.mem_cons, List.not_mem_nil, or_false] at member
    rcases member with rfl | rfl
    · exact ⟨rfl, rfl, rfl⟩
    · exact ⟨rfl, rfl, rfl⟩
  · change channel.state.rank ≤ HandshakeState.finished.rank
    cases channel.state <;> decide

theorem renewing_cases [KeyStorage σ] {channel asked : Channel Reconnect ρ σ}
    (resumed : Resumed channel asked) (id : String) (key : Key) (proof : Bytes) :
    ProofRun channel ((renewing id key proof : Step ρ σ Unit).run asked) := by
  cases saved : KeyStorage.saveKey asked.storage asked.now id key with
  | mk outcome storage =>
  have renewed := resumed.renewed id key proof outcome storage
  rw [run_renewing id key proof asked saved]
  cases outcome with
  | ok => exact .concludes _ renewed
  | error error => exact .refused _ _ renewed

variable [Runner ρ]

theorem processInit_unknown [KeyStorage σ] (message : Bytes) (channel : Channel Reconnect ρ σ)
    (unknown : KeyStorage.key? channel.storage channel.flavor.deviceId = none) :
    (processInit message : Step ρ σ Unit).run channel =
      (.error (.invalidEncryptionKey s!"no stored key for device {channel.flavor.deviceId}"),
        looked channel) := by
  rw [processInit, Step.run_bind, Step.run_get]
  dsimp only
  rw [Step.run_bind_ok _ (run_storedKey _ _), unknown]
  rfl

theorem processInit_known [KeyStorage σ] (message : Bytes) (channel : Channel Reconnect ρ σ)
    (previous : Key)
    (known : KeyStorage.key? channel.storage channel.flavor.deviceId = some previous) :
    (processInit message : Step ρ σ Unit).run channel =
      (replying message).run (holding (some previous) (looked channel)) := by
  rw [processInit, Step.run_bind, Step.run_get]
  dsimp only
  rw [Step.run_bind_ok _ (run_storedKey _ _), known]
  rfl

/-- The steps before the last touch neither the storage nor the session. -/
def Agreeing (channel after : Channel Reconnect ρ σ) : Prop :=
  ∃ runner entropy state previous trace, after = { channel with
    runner, entropy, state, trace, flavor := { channel.flavor with previous } }

theorem replying_agreeing (message : Bytes) (channel : Channel Reconnect ρ σ) :
    Agreeing channel ((replying message : Step ρ σ Unit).run channel).2 := by
  cases answered : Runner.answer channel.runner (.respond message) channel.entropy with
  | mk report rest =>
  obtain ⟨runner, entropy⟩ := rest
  cases report with
  | error error =>
      rw [replying, Step.run_bind_error _ (run_demand_error _ channel answered)]
      exact ⟨_, _, _, channel.flavor.previous, _, rfl⟩
  | ok response =>
      rw [replying, Step.run_bind_ok _ (run_demand_ok _ channel answered)]
      cases response.next with
      | none => exact ⟨_, _, _, channel.flavor.previous, _, rfl⟩
      | some reply => exact ⟨_, _, _, channel.flavor.previous, _, rfl⟩

theorem processInit_agreeing [KeyStorage σ] (message : Bytes) (channel : Channel Reconnect ρ σ) :
    Agreeing channel ((processInit message : Step ρ σ Unit).run channel).2 := by
  cases known : KeyStorage.key? channel.storage channel.flavor.deviceId with
  | none =>
      rw [processInit_unknown message channel known]
      exact ⟨_, _, _, channel.flavor.previous, _, rfl⟩
  | some previous =>
      rw [processInit_known message channel previous known]
      obtain ⟨runner, entropy, state, left, trace, same⟩ :=
        replying_agreeing message (holding (some previous) (looked channel))
      rw [same]
      exact ⟨runner, entropy, state, left, trace, rfl⟩

theorem processFinish_agreeing (message : Bytes) (channel : Channel Reconnect ρ σ) :
    Agreeing channel ((processFinish message : Step ρ σ Unit).run channel).2 ∧
      (((processFinish message : Step ρ σ Unit).run channel).2.state = channel.state ∨
        ((processFinish message : Step ρ σ Unit).run channel).2.state = .resumingSession) := by
  cases answered : Runner.answer channel.runner (.continue message) channel.entropy with
  | mk report rest =>
  obtain ⟨runner, entropy⟩ := rest
  cases report with
  | error error =>
      rw [processFinish, Step.run_bind_error _ (run_demand_error _ channel answered)]
      exact ⟨⟨_, _, _, channel.flavor.previous, _, rfl⟩, Or.inl rfl⟩
  | ok response =>
      rw [processFinish, Step.run_bind_ok _ (run_demand_ok _ channel answered)]
      by_cases resumes : response.state = .resumingSession
      · rw [if_pos resumes]
        exact ⟨⟨_, _, _, channel.flavor.previous, _, rfl⟩, Or.inr resumes⟩
      · rw [if_neg resumes]
        exact ⟨⟨_, _, _, channel.flavor.previous, _, rfl⟩, Or.inl rfl⟩

/-- What is left of the last step once the key that was held is taken. -/
def resuming [KeyStorage σ] (id : String) (message : Bytes) (previous : Key) :
    Step ρ σ Unit := do
  let response ← demand (.resume message previous)
  if response.state = .finished then
    match response.key, response.next with
    | none, _ => throw (.invalidEncryptionKey "resumption finished without a key")
    | some _, none => throw (.invalidState "runner produced no resumption proof")
    | some key, some proof => renewing id key proof
  else
    throw (.invalidState s!"handshake not finished after resumption: {response.state.name}")

theorem processProof_idle [KeyStorage σ] (message : Bytes) (channel : Channel Reconnect ρ σ)
    (unheld : channel.flavor.previous = none) :
    (processProof message : Step ρ σ Unit).run channel =
      (.error (.invalidEncryptionKey "previous key no longer available"), channel) := by
  rw [processProof, Step.run_bind, Step.run_get]
  simp only [unheld]
  rfl

theorem processProof_held [KeyStorage σ] (message : Bytes) (channel : Channel Reconnect ρ σ)
    (previous : Key) (held : channel.flavor.previous = some previous) :
    (processProof message : Step ρ σ Unit).run channel =
      (resuming channel.flavor.deviceId message previous).run (holding none channel) := by
  rw [processProof, Step.run_bind, Step.run_get]
  simp only [held]
  rfl

theorem resuming_answered [KeyStorage σ] (id : String) (message : Bytes) (previous : Key)
    (channel : Channel Reconnect ρ σ) {response : HandshakeMessage} {runner : ρ}
    {entropy : Entropy} {key : Key} {proof : Bytes}
    (answered : Runner.answer channel.runner (.resume message previous) channel.entropy =
      (.ok response, runner, entropy))
    (finished : response.state = .finished) (keyed : response.key = some key)
    (owed : response.next = some proof) :
    (resuming id message previous : Step ρ σ Unit).run channel =
      (renewing id key proof).run { channel with
        runner, entropy
        trace := .asked (.resume message previous) (.ok response) :: channel.trace } := by
  rw [resuming, Step.run_bind_ok _ (run_demand_ok _ channel answered), if_pos finished]
  simp only [keyed, owed]

theorem resuming_cases [KeyStorage σ] (message : Bytes) (previous : Key)
    (channel : Channel Reconnect ρ σ) :
    ProofRun channel ((resuming channel.flavor.deviceId message previous : Step ρ σ Unit).run
      (holding none channel)) := by
  cases answered : Runner.answer channel.runner (.resume message previous) channel.entropy with
  | mk report rest =>
  obtain ⟨runner, entropy⟩ := rest
  have asked : Resumed channel { holding none channel with
      runner, entropy, trace := .asked (.resume message previous) report :: channel.trace } :=
    ⟨⟨_, _, _, _, _, _, rfl⟩, .one rfl ⟨rfl, rfl, rfl⟩, Nat.le_refl _⟩
  cases report with
  | error error =>
      rw [resuming, Step.run_bind_error _ (run_demand_error _ (holding none channel) answered)]
      exact .refused _ _ asked
  | ok response =>
      rw [resuming, Step.run_bind_ok _ (run_demand_ok _ (holding none channel) answered)]
      split
      · split
        · exact .refused _ _ asked
        · exact .refused _ _ asked
        · exact renewing_cases asked _ _ _
      · exact .refused _ _ asked

theorem processProof_cases [KeyStorage σ] (message : Bytes) (channel : Channel Reconnect ρ σ) :
    ProofRun channel ((processProof message : Step ρ σ Unit).run channel) := by
  cases held : channel.flavor.previous with
  | none =>
      rw [processProof_idle message channel held]
      exact .refused _ _ (.idle held)
  | some previous =>
      rw [processProof_held message channel previous held]
      exact resuming_cases message previous channel

end CarPairing.Reconnect
