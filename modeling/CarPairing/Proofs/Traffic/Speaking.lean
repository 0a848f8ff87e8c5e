import CarPairing.Proofs.Association.Custody
import CarPairing.Proofs.Companion.Calls
import CarPairing.Proofs.Reconnect.Calls

/-!
The key that an end of a connection speaks. However an end became established,
and whatever its runner and its storage said on the way, it has a session that
was made from some key; the counter of the session is not known, as frames of the
handshake may have been sealed before.
-/

namespace CarPairing

namespace Channel

variable {φ ρ σ : Type} {key : Key} {channel : Channel φ ρ σ}

/-- The channel seals and opens under a session made from the key. -/
def Speaks (key : Key) (channel : Channel φ ρ σ) : Prop :=
  ∃ session, channel.session = some session ∧ session.Made key

/-- If it is established, it speaks some key. -/
def Keyed (channel : Channel φ ρ σ) : Prop :=
  channel.lifecycle = .established → ∃ key, Speaks key channel

theorem keyed_of_active (active : channel.lifecycle = .active) : Keyed channel :=
  fun established => absurd established (not_established_of_active active)

theorem Keyed.frame {other : Channel φ ρ σ} (keyed : Keyed channel)
    (lifecycle : other.lifecycle = channel.lifecycle) (session : other.session = channel.session) :
    Keyed other := by
  intro established
  obtain ⟨key, own, installed, made⟩ := keyed (lifecycle.symm.trans established)
  exact ⟨key, own, session.trans installed, made⟩

theorem keyed_fail [Flavor φ] (error : ChannelError) (keyed : Keyed channel) :
    Keyed (channel.fail error) := by
  by_cases active : channel.lifecycle = .active
  · obtain ⟨trace, same⟩ := fail_active error channel active
    rw [same]
    exact nofun
  · have kept : channel.fail error =
        { channel with flavor := Flavor.abort channel.flavor, trace := .aborted :: channel.trace } :=
      if_neg active
    rw [kept]
    exact keyed.frame rfl rfl

theorem keyed_settle [Flavor φ] {step : Step φ ρ σ Unit} (keyed : Keyed (step.run channel).2) :
    Keyed (channel.settle step) := by
  apply settle_cases
  · intro error after ran
    rw [ran] at keyed
    exact keyed_fail error keyed
  · intro after ran
    rw [ran] at keyed
    exact keyed

/-- What becomes of a message of the application. -/
inductive Sent (message : DeviceMessage) (channel : Channel φ ρ σ) (session : Session) :
    Except ChannelError Unit × Channel φ ρ σ → Prop where
  | plain (bare : message.encrypted = false) :
      Sent message channel session (.ok (), channel.record (.sent .client message))
  | wrapped (encrypted : message.encrypted = true) (payload : Bytes) (left : Session)
      (wraps : session.wrap message.payload = (.ok payload, left)) :
      Sent message channel session (.ok (), { channel with
        session := some left
        trace := .sent .client { message with payload } :: channel.trace })
  | spent (error : CryptoError) (left : Session)
      (wraps : session.wrap message.payload = (.error error, left)) :
      Sent message channel session
        (.error (.invalidEncryptionKey error.message), { channel with session := some left })

theorem run_encrypt_wrapped (plaintext : Bytes) {session left : Session}
    {outcome : Except CryptoError Bytes} (installed : channel.session = some session)
    (wrapped : session.wrap plaintext = (outcome, left)) :
    (encrypt plaintext : Step φ ρ σ Bytes).run channel =
      (outcome.mapError fun error => .invalidEncryptionKey error.message,
        { channel with session := some left }) := by
  rw [encrypt, Step.run_bind, Step.run_get]
  simp only [installed, wrapped]
  cases outcome <;> rfl

theorem send_cases (message : DeviceMessage) {session : Session}
    (established : channel.lifecycle = .established) (installed : channel.session = some session) :
    Sent message channel session (channel.send message) := by
  obtain ⟨recipient, encrypted, payload⟩ := message
  rw [send, sendClient, Step.run_bind, Step.run_get]
  simp only [if_pos established]
  cases encrypted with
  | false => exact .plain rfl
  | true =>
      cases wraps : session.wrap payload with
      | mk outcome left =>
          have ran := run_encrypt_wrapped payload installed wraps
          simp only [if_true]
          rw [Step.run_bind, ran]
          cases outcome with
          | ok wire => exact .wrapped rfl wire left wraps
          | error error => exact .spent error left wraps

theorem Speaks.send (speaks : Speaks key channel) (message : DeviceMessage)
    (established : channel.lifecycle = .established) : Speaks key (channel.send message).2 := by
  obtain ⟨session, installed, made⟩ := speaks
  have later := made.wrap message.payload
  have sent := send_cases message established installed
  generalize channel.send message = ran at sent ⊢
  cases sent with
  | plain => exact ⟨session, installed, made⟩
  | wrapped _ payload left wraps =>
      rw [wraps] at later
      exact ⟨left, rfl, later⟩
  | spent error left wraps =>
      rw [wraps] at later
      exact ⟨left, rfl, later⟩

theorem keyed_send (message : DeviceMessage) (keyed : Keyed channel) :
    Keyed (channel.send message).2 := by
  by_cases established : channel.lifecycle = .established
  · obtain ⟨key, speaks⟩ := keyed established
    exact fun _ => ⟨key, speaks.send message established⟩
  · rw [send_refused message channel established]
    exact keyed

theorem keyed_notify (notice : Notice) (keyed : Keyed channel) : Keyed (channel.notify notice) := by
  obtain ⟨trace, same⟩ := notify_frame notice channel
  rw [same]
  exact keyed.frame rfl rfl

theorem Speaks.concluded (speaks : Speaks key channel) : Speaks key channel.concluded := by
  obtain ⟨lifecycle, trace, same⟩ := concluded_frame channel
  rw [same]
  exact speaks

-- A frame is told of or is taken by the handshake, which decides then.
theorem keyed_receive [Flavor φ] [Runner ρ] [KeyStorage σ] (message : DeviceMessage)
    (operation : Operation) (keyed : Keyed channel)
    (handshakes : ∀ payload, Keyed (channel.handshake payload)) :
    Keyed (channel.receive message operation) := by
  cases receive_cases channel message operation with
  | ignored failed same =>
      rw [same]
      exact keyed
  | told notice living traffic same =>
      rw [same]
      exact keyed_notify notice keyed
  | taken payload living operates opened same =>
      rw [same]
      exact handshakes payload

end Channel

namespace Association

open Channel

variable {ρ σ : Type} [Runner ρ] [KeyStorage σ] {channel : Channel Association ρ σ}

-- The one step that ends well has the session that the accepted key was made into.
theorem keyed_processIdentity (payload : Bytes) (custody : Custody channel)
    (active : channel.lifecycle = .active) :
    Keyed ((processIdentity payload : Step ρ σ Unit).run channel).2 := by
  have run := processIdentity_cases payload channel
  generalize (processIdentity payload : Step ρ σ Unit).run channel = ran at run ⊢
  cases run with
  | idle => exact keyed_of_active active
  | garbled => exact keyed_of_active active
  | enrols key device secret events storage outcome held =>
      obtain ⟨identified, trace, frame⟩ := enrolling_frame channel device.toText events storage
      cases custody with
      | free unheld =>
          rw [unheld] at held
          cases held
      | held own entropy counter _ finished pending sealing =>
          cases outcome with
          | error refused =>
              rw [enrolled, frame]
              exact keyed_of_active active
          | ok =>
              rw [enrolled, frame]
              exact fun _ => ⟨own, Speaks.concluded ⟨_, sealing, entropy, counter, rfl⟩⟩

theorem keyed_process (payload : Bytes) (custody : Custody channel)
    (active : channel.lifecycle = .active) :
    Keyed ((Flavor.process payload : Step ρ σ Unit).run channel).2 := by
  rw [run_process]
  cases state : channel.state with
  | unknown =>
      obtain ⟨outcome, runner, entropy, state, trace, ran, -⟩ :=
        processInit_answered payload channel
      dsimp only
      rw [ran]
      exact keyed_of_active active
  | inProgress =>
      have completed := processFinish_completed payload channel
      dsimp only
      generalize (processFinish payload : Step ρ σ Unit).run channel = ran at completed ⊢
      cases completed with
      | refused => exact keyed_of_active active
      | shown => exact keyed_of_active active
  | finished => exact keyed_processIdentity payload custody active
  | _ => exact keyed_of_active active

theorem keyed_handshake (payload : Bytes) (custody : Custody channel) (keyed : Keyed channel) :
    Keyed (channel.handshake payload) := by
  by_cases active : channel.lifecycle = .active
  · rw [handshake_active channel payload active]
    exact keyed_settle (keyed_process payload (custody.frame rfl rfl rfl rfl) active)
  · rw [handshake_inactive channel payload active]
    exact keyed

theorem keyed_acceptCode (active : channel.lifecycle = .active) :
    Keyed ((acceptCode : Step ρ σ Unit).run channel).2 := by
  obtain ⟨outcome, after, ran, accepting⟩ := acceptCode_accepting channel
  obtain ⟨runner, storage, entropy, session, state, pending, trace, same⟩ := accepting.frame
  rw [ran, same]
  exact keyed_of_active active

theorem perform_keyed (call : Call) (custody : Custody channel) (keyed : Keyed channel) :
    Keyed (perform call channel) := by
  cases call with
  | frame payload => exact keyed_handshake payload custody keyed
  | receive message operation =>
      exact keyed_receive message operation keyed fun payload =>
        keyed_handshake payload custody keyed
  | send message => exact keyed_send message keyed
  | subscribe subscription => exact keyed.frame rfl rfl
  | accept =>
      rw [perform, accept]
      split
      next active => exact keyed_settle (keyed_acceptCode active)
      · exact keyed
  | listen on => exact keyed.frame rfl rfl

theorem performAll_keyed (calls : List Call) (custody : Custody channel) (keyed : Keyed channel) :
    Keyed (performAll calls channel) := by
  induction calls generalizing channel with
  | nil => exact keyed
  | cons call rest ih => exact ih (perform_custody call custody) (perform_keyed call custody keyed)

end Association

namespace Reconnect

open Channel

variable {ρ σ : Type} [KeyStorage σ] {channel : Channel Reconnect ρ σ}

-- The session is made before the key is written, and that decides the outcome.
theorem speaks_renewing (id : String) (key : Key) (proof : Bytes) {after : Channel Reconnect ρ σ}
    (ran : (renewing id key proof : Step ρ σ Unit).run channel = (.ok (), after)) :
    Speaks key after := by
  have renewed : Speaks key (renewed key proof channel) :=
    ⟨_, rfl, Session.ofKey_made key channel.entropy⟩
  cases saved : KeyStorage.saveKey channel.storage channel.now id key with
  | mk outcome storage =>
  rw [run_renewing id key proof channel saved] at ran
  cases outcome with
  | error error => cases ran
  | ok =>
      cases ran
      exact Speaks.concluded renewed

variable [Runner ρ]

theorem speaks_processProof (payload : Bytes) {after : Channel Reconnect ρ σ}
    (ran : (processProof payload : Step ρ σ Unit).run channel = (.ok (), after)) :
    ∃ key, Speaks key after := by
  cases held : channel.flavor.previous with
  | none =>
      rw [processProof_idle payload channel held] at ran
      cases ran
  | some previous =>
      rw [processProof_held payload channel previous held, resuming] at ran
      cases answered : Runner.answer channel.runner (.resume payload previous) channel.entropy with
      | mk report rest =>
      obtain ⟨runner, entropy⟩ := rest
      cases report with
      | error error =>
          rw [Step.run_bind_error _ (run_demand_error _ (holding none channel) answered)] at ran
          cases ran
      | ok response =>
          rw [Step.run_bind_ok _ (run_demand_ok _ (holding none channel) answered)] at ran
          split at ran
          · split at ran
            · cases ran
            · cases ran
            · exact ⟨_, speaks_renewing _ _ _ ran⟩
          · cases ran

theorem keyed_process (payload : Bytes) (active : channel.lifecycle = .active) :
    Keyed ((Flavor.process payload : Step ρ σ Unit).run channel).2 := by
  have agrees {after : Channel Reconnect ρ σ} (agreeing : Agreeing channel after) :
      Keyed after := by
    obtain ⟨runner, entropy, state, previous, trace, same⟩ := agreeing
    rw [same]
    exact keyed_of_active active
  rw [run_process]
  cases state : channel.state with
  | unknown => exact agrees (processInit_agreeing payload channel)
  | inProgress => exact agrees (processFinish_agreeing payload channel).1
  | resumingSession =>
      have run := processProof_cases payload channel
      have speaks {after : Channel Reconnect ρ σ}
          (ran : (processProof payload : Step ρ σ Unit).run channel = (.ok (), after)) :
          ∃ key, Speaks key after := speaks_processProof payload ran
      dsimp only
      generalize (processProof payload : Step ρ σ Unit).run channel = ran at run speaks ⊢
      cases run with
      | refused error after resumed =>
          obtain ⟨runner, storage, entropy, session, state, trace, same⟩ := resumed.frame
          rw [same]
          exact keyed_of_active active
      | concludes after resumed => exact fun _ => speaks rfl
  | _ => exact keyed_of_active active

theorem keyed_handshake (payload : Bytes) (keyed : Keyed channel) :
    Keyed (channel.handshake payload) := by
  by_cases active : channel.lifecycle = .active
  · rw [handshake_active channel payload active]
    exact keyed_settle (keyed_process payload active)
  · rw [handshake_inactive channel payload active]
    exact keyed

theorem perform_keyed (call : Call) (keyed : Keyed channel) : Keyed (perform call channel) := by
  cases call with
  | frame payload => exact keyed_handshake payload keyed
  | receive message operation =>
      exact keyed_receive message operation keyed fun payload => keyed_handshake payload keyed
  | send message => exact keyed_send message keyed
  | subscribe subscription => exact keyed.frame rfl rfl

theorem performAll_keyed (calls : List Call) (keyed : Keyed channel) :
    Keyed (performAll calls channel) := by
  induction calls generalizing channel with
  | nil => exact keyed
  | cons call rest ih => exact ih (perform_keyed call keyed)

end Reconnect

end CarPairing
