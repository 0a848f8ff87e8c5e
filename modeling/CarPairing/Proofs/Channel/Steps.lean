import CarPairing.Proofs.Sealing
import CarPairing.Proofs.Step

/-!
What the steps of a channel come to, each from the answer of the runner or the
storage that it calls.
-/

namespace CarPairing.Channel

variable {φ ρ σ α : Type}

theorem not_failed_of_active {channel : Channel φ ρ σ} (active : channel.lifecycle = .active) :
    channel.lifecycle ≠ .failed := by
  rw [active]
  exact nofun

theorem not_established_of_active {channel : Channel φ ρ σ}
    (active : channel.lifecycle = .active) : channel.lifecycle ≠ .established := by
  rw [active]
  exact nofun

section Runs

variable [Runner ρ] (request : Request) (channel : Channel φ ρ σ)

theorem run_ask : (ask request : Step φ ρ σ Answer).run channel =
    (.ok (Runner.answer channel.runner request channel.entropy).1,
      { channel with
        runner := (Runner.answer channel.runner request channel.entropy).2.1
        entropy := (Runner.answer channel.runner request channel.entropy).2.2
        trace := .asked request (Runner.answer channel.runner request channel.entropy).1 ::
          channel.trace }) := rfl

theorem run_demand_ok {message : HandshakeMessage} {runner : ρ} {entropy : Entropy}
    (answered : Runner.answer channel.runner request channel.entropy =
      (.ok message, runner, entropy)) :
    (demand request : Step φ ρ σ HandshakeMessage).run channel =
      (.ok message,
        { channel with runner, entropy, trace := .asked request (.ok message) :: channel.trace }) := by
  rw [demand, Step.run_bind, run_ask, answered]
  rfl

theorem run_demand_error {error : HandshakeError} {runner : ρ} {entropy : Entropy}
    (answered : Runner.answer channel.runner request channel.entropy =
      (.error error, runner, entropy)) :
    (demand request : Step φ ρ σ HandshakeMessage).run channel =
      (.error (.invalidHandshake error),
        { channel with runner, entropy, trace := .asked request (.error error) :: channel.trace }) := by
  rw [demand, Step.run_bind, run_ask, answered]
  rfl

end Runs

theorem run_callStorage (call : StorageCall)
    (act : Channel φ ρ σ → Except StoreError α × σ × Entropy) (channel : Channel φ ρ σ) :
    (callStorage call act : Step φ ρ σ (Except StoreError α)).run channel =
      (.ok (act channel).1,
        { channel with
          storage := (act channel).2.1
          entropy := (act channel).2.2
          trace := .stored call ((act channel).1.map fun _ => ()) :: channel.trace }) := rfl

section Storage

variable [KeyStorage σ] (channel : Channel φ ρ σ)

theorem run_checkSecret {secret : Bytes} {outcome : Except StoreError Unit} {storage : σ}
    (answered : KeyStorage.checkSecret channel.storage secret = (outcome, storage)) :
    (checkSecret secret : Step φ ρ σ (Except StoreError Unit)).run channel =
      (.ok outcome, { channel with
        storage
        trace := .stored (.checkSecret secret) (outcome.map fun _ => ()) :: channel.trace }) := by
  rw [checkSecret, run_callStorage, answered]

theorem run_storedKey (id : String) :
    (storedKey? id : Step φ ρ σ (Option Key)).run channel =
      (.ok (KeyStorage.key? channel.storage id),
        channel.record (.stored (.key id) (.ok ()))) := rfl

theorem run_saveKey {id : String} {key : Key} {outcome : Except StoreError Unit} {storage : σ}
    (answered : KeyStorage.saveKey channel.storage channel.now id key = (outcome, storage)) :
    (saveKey id key : Step φ ρ σ (Except StoreError Unit)).run channel =
      (.ok outcome, { channel with
        storage
        trace := .stored (.saveKey id key) (outcome.map fun _ => ()) :: channel.trace }) := by
  rw [saveKey, run_callStorage, answered]

theorem run_saveSecret {id : String} {secret : Bytes} {outcome : Except StoreError Unit}
    {storage : σ}
    (answered : KeyStorage.saveSecret channel.storage channel.now id secret = (outcome, storage)) :
    (saveSecret id secret : Step φ ρ σ (Except StoreError Unit)).run channel =
      (.ok outcome, { channel with
        storage
        trace := .stored (.saveSecret id secret) (outcome.map fun _ => ()) :: channel.trace }) := by
  rw [saveSecret, run_callStorage, answered]

theorem run_forget {id : String} {outcome : Except StoreError Bool} {storage : σ}
    (answered : KeyStorage.remove channel.storage id = (outcome, storage)) :
    (forget id : Step φ ρ σ (Except StoreError Bool)).run channel =
      (.ok outcome, { channel with
        storage
        trace := .stored (.remove id) (outcome.map fun _ => ()) :: channel.trace }) := by
  rw [forget, run_callStorage, answered]

end Storage

theorem run_setState (state : HandshakeState) (channel : Channel φ ρ σ) :
    (setState state : Step φ ρ σ Unit).run channel = (.ok (), { channel with state }) := rfl

theorem run_installKey (key : Key) (channel : Channel φ ρ σ) :
    (installKey key : Step φ ρ σ Unit).run channel =
      (.ok (), { channel with
        session := some (Session.ofKey key channel.entropy).1
        entropy := (Session.ofKey key channel.entropy).2 }) := rfl

theorem run_encrypt (plaintext : Bytes) (channel : Channel φ ρ σ) (session : Session)
    (installed : channel.session = some session) (fresh : session.counter ≠ Session.counterLimit) :
    (encrypt plaintext : Step φ ρ σ Bytes).run channel =
      (.ok (session.nonce ++ Aead.encrypt session.key.bytes session.nonce plaintext),
        { channel with session := some { session with counter := session.counter + 1 } }) := by
  rw [encrypt, Step.run_bind, Step.run_get]
  simp only [installed, Session.wrap_fresh session plaintext fresh]
  rfl

theorem run_sendHandshake_sealed (payload : Bytes) (channel : Channel φ ρ σ) (session : Session)
    (installed : channel.session = some session) (fresh : session.counter ≠ Session.counterLimit) :
    (sendHandshake payload true : Step φ ρ σ Unit).run channel =
      (.ok (), { channel with
        session := some { session with counter := session.counter + 1 }
        trace := .sent .handshake
          { encrypted := true
            payload := session.nonce ++ Aead.encrypt session.key.bytes session.nonce payload } ::
          channel.trace }) := by
  simp only [sendHandshake, if_true]
  rw [Step.run_bind, run_encrypt payload channel session installed fresh]
  rfl

theorem encrypt_frame (plaintext : Bytes) (channel : Channel φ ρ σ) :
    ∃ outcome session, (encrypt plaintext : Step φ ρ σ Bytes).run channel =
      (outcome, { channel with session }) := by
  rw [encrypt, Step.run_bind, Step.run_get]
  cases installed : channel.session with
  | none =>
      refine ⟨.error (.invalidState "no encryption key installed"), none, ?_⟩
      simp only [installed]
      rw [Step.run_throw, ← installed]
  | some session =>
      cases wrapped : session.wrap plaintext with
      | mk outcome left =>
          simp only [installed, wrapped]
          cases outcome with
          | ok payload => exact ⟨.ok payload, some left, rfl⟩
          | error error => exact ⟨.error (.invalidEncryptionKey error.message), some left, rfl⟩

-- A message to the peer concerns only the session.
theorem send_frame (message : DeviceMessage) (channel : Channel φ ρ σ) :
    ∃ session trace, (channel.send message).2 = { channel with session, trace } := by
  rw [send, sendClient, Step.run_bind, Step.run_get]
  by_cases established : channel.lifecycle = .established
  · simp only [if_pos established]
    cases encrypted : message.encrypted with
    | false => exact ⟨channel.session, _, rfl⟩
    | true =>
        obtain ⟨outcome, session, framed⟩ := encrypt_frame message.payload channel
        simp only [if_true]
        rw [Step.run_bind, framed]
        cases outcome with
        | ok payload => exact ⟨session, _, rfl⟩
        | error error => exact ⟨session, channel.trace, rfl⟩
  · simp only [if_neg established]
    exact ⟨channel.session, channel.trace, rfl⟩

theorem send_refused (message : DeviceMessage) (channel : Channel φ ρ σ)
    (waiting : channel.lifecycle ≠ .established) :
    channel.send message = (.error (.invalidState "channel is not established"), channel) := by
  rw [send, sendClient, Step.run_bind, Step.run_get]
  simp only [if_neg waiting]
  rfl

end CarPairing.Channel
