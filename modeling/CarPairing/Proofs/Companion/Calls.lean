import CarPairing.Companion
import CarPairing.Proofs.Sealing
import CarPairing.Proofs.Step

/-!
Everything that can be done to a phone until it is through, in any order. It has
a key exactly when it has a session, and then one that was made from the key,
whatever the runner answers; and without a key it is not through.
-/

namespace CarPairing.Companion

inductive Call where
  | start
  | handle (message : DeviceMessage)
  | accept

variable {ρ α β : Type}

section Calls

variable [Runner ρ]

/-- The frames that the call returns, and the phone after it. -/
def perform (call : Call) (phone : Companion ρ) :
    Except ChannelError (List DeviceMessage) × Companion ρ :=
  match call with
  | .start => ((start.run phone).1.map fun frame => [frame], (start.run phone).2)
  | .handle message => handle message phone
  | .accept => ((accept phone).1.map fun _ => [], (accept phone).2)

def performAll (calls : List Call) (phone : Companion ρ) : Companion ρ :=
  calls.foldl (fun phone call => (perform call phone).2) phone

theorem performAll_append (earlier later : List Call) (phone : Companion ρ) :
    performAll (earlier ++ later) phone = performAll later (performAll earlier phone) :=
  List.foldl_append

end Calls

/-- The phone seals and opens under a session made from the key that it has. -/
structure Speaks (key : Key) (phone : Companion ρ) : Prop where
  has : phone.key = some key
  sealing : ∃ session, phone.session = some session ∧ session.Made key

inductive Keyed (phone : Companion ρ) : Prop where
  | bare (unkeyed : phone.key = none) (silent : phone.session = none)
      (waiting : phone.established = false)
  | keyed (key : Key) (speaks : Speaks key phone)

theorem Keyed.frame {phone other : Companion ρ} (keyed : Keyed phone)
    (key : other.key = phone.key) (session : other.session = phone.session)
    (established : other.established = phone.established) : Keyed other := by
  cases keyed with
  | bare unkeyed silent waiting =>
      exact .bare (key.trans unkeyed) (session.trans silent) (established.trans waiting)
  | keyed held speaks =>
      obtain ⟨has, own, installed, made⟩ := speaks
      exact .keyed held ⟨key.trans has, own, session.trans installed, made⟩

/-- Whatever is true of the key and the session before the step is true after it. -/
def Keeps (step : Step ρ α) : Prop :=
  ∀ phone, Keyed phone → Keyed (step.run phone).2

theorem keeps_bind {first : Step ρ α} {next : α → Step ρ β} (one : Keeps first)
    (two : ∀ value, Keeps (next value)) : Keeps (first >>= next) := by
  intro phone keyed
  have middle := one phone keyed
  rw [Step.run_bind]
  cases ran : first.run phone with
  | mk outcome after =>
      rw [ran] at middle
      cases outcome with
      | error error => exact middle
      | ok value => exact two value after middle

theorem keeps_pure (value : α) : Keeps (pure value : Step ρ α) :=
  fun _ keyed => keyed

theorem keeps_throw (error : ChannelError) : Keeps (throw error : Step ρ α) :=
  fun _ keyed => keyed

theorem keeps_get : Keeps (get : Step ρ (Companion ρ)) :=
  fun _ keyed => keyed

theorem run_encrypt_bare (plaintext : Bytes) (phone : Companion ρ) (silent : phone.session = none) :
    (encrypt plaintext : Step ρ Bytes).run phone =
      (.error (.invalidState "no encryption key installed"), phone) := by
  rw [encrypt, Step.run_bind, Step.run_get]
  simp only [silent]
  exact Step.run_throw _ _

theorem run_encrypt_wrapped (plaintext : Bytes) (phone : Companion ρ) {session left : Session}
    {outcome : Except CryptoError Bytes} (installed : phone.session = some session)
    (wrapped : session.wrap plaintext = (outcome, left)) :
    (encrypt plaintext : Step ρ Bytes).run phone =
      (outcome.mapError fun error => .invalidEncryptionKey error.message,
        { phone with session := some left }) := by
  rw [encrypt, Step.run_bind, Step.run_get]
  simp only [installed, wrapped]
  cases outcome <;> rfl

-- Sealing moves the session on and leaves the key.
theorem Speaks.encrypt {key : Key} {phone : Companion ρ} (speaks : Speaks key phone)
    (plaintext : Bytes) :
    Speaks key ((encrypt plaintext : Step ρ Bytes).run phone).2 := by
  obtain ⟨has, session, installed, made⟩ := speaks
  have later := made.wrap plaintext
  rw [run_encrypt_wrapped plaintext phone installed rfl]
  exact ⟨has, _, rfl, later⟩

section Runner

variable [Runner ρ]

theorem keeps_ask (request : Request) : Keeps (ask request : Step ρ Answer) :=
  fun _ keyed => keyed.frame rfl rfl rfl

theorem keeps_demand (request : Request) : Keeps (demand request : Step ρ HandshakeMessage) := by
  apply keeps_bind (keeps_ask request)
  intro answer
  cases answer with
  | ok message => exact keeps_pure message
  | error error => exact keeps_throw _

theorem keeps_start : Keeps (start : Step ρ DeviceMessage) := by
  apply keeps_bind keeps_get
  intro phone
  split
  · apply keeps_bind (keeps_demand .init)
    intro response
    split
    · exact keeps_throw _
    · exact fun _ keyed => keyed.frame rfl rfl rfl
  · exact keeps_throw _

theorem keeps_handleServerInit (payload : Bytes) :
    Keeps (handleServerInit payload : Step ρ (List DeviceMessage)) := by
  apply keeps_bind (keeps_demand _)
  intro response
  split
  · exact keeps_throw _
  · apply keeps_bind keeps_get
    intro phone
    split
    · split
      · exact keeps_throw _
      · exact fun _ keyed => keyed.frame rfl rfl rfl
    · split
      · exact keeps_throw _
      · exact fun _ keyed => keyed.frame rfl rfl rfl
    · apply keeps_bind (keeps_demand _)
      intro answer
      split
      · exact keeps_throw _
      · exact fun _ keyed => keyed.frame rfl rfl rfl
    · exact keeps_throw _

theorem keeps_handleProof (payload : Bytes) (previous : Key) :
    Keeps (handleProof payload previous : Step ρ (List DeviceMessage)) := by
  apply keeps_bind (keeps_demand _)
  intro response
  split
  · split
    · exact keeps_throw _
    · exact fun phone _ =>
        .keyed _ ⟨rfl, (Session.ofKey _ phone.entropy).1, rfl, Session.ofKey_made _ _⟩
  · exact keeps_throw _

-- Sealing the identity needs a session, and the phone is through only after that.
omit [Runner ρ] in
theorem keeps_handleCarId (payload : Bytes) (deviceId : Uuid) (secret : Bytes) :
    Keeps (handleCarId payload deviceId secret : Step ρ (List DeviceMessage)) := by
  rw [handleCarId]
  split
  · exact keeps_throw _
  · intro phone keyed
    cases keyed with
    | bare unkeyed silent waiting =>
        rw [Step.run_bind_error _ (run_encrypt_bare _ phone silent)]
        exact .bare unkeyed silent waiting
    | keyed key speaks =>
        have sealing := speaks.encrypt (Identity.encode deviceId secret)
        rw [Step.run_bind]
        cases ran : (encrypt (Identity.encode deviceId secret) : Step ρ Bytes).run phone with
        | mk outcome after =>
            rw [ran] at sealing
            cases outcome with
            | error error => exact .keyed key sealing
            | ok identity => exact .keyed key ⟨sealing.has, sealing.sealing⟩

theorem keeps_handleFrame (message : DeviceMessage) :
    Keeps (handleFrame message : Step ρ (List DeviceMessage)) := by
  apply keeps_bind keeps_get
  intro phone
  split
  · exact keeps_throw _
  · split
    · exact keeps_throw _
    · split
      · exact keeps_handleServerInit _
      · exact keeps_handleProof _ _
      · exact keeps_handleCarId _ _ _
      · exact keeps_throw _

theorem keeps_acceptCode : Keeps (acceptCode : Step ρ Unit) := by
  apply keeps_bind keeps_get
  intro phone
  dsimp only
  split
  · apply keeps_bind (keeps_ask .verify)
    intro answer
    split
    · exact keeps_throw _
    · split
      · split
        · exact keeps_throw _
        · exact fun phone _ =>
            .keyed _ ⟨rfl, (Session.ofKey _ phone.entropy).1, rfl, Session.ofKey_made _ _⟩
      · exact keeps_throw _
  · exact keeps_throw _

theorem perform_keyed (call : Call) (phone : Companion ρ) (keyed : Keyed phone) :
    Keyed (perform call phone).2 := by
  cases call with
  | start => exact keeps_start phone keyed
  | handle message => exact keeps_handleFrame message phone keyed
  | accept => exact keeps_acceptCode phone keyed

theorem performAll_keyed (calls : List Call) (phone : Companion ρ) (keyed : Keyed phone) :
    Keyed (performAll calls phone) := by
  induction calls generalizing phone with
  | nil => exact keyed
  | cons call rest ih => exact ih _ (perform_keyed call phone keyed)

end Runner

end CarPairing.Companion
