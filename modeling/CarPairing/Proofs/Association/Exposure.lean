import CarPairing.Proofs.Association.Exact
import CarPairing.Proofs.Identity

/-!
Where the identity of a device comes from. The channel opens a sealed frame
before it hands it to the handshake and does not pass on that it was sealed, so
an identity in clear is taken as well, and the accepted key is then stored for
whatever device that names. This is exactly when an identity is not
authenticated; without such a frame it always is.
-/

namespace CarPairing

/-- What the event says of a device it says of this one. -/
def Event.About (id : String) (secret : Bytes) : Event → Prop
  | .stored (.saveKey other _) _ => other = id
  | .stored (.saveSecret other written) _ => other = id ∧ written = secret
  | .notified (.deviceId other) => other = id
  | _ => True

namespace Enrolled

variable {σ : Type} [KeyStorage σ] {storage after : σ} {now : Int} {id : String} {key : Key}
variable {secret : Bytes} {events : List Event} {outcome : Except StoreError Unit} {event : Event}

theorem about (enrolled : Enrolled storage now id key secret events after outcome)
    (member : event ∈ events) : event.About id secret := by
  cases enrolled <;> simp only [List.mem_cons, List.not_mem_nil, or_false] at member
  case unchecked => subst member; exact trivial
  case unkeyed =>
    rcases member with rfl | rfl | rfl
    · exact trivial
    · exact trivial
    · exact rfl
  case restored =>
    rcases member with rfl | rfl | rfl | rfl | rfl
    · exact trivial
    · exact trivial
    · exact rfl
    · exact ⟨rfl, rfl⟩
    · exact rfl
  case removed =>
    rcases member with rfl | rfl | rfl | rfl | rfl
    · exact trivial
    · exact trivial
    · exact rfl
    · exact ⟨rfl, rfl⟩
    · exact trivial
  case stored =>
    rcases member with rfl | rfl | rfl | rfl
    · exact trivial
    · exact trivial
    · exact rfl
    · exact ⟨rfl, rfl⟩

-- Nothing is written about a device before its secret has passed the check.
theorem passes (enrolled : Enrolled storage now id key secret events after outcome)
    (member : event ∈ events) (binds : event.Binds) :
    (KeyStorage.checkSecret storage secret).1 = .ok () := by
  cases enrolled with
  | unchecked error _ checked =>
      rw [List.mem_singleton.mp member] at binds
      exact absurd binds not_false
  | unkeyed error passed _ checked => rw [checked]
  | restored error passed written refused _ previous answer checked => rw [checked]
  | removed error passed written refused _ answer checked => rw [checked]
  | stored passed written _ checked => rw [checked]

end Enrolled

namespace Association

open Channel Agreement

variable {σ : Type} [KeyStorage σ]

/-- The event was made for a sealed frame that opened under the installed
session, and is about the identity in it. -/
inductive Authentic (car : Car σ) (call : Call) (event : Event) : Prop where
  | intro (message : DeviceMessage) (session : Session) (payload : Bytes) (device : Uuid)
      (secret : Bytes) (called : call = .receive message .handshake)
      (encrypted : message.encrypted = true) (installed : car.session = some session)
      (opens : session.unwrap message.payload = .ok payload)
      (decoded : Identity.decode payload = .ok (device, secret))
      (about : event.About device.toText secret)

/-- An identity in clear, received while an accepted key is held, of which
anybody learns: the application listens, or the storage takes the secret. -/
inductive Exposed (car : Car σ) (call : Call) : Prop where
  | intro (message : DeviceMessage) (key : Key) (device : Uuid) (secret : Bytes)
      (called : call = .receive message .handshake) (clear : message.encrypted = false)
      (active : car.lifecycle = .active) (held : car.flavor.pending = some key)
      (decoded : Identity.decode message.payload = .ok (device, secret))
      (noticed : car.subscription ≠ .nothing ∨
        (KeyStorage.checkSecret car.storage secret).1 = .ok ())

theorem hears_deviceId (subscription : Subscription) (id : String) :
    subscription.hears (.deviceId id) = true ↔ subscription ≠ .nothing := by
  cases subscription <;> simp [Subscription.hears]

-- Whatever is said of a device was read in the handshake frame at hand.
theorem identifies_about {car : Car σ} {payload : Bytes} {event : Event}
    (identifies : Identifies car payload event) (binds : event.Binds) :
    ∃ key device secret, car.lifecycle = .active ∧ car.flavor.pending = some key ∧
      Identity.decode payload = .ok (device, secret) ∧ event.About device.toText secret ∧
      (car.subscription ≠ .nothing ∨ (KeyStorage.checkSecret car.storage secret).1 = .ok ()) := by
  obtain ⟨key, device, secret, events, after, outcome, active, -, held, decoded, enrolled, made⟩ :=
    identifies
  rcases made with member | ⟨rfl, hears⟩
  · exact ⟨key, device, secret, active, held, decoded, enrolled.about member,
      Or.inr (enrolled.passes member binds)⟩
  · exact ⟨key, device, secret, active, held, decoded, rfl,
      Or.inl ((hears_deviceId _ _).mp hears)⟩

-- A call from outside that is not exposed binds authentically.
theorem authentic_of_not_exposed {car : Car σ} {call : Call} {event : Event}
    (outside : ∀ payload, call ≠ .frame payload) (safe : ¬Exposed car call)
    (made : event ∈ news car (perform call car)) (binds : event.Binds) :
    Authentic car call event := by
  obtain ⟨payload, delivers, identifies⟩ := (perform_grown call car).mem_news made binds
  obtain ⟨key, device, secret, active, held, decoded, about, noticed⟩ :=
    identifies_about identifies binds
  cases delivers with
  | frame => exact absurd rfl (outside payload)
  | receive message opened =>
      cases encrypted : message.encrypted with
      | false =>
          have plain : message.payload = payload := by
            simpa [Channel.opened, encrypted] using opened
          rw [← plain] at decoded
          exact absurd ⟨message, key, device, secret, rfl, encrypted, active, held, decoded, noticed⟩
            safe
      | true =>
          simp only [Channel.opened, encrypted, if_true] at opened
          cases installed : car.session with
          | none => simp [installed] at opened
          | some session =>
              cases opens : session.unwrap message.payload with
              | error error => simp [installed, opens] at opened
              | ok plain =>
                  obtain rfl : plain = payload := by simpa [installed, opens] using opened
                  exact ⟨message, session, plain, device, secret, rfl, encrypted, installed, opens,
                    decoded, about⟩

-- An exposed call binds a device that nobody vouches for.
theorem exposed_binds {fresh : Agreement} {entropy : Entropy} {log : List Entry} {car : Car σ}
    {call : Call} (stage : Stage fresh entropy log car) (exposed : Exposed car call) :
    ∃ event ∈ news car (perform call car), event.Binds ∧ ¬Authentic car call event := by
  obtain ⟨message, key, device, secret, rfl, clear, active, held, decoded, noticed⟩ := exposed
  obtain ⟨-, -, -, -, -, -, -, -, state, -, unidentified⟩ := stage_held stage active held
  have unsealed (event : Event) : ¬Authentic car (.receive message .handshake) event := by
    rintro ⟨other, -, -, -, -, called, encrypted, -⟩
    cases called
    rw [clear] at encrypted
    cases encrypted
  have opened : car.opened message = .ok message.payload := by
    simp [Channel.opened, clear]
  have taken : perform (.receive message .handshake) car = car.handshake message.payload :=
    receive_opened car message message.payload (not_failed_of_active active) opened
  obtain ⟨saves, tells⟩ :=
    identity_made car message.payload key device secret active state held decoded
  rw [taken]
  rcases noticed with listening | passes
  · exact ⟨_, tells unidentified ((hears_deviceId _ _).mpr listening), trivial, unsealed _⟩
  · obtain ⟨outcome, saved⟩ := saves passes
    exact ⟨_, saved, trivial, unsealed _⟩

/-- Over every run: all that is made known or written of devices comes from
sealed frames that opened, if and only if no call of the run is exposed. -/
theorem authentic_iff_not_exposed (runner : Agreement) (role : runner.role = .responder)
    (idle : runner.phase = .idle) (storage : σ) (entropy : Entropy) (now : Int)
    (calls : List Call) (outside : ∀ call ∈ calls, ∀ payload, call ≠ .frame payload) :
    (∀ before call after car, calls = before ++ call :: after →
        car = performAll before (unpaired runner storage entropy now) →
        ∀ event ∈ news car (perform call car), event.Binds → Authentic car call event) ↔
      ∀ before call after car, calls = before ++ call :: after →
        car = performAll before (unpaired runner storage entropy now) → ¬Exposed car call := by
  constructor
  · intro authentic before call after car split reached exposed
    have stage := stage_reached runner role idle storage entropy now before
    rw [← reached] at stage
    obtain ⟨event, made, binds, unvouched⟩ := exposed_binds stage exposed
    exact unvouched (authentic before call after car split reached event made binds)
  · intro safe before call after car split reached event made binds
    have member : call ∈ calls := by
      rw [split]
      exact List.mem_append_right _ List.mem_cons_self
    exact authentic_of_not_exposed (outside call member)
      (safe before call after car split reached) made binds

theorem authentic_iff_not_exposed_memory :
    let start : Car MemoryStorage :=
      unpaired { role := .responder } {} { byteAt := fun _ => 1 } 0
    let calls := untilAccepted { byteAt := fun _ => 2 }
    (∀ before call after car, calls = before ++ call :: after → car = performAll before start →
        ∀ event ∈ news car (perform call car), event.Binds → Authentic car call event) ↔
      ∀ before call after car, calls = before ++ call :: after → car = performAll before start →
        ¬Exposed car call := by
  intro start calls
  have outside : ∀ call ∈ calls, ∀ payload, call ≠ .frame payload := by
    intro call member payload same
    subst same
    simp [calls, untilAccepted] at member
  exact authentic_iff_not_exposed { role := .responder } rfl rfl ({} : MemoryStorage)
    { byteAt := fun _ => 1 } 0 calls outside

/-- After an honest agreement and acceptance, a frame in clear binds the agreed
key to a device of the sender's choice. -/
theorem clear_identity_binds :
    let start : Car MemoryStorage :=
      unpaired { role := .responder } {} { byteAt := fun _ => 1 } 0
    let car := performAll (untilAccepted { byteAt := fun _ => 2 }) start
    let device : Uuid := ⟨List.replicate 16 3, rfl⟩
    let call := Call.receive (Companion.clear (Identity.encode device [4])) .handshake
    ¬∀ event ∈ news car (perform call car), event.Binds → Authentic car call event := by
  intro start car device call authentic
  obtain ⟨entropy, reached, same, active, finished, held, -, -⟩ :=
    performAll_untilAccepted { role := .responder } rfl rfl ({} : MemoryStorage)
      { byteAt := fun _ => 1 } { byteAt := fun _ => 2 } 0 (fun _ => ⟨_, rfl⟩)
  have here : car = reached := same
  have named : device ≠ Uuid.nil := by decide
  have stage := stage_reached { role := .responder } rfl rfl ({} : MemoryStorage)
    { byteAt := fun _ => 1 } 0 (untilAccepted { byteAt := fun _ => 2 })
  rw [same] at stage
  have exposed : Exposed reached call :=
    ⟨_, _, device, [4], rfl, rfl, active, held, Identity.decode_encode device [4] named, Or.inr rfl⟩
  obtain ⟨event, made, binds, unvouched⟩ := exposed_binds stage exposed
  rw [here] at authentic
  exact unvouched (authentic event made binds)

end Association

end CarPairing
