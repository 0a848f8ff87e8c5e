import CarPairing.Proofs.Channel.Notices

/-!
Properties that a step has if the steps it is made of have them. `Inherited`
lists what a property needs for that, so that a flavor is gone through once and
not once for each property.
-/

namespace CarPairing

/-- What a handshake step records itself, its requests and storage calls apart. -/
def Event.Routine : Event → Prop
  | .sent .. => True
  | .codeShown _ => True
  | .notified (.deviceId _) => True
  | .notified .established => True
  | _ => False

namespace Channel

variable {φ ρ σ : Type}

/-- The channel with more behind it. -/
def since (history : List Event) (channel : Channel φ ρ σ) : Channel φ ρ σ :=
  { channel with trace := channel.trace ++ history }

/-- A change by which a step may note something, short of the storage. -/
structure Tame (change : Channel φ ρ σ → Channel φ ρ σ) : Prop where
  blind : ∀ history channel, change (channel.since history) = (change channel).since history
  storage : ∀ channel, (change channel).storage = channel.storage
  routine : ∀ channel, Grown Event.Routine channel (change channel)

section Tame

theorem tame_record (event : Event) (routine : event.Routine) :
    Tame (record event : Channel φ ρ σ → Channel φ ρ σ) where
  blind _ _ := rfl
  storage _ := rfl
  routine _ := .one rfl routine

theorem tame_flavor (change : φ → φ) :
    Tame (fun channel : Channel φ ρ σ => { channel with flavor := change channel.flavor }) where
  blind _ _ := rfl
  storage _ := rfl
  routine _ := .same rfl

theorem tame_state (state : HandshakeState) :
    Tame (fun channel : Channel φ ρ σ => { channel with state }) where
  blind _ _ := rfl
  storage _ := rfl
  routine _ := .same rfl

theorem tame_session (session : Session) :
    Tame (fun channel : Channel φ ρ σ => { channel with session := some session }) where
  blind _ _ := rfl
  storage _ := rfl
  routine _ := .same rfl

theorem tame_installed (key : Key) :
    Tame (fun channel : Channel φ ρ σ =>
      let (session, entropy) := Session.ofKey key channel.entropy
      { channel with session := some session, entropy }) where
  blind _ _ := rfl
  storage _ := rfl
  routine _ := .same rfl

theorem notify_since (notice : Notice) (history : List Event) (channel : Channel φ ρ σ) :
    (channel.since history).notify notice = (channel.notify notice).since history := by
  unfold notify
  by_cases hears : channel.subscription.hears notice = true
  · simp [since, hears, record]
  · simp [since, hears]

theorem notify_storage (notice : Notice) (channel : Channel φ ρ σ) :
    (channel.notify notice).storage = channel.storage := by
  obtain ⟨trace, same⟩ := notify_frame notice channel
  rw [same]

theorem tame_announced (id : String) : Tame (announced id : Channel φ ρ σ → Channel φ ρ σ) where
  blind history channel := by
    by_cases unnamed : channel.lifecycle = .active ∧ channel.identified = false
    · have same : (channel.since history).lifecycle = .active ∧
          (channel.since history).identified = false := unnamed
      rw [announced, announced, if_pos unnamed, if_pos same]
      exact notify_since _ history { channel with identified := true }
    · have same : ¬((channel.since history).lifecycle = .active ∧
          (channel.since history).identified = false) := unnamed
      rw [announced, announced, if_neg unnamed, if_neg same]
  storage channel := announced_storage id channel
  routine channel := by
    refine (announced_grown id channel).mono ?_
    rintro event ⟨rfl, -⟩
    trivial

theorem tame_concluded : Tame (concluded : Channel φ ρ σ → Channel φ ρ σ) where
  blind history channel := by
    by_cases active : channel.lifecycle = .active
    · have same : (channel.since history).lifecycle = .active := active
      rw [concluded, concluded, if_pos active, if_pos same]
      exact notify_since _ history { channel with lifecycle := .established }
    · have same : ¬(channel.since history).lifecycle = .active := active
      rw [concluded, concluded, if_neg active, if_neg same]
  storage channel := by
    obtain ⟨lifecycle, trace, same⟩ := concluded_frame channel
    rw [same]
  routine channel := concluded_grown channel trivial

end Tame

/-- What a property of steps needs to go from the parts of a handshake step to
the whole. Of its state a step reads anything but the trace. -/
structure Inherited [Runner ρ] (P : {α : Type} → Step φ ρ σ α → Prop) : Prop where
  bind : ∀ {α β : Type} {first : Step φ ρ σ α} {next : α → Step φ ρ σ β},
    P first → (∀ value, P (next value)) → P (first >>= next)
  pure : ∀ {α : Type} (value : α), P (pure value)
  throw : ∀ {α : Type} (error : ChannelError), error.fatal = true →
    P (throw error : Step φ ρ σ α)
  read : ∀ {α : Type} {next : Channel φ ρ σ → Step φ ρ σ α},
    (∀ history channel, next (channel.since history) = next channel) →
      (∀ channel, P (next channel)) → P (get >>= next)
  update : ∀ {change : Channel φ ρ σ → Channel φ ρ σ}, Tame change →
    P (modify change : Step φ ρ σ PUnit)
  ask : ∀ request : Request, P (ask request)

/-- The same for the calls of the storage about a device. -/
structure InheritedCalls [KeyStorage σ] (P : {α : Type} → Step φ ρ σ α → Prop) : Prop where
  saveKey : ∀ id key, P (saveKey id key)
  storedKey : ∀ id, P (storedKey? id)
  saveSecret : ∀ id secret, P (saveSecret id secret)
  checkSecret : ∀ secret, P (checkSecret secret)
  forget : ∀ id, P (forget id)

section Inherited

variable [Runner ρ] {P : {α : Type} → Step φ ρ σ α → Prop} (inherited : Inherited P)
include inherited

theorem Inherited.demand (request : Request) : P (demand request) := by
  apply inherited.bind (inherited.ask request)
  intro answer
  cases answer with
  | ok message => exact inherited.pure message
  | error error => exact inherited.throw _ rfl

theorem Inherited.accepted {α : Type} (outcome : Except StoreError α) : P (accepted outcome) := by
  cases outcome with
  | ok value => exact inherited.pure value
  | error error => exact inherited.throw _ rfl

theorem Inherited.setState (state : HandshakeState) : P (setState state) :=
  inherited.update (tame_state state)

theorem Inherited.installKey (key : Key) : P (installKey key) :=
  inherited.update (tame_installed key)

theorem Inherited.notifyDeviceId (id : String) : P (notifyDeviceId id) :=
  inherited.update (tame_announced id)

theorem Inherited.notifyEstablished : P notifyEstablished :=
  inherited.update tame_concluded

theorem Inherited.encrypt (plaintext : Bytes) : P (encrypt plaintext) := by
  apply inherited.read (fun _ _ => rfl)
  intro channel
  cases channel.session with
  | none => exact inherited.throw _ rfl
  | some session =>
      dsimp only
      obtain ⟨outcome, session⟩ := session.wrap plaintext
      apply inherited.bind (inherited.update (tame_session session))
      intro _
      cases outcome with
      | ok payload => exact inherited.pure payload
      | error error => exact inherited.throw _ rfl

theorem Inherited.sendHandshake (payload : Bytes) (encrypted : Bool) :
    P (sendHandshake payload encrypted) := by
  have send (payload : Bytes) : P
      (modify (record (.sent .handshake { encrypted, payload })) : Step φ ρ σ PUnit) :=
    inherited.update (tame_record (.sent .handshake { encrypted, payload }) trivial)
  cases encrypted with
  | true => exact inherited.bind (inherited.encrypt payload) send
  | false => exact inherited.bind (inherited.pure payload) send

end Inherited

end Channel

end CarPairing
