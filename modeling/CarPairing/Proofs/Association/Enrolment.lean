import CarPairing.Channel.Association
import CarPairing.Proofs.Channel.Notices

/-!
The identity message stores a device: its key, then its secret, and the key
taken back if the secret is refused. What the storage goes through depends on
the answers of the storage alone, so it is stated apart from the channel.
-/

namespace CarPairing

/-- The device is named to the application, or something is written about it. -/
def Event.Binds : Event → Prop
  | .stored (.saveKey ..) _ => True
  | .stored (.saveSecret ..) _ => True
  | .notified (.deviceId _) => True
  | _ => False

variable {ρ σ : Type} [KeyStorage σ]

/-- The calls that store a device, by the call that was refused if one was:
the calls in their order, the storage after them and their outcome. -/
inductive Enrolled (storage : σ) (now : Int) (id : String) (key : Key) (secret : Bytes) :
    List Event → σ → Except StoreError Unit → Prop where
  | unchecked (error : StoreError) (after : σ)
      (checked : KeyStorage.checkSecret storage secret = (.error error, after)) :
      Enrolled storage now id key secret [.stored (.checkSecret secret) (.error error)] after
        (.error error)
  | unkeyed (error : StoreError) (passed after : σ)
      (checked : KeyStorage.checkSecret storage secret = (.ok (), passed))
      (keyed : KeyStorage.saveKey passed now id key = (.error error, after)) :
      Enrolled storage now id key secret
        [.stored (.checkSecret secret) (.ok ()), .stored (.key id) (.ok ()),
          .stored (.saveKey id key) (.error error)] after (.error error)
  | restored (error : StoreError) (passed written refused after : σ) (previous : Key)
      (outcome : Except StoreError Unit)
      (checked : KeyStorage.checkSecret storage secret = (.ok (), passed))
      (keyed : KeyStorage.saveKey passed now id key = (.ok (), written))
      (kept : KeyStorage.saveSecret written now id secret = (.error error, refused))
      (had : KeyStorage.key? passed id = some previous)
      (undone : KeyStorage.saveKey refused now id previous = (outcome, after)) :
      Enrolled storage now id key secret
        [.stored (.checkSecret secret) (.ok ()), .stored (.key id) (.ok ()),
          .stored (.saveKey id key) (.ok ()), .stored (.saveSecret id secret) (.error error),
          .stored (.saveKey id previous) outcome] after (.error error)
  | removed (error : StoreError) (passed written refused after : σ)
      (outcome : Except StoreError Bool)
      (checked : KeyStorage.checkSecret storage secret = (.ok (), passed))
      (keyed : KeyStorage.saveKey passed now id key = (.ok (), written))
      (kept : KeyStorage.saveSecret written now id secret = (.error error, refused))
      (had : KeyStorage.key? passed id = none)
      (undone : KeyStorage.remove refused id = (outcome, after)) :
      Enrolled storage now id key secret
        [.stored (.checkSecret secret) (.ok ()), .stored (.key id) (.ok ()),
          .stored (.saveKey id key) (.ok ()), .stored (.saveSecret id secret) (.error error),
          .stored (.remove id) (outcome.map fun _ => ())] after (.error error)
  | stored (passed written after : σ)
      (checked : KeyStorage.checkSecret storage secret = (.ok (), passed))
      (keyed : KeyStorage.saveKey passed now id key = (.ok (), written))
      (kept : KeyStorage.saveSecret written now id secret = (.ok (), after)) :
      Enrolled storage now id key secret
        [.stored (.checkSecret secret) (.ok ()), .stored (.key id) (.ok ()),
          .stored (.saveKey id key) (.ok ()), .stored (.saveSecret id secret) (.ok ())] after (.ok ())

-- A secret that passes the check lets the key be written, for better or worse.
theorem Enrolled.writes {storage after : σ} {now : Int} {id : String} {key : Key} {secret : Bytes}
    {events : List Event} {outcome : Except StoreError Unit}
    (enrolled : Enrolled storage now id key secret events after outcome)
    (passes : (KeyStorage.checkSecret storage secret).1 = .ok ()) :
    ∃ answer, .stored (.saveKey id key) answer ∈ events := by
  cases enrolled with
  | unchecked error _ checked => simp [checked] at passes
  | unkeyed error passed _ checked keyed => exact ⟨.error error, by simp⟩
  | _ => exact ⟨.ok (), by simp⟩

namespace Association

open Channel

variable {ρ σ : Type}

/-- The key is given up before the message is looked at. -/
def released (channel : Channel Association ρ σ) : Channel Association ρ σ :=
  { channel with flavor := { channel.flavor with pending := none } }

theorem released_grown (kind : Event → Prop) (channel : Channel Association ρ σ) :
    Grown kind channel (released channel) :=
  .same rfl

def enrolling (channel : Channel Association ρ σ) (id : String) (events : List Event)
    (storage : σ) : Channel Association ρ σ :=
  let told := (released channel).announced id
  { told with storage, trace := events.reverse ++ told.trace }

theorem enrolling_frame (channel : Channel Association ρ σ) (id : String) (events : List Event)
    (storage : σ) :
    ∃ identified trace, enrolling channel id events storage = { channel with
      flavor := { channel.flavor with pending := none }, storage, identified, trace } := by
  obtain ⟨identified, trace, same⟩ := announced_frame id (released channel)
  refine ⟨identified, events.reverse ++ trace, ?_⟩
  rw [enrolling, same]
  rfl

theorem enrolling_grown (channel : Channel Association ρ σ) (id : String) (events : List Event)
    (storage : σ) :
    Grown (fun event => event ∈ events ∨ event = .notified (.deviceId id) ∧
      channel.subscription.hears (.deviceId id) = true) channel
      (enrolling channel id events storage) := by
  have told := (announced_grown id (released channel)).mono
    fun event notice => (Or.inr notice : event ∈ events ∨ _)
  refine ((released_grown _ channel).trans told).trans ⟨events.reverse, rfl, ?_⟩
  intro event member
  exact Or.inl (List.mem_reverse.mp member)

def enrolled (channel : Channel Association ρ σ) (device : Uuid) (events : List Event)
    (storage : σ) : Except StoreError Unit → Except ChannelError Unit × Channel Association ρ σ
  | .error error => (.error (.storage error), enrolling channel device.toText events storage)
  | .ok () =>
      let stored := enrolling channel device.toText events storage
      (.ok (), { stored with flavor := { stored.flavor with deviceId := some device } }.concluded)

variable [KeyStorage σ]

theorem processIdentity_idle (message : Bytes) (channel : Channel Association ρ σ)
    (none : channel.flavor.pending = none) :
    (processIdentity message).run channel =
      (.error (.invalidState "device id received without a verified key"), channel) := by
  rw [processIdentity, Step.run_bind, Step.run_get]
  simp only [none]
  exact Step.run_throw _ _

theorem processIdentity_garbled (message : Bytes) (channel : Channel Association ρ σ)
    (key : Key) (held : channel.flavor.pending = some key) (error : IdentityError)
    (garbled : Identity.decode message = .error error) :
    (processIdentity message).run channel =
      (.error (.invalidDeviceId error.message), released channel) := by
  rw [processIdentity, Step.run_bind, Step.run_get]
  simp only [held]
  rw [Step.run_bind_ok _ (Step.run_modify _ _)]
  simp only [garbled]
  exact Step.run_throw _ _

/-- What is left to do once the device is announced. -/
def storing (device : Uuid) (key : Key) (secret : Bytes) : Step ρ σ Unit := do
  accepted (← checkSecret secret)
  let previous ← storedKey? device.toText
  accepted (← saveKey device.toText key)
  match ← saveSecret device.toText secret with
  | .error error =>
      rollBack device.toText previous
      throw (.storage error)
  | .ok () =>
      modify fun channel =>
        { channel with flavor := { channel.flavor with deviceId := some device } }
      notifyEstablished

theorem processIdentity_announces (message : Bytes) (channel : Channel Association ρ σ)
    (key : Key) (held : channel.flavor.pending = some key) (device : Uuid) (secret : Bytes)
    (decoded : Identity.decode message = .ok (device, secret)) :
    (processIdentity message).run channel =
      (storing device key secret).run ((released channel).announced device.toText) := by
  have release : (modify fun channel =>
      { channel with flavor := { channel.flavor with pending := none } } : Step ρ σ PUnit).run
        channel = (.ok ⟨⟩, released channel) := rfl
  have announce : (notifyDeviceId device.toText : Step ρ σ Unit).run (released channel) =
      (.ok (), (released channel).announced device.toText) := rfl
  rw [processIdentity, Step.run_bind, Step.run_get]
  simp only [held]
  rw [Step.run_bind_ok _ release]
  simp only [decoded]
  rw [Step.run_bind_ok _ announce]
  rfl

-- Whether the rollback goes through or not, its outcome is only on record.
theorem run_rollBack_key {id : String} {previous : Key} {outcome : Except StoreError Unit}
    {after : σ} (channel : Channel Association ρ σ)
    (undone : KeyStorage.saveKey channel.storage channel.now id previous = (outcome, after)) :
    (rollBack id (some previous) : Step ρ σ Unit).run channel =
      (.ok (), { channel with
        storage := after
        trace := .stored (.saveKey id previous) outcome :: channel.trace }) := by
  rw [rollBack, Step.run_bind_ok _ (run_saveKey _ undone)]
  cases outcome <;> rfl

theorem run_rollBack_device {id : String} {outcome : Except StoreError Bool} {after : σ}
    (channel : Channel Association ρ σ)
    (undone : KeyStorage.remove channel.storage id = (outcome, after)) :
    (rollBack id none : Step ρ σ Unit).run channel =
      (.ok (), { channel with
        storage := after
        trace := .stored (.remove id) (outcome.map fun _ => ()) :: channel.trace }) := by
  rw [rollBack, Step.run_bind_ok _ (run_forget _ undone)]
  rfl

/-- The key is taken back where its secret was refused. -/
theorem run_refused {told : Channel Association ρ σ} {id : String} {key : Key} {secret : Bytes}
    {error : StoreError} {passed written refused : σ}
    (checked : KeyStorage.checkSecret told.storage secret = (.ok (), passed))
    (keyed : KeyStorage.saveKey passed told.now id key = (.ok (), written))
    (kept : KeyStorage.saveSecret written told.now id secret = (.error error, refused)) :
    ∃ events after, Enrolled told.storage told.now id key secret events after (.error error) ∧
      ((do
        rollBack id (KeyStorage.key? passed id)
        throw (.storage error)) : Step ρ σ Unit).run
          { told with
            storage := refused
            trace := [.stored (.saveSecret id secret) (.error error),
              .stored (.saveKey id key) (.ok ()), .stored (.key id) (.ok ()),
              .stored (.checkSecret secret) (.ok ())] ++ told.trace } =
        (.error (.storage error),
          { told with storage := after, trace := events.reverse ++ told.trace }) := by
  cases had : KeyStorage.key? passed id with
  | some previous =>
      cases undone : KeyStorage.saveKey refused told.now id previous with
      | mk outcome after =>
      refine ⟨_, after,
        .restored error passed written refused after previous outcome checked keyed kept had undone, ?_⟩
      rw [Step.run_bind_ok _ (run_rollBack_key _ undone)]
      rfl
  | none =>
      cases undone : KeyStorage.remove refused id with
      | mk outcome after =>
      refine ⟨_, after,
        .removed error passed written refused after outcome checked keyed kept had undone, ?_⟩
      rw [Step.run_bind_ok _ (run_rollBack_device _ undone)]
      rfl

theorem run_storing (channel : Channel Association ρ σ) (key : Key) (device : Uuid)
    (secret : Bytes) {told : Channel Association ρ σ}
    (telling : (released channel).announced device.toText = told) :
    ∃ events storage outcome,
      Enrolled told.storage told.now device.toText key secret events storage outcome ∧
      (storing device key secret).run told = enrolled channel device events storage outcome := by
  rw [storing]
  cases checked : KeyStorage.checkSecret told.storage secret with
  | mk outcome passed =>
  rw [Step.run_bind_ok _ (run_checkSecret _ checked)]
  cases outcome with
  | error error =>
      refine ⟨_, passed, .error error, .unchecked error passed checked, ?_⟩
      simp only [accepted, enrolled, enrolling, telling]
      rfl
  | ok =>
  rw [accepted, Step.run_bind_ok _ (Step.run_pure _ _), Step.run_bind_ok _ (run_storedKey _ _)]
  cases keyed : KeyStorage.saveKey passed told.now device.toText key with
  | mk outcome written =>
  rw [Step.run_bind_ok _ (run_saveKey _ keyed)]
  cases outcome with
  | error error =>
      refine ⟨_, written, .error error, .unkeyed error passed written checked keyed, ?_⟩
      simp only [accepted, enrolled, enrolling, telling]
      rfl
  | ok =>
  rw [accepted, Step.run_bind_ok _ (Step.run_pure _ _)]
  cases kept : KeyStorage.saveSecret written told.now device.toText secret with
  | mk outcome left =>
  rw [Step.run_bind_ok _ (run_saveSecret _ kept)]
  cases outcome with
  | ok =>
      refine ⟨_, left, .ok (), .stored passed written left checked keyed kept, ?_⟩
      simp only [enrolled, enrolling, telling]
      rfl
  | error error =>
      obtain ⟨events, after, enrols, ran⟩ := run_refused checked keyed kept
      refine ⟨events, after, .error error, enrols, ?_⟩
      simp only [enrolled, enrolling, telling]
      exact ran

theorem run_processIdentity (message : Bytes) (channel : Channel Association ρ σ)
    (key : Key) (held : channel.flavor.pending = some key) (device : Uuid) (secret : Bytes)
    (decoded : Identity.decode message = .ok (device, secret)) :
    ∃ events storage outcome,
      Enrolled channel.storage channel.now device.toText key secret events storage outcome ∧
      (processIdentity message).run channel = enrolled channel device events storage outcome := by
  have sameStorage := announced_storage device.toText (released channel)
  have sameNow := announced_now device.toText (released channel)
  obtain ⟨events, storage, outcome, enrols, ran⟩ := run_storing channel key device secret rfl
  rw [sameStorage, sameNow] at enrols
  rw [processIdentity_announces message channel key held device secret decoded]
  exact ⟨events, storage, outcome, enrols, ran⟩

/-- The ways of an identity message: no key is held, the message cannot be
read, or the device is enrolled, for better or worse. -/
inductive IdentityRun (message : Bytes) (channel : Channel Association ρ σ) :
    Except ChannelError Unit × Channel Association ρ σ → Prop where
  | idle (unheld : channel.flavor.pending = none) :
      IdentityRun message channel
        (.error (.invalidState "device id received without a verified key"), channel)
  | garbled (key : Key) (error : IdentityError) (held : channel.flavor.pending = some key)
      (unread : Identity.decode message = .error error) :
      IdentityRun message channel (.error (.invalidDeviceId error.message), released channel)
  | enrols (key : Key) (device : Uuid) (secret : Bytes) (events : List Event) (storage : σ)
      (outcome : Except StoreError Unit) (held : channel.flavor.pending = some key)
      (decoded : Identity.decode message = .ok (device, secret))
      (stores : Enrolled channel.storage channel.now device.toText key secret events storage
        outcome) :
      IdentityRun message channel (enrolled channel device events storage outcome)

theorem processIdentity_cases (message : Bytes) (channel : Channel Association ρ σ) :
    IdentityRun message channel ((processIdentity message).run channel) := by
  cases held : channel.flavor.pending with
  | none =>
      rw [processIdentity_idle message channel held]
      exact .idle held
  | some key =>
      cases decoded : Identity.decode message with
      | error error =>
          rw [processIdentity_garbled message channel key held error decoded]
          exact .garbled key error held decoded
      | ok identity =>
          obtain ⟨device, secret⟩ := identity
          obtain ⟨events, storage, outcome, stores, ran⟩ :=
            run_processIdentity message channel key held device secret decoded
          rw [ran]
          exact .enrols key device secret events storage outcome held decoded stores

-- However an identity message goes, it is the last.
theorem identity_settled (payload : Bytes) (channel : Channel Association ρ σ) :
    (channel.settle (processIdentity payload)).lifecycle ≠ .active := by
  have run := processIdentity_cases payload channel
  unfold settle
  generalize (processIdentity payload).run channel = ran at run ⊢
  cases run with
  | idle unheld => exact fail_settled _ _
  | garbled key error held unread => exact fail_settled _ _
  | enrols key device secret events storage outcome held decoded stores =>
      cases outcome with
      | error error => exact fail_settled _ _
      | ok => exact concluded_settled _

/-- An event that an identity message brought about. -/
inductive Identifies (channel : Channel Association ρ σ) (payload : Bytes) (event : Event) :
    Prop where
  | intro (key : Key) (device : Uuid) (secret : Bytes) (events : List Event) (storage : σ)
      (outcome : Except StoreError Unit) (active : channel.lifecycle = .active)
      (finished : channel.state = .finished) (held : channel.flavor.pending = some key)
      (decoded : Identity.decode payload = .ok (device, secret))
      (enrolled : Enrolled channel.storage channel.now device.toText key secret events storage
        outcome)
      (made : event ∈ events ∨ event = .notified (.deviceId device.toText) ∧
        channel.subscription.hears (.deviceId device.toText) = true)

-- In the state that waits for it, an identity message makes only its own
-- binding events.
theorem identity_grown (payload : Bytes) (channel : Channel Association ρ σ)
    (active : channel.lifecycle = .active) (finished : channel.state = .finished) :
    Grown (fun event => event.Binds → Identifies channel payload event) channel
      (channel.settle (processIdentity payload)) := by
  have unbound (event : Event) (unbinding : ¬event.Binds) :
      event.Binds → Identifies channel payload event :=
    fun binds => absurd binds unbinding
  have run := processIdentity_cases payload channel
  unfold settle
  generalize (processIdentity payload).run channel = ran at run ⊢
  cases run with
  | idle unheld => exact fail_grown _ channel (unbound _ not_false) (unbound _ not_false)
  | garbled key error held unread =>
      exact (Grown.same rfl).trans (fail_grown _ _ (unbound _ not_false) (unbound _ not_false))
  | enrols key device secret events storage outcome held decoded stores =>
      have grown : Grown (fun event => event.Binds → Identifies channel payload event) channel
          (enrolling channel device.toText events storage) := by
        refine (enrolling_grown channel device.toText events storage).mono ?_
        intro event made binds
        exact .intro key device secret events storage outcome active finished held decoded stores
          made
      cases outcome with
      | error error =>
          exact grown.trans (fail_grown _ _ (unbound _ not_false) (unbound _ not_false))
      | ok => exact (grown.trans (.same rfl)).trans (concluded_grown _ (unbound _ not_false))

-- What an identity message certainly does, however it ends: every call of the
-- enrolment, and the application is told the device once.
theorem identity_news (payload : Bytes) (channel : Channel Association ρ σ) (key : Key)
    (held : channel.flavor.pending = some key) (device : Uuid) (secret : Bytes)
    (decoded : Identity.decode payload = .ok (device, secret)) :
    ∃ events storage outcome,
      Enrolled channel.storage channel.now device.toText key secret events storage outcome ∧
      ∀ event, event ∈ events ∨ event ∈ news (released channel)
          ((released channel).announced device.toText) →
        event ∈ news channel (channel.settle (processIdentity payload)) := by
  obtain ⟨events, storage, outcome, enrols, ran⟩ :=
    run_processIdentity payload channel key held device secret decoded
  refine ⟨events, storage, outcome, enrols, ?_⟩
  intro event made
  have told : Grown (fun _ => True) channel ((released channel).announced device.toText) :=
    (released_grown _ channel).trans (announced_grown device.toText (released channel)).any
  have stored : news ((released channel).announced device.toText)
      (enrolling channel device.toText events storage) = events := by
    rw [news_of_trace _ _ events.reverse rfl, List.reverse_reverse]
  have enrolling_news : event ∈ news channel (enrolling channel device.toText events storage) := by
    rw [news_append told ⟨events.reverse, rfl, fun _ _ => trivial⟩, stored]
    rcases made with member | notice
    · exact List.mem_append_right _ member
    · exact List.mem_append_left _ notice
  have whole : Grown (fun _ => True) channel (enrolling channel device.toText events storage) :=
    told.trans ⟨events.reverse, rfl, fun _ _ => trivial⟩
  have last : Grown (fun _ => True) (enrolling channel device.toText events storage)
      (channel.settle (processIdentity payload)) := by
    cases outcome with
    | error error =>
        rw [settle_error ran]
        exact fail_grown _ _ trivial trivial
    | ok =>
        rw [settle_ok ran]
        exact (Grown.same rfl).trans (concluded_grown _ trivial)
  rw [news_append whole last]
  exact List.mem_append_left _ enrolling_news

end Association

end CarPairing
