import CarPairing.Companion
import CarPairing.Proofs.Association.Stages

/-!
An association step by step when every step goes through: the channel after
each call in full.
-/

namespace CarPairing.Association

open Channel Agreement

section Frames

variable {ρ σ : Type} [Runner ρ] [KeyStorage σ] (channel : Channel Association ρ σ)

theorem handshake_unknown (payload : Bytes) (active : channel.lifecycle = .active)
    (state : channel.state = .unknown) :
    channel.handshake payload =
      (channel.record (.frame payload)).settle (processInit payload) := by
  have here : (channel.record (.frame payload)).state = .unknown := state
  rw [handshake_active channel payload active, settle_process]
  simp only [here]

theorem handshake_inProgress (payload : Bytes) (active : channel.lifecycle = .active)
    (state : channel.state = .inProgress) :
    channel.handshake payload =
      (channel.record (.frame payload)).settle (processFinish payload) := by
  have here : (channel.record (.frame payload)).state = .inProgress := state
  rw [handshake_active channel payload active, settle_process]
  simp only [here]

theorem handshake_finished (payload : Bytes) (active : channel.lifecycle = .active)
    (state : channel.state = .finished) :
    channel.handshake payload =
      (channel.record (.frame payload)).settle (processIdentity payload) := by
  have here : (channel.record (.frame payload)).state = .finished := state
  rw [handshake_active channel payload active, settle_process]
  simp only [here]

-- What an identity that is taken while a key is held certainly brings about.
theorem identity_made (payload : Bytes) (key : Key) (device : Uuid) (secret : Bytes)
    (active : channel.lifecycle = .active) (state : channel.state = .finished)
    (held : channel.flavor.pending = some key)
    (decoded : Identity.decode payload = .ok (device, secret)) :
    ((KeyStorage.checkSecret channel.storage secret).1 = .ok () →
        ∃ outcome, .stored (.saveKey device.toText key) outcome ∈
          news channel (channel.handshake payload)) ∧
      (channel.identified = false → channel.subscription.hears (.deviceId device.toText) = true →
        .notified (.deviceId device.toText) ∈ news channel (channel.handshake payload)) := by
  rw [handshake_finished channel payload active state]
  have framed : Grown (fun _ => True) channel (channel.record (.frame payload)) := .one rfl trivial
  have rest : Grown (fun _ => True) (channel.record (.frame payload))
      ((channel.record (.frame payload)).settle (processIdentity payload)) :=
    (identity_grown payload (channel.record (.frame payload)) active state).any
  obtain ⟨events, storage, outcome, enrols, made⟩ :=
    identity_news payload (channel.record (.frame payload)) key held device secret decoded
  rw [news_append framed rest]
  constructor
  · intro passes
    obtain ⟨answer, member⟩ := enrols.writes passes
    exact ⟨answer, List.mem_append_right _ (made _ (Or.inl member))⟩
  · intro unidentified hears
    have told := announced_news device.toText (released (channel.record (.frame payload))) active
      unidentified hears
    exact List.mem_append_right _ (made _ (Or.inr told))

end Frames

variable {σ : Type} [KeyStorage σ] (car : Car σ)

theorem request_exact (payload : Bytes) (active : car.lifecycle = .active)
    (state : car.state = .unknown) (role : car.runner.role = .responder)
    (idle : car.runner.phase = .idle) (framed : Framed payload clientInitSize) :
    car.handshake payload = afterInit (car.record (.frame payload)) payload := by
  rw [handshake_unknown car payload active state]
  exact settle_ok (processInit_replies payload (car.record (.frame payload)) role idle framed)

theorem finish_shows (view : ResponderView) (code : String) (active : car.lifecycle = .active)
    (state : car.state = .inProgress) (role : car.runner.role = .responder)
    (verifies : car.runner.reconnecting = false)
    (sent : car.runner.phase = replied view.entropy view.clientInit)
    (shows : car.runner.code? view.secrets = some code)
    (listening : car.flavor.listening = true) :
    car.handshake view.clientFinish =
      (atCode (car.record (.frame view.clientFinish)) view).record (.codeShown code) := by
  rw [handshake_inProgress car view.clientFinish active state]
  have ran := run_processFinish view code (car.record (.frame view.clientFinish)) role verifies
    sent shows
  have heard : (atCode (car.record (.frame view.clientFinish)) view).flavor.listening = true :=
    listening
  rw [run_showCode, if_pos heard] at ran
  exact settle_ok ran

theorem accept_exact (secrets : Secrets) (id : Uuid) (active : car.lifecycle = .active)
    (listening : car.flavor.listening = true)
    (waiting : car.runner.phase = .awaitingVerification secrets)
    (given : (KeyStorage.uniqueId car.storage (holding car secrets).entropy).1 = .ok id) :
    accept car = afterAccept car secrets id := by
  rw [accept, if_pos active]
  exact settle_ok (acceptCode_sends car secrets id listening waiting given)

-- A storage that refuses nothing leaves one way for an enrolment to go.
theorem enrolled_stored {storage passed written kept after : σ} {now : Int} {id : String}
    {key : Key} {secret : Bytes} {events : List Event} {outcome : Except StoreError Unit}
    (enrolled : Enrolled storage now id key secret events after outcome)
    (checks : KeyStorage.checkSecret storage secret = (.ok (), passed))
    (keys : KeyStorage.saveKey passed now id key = (.ok (), written))
    (keeps : KeyStorage.saveSecret written now id secret = (.ok (), kept)) :
    events = [.stored (.checkSecret secret) (.ok ()), .stored (.key id) (.ok ()),
        .stored (.saveKey id key) (.ok ()), .stored (.saveSecret id secret) (.ok ())] ∧
      after = kept ∧ outcome = .ok () := by
  cases enrolled with
  | unchecked error _ checked => simp [checks] at checked
  | unkeyed error passed' _ checked keyed =>
      obtain rfl : passed = passed' := by simpa [checks] using checked
      simp [keys] at keyed
  | restored error passed' written' refused _ previous answer checked keyed kept' had undone =>
      obtain rfl : passed = passed' := by simpa [checks] using checked
      obtain rfl : written = written' := by simpa [keys] using keyed
      simp [keeps] at kept'
  | removed error passed' written' refused _ answer checked keyed kept' had undone =>
      obtain rfl : passed = passed' := by simpa [checks] using checked
      obtain rfl : written = written' := by simpa [keys] using keyed
      simp [keeps] at kept'
  | stored passed' written' _ checked keyed kept' =>
      obtain rfl : passed = passed' := by simpa [checks] using checked
      obtain rfl : written = written' := by simpa [keys] using keyed
      obtain rfl : kept = after := by simpa [keeps] using kept'
      exact ⟨rfl, rfl, rfl⟩

theorem identity_exact (payload : Bytes) (key : Key) (device : Uuid) (secret : Bytes)
    (passed written kept : σ) (active : car.lifecycle = .active) (state : car.state = .finished)
    (held : car.flavor.pending = some key)
    (decoded : Identity.decode payload = .ok (device, secret))
    (checks : KeyStorage.checkSecret car.storage secret = (.ok (), passed))
    (keys : KeyStorage.saveKey passed car.now device.toText key = (.ok (), written))
    (keeps : KeyStorage.saveSecret written car.now device.toText secret = (.ok (), kept)) :
    car.handshake payload =
      (enrolled (car.record (.frame payload)) device
        [.stored (.checkSecret secret) (.ok ()), .stored (.key device.toText) (.ok ()),
          .stored (.saveKey device.toText key) (.ok ()),
          .stored (.saveSecret device.toText secret) (.ok ())] kept (.ok ())).2 := by
  rw [handshake_finished car payload active state]
  obtain ⟨events, storage, outcome, enrols, ran⟩ :=
    run_processIdentity payload (car.record (.frame payload)) key held device secret decoded
  obtain ⟨rfl, rfl, rfl⟩ := enrolled_stored enrols checks keys keeps
  exact settle_ok ran

/-- The channel established with a device, the application having heard of it. -/
def associated (device : Uuid) (key : Key) (secret : Bytes) (kept : σ) : Car σ :=
  { car with
    flavor := { car.flavor with pending := none, deviceId := some device }
    storage := kept
    lifecycle := .established
    identified := true
    trace := [.notified .established, .stored (.saveSecret device.toText secret) (.ok ()),
      .stored (.saveKey device.toText key) (.ok ()), .stored (.key device.toText) (.ok ()),
      .stored (.checkSecret secret) (.ok ()), .notified (.deviceId device.toText)] ++ car.trace }

theorem identity_associates (payload : Bytes) (key : Key) (device : Uuid) (secret : Bytes)
    (passed written kept : σ) (active : car.lifecycle = .active) (state : car.state = .finished)
    (held : car.flavor.pending = some key) (unidentified : car.identified = false)
    (listens : car.subscription ≠ .nothing)
    (decoded : Identity.decode payload = .ok (device, secret))
    (checks : KeyStorage.checkSecret car.storage secret = (.ok (), passed))
    (keys : KeyStorage.saveKey passed car.now device.toText key = (.ok (), written))
    (keeps : KeyStorage.saveSecret written car.now device.toText secret = (.ok (), kept)) :
    car.handshake payload = associated (car.record (.frame payload)) device key secret kept := by
  have hears : car.subscription.hears (.deviceId device.toText) = true ∧
      car.subscription.hears .established = true :=
    ⟨Subscription.hears_handshake listens not_false, Subscription.hears_handshake listens not_false⟩
  rw [identity_exact car payload key device secret passed written kept active state held decoded
    checks keys keeps]
  simp only [enrolled, enrolling, announced, concluded, released, associated, notify, record,
    active, unidentified, hears, and_self, if_true, List.reverse_cons, List.reverse_nil,
    List.nil_append, List.cons_append]

/-- The calls up to the acceptance of a pairing with an honest peer. -/
def untilAccepted (peer : Entropy) : List Call :=
  [.listen true, .receive (Companion.clear (clientInitOf peer)) .handshake,
    .receive (Companion.clear (clientFinishOf peer)) .handshake, .accept]

-- They end in the state that waits for the identity of the peer, with the
-- agreed key in hand.
theorem performAll_untilAccepted (runner : Agreement) (role : runner.role = .responder)
    (idle : runner.phase = .idle) (storage : σ) (own peer : Entropy) (now : Int)
    (gives : ∀ entropy, ∃ id, (KeyStorage.uniqueId storage entropy).1 = .ok id) :
    ∃ entropy, ∃ car, performAll (untilAccepted peer) (unpaired runner storage own now) = car ∧
      car.lifecycle = .active ∧ car.state = .finished ∧
      car.flavor.pending = some (honestResponder own peer).secrets.next ∧
      car.subscription = .nothing ∧
      car.storage = (KeyStorage.uniqueId storage entropy).2.1 := by
  let view := honestResponder own peer
  obtain ⟨code, shows⟩ := code_exists (verifying runner) view.secrets
  let heard := setListener true (unpaired runner storage own now)
  have request := request_exact heard view.clientInit rfl rfl role idle view.framedInit
  let asked := afterInit (heard.record (.frame view.clientInit)) view.clientInit
  have finish := finish_shows asked view code rfl rfl role rfl rfl shows rfl
  let shown := (atCode (asked.record (.frame view.clientFinish)) view).record (.codeShown code)
  obtain ⟨id, given⟩ := gives (holding shown view.secrets).entropy
  have accepted := accept_exact shown view.secrets id rfl rfl rfl given
  refine ⟨(holding shown view.secrets).entropy, afterAccept shown view.secrets id, ?_, rfl, rfl,
    rfl, rfl, rfl⟩
  have first : heard.receive (Companion.clear view.clientInit) .handshake = asked :=
    (receive_clear heard view.clientInit (not_failed_of_active rfl)).trans request
  have second : asked.receive (Companion.clear view.clientFinish) .handshake = shown :=
    (receive_clear asked view.clientFinish (not_failed_of_active rfl)).trans finish
  change accept ((heard.receive (Companion.clear view.clientInit) .handshake).receive
    (Companion.clear view.clientFinish) .handshake) = _
  rw [first, second, accepted]

end CarPairing.Association
