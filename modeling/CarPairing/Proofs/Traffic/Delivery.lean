import CarPairing.Proofs.Pairing.Completion
import CarPairing.Proofs.Resumption.Chain
import CarPairing.Proofs.Traffic.Speaking

/-!
Messages of the applications between two ends that speak one key. What is between
the ends may lose frames, swap them and deliver them again. The nonce travels with
each frame, so that does no harm: whatever arrives is heard as it was said.
-/

namespace CarPairing.Traffic

open Channel

/-- A message as the application gave it, and the frame that it left in. -/
structure Parcel where
  given : DeviceMessage
  frame : DeviceMessage

/-- Two ends and what has passed between them. -/
structure Talk (φ ρ σ ρ' : Type) where
  car : Channel φ ρ σ
  phone : Companion ρ'
  /-- Everything that has left for the head unit, whatever has become of it. -/
  toCar : List Parcel := []
  toPhone : List Parcel := []
  /-- The messages that the head unit has sent, by its own account. -/
  said : List DeviceMessage := []
  /-- What has arrived at the head unit, in the order in which it did. -/
  heard : List Parcel := []
  /-- What has arrived at the phone, with what it was opened to. -/
  opened : List (Parcel × Except ChannelError Bytes) := []

inductive Move where
  | carSends (message : DeviceMessage)
  | phoneSends (recipient : Option Uuid) (payload : Bytes)
  /-- Any frame that has ever left may arrive. -/
  | carReceives (index : Nat)
  | phoneReceives (index : Nat)

/-- The messages that a channel has put on its wire. -/
def clientFrames (events : List Event) : List DeviceMessage :=
  events.filterMap fun
    | .sent .client message => some message
    | _ => none

section System

variable {φ ρ σ ρ' : Type} [Flavor φ] [Runner ρ] [KeyStorage σ]

def step (talk : Talk φ ρ σ ρ') : Move → Talk φ ρ σ ρ'
  | .carSends message =>
      let (outcome, car) := talk.car.send message
      { talk with
        car
        toPhone := talk.toPhone ++ (clientFrames (news talk.car car)).map (Parcel.mk message)
        said := match outcome with
          | .ok () => talk.said ++ [message]
          | .error _ => talk.said }
  | .phoneSends recipient payload =>
      match talk.phone.wrap recipient payload with
      | (.ok frame, phone) =>
          { talk with
            phone
            toCar := talk.toCar ++ [⟨{ recipient, encrypted := true, payload }, frame⟩] }
      | (.error _, phone) => { talk with phone }
  | .carReceives index =>
      match talk.toCar[index]? with
      | none => talk
      | some parcel =>
          { talk with
            car := talk.car.receive parcel.frame .client
            heard := talk.heard ++ [parcel] }
  | .phoneReceives index =>
      match talk.toPhone[index]? with
      | none => talk
      | some parcel =>
          { talk with opened := talk.opened ++ [(parcel, talk.phone.unwrap parcel.frame)] }

def run (moves : List Move) (talk : Talk φ ρ σ ρ') : Talk φ ρ σ ρ' :=
  moves.foldl step talk

/-- Every message that the head unit sent has left in one frame. Every arrival at
the head unit has made one callback, with what was given to the phone, and every
arrival at the phone has opened to what was given to the head unit. -/
structure Faithful (car : Channel φ ρ σ) (talk : Talk φ ρ σ ρ') : Prop where
  departed : talk.toPhone.map Parcel.given = talk.said
  heard : notices (news car talk.car) = talk.heard.map fun parcel => .message parcel.given
  opened : ∀ delivery ∈ talk.opened, delivery.2 = .ok delivery.1.given.payload

end System

/-! ## Frames that either end can open -/

/-- The frame says what was given, to whoever has a session made from the key. -/
structure Parcel.Opens (key : Key) (parcel : Parcel) : Prop where
  recipient : parcel.frame.recipient = parcel.given.recipient
  encrypted : parcel.frame.encrypted = parcel.given.encrypted
  bare : parcel.given.encrypted = false → parcel.frame.payload = parcel.given.payload
  sealing : parcel.given.encrypted = true →
    Session.OpensTo key parcel.frame.payload parcel.given.payload

variable {φ ρ σ ρ' : Type} {key : Key} {parcel : Parcel}

theorem opened_car {car : Channel φ ρ σ} (speaks : Channel.Speaks key car)
    (opens : parcel.Opens key) : car.opened parcel.frame = .ok parcel.given.payload := by
  obtain ⟨session, installed, made⟩ := speaks
  rw [Channel.opened, opens.encrypted]
  cases encrypted : parcel.given.encrypted with
  | false =>
      rw [opens.bare encrypted]
      rfl
  | true => simp only [installed, opens.sealing encrypted session made, if_true]

theorem opened_phone {phone : Companion ρ'} (speaks : Companion.Speaks key phone)
    (established : phone.established = true) (opens : parcel.Opens key) :
    phone.unwrap parcel.frame = .ok parcel.given.payload := by
  obtain ⟨session, installed, made⟩ := speaks.sealing
  rw [Companion.unwrap, if_pos established]
  simp only [installed]
  rw [Companion.opened, opens.encrypted]
  cases encrypted : parcel.given.encrypted with
  | false =>
      rw [opens.bare encrypted]
      rfl
  | true =>
      simp only [Companion.decrypted, installed, opens.sealing encrypted session made, if_true]

/-! ## What each end does -/

-- A message that is sent leaves in one frame, one that is not leaves in none.
theorem frames_sent {message : DeviceMessage} {car after : Channel φ ρ σ} {session : Session}
    {outcome : Except ChannelError Unit} (made : session.Made key)
    (sent : Sent message car session (outcome, after)) :
    (outcome = .ok () ∧ ∃ frame, clientFrames (news car after) = [frame] ∧
      Parcel.Opens key ⟨message, frame⟩) ∨
    (∃ error, outcome = .error error) ∧ clientFrames (news car after) = [] := by
  generalize same : (outcome, after) = ran at sent
  cases sent with
  | plain bare =>
      cases same
      refine Or.inl ⟨rfl, message, ?_, rfl, rfl, fun _ => rfl, ?_⟩
      · rw [news_of_trace car (car.record _) [_] rfl]
        rfl
      · intro encrypted
        rw [bare] at encrypted
        cases encrypted
  | wrapped encrypted payload left wraps =>
      cases same
      refine Or.inl ⟨rfl, { message with payload }, ?_, rfl, rfl, ?_, ?_⟩
      · rw [news_of_trace car { car with session := some left, trace := _ :: car.trace } [_] rfl]
        rfl
      · intro bare
        rw [encrypted] at bare
        cases bare
      · exact fun _ => made.seals wraps
  | spent error left wraps =>
      cases same
      refine Or.inr ⟨⟨_, rfl⟩, ?_⟩
      rw [news_of_trace car { car with session := some left } [] rfl]
      rfl

-- Nothing is told where nothing but other events has happened.
theorem notices_quiet {before after : Channel φ ρ σ}
    (quiet : Grown (fun event => ∀ notice, event ≠ .notified notice) before after) :
    notices (news before after) = [] := by
  apply List.filterMap_eq_nil_iff.mpr
  intro event member
  have untold := quiet.mem_news member
  cases event with
  | notified notice => exact absurd rfl (untold notice)
  | _ => rfl

theorem phone_wraps (recipient : Option Uuid) (payload : Bytes) {phone after : Companion ρ'}
    {outcome : Except ChannelError DeviceMessage} (established : phone.established = true)
    (speaks : Companion.Speaks key phone)
    (wrapped : phone.wrap recipient payload = (outcome, after)) :
    after.established = true ∧ Companion.Speaks key after ∧ ∀ frame, outcome = .ok frame →
      Parcel.Opens key ⟨{ recipient, encrypted := true, payload }, frame⟩ := by
  obtain ⟨has, session, installed, made⟩ := speaks
  have later := made.wrap payload
  have passes : (Companion.requireEstablished : Companion.Step ρ' Unit).run phone =
      (.ok (), phone) := by
    rw [Companion.requireEstablished, Step.run_bind, Step.run_get]
    simp only [established, if_true]
    rfl
  cases wraps : session.wrap payload with
  | mk sealing left =>
  rw [wraps] at later
  rw [Companion.wrap, Companion.sealMessage, Step.run_bind_ok _ passes, Step.run_bind,
    Companion.run_encrypt_wrapped payload phone installed wraps] at wrapped
  cases sealing with
  | error error =>
      cases wrapped
      exact ⟨established, ⟨has, left, rfl, later⟩, nofun⟩
  | ok wire =>
      cases wrapped
      refine ⟨established, ⟨has, left, rfl, later⟩, ?_⟩
      intro frame given
      cases given
      exact ⟨rfl, rfl, nofun, fun _ => made.seals wraps⟩

variable [Flavor φ] [Runner ρ] [KeyStorage σ]

theorem car_hears {car : Channel φ ρ σ} (established : car.lifecycle = .established)
    (listening : car.subscription = .everything) (speaks : Channel.Speaks key car)
    (opens : parcel.Opens key) :
    car.receive parcel.frame .client = car.record (.notified (.message parcel.given)) := by
  have living : car.lifecycle ≠ .failed := by
    rw [established]
    exact nofun
  have same : { parcel.frame with payload := parcel.given.payload } = parcel.given := by
    dsimp only
    rw [opens.recipient, opens.encrypted]
  have hears : car.subscription.hears (.message parcel.given) = true := by
    rw [listening]
    rfl
  rw [receive, if_neg living, opened_car speaks opens]
  simp only [if_pos established, same]
  exact if_pos hears

/-! ## The talk as a whole -/

section Whole

/-- Both ends are established with one session key, and the application at the
head unit listens to messages. -/
structure Ends (key : Key) (car : Channel φ ρ σ) (phone : Companion ρ') : Prop where
  carEstablished : car.lifecycle = .established
  listening : car.subscription = .everything
  carSpeaks : Channel.Speaks key car
  phoneEstablished : phone.established = true
  phoneSpeaks : Companion.Speaks key phone

/-- The ends are as they have to be, and so is every frame that has left. -/
structure Joined (key : Key) (car : Channel φ ρ σ) (talk : Talk φ ρ σ ρ') : Prop where
  ends : Ends key talk.car talk.phone
  toCar : ∀ parcel ∈ talk.toCar, parcel.Opens key
  toPhone : ∀ parcel ∈ talk.toPhone, parcel.Opens key
  grown : Grown (fun _ => True) car talk.car
  faithful : Faithful car talk

variable {car : Channel φ ρ σ} {talk : Talk φ ρ σ ρ'}

omit [Flavor φ] [Runner ρ] [KeyStorage σ] in
theorem Ends.send {phone : Companion ρ'} (ends : Ends key car phone) (message : DeviceMessage) :
    Ends key (car.send message).2 phone := by
  have speaks := ends.carSpeaks.send message ends.carEstablished
  obtain ⟨moved, trace, frame⟩ := send_frame message car
  rw [frame] at speaks ⊢
  exact ⟨ends.carEstablished, ends.listening, speaks, ends.phoneEstablished, ends.phoneSpeaks⟩

theorem joined_carSends (message : DeviceMessage) (joined : Joined key car talk) :
    Joined key car (step talk (.carSends message)) := by
  obtain ⟨session, installed, made⟩ := joined.ends.carSpeaks
  have ends := joined.ends.send message
  have sent := send_cases message joined.ends.carEstablished installed
  have quiet : Grown (fun event => ∀ notice, event ≠ .notified notice) talk.car
      (talk.car.send message).2 := send_grown message talk.car fun _ => nofun
  have heard : notices (news car (talk.car.send message).2) =
      talk.heard.map fun parcel => .message parcel.given := by
    rw [news_append joined.grown quiet.any, notices, List.filterMap_append]
    exact (congrArg _ (notices_quiet quiet)).trans
      ((List.append_nil _).trans joined.faithful.heard)
  cases ran : talk.car.send message with
  | mk outcome after =>
  rw [ran] at ends quiet sent heard
  simp only [step, ran]
  rcases frames_sent made sent with ⟨rfl, wire, left, opens⟩ | ⟨⟨error, rfl⟩, nothing⟩
  · rw [left]
    refine ⟨ends, joined.toCar, ?_, joined.grown.trans quiet.any, ?_, heard,
      joined.faithful.opened⟩
    · intro parcel member
      rcases List.mem_append.mp member with old | new
      · exact joined.toPhone parcel old
      · rw [List.mem_singleton.mp new]
        exact opens
    · exact List.map_append.trans (congrArg (· ++ [message]) joined.faithful.departed)
  · rw [nothing, List.map_nil, List.append_nil]
    exact ⟨ends, joined.toCar, joined.toPhone, joined.grown.trans quiet.any,
      joined.faithful.departed, heard, joined.faithful.opened⟩

theorem joined_phoneSends (recipient : Option Uuid) (payload : Bytes)
    (joined : Joined key car talk) :
    Joined key car (step talk (.phoneSends recipient payload)) := by
  obtain ⟨carEstablished, listening, carSpeaks, phoneEstablished, phoneSpeaks⟩ := joined.ends
  obtain ⟨departed, heard, opened⟩ := joined.faithful
  cases wrapped : talk.phone.wrap recipient payload with
  | mk outcome after =>
  obtain ⟨established, speaks, opens⟩ :=
    phone_wraps recipient payload phoneEstablished phoneSpeaks wrapped
  have ends : Ends key talk.car after :=
    ⟨carEstablished, listening, carSpeaks, established, speaks⟩
  cases outcome with
  | error error =>
      simp only [step, wrapped]
      exact ⟨ends, joined.toCar, joined.toPhone, joined.grown, departed, heard, opened⟩
  | ok frame =>
      simp only [step, wrapped]
      refine ⟨ends, ?_, joined.toPhone, joined.grown, departed, heard, opened⟩
      intro parcel member
      rcases List.mem_append.mp member with old | new
      · exact joined.toCar parcel old
      · rw [List.mem_singleton.mp new]
        exact opens frame rfl

theorem joined_carReceives (index : Nat) (joined : Joined key car talk) :
    Joined key car (step talk (.carReceives index)) := by
  cases found : talk.toCar[index]? with
  | none =>
      simp only [step, found]
      exact joined
  | some parcel =>
      obtain ⟨carEstablished, listening, carSpeaks, phoneEstablished, phoneSpeaks⟩ := joined.ends
      obtain ⟨departed, heard, opened⟩ := joined.faithful
      have opens := joined.toCar parcel (List.mem_of_getElem? found)
      have took := car_hears carEstablished listening carSpeaks opens
      have recorded : Grown (fun _ => True) talk.car
          (talk.car.record (.notified (.message parcel.given))) := .one rfl trivial
      simp only [step, found, took]
      refine ⟨⟨carEstablished, listening, carSpeaks, phoneEstablished, phoneSpeaks⟩, joined.toCar,
        joined.toPhone, joined.grown.trans recorded, departed, ?_, opened⟩
      rw [news_append joined.grown recorded, notices, List.filterMap_append, List.map_append,
        news_of_trace talk.car (talk.car.record _) [_] rfl]
      exact congrArg (· ++ [Notice.message parcel.given]) heard

theorem joined_phoneReceives (index : Nat) (joined : Joined key car talk) :
    Joined key car (step talk (.phoneReceives index)) := by
  cases found : talk.toPhone[index]? with
  | none =>
      simp only [step, found]
      exact joined
  | some parcel =>
      have opens := joined.toPhone parcel (List.mem_of_getElem? found)
      have took := opened_phone joined.ends.phoneSpeaks joined.ends.phoneEstablished opens
      obtain ⟨departed, heard, opened⟩ := joined.faithful
      simp only [step, found]
      refine ⟨joined.ends, joined.toCar, joined.toPhone, joined.grown, departed, heard, ?_⟩
      intro delivery member
      rcases List.mem_append.mp member with old | new
      · exact opened delivery old
      · rw [List.mem_singleton.mp new]
        exact took

theorem joined_run (moves : List Move) (talk : Talk φ ρ σ ρ') (joined : Joined key car talk) :
    Joined key car (run moves talk) := by
  induction moves generalizing talk with
  | nil => exact joined
  | cons move rest ih =>
      apply ih
      cases move with
      | carSends message => exact joined_carSends message joined
      | phoneSends recipient payload => exact joined_phoneSends recipient payload joined
      | carReceives index => exact joined_carReceives index joined
      | phoneReceives index => exact joined_phoneReceives index joined

theorem faithful_run {phone : Companion ρ'} (ends : Ends key car phone) (moves : List Move) :
    Faithful car (run moves { car, phone }) := by
  have start : Joined key car { car, phone } := by
    refine ⟨ends, nofun, nofun, .refl _ car, rfl, ?_, nofun⟩
    rw [news_same]
    rfl
  exact (joined_run moves _ start).faithful

end Whole

/-! ## Ends that a handshake has made -/

section Made

omit [Flavor φ] [Runner ρ]

-- Both ways of getting there leave the two ends with one key.
theorem associated_ends (pairing : Pairing) (storage kept : σ) (code : String) (id : Uuid)
    (listening : pairing.subscription = .everything) :
    Ends pairing.secrets.next (pairing.exchange storage code id kept .associated).car
      (pairing.exchange storage code id kept .associated).phone :=
  ⟨rfl, listening, ⟨_, rfl, _, _, rfl⟩, rfl, ⟨rfl, _, rfl, _, _, rfl⟩⟩

omit [KeyStorage σ] in
theorem resumed_ends (round : Resumption.Round) (id : String) (previous : Key)
    (storage kept : σ) (listening : round.subscription = .everything) :
    let last := round.carLast id previous (.ok ()) storage kept
    Ends (round.nextKey previous) (round.line previous id storage last .resumed).car
      (round.line previous id storage last .resumed).phone := by
  intro last
  rw [show last = _ from round.carLast_ok id previous storage kept]
  exact ⟨rfl, listening, ⟨_, rfl, _, _, rfl⟩, rfl, ⟨rfl, _, rfl, _, _, rfl⟩⟩

end Made

/-- Whatever was done to an end and whatever its runner and its storage said, once
it is established it has a session made from a key. And between two ends that are
established with one key, every run delivers every message as it was given, in
whatever order the frames arrive and however often. -/
theorem messages_survive_any_delivery {ρ σ ρ' : Type} [Runner ρ] [KeyStorage σ] [Runner ρ'] :
    (∀ (runner : ρ) (storage : σ) entropy now calls,
      Channel.Keyed (Association.performAll calls
        (make ({} : Association) runner storage entropy now))) ∧
    (∀ (runner : ρ) (storage : σ) device entropy now calls,
      Channel.Keyed (Reconnect.performAll calls
        (Reconnect.paired runner device storage entropy now))) ∧
    (∀ (runner : ρ') device secret entropy calls, Companion.Keyed
      (Companion.performAll calls (Companion.associate runner device secret entropy))) ∧
    (∀ (runner : ρ') previous entropy calls, Companion.Keyed
      (Companion.performAll calls (Companion.reconnect runner previous entropy))) ∧
    ∀ (φ : Type) [Flavor φ] (key : Key) (car : Channel φ ρ σ) (phone : Companion ρ'),
      Ends key car phone → ∀ moves, Faithful car (run moves { car, phone }) := by
  refine ⟨?_, ?_, ?_, ?_, ?_⟩
  · intro runner storage entropy now calls
    exact Association.performAll_keyed calls (.free rfl nofun nofun) nofun
  · intro runner storage device entropy now calls
    exact Reconnect.performAll_keyed calls nofun
  · intro runner device secret entropy calls
    exact Companion.performAll_keyed calls _ (.bare rfl rfl rfl)
  · intro runner previous entropy calls
    exact Companion.performAll_keyed calls _ (.bare rfl rfl rfl)
  · intro φ _ key car phone ends moves
    exact faithful_run ends moves

-- The ends of a pairing, and those of a reconnection, with frames that arrive twice
-- and in another order.
theorem messages_survive_any_delivery_paired :
    let pairing : Pairing :=
      { outOfBand := false, digits := 6, carReconnecting := false, phoneReconnecting := true
        carEntropy := { byteAt := fun _ => 1 }, phoneEntropy := { byteAt := fun _ => 2 }, now := 0
        subscription := .everything, device := ⟨List.replicate 16 3, rfl⟩, secret := [4] }
    let exchange := pairing.exchange ({} : MemoryStorage) "000000" Uuid.nil {} .associated
    let round := { Resumption.Round.plain with subscription := .everything }
    let key := Resumption.fives
    let line := round.line key "phone" ({} : MemoryStorage)
      (round.carLast "phone" key (.ok ()) {} {}) .resumed
    let moves : List Move :=
      [.carSends { encrypted := true, payload := [1] }, .phoneSends none [2],
        .carSends { encrypted := false, payload := [3] }, .phoneSends (some Uuid.nil) [],
        .phoneReceives 1, .carReceives 1, .carReceives 0, .phoneReceives 1, .carReceives 1]
    (Ends pairing.secrets.next exchange.car exchange.phone ∧
      Faithful exchange.car (run moves { car := exchange.car, phone := exchange.phone })) ∧
    Ends (round.nextKey key) line.car line.phone ∧
      Faithful line.car (run moves { car := line.car, phone := line.phone }) := by
  intro pairing exchange round key line moves
  have ends : Ends pairing.secrets.next exchange.car exchange.phone :=
    associated_ends pairing _ _ _ _ rfl
  have resumed : Ends (round.nextKey key) line.car line.phone :=
    resumed_ends round "phone" key _ _ rfl
  obtain ⟨-, -, -, -, faithful⟩ :=
    @messages_survive_any_delivery Agreement MemoryStorage Agreement _ _ _
  exact ⟨⟨ends, faithful Association _ _ _ ends moves⟩,
    resumed, faithful Reconnect _ _ _ resumed moves⟩

end CarPairing.Traffic
