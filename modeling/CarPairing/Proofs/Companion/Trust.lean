import CarPairing.Proofs.Companion.Stages
import CarPairing.Proofs.Pairing.Stages

/-!
Whom a phone trusts and what it gives away. It is through only by a frame that
its head unit alone can have made, and it says who it is only then: an association
with an id under the key that the users have compared, a reconnection with a proof
of the previous key that is for its own conversation.
-/

namespace CarPairing.Companion

open Agreement

/-- The ways of a call: it fails, it goes on with the handshake, or the phone is
through by it. -/
inductive Turn (start : Phone) (calls : List Call) (phone : Phone) (call : Call) :
    Except ChannelError (List DeviceMessage) × Phone → Prop where
  | failed (error : ChannelError) (after : Phone) (kept : after.established = phone.established)
      (stage : Stage start (calls ++ [call]) after) : Turn start calls phone call (.error error, after)
  | requests (after : Phone) (asked : call = .start) (waiting : after.established = false)
      (stage : Stage start (calls ++ [call]) after) :
      Turn start calls phone call (.ok [clear (clientInitOf start.entropy)], after)
  | answers (message : DeviceMessage) (after : Phone) (handled : call = .handle message)
      (waiting : after.established = false) (stage : Stage start (calls ++ [call]) after) :
      Turn start calls phone call (.ok [clear (clientFinishOf start.entropy)], after)
  | proves (view : InitiatorView) (previous : Key) (frames : List DeviceMessage) (after : Phone)
      (bound : start.purpose = .reconnect previous) (waiting : after.established = false)
      (stage : Stage start (calls ++ [call]) after) : Turn start calls phone call (.ok frames, after)
  | accepts (after : Phone) (accepted : call = .accept) (waiting : after.established = false)
      (stage : Stage start (calls ++ [call]) after) : Turn start calls phone call (.ok [], after)
  | identifies (key : Key) (device car : Uuid) (secret : Bytes) (message frame : DeviceMessage)
      (after : Phone) (bound : start.purpose = .associate device secret)
      (unfinished : phone.established = false) (verified : Earlier start calls (Verifies key))
      (handled : call = .handle message) (encrypted : message.encrypted = true)
      (opens : Session.OpensTo key message.payload car.bytes) (sealing : frame.encrypted = true)
      (tells : Session.OpensTo key frame.payload (Identity.encode device secret))
      (named : after.carId = some car) (established : after.established = true)
      (stage : Stage start (calls ++ [call]) after) : Turn start calls phone call (.ok [frame], after)
  | resumes (view : InitiatorView) (previous : Key) (message : DeviceMessage) (after : Phone)
      (bound : start.purpose = .reconnect previous) (unfinished : phone.established = false)
      (drawn : view.entropy = start.entropy)
      (opened : Earlier start calls (Requests start.entropy))
      (proved : Earlier start calls (Proves previous view)) (handled : call = .handle message)
      (plain : message.encrypted = false)
      (proven : message.payload = resumeMac previous view.secrets.auth serverLabel)
      (speaks : Speaks (resumedKey previous view.secrets.next) after)
      (established : after.established = true) (stage : Stage start (calls ++ [call]) after) :
      Turn start calls phone call (.ok [], after)

section Turns

variable {start phone : Phone} {calls : List Call} {call : Call} {message : DeviceMessage}

theorem turn_fails (stage : Stage start calls phone) (fails : Fails call phone) :
    Turn start calls phone call (perform call phone) := by
  obtain ⟨error, ran⟩ := fails
  rw [ran]
  exact .failed error phone rfl (stage.more call)

theorem turn_fresh (fresh : Fresh start) (trace : List (Request × Answer))
    (reached : performAll calls start = { start with trace }) (call : Call) :
    Turn start calls { start with trace } call (perform call { start with trace }) := by
  have stage : Stage start calls { start with trace } := .fresh trace rfl
  have numeric : start.state ≠ .verificationNeeded := by simp [fresh.state]
  have outOfBand : start.state ≠ .oobVerificationNeeded := by simp [fresh.state]
  have early : start.state ≠ .inProgress := by simp [fresh.state]
  have verifies : start.state ≠ .resumingSession := by simp [fresh.state]
  cases call with
  | start =>
      have ran := start_exact { start with trace } fresh.state fresh.role fresh.idle
      have performed : perform .start { start with trace } =
          (.ok [clear (clientInitOf start.entropy)], requesting { start with trace }) := by
        rw [perform, ran]
        rfl
      have made : Requests start.entropy .start (performAll calls start) := by
        rw [Requests, reached, performed]
        exact ⟨rfl, rfl⟩
      rw [performed]
      exact .requests _ rfl fresh.waiting (.requested _ (earlier_last made) rfl)
  | handle message =>
      cases encrypted : message.encrypted with
      | true => exact turn_fails stage (fails_sealed fresh.waiting fresh.silent encrypted)
      | false => exact turn_fails stage (fails_clear fresh.waiting encrypted early verifies)
  | accept => exact turn_fails stage (fails_accept numeric outOfBand)

theorem turn_requested (fresh : Fresh start) (trace : List (Request × Answer))
    (opened : Earlier start calls (Requests start.entropy))
    (reached : performAll calls start = { requesting start with trace }) (call : Call) :
    Turn start calls { requesting start with trace } call
      (perform call { requesting start with trace }) := by
  have stage : Stage start calls { requesting start with trace } := .requested trace opened rfl
  cases call with
  | start => exact turn_fails stage (fails_start nofun)
  | accept => exact turn_fails stage (fails_accept nofun nofun)
  | handle message =>
  cases encrypted : message.encrypted with
  | true => exact turn_fails stage (fails_sealed fresh.waiting fresh.silent encrypted)
  | false =>
  have performed : perform (.handle message) { requesting start with trace } =
      handle (clear message.payload) { requesting start with trace } := handle_plain _ encrypted
  rw [performed]
  rcases answer_cases (requesting start).runner (.continue message.payload)
    (requesting start).entropy with granted | ⟨error, runner, refused, left⟩
  · obtain ⟨payload, same, -, framed⟩ := granted_of_opening granted rfl
    cases same
    let view : InitiatorView := ⟨start.entropy, message.payload, framed⟩
    cases purpose : start.purpose with
    | associate device secret =>
        have ran := handle_reply { requesting start with trace } view device secret fresh.waiting rfl
          purpose fresh.role (fresh.associates device secret purpose) rfl
        rw [show clear message.payload = clear view.serverInit from rfl, ran]
        exact .answers message _ rfl fresh.waiting
          (.comparing view device secret _ purpose rfl)
    | reconnect previous =>
        have ran := handle_reply_resuming { requesting start with trace } view previous fresh.waiting
          rfl purpose fresh.role (fresh.resumes previous purpose) rfl
        have made : Proves previous view (.handle message) (performAll calls start) := by
          rw [Proves, reached, performed]
          exact ⟨⟨message, rfl, encrypted, rfl⟩, congrArg Prod.fst ran⟩
        rw [show clear message.payload = clear view.serverInit from rfl, ran]
        exact .proves view previous _ _ purpose fresh.waiting
          (.proving view previous _ purpose rfl (opened.more _) (earlier_last made) rfl)
  · rw [handle_reply_refused { requesting start with trace } message.payload fresh.waiting rfl
      refused]
    rcases left with rfl | rfl
    · exact .failed _ _ rfl (.requested _ (opened.more _) rfl)
    · exact .failed _ _ rfl (.lost _ rfl)

-- A runner that was handed a wrong reply answers no other.
theorem turn_lost (fresh : Fresh start) (trace : List (Request × Answer)) (call : Call) :
    Turn start calls { unanswered (requesting start) with trace } call
      (perform call { unanswered (requesting start) with trace }) := by
  have stage : Stage start calls { unanswered (requesting start) with trace } := .lost trace rfl
  cases call with
  | start => exact turn_fails stage (fails_start nofun)
  | accept => exact turn_fails stage (fails_accept nofun nofun)
  | handle message =>
  cases encrypted : message.encrypted with
  | true => exact turn_fails stage (fails_sealed fresh.waiting fresh.silent encrypted)
  | false =>
  rw [perform, handle_plain _ encrypted]
  rcases answer_cases (unanswered (requesting start)).runner (.continue message.payload)
    (requesting start).entropy with granted | ⟨error, runner, refused, left⟩
  · exact absurd granted (not_granted_spent (Or.inr rfl))
  · rw [handle_reply_refused { unanswered (requesting start) with trace } message.payload
      fresh.waiting rfl refused]
    rcases left with rfl | rfl
    · exact .failed _ _ rfl (.lost _ rfl)
    · exact .failed _ _ rfl (.lost _ rfl)

theorem turn_comparing (fresh : Fresh start) (view : InitiatorView) (device : Uuid) (secret : Bytes)
    (trace : List (Request × Answer)) (bound : start.purpose = .associate device secret)
    (reached : performAll calls start = { comparing (requesting start) view with trace })
    (call : Call) :
    Turn start calls { comparing (requesting start) view with trace } call
      (perform call { comparing (requesting start) view with trace }) := by
  have stage : Stage start calls { comparing (requesting start) view with trace } :=
    .comparing view device secret trace bound rfl
  have awaits := awaited_cases start.runner
  cases call with
  | start =>
      exact turn_fails stage (fails_start (awaited_ne_unknown start.runner))
  | handle message =>
      cases encrypted : message.encrypted with
      | true => exact turn_fails stage (fails_sealed fresh.waiting fresh.silent encrypted)
      | false =>
          have early : start.runner.awaited ≠ .inProgress := by
            rcases awaits with same | same <;> rw [same] <;> exact nofun
          have verifies : start.runner.awaited ≠ .resumingSession := by
            rcases awaits with same | same <;> rw [same] <;> exact nofun
          exact turn_fails stage (fails_clear fresh.waiting encrypted early verifies)
  | accept =>
      have ran := accept_exact { comparing (requesting start) view with trace } view.secrets rfl rfl
      have performed : perform .accept { comparing (requesting start) view with trace } =
          (.ok [], accepting { comparing (requesting start) view with trace } view.secrets) := by
        rw [perform, ran]
        rfl
      have made : Verifies view.secrets.next .accept (performAll calls start) := by
        rw [Verifies, reached, performed, verify_exact _ view.secrets _ rfl]
        exact ⟨rfl, rfl, rfl⟩
      rw [performed]
      exact .accepts _ rfl fresh.waiting
        (.accepted view device secret _ bound (earlier_last made) rfl)

theorem turn_accepted (fresh : Fresh start) (view : InitiatorView) (device : Uuid) (secret : Bytes)
    (trace : List (Request × Answer)) (bound : start.purpose = .associate device secret)
    (verified : Earlier start calls (Verifies view.secrets.next)) (call : Call) :
    Turn start calls { accepting (comparing (requesting start) view) view.secrets with trace } call
      (perform call
        { accepting (comparing (requesting start) view) view.secrets with trace }) := by
  have stage : Stage start calls
      { accepting (comparing (requesting start) view) view.secrets with trace } :=
    .accepted view device secret trace bound verified rfl
  cases call with
  | start => exact turn_fails stage (fails_start nofun)
  | accept => exact turn_fails stage (fails_accept nofun nofun)
  | handle message =>
  cases encrypted : message.encrypted with
  | false => exact turn_fails stage (fails_clear fresh.waiting encrypted nofun nofun)
  | true =>
  let session := (Session.ofKey view.secrets.next (comparing (requesting start) view).entropy).1
  have made : session.Made view.secrets.next := Session.ofKey_made _ _
  have fresh_counter : session.counter ≠ Session.counterLimit := by
    rw [show session.counter = 0 from rfl]
    decide
  cases opens : session.unwrap message.payload with
  | error error =>
      have unopened : Companion.opened
          { accepting (comparing (requesting start) view) view.secrets with trace } message =
            .error (.invalidMessage error.message) := by
        rw [opened, if_pos encrypted, decrypted]
        simp only [accepting, session, opens] at opens ⊢
      exact turn_fails stage (fails_unopened fresh.waiting unopened)
  | ok plain =>
  cases named : Uuid.ofBytes? plain with
  | none =>
      have fails := handle_misnamed
        { accepting (comparing (requesting start) view) view.secrets with trace } message.payload
        session device secret fresh.waiting rfl bound rfl opens named
      rw [Fails, perform, ← handle_encrypted _ encrypted] at fails
      exact turn_fails stage fails
  | some car =>
      rw [Uuid.bytes_of_ofBytes named] at opens
      have ran := handle_carId
        { accepting (comparing (requesting start) view) view.secrets with trace } message.payload
        session car device secret fresh.waiting rfl bound rfl fresh_counter opens
      rw [perform, handle_encrypted _ encrypted, ran]
      exact .identifies view.secrets.next device car secret message _ _ bound fresh.waiting verified
        rfl encrypted (made.opensTo opens) rfl
        (made.seals (Session.wrap_fresh session _ fresh_counter)) rfl rfl (.through rfl rfl)

theorem turn_proving (fresh : Fresh start) (view : InitiatorView) (previous : Key)
    (trace : List (Request × Answer)) (bound : start.purpose = .reconnect previous)
    (drawn : view.entropy = start.entropy)
    (opened : Earlier start calls (Requests start.entropy))
    (proved : Earlier start calls (Proves previous view)) (call : Call) :
    Turn start calls { proving (requesting start) view previous with trace } call
      (perform call { proving (requesting start) view previous with trace }) := by
  have stage : Stage start calls { proving (requesting start) view previous with trace } :=
    .proving view previous trace bound drawn opened proved rfl
  cases call with
  | start => exact turn_fails stage (fails_start nofun)
  | accept => exact turn_fails stage (fails_accept nofun nofun)
  | handle message =>
  cases encrypted : message.encrypted with
  | true => exact turn_fails stage (fails_sealed fresh.waiting fresh.silent encrypted)
  | false =>
  rw [perform, handle_plain _ encrypted]
  rcases answer_cases (proving (requesting start) view previous).runner
    (.resume message.payload previous) (requesting start).entropy with
    granted | ⟨error, runner, refused, left⟩
  · rcases granted_of_resuming granted rfl with ⟨other, same, -⟩ | ⟨payload, other, same, proven⟩
    · cases same
    · cases same
      have server : message.payload = resumeMac previous view.secrets.auth serverLabel := by
        rw [proven, show (proving (requesting start) view previous).runner.role = .initiator from
          fresh.role]
        rfl
      rw [server, handle_proof { proving (requesting start) view previous with trace } previous
        view.secrets fresh.waiting rfl bound fresh.role rfl]
      exact .resumes view previous message _ bound fresh.waiting drawn opened proved rfl encrypted
        server ⟨rfl, _, rfl, Session.ofKey_made _ _⟩ rfl (.through rfl rfl)
  · rw [handle_proof_refused { proving (requesting start) view previous with trace }
      message.payload previous fresh.waiting rfl bound refused]
    rcases left with rfl | rfl
    · exact .failed _ _ rfl
        (.proving view previous _ bound drawn (opened.more _) (proved.more _) rfl)
    · exact .failed _ _ rfl (.refused view previous _ bound rfl)

-- A runner that was handed a wrong proof takes no other.
theorem turn_refused (fresh : Fresh start) (view : InitiatorView) (previous : Key)
    (trace : List (Request × Answer)) (bound : start.purpose = .reconnect previous) (call : Call) :
    Turn start calls { unanswered (proving (requesting start) view previous) with trace } call
      (perform call { unanswered (proving (requesting start) view previous) with trace }) := by
  have stage : Stage start calls
      { unanswered (proving (requesting start) view previous) with trace } :=
    .refused view previous trace bound rfl
  cases call with
  | start => exact turn_fails stage (fails_start nofun)
  | accept => exact turn_fails stage (fails_accept nofun nofun)
  | handle message =>
  cases encrypted : message.encrypted with
  | true => exact turn_fails stage (fails_sealed fresh.waiting fresh.silent encrypted)
  | false =>
  rw [perform, handle_plain _ encrypted]
  rcases answer_cases (unanswered (proving (requesting start) view previous)).runner
    (.resume message.payload previous) (requesting start).entropy with
    granted | ⟨error, runner, refused, left⟩
  · exact absurd granted (not_granted_spent (Or.inr rfl))
  · rw [handle_proof_refused { unanswered (proving (requesting start) view previous) with trace }
      message.payload previous fresh.waiting rfl bound refused]
    rcases left with rfl | rfl
    · exact .failed _ _ rfl (.refused view previous _ bound rfl)
    · exact .failed _ _ rfl (.refused view previous _ bound rfl)

theorem turn_through (established : phone.established = true) (finished : phone.state = .finished)
    (call : Call) : Turn start calls phone call (perform call phone) := by
  have stage : Stage start calls phone := .through established finished
  cases call with
  | start => exact turn_fails stage (fails_start (by simp [finished]))
  | accept => exact turn_fails stage (fails_accept (by simp [finished]) (by simp [finished]))
  | handle message => exact turn_fails stage (fails_through established)

/-- What a call does to a phone that is in one of the stages. -/
theorem stage_turn (fresh : Fresh start) (stage : Stage start calls phone)
    (reached : performAll calls start = phone) (call : Call) :
    Turn start calls phone call (perform call phone) := by
  cases stage with
  | fresh trace same => exact same ▸ turn_fresh fresh trace (reached.trans same) call
  | requested trace opened same =>
      exact same ▸ turn_requested fresh trace opened (reached.trans same) call
  | lost trace same => exact same ▸ turn_lost fresh trace call
  | comparing view device secret trace bound same =>
      exact same ▸ turn_comparing fresh view device secret trace bound (reached.trans same) call
  | accepted view device secret trace bound verified same =>
      exact same ▸ turn_accepted fresh view device secret trace bound verified call
  | proving view previous trace bound drawn opened proved same =>
      exact same ▸ turn_proving fresh view previous trace bound drawn opened proved call
  | refused view previous trace bound same =>
      exact same ▸ turn_refused fresh view previous trace bound call
  | through established finished => exact turn_through established finished call

theorem Turn.stage {outcome : Except ChannelError (List DeviceMessage)} {after : Phone}
    (turn : Turn start calls phone call (outcome, after)) : Stage start (calls ++ [call]) after := by
  cases turn with
  | failed error _ kept stage => exact stage
  | requests _ asked waiting stage => exact stage
  | answers message _ handled waiting stage => exact stage
  | proves view previous frames _ bound waiting stage => exact stage
  | accepts _ accepted waiting stage => exact stage
  | identifies key device car secret message frame _ bound unfinished verified handled encrypted
      opens sealing tells named established stage => exact stage
  | resumes view previous message _ bound unfinished drawn opened proved handled plain proven
      speaks established stage => exact stage

-- By induction over the calls, the last one apart.
theorem stage_reached (fresh : Fresh start) (calls : List Call) :
    Stage start calls (performAll calls start) := by
  induction calls using List.reverseRecOn with
  | nil => exact .fresh start.trace rfl
  | append_singleton sooner call ih =>
      have turn := stage_turn fresh ih rfl call
      rw [performAll_append]
      exact turn.stage

end Turns

theorem fresh_associate (runner : Agreement) (role : runner.role = .initiator)
    (idle : runner.phase = .idle) (device : Uuid) (secret : Bytes) (entropy : Entropy) :
    Fresh (associate runner device secret entropy) :=
  ⟨role, idle, rfl, rfl, rfl, fun _ _ _ => rfl, nofun⟩

theorem fresh_reconnect (runner : Agreement) (role : runner.role = .initiator)
    (idle : runner.phase = .idle) (previous : Key) (entropy : Entropy) :
    Fresh (reconnect runner previous entropy) :=
  ⟨role, idle, rfl, rfl, rfl, nofun, fun _ _ => rfl⟩

/-- Whatever calls were made. A phone that associates is through only by a sealed
frame that opens to the id of the head unit under the key of an earlier acceptance,
and answers that with its identity under the same key; no other call returns more
than the first frame or the key message. A phone that reconnects is through only by
the proof of the previous key for its own conversation, after it has given its own
proof, and then with the resumed key. -/
theorem trusts_only_proven_car (runner : Agreement) (role : runner.role = .initiator)
    (idle : runner.phase = .idle) (entropy : Entropy) (sooner : List Call) (call : Call) :
    (∀ device secret,
      let start : Phone := associate runner device secret entropy
      let turn := perform call (performAll sooner start)
      if (performAll sooner start).established = false ∧ turn.2.established = true then
        ∃ key message car frame, Earlier start sooner (Verifies key) ∧ call = .handle message ∧
          message.encrypted = true ∧ Session.OpensTo key message.payload car.bytes ∧
          turn.2.carId = some car ∧ turn.1 = .ok [frame] ∧ frame.encrypted = true ∧
          Session.OpensTo key frame.payload (Identity.encode device secret)
      else
        ∀ frames, turn.1 = .ok frames → frames = [] ∨
          call = .start ∧ frames = [clear (clientInitOf entropy)] ∨
          (∃ message, call = .handle message) ∧ frames = [clear (clientFinishOf entropy)]) ∧
    ∀ previous,
      let start : Phone := reconnect runner previous entropy
      let turn := perform call (performAll sooner start)
      (performAll sooner start).established = false → turn.2.established = true →
        ∃ view message, view.entropy = entropy ∧ Earlier start sooner (Requests entropy) ∧
          Earlier start sooner (Proves previous view) ∧ call = .handle message ∧
          message.payload = resumeMac previous view.secrets.auth serverLabel ∧
          Speaks (resumedKey previous view.secrets.next) turn.2 := by
  constructor
  · intro device secret start turn
    have fresh := fresh_associate runner role idle device secret entropy
    have turned : Turn start sooner (performAll sooner start) call turn :=
      stage_turn fresh (stage_reached fresh sooner) rfl call
    generalize turn = came at turned ⊢
    cases turned with
    | failed error after kept stage =>
        have unchanged : ¬((performAll sooner start).established = false ∧
            after.established = true) := by
          rw [kept]
          simp
        rw [if_neg unchanged]
        exact nofun
    | requests after asked waiting stage =>
        simp only [waiting, Bool.false_eq_true, and_false, if_false]
        rintro frames ⟨⟩
        exact Or.inr (Or.inl ⟨asked, rfl⟩)
    | answers message after handled waiting stage =>
        simp only [waiting, Bool.false_eq_true, and_false, if_false]
        rintro frames ⟨⟩
        exact Or.inr (Or.inr ⟨⟨message, handled⟩, rfl⟩)
    | proves view previous frames after bound waiting stage => cases bound
    | accepts after accepted waiting stage =>
        simp only [waiting, Bool.false_eq_true, and_false, if_false]
        rintro frames ⟨⟩
        exact Or.inl rfl
    | identifies key device' car secret' message frame after bound unfinished verified handled
        encrypted opens sealing tells named established stage =>
        cases bound
        rw [if_pos ⟨unfinished, established⟩]
        exact ⟨key, message, car, frame, verified, handled, encrypted, opens, named, rfl, sealing,
          tells⟩
    | resumes view previous message after bound => cases bound
  · intro previous start turn unfinished established
    have fresh := fresh_reconnect runner role idle previous entropy
    have turned : Turn start sooner (performAll sooner start) call turn :=
      stage_turn fresh (stage_reached fresh sooner) rfl call
    generalize turn = came at turned established ⊢
    have waits {after : Phone} (waiting : after.established = false) :
        after.established ≠ true := by simp [waiting]
    cases turned with
    | failed error after kept stage => exact absurd established (waits (kept.trans unfinished))
    | requests after asked waiting stage => exact absurd established (waits waiting)
    | answers message after handled waiting stage => exact absurd established (waits waiting)
    | proves view other frames after bound waiting stage => exact absurd established (waits waiting)
    | accepts after accepted waiting stage => exact absurd established (waits waiting)
    | identifies key device car secret message frame after bound => cases bound
    | resumes view other message after bound unfinished drawn opened proved handled plain proven
        speaks =>
        cases bound
        exact ⟨view, message, drawn, opened, proved, handled, proven, speaks⟩

-- The calls of a pairing, the last of which takes the id of the head unit.
theorem trusts_only_proven_car_paired :
    let pairing : Pairing :=
      { outOfBand := false, digits := 6, carReconnecting := false, phoneReconnecting := true
        carEntropy := { byteAt := fun _ => 1 }, phoneEntropy := { byteAt := fun _ => 2 }, now := 0
        subscription := .lifecycle, device := ⟨List.replicate 16 3, rfl⟩, secret := [4] }
    let sooner : List Call := [.start, .handle pairing.reply, .accept]
    let call : Call := .handle (pairing.carIdFrame Uuid.nil)
    let phone := performAll sooner pairing.phoneAtStart
    phone.established = false ∧ (perform call phone).2.established = true ∧
      ∃ key car, Earlier pairing.phoneAtStart sooner (Verifies key) ∧
        (perform call phone).2.carId = some car ∧
        Session.OpensTo key (pairing.carIdFrame Uuid.nil).payload car.bytes := by
  intro pairing
  clear_value pairing
  intro sooner call phone
  have reached : phone = pairing.phoneAccepted := by
    simp only [phone, sooner, performAll, List.foldl, perform, pairing.phone_starts,
      pairing.phone_compares, pairing.phone_accepts]
  have turned : perform call pairing.phoneAccepted =
      (.ok [pairing.identityFrame], pairing.phoneIdentified Uuid.nil) :=
    pairing.phone_identifies Uuid.nil
  have unfinished : phone.established = false := by
    rw [reached]
    rfl
  have established : (perform call phone).2.established = true := by
    rw [reached, turned]
    rfl
  have trusts := (trusts_only_proven_car
    { pairing.runner .initiator with reconnecting := pairing.phoneReconnecting } rfl rfl
    pairing.phoneEntropy sooner call).1 pairing.device pairing.secret
  dsimp only at trusts
  rw [if_pos ⟨unfinished, established⟩] at trusts
  obtain ⟨key, message, car, frame, verified, handled, -, opens, named, -⟩ := trusts
  rw [← Call.handle.inj handled] at opens
  exact ⟨unfinished, established, key, car, verified, named, opens⟩

end CarPairing.Companion
