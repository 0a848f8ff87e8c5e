import CarPairing.Proofs.Association.Stages
import CarPairing.Proofs.Traffic.Spoken

/-!
What the head unit says while it pairs: its reply to a request, then its id, for
which the user has to accept the code, and only then what the application has to
say. The storage may refuse whatever it likes, and the peer may send anything.
-/

namespace CarPairing.Association

open Channel Agreement

section Steps

variable {ρ σ : Type} {first : DeviceMessage} {Due : DeviceMessage → Prop}
variable {car : Channel Association ρ σ}

section Identity

variable [KeyStorage σ]

theorem enrolled_unsent {storage after : σ} {now : Int} {id : String} {key : Key} {secret : Bytes}
    {events : List Event} {outcome : Except StoreError Unit}
    (enrolled : Enrolled storage now id key secret events after outcome) :
    ∀ event ∈ events, event.Unsent := by
  cases enrolled <;> simp [Event.Unsent, Event.sent?]

theorem enrolling_unsent {device : Uuid} {key : Key} {secret : Bytes} {events : List Event}
    {storage : σ} {outcome : Except StoreError Unit}
    (enrols : Enrolled car.storage car.now device.toText key secret events storage outcome) :
    outbound (enrolling car device.toText events storage) = outbound car := by
  apply outbound_unsent
  refine (enrolling_grown car device.toText events storage).mono ?_
  rintro event (member | ⟨rfl, -⟩)
  · exact enrolled_unsent enrols event member
  · rfl

-- The identity message is answered by nothing, whatever comes of it.
theorem spokenStep_identity (payload : Bytes) (spoken : Spoken first Due car)
    (active : car.lifecycle = .active) (finished : car.state = .finished) :
    SpokenStep first Due car ((car.record (.frame payload)).settle (processIdentity payload)) := by
  have run := processIdentity_cases payload (car.record (.frame payload))
  unfold settle
  generalize (processIdentity payload).run (car.record (.frame payload)) = ran at run ⊢
  cases run with
  | idle => exact .failed spoken (failedSilently_fail _ active rfl)
  | garbled => exact .failed spoken (failedSilently_fail _ active rfl)
  | enrols key device secret events storage outcome held decoded stores =>
      let stored := enrolling (car.record (.frame payload)) device.toText events storage
      have same : outbound stored = outbound car := enrolling_unsent stores
      have kept : stored.lifecycle = .active ∧ stored.session = car.session := by
        obtain ⟨identified, trace, frame⟩ :=
          enrolling_frame (car.record (.frame payload)) device.toText events storage
        simp only [stored, frame]
        exact ⟨active, rfl⟩
      cases outcome with
      | error error => exact .failed spoken (failedSilently_fail _ kept.1 same)
      | ok =>
          let named := { stored with flavor := { stored.flavor with deviceId := some device } }
          have quiet : outbound named.concluded = outbound named :=
            outbound_unsent (concluded_grown named rfl)
          have session : named.concluded.session = stored.session := by
            obtain ⟨lifecycle, trace, frame⟩ := concluded_frame named
            rw [frame]
          exact .conclude spoken active finished (quiet.trans same) (session.trans kept.2)
            (concluded_settled named)

end Identity

variable [Runner ρ]

theorem careful_processInit (message : Bytes) : Careful (processInit message : Step ρ σ Unit) := by
  apply careful_bind (emits_demand _ fun _ => rfl)
  intro response
  cases response.next with
  | none => exact careful_throw _
  | some reply => exact careful_bind (emits_setState _) fun _ => careful_sendHandshake _ _

theorem spokenStep_finish (payload : Bytes) (spoken : Spoken first Due car)
    (active : car.lifecycle = .active) (state : car.state = .inProgress) :
    SpokenStep first Due car ((car.record (.frame payload)).settle (processFinish payload)) := by
  have completed := processFinish_completed payload (car.record (.frame payload))
  apply settle_cases
  · intro error after ran
    rw [ran] at completed
    cases completed with
    | refused error runner entropy state answer reached =>
        exact .failed spoken (failedSilently_fail error active rfl)
  · intro after ran
    rw [ran] at completed
    cases completed with
    | shown code runner entropy next answer reached =>
        refine .proceed spoken active ?_ rfl rfl rfl ⟨?_, ?_⟩
        · rw [state]
          exact ⟨nofun, nofun⟩
        · rintro (unknown : next = .unknown)
          rw [unknown] at reached
          cases reached
        · rintro (finished : next = .finished)
          rw [finished] at reached
          cases reached

variable [KeyStorage σ]

theorem careful_acceptCode : Careful (acceptCode : Step ρ σ Unit) := by
  apply careful_bind emits_get
  intro channel
  split
  · apply careful_bind (emits_ask _ fun _ => rfl)
    intro answer
    split
    · exact careful_throw _
    · split
      · split
        · exact careful_throw _
        · apply careful_bind (emits_setState _)
          intro _
          apply careful_bind (emits_installKey _)
          intro _
          refine careful_bind (emits_modify _ fun _ => .same rfl) fun _ => ?_
          apply careful_bind (emits_callStorage _ _ fun _ => rfl)
          intro outcome
          apply careful_bind (emits_accepted _)
          intro id
          exact careful_sendHandshake _ _
      · exact careful_throw _
  · exact careful_throw _

end Steps

variable {σ : Type} [KeyStorage σ] {car : Car σ}

/-- The user's acceptance is taken: the runner gives up the agreed key, the
storage gives an id, and the id goes out sealed under the key. -/
structure Accepts (car : Car σ) (secrets : Secrets) (id : Uuid) (frame : DeviceMessage) : Prop where
  listening : car.flavor.listening = true
  verified : (Runner.answer car.runner .verify car.entropy).1 =
    .ok { state := .finished, key := some secrets.next }
  given : (KeyStorage.uniqueId car.storage (holding car secrets).entropy).1 = .ok id
  events : news car (perform .accept car) =
    [.asked .verify (.ok { state := .finished, key := some secrets.next }),
      .stored .uniqueId (.ok ()), .sent .handshake frame]
  unaddressed : frame.recipient = none
  encrypted : frame.encrypted = true
  size : frame.payload.length = 44
  opens : Session.OpensTo secrets.next frame.payload id.bytes

/-- One of the calls was an acceptance, and the frame is what it has sent. -/
def Accepted (start : Car σ) (calls : List Call) (frame : DeviceMessage) : Prop :=
  ∃ sooner later secrets id, calls = sooner ++ .accept :: later ∧
    Accepts (performAll sooner start) secrets id frame

theorem Accepted.later {start : Car σ} {calls : List Call} {frame : DeviceMessage}
    (accepted : Accepted start calls frame) (more : List Call) :
    Accepted start (calls ++ more) frame := by
  obtain ⟨sooner, later, secrets, id, rfl, accepts⟩ := accepted
  exact ⟨sooner, later ++ more, secrets, id, List.append_assoc .., accepts⟩

/-- The id of the head unit on its way. -/
def identification (car : Car σ) (secrets : Secrets) (id : Uuid) : DeviceMessage :=
  let session := (Session.ofKey secrets.next car.entropy).1
  { encrypted := true
    payload := session.nonce ++ Aead.encrypt session.key.bytes session.nonce id.bytes }

theorem accepts_exact (secrets : Secrets) (id : Uuid) (active : car.lifecycle = .active)
    (listening : car.flavor.listening = true)
    (waiting : car.runner.phase = .awaitingVerification secrets)
    (given : (KeyStorage.uniqueId car.storage (holding car secrets).entropy).1 = .ok id)
    (ran : (acceptCode : Step Agreement σ Unit).run car = (.ok (), afterAccept car secrets id)) :
    Accepts car secrets id (identification car secrets id) := by
  have reached : perform .accept car = afterAccept car secrets id := by
    rw [perform, accept, if_pos active]
    exact settle_ok ran
  have made := Session.ofKey_made secrets.next car.entropy
  have unspent := Session.ofKey_unspent secrets.next car.entropy
  refine ⟨listening, ?_, given, ?_, rfl, rfl, ?_, ?_⟩
  · rw [verify_exact car.runner secrets car.entropy waiting]
  · rw [reached]
    exact news_of_trace car _ [_, _, _] rfl
  · rw [identification, List.length_append, Aead.length_encrypt, id.length_bytes,
      Session.length_nonce _ made.drawn]
    rfl
  · exact made.seals (Session.wrap_fresh _ id.bytes unspent)

theorem awaited_underway (runner : Agreement) : runner.awaited.Underway := by
  rcases awaited_cases runner with numeric | outOfBand
  · rw [numeric]
    exact ⟨nofun, nofun⟩
  · rw [outOfBand]
    exact ⟨nofun, nofun⟩

section Step

variable {fresh : Agreement} {entropy : Entropy} {log : List Entry}
variable {Due : DeviceMessage → Prop}

omit [KeyStorage σ] in
theorem spokenStep_request (payload : Bytes) (spoken : Spoken (reply car.entropy) Due car)
    (active : car.lifecycle = .active) (state : car.state = .unknown)
    (role : car.runner.role = .responder) (idle : car.runner.phase = .idle) :
    SpokenStep (reply car.entropy) Due car
      ((car.record (.frame payload)).settle (processInit payload)) := by
  rcases processInit_cases payload (car.record (.frame payload)) role idle with
    ⟨framed, ran⟩ | fails
  · rw [settle_ok ran]
    exact .reply spoken active state List.reverse_cons rfl rfl ⟨nofun, nofun⟩
  · have silence := failedSilently_settle (careful_processInit payload) ?_ fails
    · exact .failed spoken ⟨silence.failed, silence.unkeyed, silence.same⟩
    · obtain ⟨outcome, runner, entropy, state, trace, ran, -⟩ :=
        processInit_answered payload (car.record (.frame payload))
      rw [ran]
      exact active

theorem spokenStep_handshake (role : fresh.role = .responder) (payload : Bytes)
    (stage : Stage fresh entropy log car) (spoken : Spoken (reply entropy) Due car) :
    SpokenStep (reply entropy) Due car (car.handshake payload) := by
  refine Channel.spokenStep_handshake payload spoken fun active => ?_
  rw [handshake_active car payload active, settle_process]
  cases stage with
  | settled ended => exact absurd active ended
  | unknown state runner undrawn untold unshown =>
      have here : (car.record (.frame payload)).state = .unknown := state
      simp only [here]
      subst undrawn
      refine spokenStep_request payload spoken active state ?_ ?_
      · rw [runner]
        exact role
      · rw [runner]
  | inProgress clientInit state runner framed untold unshown seen =>
      have here : (car.record (.frame payload)).state = .inProgress := state
      simp only [here]
      exact spokenStep_finish payload spoken active state
  | shown view code state runner drawn shows untold only seen =>
      have here : (car.record (.frame payload)).state = fresh.awaited := state
      rcases awaited_cases fresh with numeric | outOfBand
      · simp only [here, numeric]
        exact .failed spoken (failedSilently_fail _ active rfl)
      · simp only [here, outOfBand]
        exact .failed spoken (failedSilently_fail _ active rfl)
  | accepted view code session state runner drawn shows untold installed only seen =>
      have here : (car.record (.frame payload)).state = .finished := state
      simp only [here]
      exact spokenStep_identity payload spoken active state

-- Only while a code is awaited does the runner let the user accept.
omit [KeyStorage σ] in
theorem Stage.awaiting (stage : Stage fresh entropy log car) (active : car.lifecycle = .active)
    {secrets : Secrets} (waiting : car.runner.phase = .awaitingVerification secrets) :
    car.state = fresh.awaited := by
  cases stage with
  | settled ended => exact absurd active ended
  | unknown _ runner => simp [runner] at waiting
  | inProgress _ _ runner => simp [runner, replied] at waiting
  | shown _ _ state => exact state
  | accepted _ _ _ _ runner => simp [runner] at waiting

theorem spokenStep_identification (secrets : Secrets) (id : Uuid)
    (spoken : Spoken (reply entropy) Due car) (active : car.lifecycle = .active)
    (begun : car.state.Underway) (due : Due (identification car secrets id)) :
    SpokenStep (reply entropy) Due car (afterAccept car secrets id) := by
  have unsealed : nonces car = [] := nonces_replied (spoken.underway active begun).1 rfl
  have fresh : Numbered _ (holding car secrets) := .fresh secrets.next _ unsealed rfl
  have grew : outbound (afterAccept car secrets id) =
      outbound car ++ [(.handshake, identification car secrets id)] := List.reverse_cons
  have sent : Numbered _ (afterAccept car secrets id) :=
    fresh.seals (Session.ofKey_unspent _ _) grew rfl rfl rfl
  exact .complete spoken active begun due grew sent fun _ => rfl

theorem spokenStep_accept (stage : Stage fresh entropy log car)
    (spoken : Spoken (reply entropy) Due car)
    (due : ∀ secrets id frame, Accepts car secrets id frame → Due frame) :
    SpokenStep (reply entropy) Due car (perform .accept car) := by
  by_cases active : car.lifecycle = .active
  · rw [perform, accept, if_pos active]
    rcases acceptCode_cases car with ⟨secrets, id, listening, waiting, given, ran⟩ | fails
    · have begun : car.state.Underway := stage.awaiting active waiting ▸ awaited_underway fresh
      have accepts := accepts_exact secrets id active listening waiting given ran
      rw [settle_ok ran]
      exact spokenStep_identification secrets id spoken active begun (due _ _ _ accepts)
    · refine .failed spoken (failedSilently_settle careful_acceptCode ?_ fails)
      obtain ⟨outcome, after, ran, accepting⟩ := acceptCode_accepting car
      obtain ⟨runner, storage, entropy, session, state, pending, trace, same⟩ := accepting.frame
      rw [ran, same]
      exact active
  · rw [perform, accept, if_neg active]
    exact .unchanged spoken rfl rfl rfl rfl

theorem perform_spokenStep (role : fresh.role = .responder) (call : Call)
    (stage : Stage fresh entropy log car) (spoken : Spoken (reply entropy) Due car)
    (due : ∀ secrets id frame, call = .accept → Accepts car secrets id frame → Due frame) :
    SpokenStep (reply entropy) Due car (perform call car) := by
  have handshakes (payload : Bytes) := spokenStep_handshake role payload stage spoken
  cases call with
  | frame payload => exact handshakes payload
  | receive message operation =>
      exact spokenStep_receive message operation spoken fun payload _ => handshakes payload
  | send message => exact spokenStep_send message spoken
  | subscribe subscription => exact .unchanged spoken rfl rfl rfl rfl
  | accept => exact spokenStep_accept stage spoken fun secrets id frame => due secrets id frame rfl
  | listen on => exact .unchanged spoken rfl rfl rfl rfl

end Step

/-- Every call says what is next, or nothing. -/
theorem next_spokenStep (runner : Agreement) (role : runner.role = .responder)
    (idle : runner.phase = .idle) (storage : σ) (entropy : Entropy) (now : Int)
    (calls : List Call) (call : Call) :
    let start := unpaired runner storage entropy now
    Spoken (reply entropy) (Accepted start calls) (performAll calls start) →
      SpokenStep (reply entropy) (Accepted start (calls ++ [call])) (performAll calls start)
        (perform call (performAll calls start)) := by
  intro start spoken
  have stage := stage_reached runner role idle storage entropy now calls
  have answers : (verifying runner).role = .responder := role
  refine perform_spokenStep answers call stage (spoken.mono fun second due => due.later [call]) ?_
  rintro secrets id frame rfl accepts
  exact ⟨calls, [], secrets, id, rfl, accepts⟩

theorem performAll_spoken (runner : Agreement) (role : runner.role = .responder)
    (idle : runner.phase = .idle) (storage : σ) (entropy : Entropy) (now : Int)
    (calls : List Call) :
    let start := unpaired runner storage entropy now
    Spoken (reply entropy) (Accepted start calls) (performAll calls start) := by
  intro start
  induction calls using List.reverseRecOn with
  | nil => exact .silent rfl ⟨rfl, nofun⟩ fun _ => rfl
  | append_singleton calls call ih =>
      rw [performAll_append]
      exact (next_spokenStep runner role idle storage entropy now calls call ih).spoken

end CarPairing.Association
