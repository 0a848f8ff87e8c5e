import CarPairing.Proofs.Reconnect.Proof
import CarPairing.Proofs.Traffic.Spoken

/-!
What the head unit says while it reconnects: its reply to a request, then its own
proof, which answers that of the peer. The proof goes out before the new key is
written, so a storage that refuses the key comes too late to hold it back.
-/

namespace CarPairing.Reconnect

open Channel Agreement

section Steps

variable {ρ σ : Type} {first : DeviceMessage} {Due : DeviceMessage → Prop}
variable {car : Channel Reconnect ρ σ}

theorem Agreeing.lifecycle {after : Channel Reconnect ρ σ} (agreeing : Agreeing car after) :
    after.lifecycle = car.lifecycle := by
  obtain ⟨runner, entropy, state, previous, trace, same⟩ := agreeing
  rw [same]

theorem Agreeing.session {after : Channel Reconnect ρ σ} (agreeing : Agreeing car after) :
    after.session = car.session := by
  obtain ⟨runner, entropy, state, previous, trace, same⟩ := agreeing
  rw [same]

variable [Runner ρ]

theorem spokenStep_finish (payload : Bytes) (spoken : Spoken first Due car)
    (active : car.lifecycle = .active) (state : car.state = .inProgress) :
    SpokenStep first Due car ((car.record (.frame payload)).settle (processFinish payload)) := by
  obtain ⟨agreeing, reached⟩ := processFinish_agreeing payload (car.record (.frame payload))
  have quiet := outbound_unsent
    (processFinish_emits payload (fun _ _ => rfl) (car.record (.frame payload)))
  have begun : car.state.Underway := by
    rw [state]
    exact ⟨nofun, nofun⟩
  apply settle_cases
  · intro error after ran
    rw [ran] at agreeing quiet
    exact .failed spoken (failedSilently_fail error (agreeing.lifecycle.trans active) quiet)
  · intro after ran
    rw [ran] at agreeing quiet reached
    refine .proceed spoken active begun quiet agreeing.session agreeing.lifecycle ?_
    rcases reached with kept | resumes
    · exact kept ▸ begun
    · rw [resumes]
      exact ⟨nofun, nofun⟩

theorem careful_processInit [KeyStorage σ] (message : Bytes) :
    Careful (processInit message : Step ρ σ Unit) := by
  apply careful_bind emits_get
  intro channel
  apply careful_bind (fun _ => .one rfl rfl : Emits Event.Unsent (storedKey? _))
  intro stored
  split
  · exact careful_throw _
  · refine careful_bind (emits_modify _ fun _ => .same rfl) fun _ => ?_
    apply careful_bind (emits_demand _ fun _ => rfl)
    intro response
    split
    · exact careful_throw _
    · exact careful_bind (emits_setState _) fun _ => careful_sendHandshake _ _

end Steps

variable {σ : Type} {car : Car σ}

/-- The proof of the head unit on its way. -/
def counterproof (previous : Key) (secrets : Secrets) : DeviceMessage :=
  { encrypted := false, payload := resumeMac previous secrets.auth serverLabel }

section Proof

variable (previous : Key) (secrets : Secrets) (outcome : Except StoreError Unit) (kept : σ)

-- However the writing of the key went, the channel ends on the session made from it.
theorem afterEnding_quiet (active : car.lifecycle = .active) :
    Grown Event.Unsent (afterWriting car previous secrets outcome kept)
        (afterEnding car previous secrets outcome kept) ∧
      (afterEnding car previous secrets outcome kept).lifecycle ≠ .active ∧
      ((afterEnding car previous secrets outcome kept).lifecycle ≠ .failed →
        (afterEnding car previous secrets outcome kept).session =
          (afterWriting car previous secrets outcome kept).session) := by
  cases outcome with
  | ok =>
      refine ⟨concluded_grown _ rfl, concluded_settled _, fun _ => ?_⟩
      obtain ⟨lifecycle, trace, frame⟩ :=
        concluded_frame (afterWriting car previous secrets (.ok ()) kept)
      rw [afterEnding, frame]
  | error error =>
      refine ⟨fail_grown _ _ rfl rfl, fail_settled _ _, fun living => ?_⟩
      obtain ⟨trace, frame⟩ :=
        fail_active (.storage error) (afterWriting car previous secrets (.error error) kept) active
      exact absurd (congrArg Channel.lifecycle frame) living

theorem afterEnding_news (active : car.lifecycle = .active) :
    ∃ rest, news car (afterEnding car previous secrets outcome kept) =
      .frame (resumeMac previous secrets.auth clientLabel) ::
        .asked (.resume (resumeMac previous secrets.auth clientLabel) previous)
          (.ok (secrets.finish previous (some (counterproof previous secrets).payload))) ::
        .sent .handshake (counterproof previous secrets) :: rest := by
  have writing : news car (afterWriting car previous secrets outcome kept) = _ :=
    news_of_trace car _ [_, _, _, _] rfl
  have appended : Grown (fun _ => True) car (afterWriting car previous secrets outcome kept) :=
    ⟨[_, _, _, _], rfl, fun _ _ => trivial⟩
  rw [news_append appended (afterEnding_quiet previous secrets outcome kept active).1.any, writing]
  exact ⟨_, rfl⟩

theorem spokenStep_proof {Due : DeviceMessage → Prop} {first : DeviceMessage}
    (clear : first.encrypted = false) (spoken : Spoken first Due car)
    (active : car.lifecycle = .active) (state : car.state = .resumingSession)
    (due : Due (counterproof previous secrets)) :
    SpokenStep first Due car (afterEnding car previous secrets outcome kept) := by
  have begun : car.state.Underway := by
    rw [state]
    exact ⟨nofun, nofun⟩
  have written : outbound (afterWriting car previous secrets outcome kept) =
      outbound car ++ [(.handshake, counterproof previous secrets)] := List.reverse_cons
  have unsealed : nonces car = [] :=
    nonces_replied (spoken.underway active begun).1 clear
  have fresh : Numbered _ (afterWriting car previous secrets outcome kept) :=
    .fresh (resumedKey previous secrets.next) _ ((nonces_clear written rfl).trans unsealed) rfl
  obtain ⟨quiet, ended, installed⟩ := afterEnding_quiet previous secrets outcome kept active
  have same := outbound_unsent quiet
  refine .complete spoken active begun due (same.trans written) (fresh.frame same ?_)
    fun living => absurd living ended
  intro living
  exact ⟨not_failed_of_active active, installed living⟩

end Proof

variable [KeyStorage σ] {start : Car σ} {frames : List Bytes}

/-- The peer's proof of the stored key is taken and found to be right, and is
answered by one of the head unit. -/
structure Verifies (start car after : Car σ) (previous : Key) (view : ResponderView)
    (frame : DeviceMessage) : Prop where
  proven : Proven start.storage start.flavor.deviceId start.entropy (taken after.trace.reverse)
    previous view
  verified : (Runner.answer car.runner
      (.resume (resumeMac previous view.secrets.auth clientLabel) previous) car.entropy).1 =
    .ok (view.secrets.finish previous (some frame.payload))
  events : ∃ rest, news car after =
    .frame (resumeMac previous view.secrets.auth clientLabel) ::
      .asked (.resume (resumeMac previous view.secrets.auth clientLabel) previous)
        (.ok (view.secrets.finish previous (some frame.payload))) ::
      .sent .handshake frame :: rest
  proves : frame.payload = resumeMac previous view.secrets.auth serverLabel
  unaddressed : frame.recipient = none
  clear : frame.encrypted = false
  size : frame.payload.length = 32

/-- One of the calls has brought the proof, and the frame is what it has sent. -/
def Verified (start : Car σ) (calls : List Call) (frame : DeviceMessage) : Prop :=
  ∃ sooner call later previous view, calls = sooner ++ call :: later ∧
    Verifies start (performAll sooner start) (perform call (performAll sooner start)) previous view
      frame

theorem Verified.later {calls : List Call} {frame : DeviceMessage}
    (verified : Verified start calls frame) (more : List Call) :
    Verified start (calls ++ more) frame := by
  obtain ⟨sooner, call, later, previous, view, rfl, verifies⟩ := verified
  exact ⟨sooner, call, later ++ more, previous, view, List.append_assoc .., verifies⟩

section Step

variable {Due : DeviceMessage → Prop}

theorem spokenStep_request (car : Car σ) (payload : Bytes)
    (spoken : Spoken (reply car.entropy) Due car)
    (active : car.lifecycle = .active) (state : car.state = .unknown)
    (role : car.runner.role = .responder) (idle : car.runner.phase = .idle) :
    SpokenStep (reply car.entropy) Due car
      ((car.record (.frame payload)).settle (processInit payload)) := by
  by_cases right : ∃ previous,
      KeyStorage.key? car.storage car.flavor.deviceId = some previous ∧
        Framed payload clientInitSize
  · obtain ⟨previous, known, framed⟩ := right
    rw [settle_ok (processInit_exact (car.record (.frame payload)) previous payload known role idle
      framed)]
    exact .reply spoken active state List.reverse_cons rfl rfl ⟨nofun, nofun⟩
  · have fails := processInit_fails (car.record (.frame payload)) payload
      fun previous known framed => right ⟨previous, known, framed⟩
    have lives := (processInit_agreeing payload (car.record (.frame payload))).lifecycle
    have silence := failedSilently_settle (careful_processInit payload) (lives.trans active) fails
    exact .failed spoken ⟨silence.failed, silence.unkeyed, silence.same⟩

-- The right proof is answered; at any other the channel fails.
theorem spokenStep_answer (payload : Bytes) (previous : Key) (view : ResponderView)
    (spoken : Spoken (reply start.entropy) Due car) (active : car.lifecycle = .active)
    (state : car.state = .resumingSession) (held : car.flavor.previous = some previous)
    (role : car.runner.role = .responder) (resuming : car.runner.phase = .resuming view.secrets)
    (proven : payload = resumeMac previous view.secrets.auth clientLabel →
      Proven start.storage start.flavor.deviceId start.entropy
        (taken (car.handshake payload).trace.reverse) previous view)
    (due : ∀ frame, Verifies start car (car.handshake payload) previous view frame → Due frame) :
    SpokenStep (reply start.entropy) Due car (car.handshake payload) := by
  by_cases right : payload = resumeMac previous view.secrets.auth clientLabel
  · have came := proven right
    subst right
    cases saved : KeyStorage.saveKey car.storage car.now car.flavor.deviceId
        (resumedKey previous view.secrets.next) with
    | mk outcome kept =>
    have answered := resume_exact car.runner (resumeMac previous view.secrets.auth clientLabel)
      previous view.secrets car.entropy resuming (by rw [role]; rfl)
    rw [proof_exact car previous view.secrets active state held role resuming saved] at came due ⊢
    refine spokenStep_proof previous view.secrets outcome kept rfl spoken active state (due _ ?_)
    refine ⟨came, ?_, afterEnding_news previous view.secrets outcome kept active, rfl, rfl, rfl,
      Key.length_bytes _⟩
    rw [answered, role]
    rfl
  · obtain ⟨error, runner, refused⟩ :=
      proof_refused car payload previous view.secrets active state held role resuming right
    rw [refused]
    exact .failed spoken (failedSilently_fail _ active rfl)

theorem spokenStep_handshake (fresh : Fresh start) (payload : Bytes)
    (stage : Stage start car frames)
    (spoken : Spoken (reply start.entropy) Due car)
    (due : ∀ previous view frame, Verifies start car (car.handshake payload) previous view frame →
      Due frame) :
    SpokenStep (reply start.entropy) Due car (car.handshake payload) := by
  refine Channel.spokenStep_handshake payload spoken fun active => ?_
  have read := (stage_handshake fresh payload stage active).taken
  cases stage with
  | fresh subscription trace same log =>
      subst same
      have here : (record (.frame payload) { start with subscription, trace }).state = .unknown :=
        fresh.state
      rw [handshake_active _ payload active, settle_process]
      simp only [here]
      exact spokenStep_request { start with subscription, trace } payload spoken active fresh.state
        fresh.role fresh.idle
  | requested previous clientInit subscription trace known framed same log =>
      subst same
      rw [handshake_active _ payload active, settle_process]
      exact spokenStep_finish payload spoken active rfl
  | agreed previous view subscription trace drawn known same log =>
      subst same
      refine spokenStep_answer payload previous view spoken active rfl rfl fresh.role rfl ?_
        (due previous view)
      rintro rfl
      exact ⟨drawn, known, read⟩
  | proven previous view outcome kept proven saved ended storage log =>
      exact absurd (ended.symm.trans active) (verdict_ended outcome)
  | lost failed storage deviant log => exact absurd failed (not_failed_of_active active)

theorem perform_spokenStep (fresh : Fresh start) (call : Call) (stage : Stage start car frames)
    (spoken : Spoken (reply start.entropy) Due car)
    (due : ∀ previous view frame, Verifies start car (perform call car) previous view frame →
      Due frame) : SpokenStep (reply start.entropy) Due car (perform call car) := by
  cases call with
  | frame payload => exact spokenStep_handshake fresh payload stage spoken due
  | receive message operation =>
      rw [perform] at due ⊢
      refine spokenStep_receive message operation spoken fun payload same => ?_
      rw [same] at due
      exact spokenStep_handshake fresh payload stage spoken due
  | send message => exact spokenStep_send message spoken
  | subscribe subscription => exact .unchanged spoken rfl rfl rfl rfl

end Step

/-- Every call says what is next, or nothing. -/
theorem next_spokenStep (runner : Agreement) (role : runner.role = .responder)
    (idle : runner.phase = .idle) (storage : σ) (device : String) (entropy : Entropy) (now : Int)
    (calls : List Call) (call : Call) :
    let start := paired runner device storage entropy now
    Spoken (reply entropy) (Verified start calls) (performAll calls start) →
      SpokenStep (reply entropy) (Verified start (calls ++ [call])) (performAll calls start)
        (perform call (performAll calls start)) := by
  intro start spoken
  obtain ⟨fresh, frames, stage⟩ := stage_reached runner role idle storage device entropy now calls
  refine perform_spokenStep fresh call stage (spoken.mono fun second due => due.later [call]) ?_
  intro previous view frame verifies
  exact ⟨calls, call, [], previous, view, rfl, verifies⟩

theorem performAll_spoken (runner : Agreement) (role : runner.role = .responder)
    (idle : runner.phase = .idle) (storage : σ) (device : String) (entropy : Entropy) (now : Int)
    (calls : List Call) :
    let start := paired runner device storage entropy now
    Spoken (reply entropy) (Verified start calls) (performAll calls start) := by
  intro start
  induction calls using List.reverseRecOn with
  | nil => exact .silent rfl ⟨rfl, nofun⟩ fun _ => rfl
  | append_singleton calls call ih =>
      rw [performAll_append]
      exact (next_spokenStep runner role idle storage device entropy now calls call ih).spoken

end CarPairing.Reconnect
