import CarPairing.Proofs.Reconnect.Exact

/-!
How far a reconnection with the real key agreement has come, told from the
frames that it has taken. As long as they are the ones of a conversation with
somebody who has the stored key, the channel is known but for who listens; the
first frame that is not ends it, and no frame is taken after that.
-/

namespace CarPairing.Reconnect

open Channel Agreement

variable {σ : Type} [KeyStorage σ]

/-- All three frames have been taken: the peer has agreed on secrets and then
proven that it has the key stored for the device. -/
structure Proven (storage : σ) (device : String) (entropy : Entropy) (frames : List Bytes)
    (previous : Key) (view : ResponderView) : Prop where
  drawn : view.entropy = entropy
  known : KeyStorage.key? storage device = some previous
  frames : frames =
    [view.clientInit, view.clientFinish, resumeMac previous view.secrets.auth clientLabel]

theorem Proven.length {storage : σ} {device : String} {entropy : Entropy} {frames : List Bytes}
    {previous : Key} {view : ResponderView}
    (proven : Proven storage device entropy frames previous view) : frames.length = 3 := by
  rw [proven.frames]
  rfl

/-- The frames are the first ones of such a conversation. -/
inductive Conversation (storage : σ) (device : String) (entropy : Entropy)
    (frames : List Bytes) : Prop where
  | fresh (nothing : frames = [])
  | requested (previous : Key) (clientInit : Bytes)
      (known : KeyStorage.key? storage device = some previous)
      (framed : Framed clientInit clientInitSize) (same : frames = [clientInit])
  | agreed (previous : Key) (view : ResponderView) (drawn : view.entropy = entropy)
      (known : KeyStorage.key? storage device = some previous)
      (same : frames = [view.clientInit, view.clientFinish])
  | proven (previous : Key) (view : ResponderView)
      (proven : Proven storage device entropy frames previous view)

/-- The stages of a reconnection that has started from `start`, by the frames
that it has taken. -/
inductive Stage (start car : Car σ) : List Bytes → Prop where
  | fresh (subscription : Subscription) (trace : List Event)
      (same : car = { start with subscription, trace }) (log : Log car [] []) : Stage start car []
  | requested (previous : Key) (clientInit : Bytes) (subscription : Subscription)
      (trace : List Event)
      (known : KeyStorage.key? start.storage start.flavor.deviceId = some previous)
      (framed : Framed clientInit clientInitSize)
      (same : car = { afterInit start previous clientInit with subscription, trace })
      (log : Log car [clientInit] []) : Stage start car [clientInit]
  | agreed (previous : Key) (view : ResponderView) (subscription : Subscription)
      (trace : List Event) (drawn : view.entropy = start.entropy)
      (known : KeyStorage.key? start.storage start.flavor.deviceId = some previous)
      (same : car = { afterFinish (afterInit start previous view.clientInit) view with
        subscription, trace })
      (log : Log car [view.clientInit, view.clientFinish] []) :
      Stage start car [view.clientInit, view.clientFinish]
  | proven (previous : Key) (view : ResponderView) (outcome : Except StoreError Unit) (kept : σ)
      {frames : List Bytes}
      (proven : Proven start.storage start.flavor.deviceId start.entropy frames previous view)
      (saved : KeyStorage.saveKey start.storage start.now start.flavor.deviceId
        (resumedKey previous view.secrets.next) = (outcome, kept))
      (ended : car.lifecycle = verdict outcome) (storage : car.storage = kept)
      (log : Log car frames
        [(.saveKey start.flavor.deviceId (resumedKey previous view.secrets.next), outcome)]) :
      Stage start car frames
  | lost {frames : List Bytes} (failed : car.lifecycle = .failed)
      (storage : car.storage = start.storage)
      (deviant : ¬Conversation start.storage start.flavor.deviceId start.entropy frames)
      (log : Log car frames []) : Stage start car frames

/-- A channel before its first frame, its runner the responder. -/
structure Fresh (start : Car σ) : Prop where
  active : start.lifecycle = .active
  state : start.state = .unknown
  role : start.runner.role = .responder
  idle : start.runner.phase = .idle
  resumes : start.runner.reconnecting = true

variable {start car : Car σ}

theorem Lost.stage (start : Car σ) {frames : List Bytes} {payload : Bytes} {after : Car σ}
    (lost : Lost car payload after) (log : Log car frames []) (storage : car.storage = start.storage)
    (deviant : ¬Conversation start.storage start.flavor.deviceId start.entropy
      (frames ++ [payload])) : Stage start after (frames ++ [payload]) :=
  .lost lost.failed (lost.storage.trans storage) deviant
    ((log.frame payload).aside lost.aside)

theorem stage_request (fresh : Fresh start) (payload : Bytes) {subscription : Subscription}
    {trace : List Event} (same : car = { start with subscription, trace }) (log : Log car [] []) :
    Stage start (car.handshake payload) [payload] := by
  subst same
  by_cases right : ∃ previous,
      KeyStorage.key? start.storage start.flavor.deviceId = some previous ∧
        Framed payload clientInitSize
  · obtain ⟨previous, known, framed⟩ := right
    rw [request_exact { start with subscription, trace } previous payload fresh.active fresh.state
      known fresh.role fresh.idle framed]
    refine .requested previous payload subscription _ known framed rfl ?_
    refine (log.frame payload).aside ⟨[_, _, _], rfl, ?_⟩
    intro event member
    simp only [List.mem_cons, List.not_mem_nil, or_false] at member
    rcases member with rfl | rfl | rfl
    · exact ⟨rfl, rfl⟩
    · exact ⟨rfl, rfl⟩
    · exact ⟨rfl, rfl⟩
  · have lost := request_lost { start with subscription, trace } payload fresh.active fresh.state
      fun previous known framed => right ⟨previous, known, framed⟩
    apply lost.stage start log rfl
    intro conversation
    cases conversation with
    | fresh nothing => cases nothing
    | requested previous clientInit known framed same =>
        cases same
        exact right ⟨previous, known, framed⟩
    | agreed previous view drawn known same => cases same
    | proven previous view proven => cases proven.frames

theorem stage_finish (fresh : Fresh start) (payload : Bytes) {previous : Key} {clientInit : Bytes}
    {subscription : Subscription} {trace : List Event}
    (known : KeyStorage.key? start.storage start.flavor.deviceId = some previous)
    (framed : Framed clientInit clientInitSize)
    (same : car = { afterInit start previous clientInit with subscription, trace })
    (log : Log car [clientInit] []) :
    Stage start (car.handshake payload) [clientInit, payload] := by
  subst same
  by_cases right : Framed payload clientFinishSize ∧ sha256 payload = clientInit.drop 33
  · obtain ⟨sized, committed⟩ := right
    let view : ResponderView := ⟨start.entropy, clientInit, payload, framed, sized, committed⟩
    rw [finish_resumes { afterInit start previous clientInit with subscription, trace } view
      fresh.active rfl fresh.role fresh.resumes rfl]
    exact .agreed previous view subscription _ rfl known rfl
      ((log.frame payload).aside (.one rfl ⟨rfl, rfl⟩))
  · have lost := finish_lost { afterInit start previous clientInit with subscription, trace } payload
      start.entropy clientInit fresh.active rfl rfl
      fun sized committed => right ⟨sized, committed⟩
    apply lost.stage start log rfl
    intro conversation
    cases conversation with
    | fresh nothing => cases nothing
    | requested _ _ _ _ same => cases same
    | agreed _ view drawn _ same =>
        injection same with request finish
        injection finish with finish
        subst request finish
        exact right ⟨view.framedFinish, view.committed⟩
    | proven _ _ proven => cases proven.frames

theorem stage_proof (fresh : Fresh start) (payload : Bytes) {previous : Key} {view : ResponderView}
    {subscription : Subscription} {trace : List Event} (drawn : view.entropy = start.entropy)
    (known : KeyStorage.key? start.storage start.flavor.deviceId = some previous)
    (same : car = { afterFinish (afterInit start previous view.clientInit) view with
      subscription, trace })
    (log : Log car [view.clientInit, view.clientFinish] []) :
    Stage start (car.handshake payload) [view.clientInit, view.clientFinish, payload] := by
  subst same
  by_cases right : payload = resumeMac previous view.secrets.auth clientLabel
  · subst right
    cases saved : KeyStorage.saveKey start.storage start.now start.flavor.deviceId
        (resumedKey previous view.secrets.next) with
    | mk outcome kept =>
    have ended := proof_ends { afterFinish (afterInit start previous view.clientInit) view with
      subscription, trace } previous view.secrets fresh.active rfl rfl fresh.role rfl saved
    exact .proven previous view outcome kept ⟨drawn, known, rfl⟩ saved ended.lifecycle ended.storage
      ((written_log log outcome kept).aside ended.aside)
  · have lost := proof_lost { afterFinish (afterInit start previous view.clientInit) view with
      subscription, trace } payload previous view.secrets fresh.active rfl rfl fresh.role rfl right
    apply lost.stage start log rfl
    intro conversation
    cases conversation with
    | fresh nothing => cases nothing
    | requested _ _ _ _ same => cases same
    | agreed _ _ _ _ same => simp at same
    | proven other view' proven =>
        have same := proven.frames
        injection same with request rest
        injection rest with finish rest
        injection rest with proof _
        obtain rfl : view = view' :=
          ResponderView.unique (drawn.trans proven.drawn.symm) request finish
        obtain rfl : previous = other := Option.some.inj (known.symm.trans proven.known)
        exact right proof

variable {frames : List Bytes}

/-- Whoever listens, and whatever has been said that is not of the handshake. -/
theorem Stage.heard {after : Car σ} {subscription : Subscription} {trace : List Event}
    (stage : Stage start car frames) (same : after = { car with subscription, trace })
    (aside : Grown Event.Aside car after) : Stage start after frames := by
  cases stage with
  | fresh _ _ before log =>
      refine .fresh subscription trace ?_ (log.aside aside)
      rw [same, before]
  | requested previous clientInit _ _ known framed before log =>
      refine .requested previous clientInit subscription trace known framed ?_ (log.aside aside)
      rw [same, before]
  | agreed previous view _ _ drawn known before log =>
      refine .agreed previous view subscription trace drawn known ?_ (log.aside aside)
      rw [same, before]
  | proven previous view outcome kept proven saved ended storage log =>
      subst same
      exact .proven previous view outcome kept proven saved ended storage (log.aside aside)
  | lost failed storage deviant log =>
      subst same
      exact .lost failed storage deviant (log.aside aside)

/-- A channel that is still active has not used the key yet. -/
structure Pending (start car : Car σ) (frames : List Bytes) : Prop where
  early : frames.length ≤ 2
  storage : car.storage = start.storage
  log : Log car frames []
  conversation : Conversation start.storage start.flavor.deviceId start.entropy frames

theorem verdict_ended (outcome : Except StoreError Unit) : verdict outcome ≠ .active := by
  cases outcome with
  | ok => exact nofun
  | error error => exact nofun

theorem Stage.pending (stage : Stage start car frames) (active : car.lifecycle = .active) :
    Pending start car frames := by
  cases stage with
  | fresh subscription trace same log =>
      exact ⟨Nat.zero_le 2, by rw [same], log, .fresh rfl⟩
  | requested previous clientInit subscription trace known framed same log =>
      exact ⟨Nat.le_succ 1, by rw [same]; rfl, log, .requested previous clientInit known framed rfl⟩
  | agreed previous view subscription trace drawn known same log =>
      exact ⟨Nat.le_refl 2, by rw [same]; rfl, log, .agreed previous view drawn known rfl⟩
  | proven previous view outcome kept proven saved ended storage log =>
      exact absurd (ended.symm.trans active) (verdict_ended outcome)
  | lost failed storage deviant log =>
      exact absurd failed (not_failed_of_active active)

theorem stage_handshake (fresh : Fresh start) (payload : Bytes) (stage : Stage start car frames)
    (active : car.lifecycle = .active) :
    Stage start (car.handshake payload) (frames ++ [payload]) := by
  cases stage with
  | fresh subscription trace same log => exact stage_request fresh payload same log
  | requested previous clientInit subscription trace known framed same log =>
      exact stage_finish fresh payload known framed same log
  | agreed previous view subscription trace drawn known same log =>
      exact stage_proof fresh payload drawn known same log
  | proven previous view outcome kept proven saved ended storage log =>
      exact absurd (ended.symm.trans active) (verdict_ended outcome)
  | lost failed storage deviant log => exact absurd failed (not_failed_of_active active)

/-- What a call comes to: it takes no frame, or one that comes next. -/
inductive Advance (start car after : Car σ) (frames : List Bytes) : Prop where
  | stays (stage : Stage start after frames)
  | takes (payload : Bytes) (active : car.lifecycle = .active)
      (stage : Stage start after (frames ++ [payload]))

theorem perform_stage (fresh : Fresh start) (call : Call) (stage : Stage start car frames) :
    Advance start car (perform call car) frames := by
  by_cases active : car.lifecycle = .active
  · cases call with
    | frame payload => exact .takes payload active (stage_handshake fresh payload stage active)
    | receive message operation =>
        rw [perform]
        cases receive_cases car message operation with
        | ignored failed same => exact absurd failed (not_failed_of_active active)
        | told notice living traffic same =>
            have aside : Grown Event.Aside car (car.notify notice) :=
              grown_notify notice car fun _ => ⟨rfl, rfl⟩
            obtain ⟨trace, frame⟩ := notify_frame notice car
            rw [frame] at same aside
            rw [same]
            exact .stays (stage.heard rfl aside)
        | taken payload living handshakes opened same =>
            rw [same]
            exact .takes payload active (stage_handshake fresh payload stage active)
    | send message =>
        rw [perform, send_refused message car (not_established_of_active active)]
        exact .stays stage
    | subscribe subscription => exact .stays (stage.heard rfl (.same rfl))
  · obtain ⟨⟨session, trace, subscription, same⟩, traffic⟩ := perform_inert call car active
    have aside := traffic.mono fun _ => Event.Traffic.aside
    rw [same] at aside ⊢
    refine .stays ?_
    cases stage with
    | proven previous view outcome kept proven saved ended storage log =>
        exact .proven previous view outcome kept proven saved ended storage (log.aside aside)
    | lost failed storage deviant log => exact .lost failed storage deviant (log.aside aside)
    | _ =>
        subst car
        exact absurd fresh.active active

theorem performAll_stage (fresh : Fresh start) (calls : List Call)
    (stage : Stage start car frames) :
    ∃ frames, Stage start (performAll calls car) frames := by
  induction calls generalizing car frames with
  | nil => exact ⟨frames, stage⟩
  | cons call rest ih =>
      cases perform_stage fresh call stage with
      | stays stage => exact ih stage
      | takes payload active stage => exact ih stage

omit [KeyStorage σ] in
theorem fresh_paired (runner : Agreement) (role : runner.role = .responder)
    (idle : runner.phase = .idle) (storage : σ) (device : String) (entropy : Entropy) (now : Int) :
    Fresh (paired runner device storage entropy now) :=
  ⟨rfl, rfl, role, idle, rfl⟩

theorem stage_paired (runner : Agreement) (storage : σ) (device : String) (entropy : Entropy)
    (now : Int) :
    Stage (paired runner device storage entropy now) (paired runner device storage entropy now) [] :=
  .fresh .nothing [.prepared true] rfl ⟨rfl, rfl⟩

theorem stage_reached (runner : Agreement) (role : runner.role = .responder)
    (idle : runner.phase = .idle) (storage : σ) (device : String) (entropy : Entropy) (now : Int)
    (calls : List Call) :
    let start := paired runner device storage entropy now
    Fresh start ∧ ∃ frames, Stage start (performAll calls start) frames := by
  have fresh := fresh_paired runner role idle storage device entropy now
  exact ⟨fresh, performAll_stage fresh calls (stage_paired runner storage device entropy now)⟩

-- Two frames of a conversation end nothing.
theorem Stage.living (fresh : Fresh start) (stage : Stage start car frames)
    (conversation : Conversation start.storage start.flavor.deviceId start.entropy frames)
    (early : frames.length ≤ 2) : car.lifecycle = .active := by
  cases stage with
  | proven previous view outcome kept proven saved ended storage log =>
      have length := proven.length
      omega
  | lost failed storage deviant log => exact absurd conversation deviant
  | _ =>
      subst car
      exact fresh.active

-- Whoever has the key gets through.
theorem stage_resumed (fresh : Fresh start) (previous : Key) (view : ResponderView)
    (drawn : view.entropy = start.entropy)
    (known : KeyStorage.key? start.storage start.flavor.deviceId = some previous)
    (stage : Stage start car []) :
    Stage start (performAll [.frame view.clientInit, .frame view.clientFinish,
        .frame (resumeMac previous view.secrets.auth clientLabel)] car)
      [view.clientInit, view.clientFinish, resumeMac previous view.secrets.auth clientLabel] := by
  have active := stage.living fresh (.fresh rfl) (Nat.zero_le 2)
  have requested := stage_handshake fresh view.clientInit stage active
  have active := requested.living fresh (.requested previous _ known view.framedInit rfl)
    (Nat.le_succ 1)
  have agreed := stage_handshake fresh view.clientFinish requested active
  have active := agreed.living fresh (.agreed previous view drawn known rfl) (Nat.le_refl 2)
  exact stage_handshake fresh _ agreed active

end CarPairing.Reconnect
