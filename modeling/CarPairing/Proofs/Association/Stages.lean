import CarPairing.Proofs.Association.Calls
import CarPairing.Proofs.Association.Frames

/-!
How far an association with the real key agreement has come, and what its
journal says about the way there. The channel does not look at its own state
when the user accepts; what keeps the two apart is that the state and the phase
of the runner move together while the channel is active.
-/

namespace CarPairing.Association

open Channel Agreement

variable {σ : Type}

/-- A line of the journal: a call, with whether someone was listening for a
code, or an event. -/
inductive Entry where
  | called (call : Call) (listening : Bool)
  | event (event : Event)

def codes (log : List Entry) : List String :=
  log.filterMap fun
    | .event (.codeShown code) => some code
    | _ => none

/-- A request was taken and replied to. -/
def requestTaken (entropy : Entropy) (clientInit : Bytes) : List Entry :=
  [.event (.frame clientInit),
    .event (.sent .handshake { encrypted := false, payload := serverInitOf entropy })]

/-- Then the peer's key was taken and a code shown. -/
def codeTaken (view : ResponderView) (code : String) : List Entry :=
  requestTaken view.entropy view.clientInit ++
    [.event (.frame view.clientFinish), .event (.codeShown code)]

/-- Then the user accepted, with someone listening. -/
def acceptance (view : ResponderView) (code : String) : List Entry :=
  codeTaken view code ++ [.called .accept true]

/-- A channel that no identity message has reached. -/
structure Untold (car : Car σ) (pending : Option Key) : Prop where
  unidentified : car.identified = false
  held : car.flavor.pending = pending

/-- The stages of an association whose runner was `fresh` and drew from `entropy`. -/
inductive Stage (fresh : Agreement) (entropy : Entropy) (log : List Entry) (car : Car σ) :
    Prop where
  | settled (ended : car.lifecycle ≠ .active)
  | unknown (state : car.state = .unknown)
      (runner : car.runner = { fresh with phase := .idle }) (undrawn : car.entropy = entropy)
      (untold : Untold car none) (unshown : codes log = [])
  | inProgress (clientInit : Bytes) (state : car.state = .inProgress)
      (runner : car.runner = { fresh with phase := replied entropy clientInit })
      (framed : Framed clientInit clientInitSize) (untold : Untold car none)
      (unshown : codes log = []) (seen : (requestTaken entropy clientInit).Sublist log)
  | shown (view : ResponderView) (code : String) (state : car.state = fresh.awaited)
      (runner : car.runner = { fresh with phase := .awaitingVerification view.secrets })
      (drawn : view.entropy = entropy) (shows : fresh.code? view.secrets = some code)
      (untold : Untold car none) (only : codes log = [code])
      (seen : (codeTaken view code).Sublist log)
  | accepted (view : ResponderView) (code : String) (session : Session)
      (state : car.state = .finished) (runner : car.runner = { fresh with phase := .finished })
      (drawn : view.entropy = entropy) (shows : fresh.code? view.secrets = some code)
      (untold : Untold car (some view.secrets.next)) (installed : car.session = some session)
      (only : codes log = [code]) (seen : (acceptance view code).Sublist log)

variable {fresh : Agreement} {entropy : Entropy} {log : List Entry} {car : Car σ}

-- The stage depends on the channel through what it names only, and outlives
-- later lines of the journal that show no code.
theorem Stage.frame {other : Car σ} (extra : List Entry) (stage : Stage fresh entropy log car)
    (quiet : codes extra = []) (lifecycle : other.lifecycle = car.lifecycle)
    (state : other.state = car.state) (runner : other.runner = car.runner)
    (drawn : other.entropy = car.entropy) (session : other.session = car.session)
    (pending : other.flavor.pending = car.flavor.pending)
    (identified : other.identified = car.identified) :
    Stage fresh entropy (log ++ extra) other := by
  have same : codes (log ++ extra) = codes log := by
    rw [codes, List.filterMap_append]
    change codes log ++ codes extra = _
    rw [quiet, List.append_nil]
  have still {held : Option Key} (untold : Untold car held) : Untold other held :=
    ⟨identified.trans untold.unidentified, pending.trans untold.held⟩
  have later {lines : List Entry} (seen : lines.Sublist log) : lines.Sublist (log ++ extra) :=
    seen.trans (List.sublist_append_left log extra)
  cases stage with
  | settled ended => exact .settled (lifecycle ▸ ended)
  | unknown state' runner' undrawn untold unshown =>
      exact .unknown (state.trans state') (runner.trans runner') (drawn.trans undrawn)
        (still untold) (same.trans unshown)
  | inProgress clientInit state' runner' framed untold unshown seen =>
      exact .inProgress clientInit (state.trans state') (runner.trans runner') framed
        (still untold) (same.trans unshown) (later seen)
  | shown view code state' runner' drawn' shows untold only seen =>
      exact .shown view code (state.trans state') (runner.trans runner') drawn' shows
        (still untold) (same.trans only) (later seen)
  | accepted view code session' state' runner' drawn' shows untold installed only seen =>
      exact .accepted view code session' (state.trans state') (runner.trans runner') drawn' shows
        (still untold) (session.trans installed) (same.trans only) (later seen)

theorem news_frame (car after : Car σ) (payload : Bytes) (later : List Event)
    (grown : after.trace = later ++ (.frame payload :: car.trace)) :
    news car after = .frame payload :: later.reverse := by
  rw [news_of_trace car after (later ++ [.frame payload])]
  · rw [List.reverse_append]
    rfl
  · rw [grown, List.append_assoc]
    rfl

theorem stage_request (role : fresh.role = .responder) (payload : Bytes)
    (runner : car.runner = { fresh with phase := .idle }) (undrawn : car.entropy = entropy)
    (untold : Untold car none) (unshown : codes log = []) :
    let after := (car.record (.frame payload)).settle (processInit payload)
    Stage fresh entropy (log ++ (news car after).map .event) after := by
  intro after
  have role' : (car.record (.frame payload)).runner.role = .responder := by
    change car.runner.role = _
    rw [runner]
    exact role
  have idle : (car.record (.frame payload)).runner.phase = .idle := by
    change car.runner.phase = _
    rw [runner]
  rcases processInit_cases payload (car.record (.frame payload)) role' idle with
    ⟨framed, ran⟩ | fails
  · have reached : after = afterInit (car.record (.frame payload)) payload := settle_ok ran
    have added : news car after = [.frame payload, .asked (.respond payload)
        (.ok { state := .inProgress, next := some (serverInitOf car.entropy) }),
        .sent .handshake { encrypted := false, payload := serverInitOf car.entropy }] := by
      rw [reached]
      exact news_frame car _ payload [_, _] rfl
    rw [added, reached]
    refine .inProgress payload rfl ?_ framed ⟨untold.unidentified, untold.held⟩ ?_ ?_
    · change { car.runner with phase := replied car.entropy payload } = _
      rw [runner, undrawn]
    · rw [codes, List.filterMap_append]
      change codes log ++ [] = []
      rw [unshown, List.append_nil]
    · rw [undrawn]
      refine List.Sublist.trans ?_ (List.sublist_append_right log _)
      exact .cons_cons _ (.cons _ (.refl _))
  · exact .settled (settle_fails fails)

theorem stage_finish (role : fresh.role = .responder) (verifies : fresh.reconnecting = false)
    (payload clientInit : Bytes)
    (runner : car.runner = { fresh with phase := replied entropy clientInit })
    (framed : Framed clientInit clientInitSize) (untold : Untold car none)
    (unshown : codes log = []) (seen : (requestTaken entropy clientInit).Sublist log) :
    let after := (car.record (.frame payload)).settle (processFinish payload)
    Stage fresh entropy (log ++ (news car after).map .event) after := by
  intro after
  have same : (car.record (.frame payload)).runner =
      { fresh with phase := replied entropy clientInit } := runner
  have role' : (car.record (.frame payload)).runner.role = .responder := by
    rw [same]
    exact role
  have verifies' : (car.record (.frame payload)).runner.reconnecting = false := by
    rw [same]
    exact verifies
  have sent : (car.record (.frame payload)).runner.phase = replied entropy clientInit := by
    rw [same]
  rcases processFinish_cases payload (car.record (.frame payload)) entropy clientInit framed role'
      verifies' sent with ⟨view, code, drawn, request, finish, shows, ran⟩ | fails
  · have reached : after =
        (atCode (car.record (.frame payload)) view).record (.codeShown code) := settle_ok ran
    have added : news car after = [.frame payload, .asked (.continue view.clientFinish)
        (.ok (car.runner.completion view.secrets none)), .codeShown code] := by
      rw [reached]
      exact news_frame car _ payload [_, _] rfl
    rw [added, reached]
    have shows' : fresh.code? view.secrets = some code := by
      rw [same] at shows
      exact shows
    refine .shown view code ?_ ?_ drawn shows' ⟨untold.unidentified, untold.held⟩ ?_ ?_
    · change car.runner.awaited = _
      rw [runner]
      rfl
    · change { car.runner with phase := .awaitingVerification view.secrets } = _
      rw [runner]
    · rw [codes, List.filterMap_append]
      change codes log ++ [code] = [code]
      rw [unshown, List.nil_append]
    · rw [codeTaken, drawn, request, finish]
      refine List.Sublist.append seen ?_
      exact .cons_cons _ (.cons _ (.refl _))
  · exact .settled (settle_fails fails)

-- A stage in which an accepted key is held is the one after acceptance.
theorem stage_held {key : Key} (stage : Stage fresh entropy log car) (active : car.lifecycle = .active)
    (held : car.flavor.pending = some key) :
    ∃ view code session, view.entropy = entropy ∧ fresh.code? view.secrets = some code ∧
      codes log = [code] ∧ (acceptance view code).Sublist log ∧ key = view.secrets.next ∧
      car.state = .finished ∧ car.session = some session ∧ car.identified = false := by
  cases stage with
  | settled ended => exact absurd active ended
  | unknown _ _ _ untold => simp [untold.held] at held
  | inProgress _ _ _ _ untold => simp [untold.held] at held
  | shown _ _ _ _ _ _ untold => simp [untold.held] at held
  | accepted view code session state _ drawn shows untold installed only seen =>
      have same := untold.held.symm.trans held
      exact ⟨view, code, session, drawn, shows, only, seen, (Option.some.inj same).symm, state,
        installed, untold.unidentified⟩

-- What the application is told moves no stage.
theorem stage_notify (call : Call) (notice : Notice) (stage : Stage fresh entropy log car) :
    Stage fresh entropy
      (log ++ .called call car.flavor.listening :: (news car (car.notify notice)).map .event)
      (car.notify notice) := by
  have quiet : codes (.called call car.flavor.listening ::
      (news car (car.notify notice)).map .event) = [] := by
    unfold notify
    split
    · rw [news_of_trace car _ [.notified notice] rfl]
      rfl
    · rw [news_same]
      rfl
  obtain ⟨trace, same⟩ := notify_frame notice car
  refine stage.frame _ quiet ?_ ?_ ?_ ?_ ?_ ?_ ?_ <;> rw [same]

def unpaired (runner : Agreement) (storage : σ) (entropy : Entropy) (now : Int) : Car σ :=
  Channel.make {} runner storage entropy now

/-- The runner as an association uses it. -/
def verifying (runner : Agreement) : Agreement :=
  { runner with reconnecting := false }

theorem stage_fresh (runner : Agreement) (idle : runner.phase = .idle) (storage : σ)
    (entropy : Entropy) (now : Int) :
    Stage (verifying runner) entropy [] (unpaired runner storage entropy now) := by
  refine .unknown rfl ?_ rfl ⟨rfl, rfl⟩ rfl
  change { runner with reconnecting := false } = _
  rw [verifying, ← idle]

variable [KeyStorage σ]

def entries (call : Call) (car : Car σ) : List Entry :=
  .called call car.flavor.listening :: (news car (perform call car)).map .event

def journal : List Call → Car σ → List Entry
  | [], _ => []
  | call :: rest, car => entries call car ++ journal rest (perform call car)

theorem stage_handshake (role : fresh.role = .responder) (verifies : fresh.reconnecting = false)
    (payload : Bytes) (active : car.lifecycle = .active) (stage : Stage fresh entropy log car) :
    Stage fresh entropy (log ++ (news car (car.handshake payload)).map .event)
      (car.handshake payload) := by
  rw [handshake_active car payload active, settle_process]
  cases stage with
  | settled ended => exact absurd active ended
  | unknown state runner undrawn untold unshown =>
      have here : (car.record (.frame payload)).state = .unknown := state
      simp only [here]
      exact stage_request role payload runner undrawn untold unshown
  | inProgress clientInit state runner framed untold unshown seen =>
      have here : (car.record (.frame payload)).state = .inProgress := state
      simp only [here]
      exact stage_finish role verifies payload clientInit runner framed untold unshown seen
  | shown view code state runner drawn shows untold only seen =>
      have here : (car.record (.frame payload)).state = fresh.awaited := state
      rcases awaited_cases fresh with numeric | outOfBand
      · simp only [here, numeric]
        exact .settled (settle_fails ⟨_, _, rfl⟩)
      · simp only [here, outOfBand]
        exact .settled (settle_fails ⟨_, _, rfl⟩)
  | accepted view code session state runner drawn shows untold installed only seen =>
      have here : (car.record (.frame payload)).state = .finished := state
      simp only [here]
      exact .settled (identity_settled payload _)

theorem stage_accept (active : car.lifecycle = .active) (stage : Stage fresh entropy log car) :
    Stage fresh entropy (log ++ entries .accept car) (perform .accept car) := by
  have reached : perform .accept car = car.settle (acceptCode : Step Agreement σ Unit) := by
    rw [perform, accept, if_pos active]
  rcases acceptCode_cases car with ⟨secrets, id, listening, waiting, -, ran⟩ | fails
  · rw [settle_ok ran] at reached
    obtain ⟨sealed, added⟩ : ∃ sealed, news car (perform .accept car) =
        [.asked .verify (.ok { state := .finished, key := some secrets.next }),
          .stored .uniqueId (.ok ()), .sent .handshake sealed] := by
      rw [reached]
      exact ⟨_, news_of_trace car _ [_, _, _] rfl⟩
    rw [entries, added, listening, reached]
    cases stage with
    | settled ended => exact absurd active ended
    | unknown _ runner => simp [runner] at waiting
    | inProgress _ _ runner => simp [runner, replied] at waiting
    | accepted _ _ _ _ runner => simp [runner] at waiting
    | shown view code state runner drawn shows untold only seen =>
        have same : view.secrets = secrets := by
          rw [runner] at waiting
          exact Phase.awaitingVerification.inj waiting
        subst same
        refine .accepted view code _ rfl ?_ drawn shows ⟨untold.unidentified, rfl⟩ rfl ?_ ?_
        · change { car.runner with phase := .finished } = _
          rw [runner]
        · rw [codes, List.filterMap_append]
          change codes log ++ [] = [code]
          rw [only, List.append_nil]
        · refine List.Sublist.append seen ?_
          exact .cons_cons _ (List.nil_sublist _)
  · rw [reached]
    exact .settled (settle_fails fails)

theorem stage_step (role : fresh.role = .responder) (verifies : fresh.reconnecting = false)
    (call : Call) (stage : Stage fresh entropy log car) :
    Stage fresh entropy (log ++ entries call car) (perform call car) := by
  by_cases active : car.lifecycle = .active
  · have called : Stage fresh entropy (log ++ [.called call car.flavor.listening]) car :=
      stage.frame _ rfl rfl rfl rfl rfl rfl rfl rfl
    have handled (payload : Bytes) := stage_handshake role verifies payload active called
    cases call with
    | frame payload =>
        have next := handled payload
        rw [List.append_assoc] at next
        exact next
    | receive message operation =>
        rw [entries, perform]
        cases receive_cases car message operation with
        | ignored failed same => exact absurd failed (not_failed_of_active active)
        | told notice living traffic same =>
            rw [same]
            exact stage_notify _ _ stage
        | taken payload living handshakes opened same =>
            have next := handled payload
            rw [List.append_assoc] at next
            rw [same]
            exact next
    | send message =>
        rw [entries, perform, send_refused message car (not_established_of_active active)]
        dsimp only
        rw [news_same]
        exact called
    | subscribe subscription =>
        have still : news car (perform (.subscribe subscription) car) = [] := news_of_trace _ _ [] rfl
        rw [entries, still]
        exact stage.frame _ rfl rfl rfl rfl rfl rfl rfl rfl
    | accept => exact stage_accept active stage
    | listen on =>
        have still : news car (perform (.listen on) car) = [] := news_of_trace _ _ [] rfl
        rw [entries, still]
        exact stage.frame _ rfl rfl rfl rfl rfl rfl rfl rfl
  · exact .settled (perform_settled call car active)

-- From a stage every run leads to a stage.
theorem stage_run (role : fresh.role = .responder) (verifies : fresh.reconnecting = false)
    (calls : List Call) (stage : Stage fresh entropy log car) :
    Stage fresh entropy (log ++ journal calls car) (performAll calls car) := by
  induction calls generalizing log car with
  | nil =>
      rw [journal, List.append_nil]
      exact stage
  | cons call rest ih =>
      rw [journal, ← List.append_assoc]
      exact ih (stage_step role verifies call stage)

theorem stage_reached (runner : Agreement) (role : runner.role = .responder)
    (idle : runner.phase = .idle) (storage : σ) (entropy : Entropy) (now : Int)
    (calls : List Call) :
    Stage (verifying runner) entropy (journal calls (unpaired runner storage entropy now))
      (performAll calls (unpaired runner storage entropy now)) := by
  have answers : (verifying runner).role = .responder := role
  exact stage_run answers rfl calls (stage_fresh runner idle storage entropy now)

end CarPairing.Association
