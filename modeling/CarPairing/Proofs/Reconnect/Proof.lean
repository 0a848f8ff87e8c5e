import CarPairing.Proofs.Reconnect.Stages
import CarPairing.Proofs.Store.Keeping

/-!
A reconnection resumes only against a proof of the stored key, and writes
nothing otherwise. What it has done is told from the frames that it has taken:
the peer may send anything in any order, sealed or in clear.
-/

namespace CarPairing.Reconnect

open Channel Agreement

variable {σ : Type} [KeyStorage σ] {start car : Car σ} {frames : List Bytes}

/-- What a reconnection has come to and has written, by the frames taken. -/
structure Accounted (storage : σ) (device : String) (entropy : Entropy) (now : Int)
    (frames : List Bytes) (car : Car σ) : Prop where
  established : car.lifecycle = .established ↔ ∃ previous view kept,
    Proven storage device entropy frames previous view ∧
      KeyStorage.saveKey storage now device (resumedKey previous view.secrets.next) =
        (.ok (), kept)
  failed : car.lifecycle = .failed ↔ ¬Conversation storage device entropy frames ∨
    ∃ previous view error kept, Proven storage device entropy frames previous view ∧
      KeyStorage.saveKey storage now device (resumedKey previous view.secrets.next) =
        (.error error, kept)
  renewed : ∀ previous view outcome kept, Proven storage device entropy frames previous view →
    KeyStorage.saveKey storage now device (resumedKey previous view.secrets.next) =
      (outcome, kept) →
    writes car.trace.reverse = [(.saveKey device (resumedKey previous view.secrets.next), outcome)] ∧
      car.storage = kept
  untouched : (¬∃ previous view, Proven storage device entropy frames previous view) →
    writes car.trace.reverse = [] ∧ car.storage = storage

section Proven

variable {storage : σ} {device : String} {entropy : Entropy} {previous other : Key}
variable {view mine : ResponderView}

-- The frames and the draws tell who was met and what was agreed on.
theorem Proven.unique (proven : Proven storage device entropy frames previous view)
    (again : Proven storage device entropy frames other mine) :
    previous = other ∧ view = mine := by
  have same := proven.frames.symm.trans again.frames
  injection same with request rest
  injection rest with finish _
  constructor
  · exact Option.some.inj (proven.known.symm.trans again.known)
  · exact ResponderView.unique (proven.drawn.trans again.drawn.symm) request finish

end Proven

theorem Pending.unproven {previous : Key} {view : ResponderView}
    (pending : Pending start car frames) :
    ¬Proven start.storage start.flavor.deviceId start.entropy frames previous view := by
  intro proven
  have early := pending.early
  have length := proven.length
  omega

theorem Pending.accounted (pending : Pending start car frames) (active : car.lifecycle = .active) :
    Accounted start.storage start.flavor.deviceId start.entropy start.now frames car where
  established := by
    constructor
    · intro established
      exact absurd established (not_established_of_active active)
    · rintro ⟨previous, view, kept, proven, saved⟩
      exact absurd proven pending.unproven
  failed := by
    constructor
    · intro failed
      exact absurd failed (not_failed_of_active active)
    · rintro (deviant | ⟨previous, view, error, kept, proven, saved⟩)
      · exact absurd pending.conversation deviant
      · exact absurd proven pending.unproven
  renewed previous view outcome kept proven saved := absurd proven pending.unproven
  untouched unproven := ⟨pending.log.writes, pending.storage⟩

-- What the storage says to the new key is what it says to that of any other
-- account of the same frames.
theorem accounted_proven {previous : Key} {view : ResponderView}
    {outcome : Except StoreError Unit} {kept : σ}
    (proven : Proven start.storage start.flavor.deviceId start.entropy frames previous view)
    (saved : KeyStorage.saveKey start.storage start.now start.flavor.deviceId
      (resumedKey previous view.secrets.next) = (outcome, kept))
    (ended : car.lifecycle = verdict outcome) (storage : car.storage = kept)
    (log : Log car frames
      [(.saveKey start.flavor.deviceId (resumedKey previous view.secrets.next), outcome)]) :
    Accounted start.storage start.flavor.deviceId start.entropy start.now frames car := by
  have agree {other : Key} {mine : ResponderView} {answer : Except StoreError Unit} {left : σ}
      (again : Proven start.storage start.flavor.deviceId start.entropy frames other mine)
      (saved' : KeyStorage.saveKey start.storage start.now start.flavor.deviceId
        (resumedKey other mine.secrets.next) = (answer, left)) : answer = outcome := by
    obtain ⟨rfl, rfl⟩ := proven.unique again
    rw [saved] at saved'
    exact (congrArg Prod.fst saved').symm
  constructor
  · constructor
    · intro established
      cases outcome with
      | ok => exact ⟨previous, view, kept, proven, saved⟩
      | error error => exact absurd (ended.symm.trans established) nofun
    · rintro ⟨other, mine, left, again, saved'⟩
      rw [ended, ← agree again saved']
      rfl
  · constructor
    · intro failed
      cases outcome with
      | ok => exact absurd (ended.symm.trans failed) nofun
      | error error => exact Or.inr ⟨previous, view, error, kept, proven, saved⟩
    · rintro (deviant | ⟨other, mine, error, left, again, saved'⟩)
      · exact absurd (.proven previous view proven) deviant
      · rw [ended, ← agree again saved']
        rfl
  · intro other mine answer left again saved'
    obtain ⟨rfl, rfl⟩ := proven.unique again
    rw [saved] at saved'
    cases saved'
    exact ⟨log.writes, storage⟩
  · intro unproven
    exact absurd ⟨previous, view, proven⟩ unproven

theorem accounted_lost (failed : car.lifecycle = .failed) (storage : car.storage = start.storage)
    (deviant : ¬Conversation start.storage start.flavor.deviceId start.entropy frames)
    (log : Log car frames []) :
    Accounted start.storage start.flavor.deviceId start.entropy start.now frames car where
  established := by
    constructor
    · intro established
      exact absurd established (not_established_of_failed failed)
    · rintro ⟨previous, view, kept, proven, saved⟩
      exact absurd (.proven previous view proven) deviant
  failed := ⟨fun _ => Or.inl deviant, fun _ => failed⟩
  renewed previous view outcome kept proven saved := absurd (.proven previous view proven) deviant
  untouched unproven := ⟨log.writes, storage⟩

theorem Stage.accounted (fresh : Fresh start) (stage : Stage start car frames) :
    Accounted start.storage start.flavor.deviceId start.entropy start.now frames car := by
  by_cases active : car.lifecycle = .active
  · exact (stage.pending active).accounted active
  · cases stage with
    | proven previous view outcome kept proven saved ended storage log =>
        exact accounted_proven proven saved ended storage log
    | lost failed storage deviant log => exact accounted_lost failed storage deviant log
    | _ =>
        subst car
        exact absurd fresh.active active

theorem Stage.taken (stage : Stage start car frames) : Channel.taken car.trace.reverse = frames := by
  cases stage with
  | fresh _ _ _ log => exact log.frames
  | requested _ _ _ _ _ _ _ log => exact log.frames
  | agreed _ _ _ _ _ _ _ log => exact log.frames
  | proven _ _ _ _ _ _ _ _ log => exact log.frames
  | lost _ _ _ log => exact log.frames

-- A call that writes has taken the proof, and all before it was agreed on.
theorem writing_proven (fresh : Fresh start) (stage : Stage start car frames) (call : Call)
    (wrote : writes (perform call car).trace.reverse ≠ writes car.trace.reverse) :
    ∃ previous view, frames = [view.clientInit, view.clientFinish] ∧
      Proven start.storage start.flavor.deviceId start.entropy
        (taken (perform call car).trace.reverse) previous view := by
  by_cases active : car.lifecycle = .active
  · have pending := stage.pending active
    have silent {later : List Bytes} (after : Stage start (perform call car) later) :
        ∃ previous view, Proven start.storage start.flavor.deviceId start.entropy later previous
          view := by
      by_contra unproven
      have unwritten := ((after.accounted fresh).untouched unproven).1
      exact wrote (unwritten.trans pending.log.writes.symm)
    cases perform_stage fresh call stage with
    | stays after =>
        obtain ⟨previous, view, proven⟩ := silent after
        exact absurd proven pending.unproven
    | takes payload _ after =>
        obtain ⟨previous, view, proven⟩ := silent after
        have split : frames ++ [payload] = [view.clientInit, view.clientFinish] ++ [_] :=
          proven.frames
        rw [after.taken]
        exact ⟨previous, view, (List.append_inj' split rfl).1, proven⟩
  · obtain ⟨-, traffic⟩ := perform_inert call car active
    have same := writes_grown (traffic.mono fun _ traffic => traffic.aside.write)
    unfold writes at same wrote
    rw [List.filterMap_reverse, List.filterMap_reverse, same] at wrote
    exact absurd rfl wrote

/-- Over every run: what the channel has come to and has written is told by the
frames that it has taken. A call writes only if it brings the proof that answers
a request and the key message that goes with it, and once the channel has failed
no frame does anything. -/
theorem resumes_against_proof (runner : Agreement) (role : runner.role = .responder)
    (idle : runner.phase = .idle) (storage : σ) (device : String) (entropy : Entropy) (now : Int)
    (calls : List Call) (car : Car σ)
    (reached : car = performAll calls (paired runner device storage entropy now)) :
    Accounted storage device entropy now (taken car.trace.reverse) car ∧
      (∀ call, writes (perform call car).trace.reverse ≠ writes car.trace.reverse →
        ∃ previous view, taken car.trace.reverse = [view.clientInit, view.clientFinish] ∧
          Proven storage device entropy (taken (perform call car).trace.reverse) previous view) ∧
      (car.lifecycle = .failed → ∀ payload message operation,
        car.handshake payload = car ∧ car.receive message operation = car) := by
  obtain ⟨fresh, frames, stage⟩ := stage_reached runner role idle storage device entropy now calls
  rw [← reached] at stage
  rw [stage.taken]
  refine ⟨stage.accounted fresh, fun call wrote => writing_proven fresh stage call wrote, ?_⟩
  intro failed payload message operation
  constructor
  · exact handshake_inactive car payload (not_active_of_failed failed)
  · exact receive_failed car message operation failed

-- Whoever has the stored key can prove it, and gets through if the new one is
-- written.
theorem resumes_known (runner : Agreement) (role : runner.role = .responder)
    (idle : runner.phase = .idle) (storage : σ) (device : String) (entropy : Entropy) (now : Int)
    (previous : Key) (view : ResponderView) (kept : σ) (drawn : view.entropy = entropy)
    (known : KeyStorage.key? storage device = some previous)
    (saved : KeyStorage.saveKey storage now device (resumedKey previous view.secrets.next) =
      (.ok (), kept)) (car : Car σ)
    (reached : car = performAll [.frame view.clientInit, .frame view.clientFinish,
      .frame (resumeMac previous view.secrets.auth clientLabel)]
        (paired runner device storage entropy now)) :
    car.lifecycle = .established ∧ car.storage = kept := by
  have fresh := fresh_paired runner role idle storage device entropy now
  have stage := stage_resumed fresh previous view drawn known
    (stage_paired runner storage device entropy now)
  rw [← reached] at stage
  have accounted := stage.accounted fresh
  have proven : Proven storage device entropy _ previous view := ⟨drawn, known, rfl⟩
  constructor
  · exact accounted.established.mpr ⟨previous, view, kept, proven, saved⟩
  · exact (accounted.renewed previous view _ _ proven saved).2

-- Here over a memory that holds one key.
theorem resumes_against_proof_known :
    let runner : Agreement := { role := .responder }
    let own : Entropy := { byteAt := fun _ => 1 }
    let view := honestResponder own { byteAt := fun _ => 2 }
    let key : Key := ⟨List.replicate 32 3, rfl⟩
    let storage : MemoryStorage := ⟨({} : KeyStore).withKey "phone" key 0⟩
    let proof := resumeMac key view.secrets.auth clientLabel
    let calls := [Call.frame view.clientInit, Call.frame view.clientFinish, Call.frame proof]
    ∃ car, car = performAll calls (paired runner "phone" storage own 0) ∧
      Accounted storage "phone" own 0 (taken car.trace.reverse) car ∧
        car.lifecycle = .established ∧
          car.storage = ⟨storage.store.withKey "phone" (resumedKey key view.secrets.next) 0⟩ := by
  intro runner own view key storage proof calls
  have known : KeyStorage.key? storage "phone" = some key :=
    KeyStore.key_withKey {} "phone" key 0
  have saved := storage.saveKey_named 0 (resumedKey key view.secrets.next)
    (show "phone" ≠ "" by decide)
  obtain ⟨car, reached⟩ : ∃ car, car = performAll calls (paired runner "phone" storage own 0) :=
    ⟨_, rfl⟩
  obtain ⟨accounted, -, -⟩ :=
    resumes_against_proof runner rfl rfl storage "phone" own 0 calls car reached
  exact ⟨car, reached, accounted,
    resumes_known runner rfl rfl storage "phone" own 0 key view _ rfl known saved car reached⟩

end CarPairing.Reconnect
