import CarPairing.Proofs.Resumption.Chain

/-!
A reconnection that is cut short. The head unit and the phone come to the new key
one after the other, the head unit first. A cut between the two leaves the phone
with a key that is no longer stored, so it is turned away from then on. Any other
cut leaves both with one key, and they reconnect with that. Both ends are dropped, so
all that the head unit comes back with is the storage that it finds: where it is kept
in a file, that of a fresh open of the file.
-/

namespace CarPairing.Resumption

open Agreement Channel Companion

variable {σ : Type}

namespace Line

/-- The key that the phone comes back with: that of the session if it has one. -/
def heldKey (previous : Key) (line : Line σ) : Key :=
  if line.phone.established then line.phone.key.getD previous else previous

/-- The head unit is through and the phone is not. -/
structure Parted (line : Line σ) : Prop where
  carEstablished : line.car.lifecycle = .established
  phoneWaits : line.phone.established = false

end Line

section Statements

variable [KeyStorage σ] (store : σ → KeyStore) (again : σ → Except StoreError σ) (id : String)

/-- The phone is turned away: every run comes to an end after five moves, with the
head unit failed, nothing on the way and the storage as it was. -/
def TurnedAway (round : Round) (storage : σ) (offered : Key) : Prop :=
  ∀ moves line, (round.start id storage offered).run? moves = some line →
    moves.length ≤ 5 ∧ line.car.lifecycle ≠ .established ∧ line.phone.established = false ∧
      line.car.storage = storage ∧
      (moves.length < 5 → ∃ move next, line.step? move = some next) ∧
      (moves.length = 5 → line.car.lifecycle = .failed ∧ ∀ move, line.step? move = none)

/-- What a cut of a reconnection leaves, wherever it comes. With the ends not
parted, any rounds go through with the key that the phone comes back with. With
the ends parted, the storage that is found has the new key and the phone has the
one before, and a round gets nowhere unless it makes one proof of both. -/
def CutShort (round : Round) (storage : σ) (previous : Key) : Prop :=
  ∀ moves line, (round.start id storage previous).run? moves = some line →
    ∃ found, again line.car.storage = .ok found ∧ found = line.car.storage ∧
      (¬line.Parted → ∀ rounds, Chained store again id (store storage) rounds found
        (line.heldKey previous)) ∧
      (line.Parted → line.heldKey previous = previous ∧
        KeyStorage.key? found id = some (round.nextKey previous) ∧
        KeyStore.Rekeyed id (store storage) (store found) ∧
        ∀ other : Round,
          resumeMac previous other.secrets.auth clientLabel ≠
            resumeMac (round.nextKey previous) other.secrets.auth clientLabel →
          TurnedAway id other found previous)

end Statements

/-! ## Where a cut can come -/

namespace Round

variable [KeyStorage σ] {id : String} (round : Round) {previous : Key} {storage kept : σ}

-- The stage at which the ends are parted is the one with the answer on the way.
omit [KeyStorage σ] in
theorem parted_line (stage : Progress) :
    (round.line previous id storage (round.carLast id previous (.ok ()) storage kept) stage).Parted ↔
      stage = .answered := by
  rw [carLast_ok]
  constructor
  · intro parted
    obtain ⟨through, waits⟩ := parted
    cases stage with
    | answered => rfl
    | resumed => cases waits
    | _ => cases through
  · rintro rfl
    exact ⟨rfl, rfl⟩

/-- The storage and the phone of a line are both as before the round, or both as
after it. -/
inductive AtOne (round : Round) (previous : Key) (storage kept : σ) (line : Line σ) : Prop where
  | before (stored : line.car.storage = storage) (held : line.heldKey previous = previous)
  | after (stored : line.car.storage = kept)
      (held : line.heldKey previous = round.nextKey previous)

omit [KeyStorage σ] in
theorem atOne_line (stage : Progress) (whole : stage ≠ .answered) :
    AtOne round previous storage kept (round.line previous id storage
      (round.carLast id previous (.ok ()) storage kept) stage) := by
  cases stage with
  | answered => exact absurd rfl whole
  | resumed => exact .after round.carLast_storage rfl
  | _ => exact .before rfl rfl

omit [KeyStorage σ] in
theorem answered_storage :
    (round.line previous id storage (round.carLast id previous (.ok ()) storage kept)
      .answered).car.storage = kept :=
  round.carLast_storage

-- A cut can come there.
theorem parted_exists (course : round.Course previous id storage
    (round.carLast id previous (.ok ()) storage kept)) :
    (round.start id storage previous).run?
      [.phoneStarts, .carReceives, .phoneReceives, .carReceives, .carReceives] =
        some (round.line previous id storage (round.carLast id previous (.ok ()) storage kept)
          .answered) := by
  have requested : Progress.fresh.next? .phoneStarts = some .requested := rfl
  have replied : Progress.requested.next? .carReceives = some .replied := rfl
  have proving : Progress.replied.next? .phoneReceives = some .proving := rfl
  have agreed : Progress.proving.next? .carReceives = some .agreed := rfl
  have answered : Progress.agreed.next? .carReceives = some .answered := rfl
  have staged := round.staged course
  change (round.line previous id storage (round.carLast id previous (.ok ()) storage kept)
    .fresh).run? _ = _
  rw [Line.run?, staged.move requested, staged.move replied, staged.move proving,
    staged.move agreed, staged.move answered, runMoves?]

/-! ## A phone whose key is not the stored one -/

section Impasse

variable (id)

/-- The head unit that has found the proof of another key. -/
def carRefusing (stored offered : Key) (storage : σ) (error : HandshakeError)
    (runner : Agreement) : Reconnect.Car σ :=
  (Reconnect.disproved (round.carAgreed stored id storage)
    (resumeMac offered round.secrets.auth clientLabel) stored error runner).fail
      (.invalidHandshake error)

/-- How far the two come: everything goes through up to the proof of the phone. -/
inductive Impasse where
  | fresh
  | requested
  | replied
  | proving
  | agreed
  | refused

def Impasse.next? : Impasse → Move → Option Impasse
  | .fresh, .phoneStarts => some .requested
  | .requested, .carReceives => some .replied
  | .replied, .phoneReceives => some .proving
  | .proving, .carReceives => some .agreed
  | .agreed, .carReceives => some .refused
  | _, _ => none

def Impasse.moves : Impasse → Nat
  | .fresh => 0
  | .requested => 1
  | .replied => 2
  | .proving => 3
  | .agreed => 4
  | .refused => 5

def impasse (stored offered : Key) (storage : σ) (last : Reconnect.Car σ) : Impasse → Line σ
  | .fresh => round.start id storage offered
  | .requested =>
      { car := round.carAtStart id storage, phone := round.phoneRequesting offered
        toCar := [round.request] }
  | .replied =>
      { car := round.carReplied stored id storage, phone := round.phoneRequesting offered
        toPhone := [round.reply] }
  | .proving =>
      { car := round.carReplied stored id storage, phone := round.phoneProving offered
        toCar := [round.finish, round.proof offered] }
  | .agreed =>
      { car := round.carAgreed stored id storage, phone := round.phoneProving offered
        toCar := [round.proof offered] }
  | .refused => { car := last, phone := round.phoneProving offered }

variable {id}

theorem impasse_staged {stored offered : Key} {last : Reconnect.Car σ}
    (known : KeyStorage.key? storage id = some stored)
    (ends : (round.carAgreed stored id storage).receive (round.proof offered) .handshake = last)
    (silent : Exchange.frames (news (round.carAgreed stored id storage) last) = []) :
    Staged Line.step? (round.impasse id stored offered storage last) Impasse.next? Impasse.moves
      .refused where
  simulates stage move := by
    cases move with
    | phoneStarts =>
        cases stage with
        | fresh => exact congrArg some (Line.onPhone_ok _ (round.phone_starts offered))
        | _ => rfl
    | carReceives =>
        cases stage with
        | requested =>
            exact congrArg some (Line.onCar_exact (round.car_replies stored id storage known)
              (round.sent_reply stored id storage))
        | proving =>
            exact congrArg some (Line.onCar_exact (round.car_agrees stored id storage)
              (round.sent_agreed stored id storage))
        | agreed => exact congrArg some (Line.onCar_exact ends silent)
        | _ => rfl
    | phoneReceives =>
        cases stage with
        | replied => exact congrArg some (Line.onPhone_ok _ (round.phone_proves offered))
        | _ => rfl
  counts := by
    intro stage next move made
    cases stage <;> cases move <;> cases made <;> rfl
  bounded stage := by cases stage <;> decide
  ends := by
    intro stage all
    cases stage <;> first | rfl | cases all
  goes stage unfinished := by
    cases stage with
    | fresh => exact ⟨.phoneStarts, _, rfl⟩
    | requested => exact ⟨.carReceives, _, rfl⟩
    | replied => exact ⟨.phoneReceives, _, rfl⟩
    | proving => exact ⟨.carReceives, _, rfl⟩
    | agreed => exact ⟨.carReceives, _, rfl⟩
    | refused => exact absurd rfl unfinished

-- The head unit says nothing to a proof that is wrong.
omit [KeyStorage σ] in
theorem carRefusing_silent (stored offered : Key) (error : HandshakeError) (runner : Agreement) :
    Exchange.frames (news (round.carAgreed stored id storage)
      (round.carRefusing id stored offered storage error runner)) = [] := by
  have asked : Grown (fun _ => True) (round.carAgreed stored id storage)
      (Reconnect.disproved (round.carAgreed stored id storage)
        (resumeMac offered round.secrets.auth clientLabel) stored error runner) :=
    ⟨[_, _], rfl, fun _ _ => trivial⟩
  rw [carRefusing, frames_quiet asked (fail_grown _ _ nofun nofun), news_of_trace _ _ [_, _] rfl]
  rfl

theorem turned_away {stored offered : Key} (known : KeyStorage.key? storage id = some stored)
    (differ : resumeMac offered round.secrets.auth clientLabel ≠
      resumeMac stored round.secrets.auth clientLabel) :
    TurnedAway id round storage offered := by
  obtain ⟨error, runner, refused⟩ := Reconnect.proof_refused (round.carAgreed stored id storage) _
    stored round.secrets rfl rfl rfl rfl rfl differ
  have ends := (receive_clear (round.carAgreed stored id storage) _ nofun).trans refused
  have staged := round.impasse_staged known ends (round.carRefusing_silent stored offered _ _)
  obtain ⟨trace, failed⟩ := fail_active (.invalidHandshake error)
    (Reconnect.disproved (round.carAgreed stored id storage)
      (resumeMac offered round.secrets.auth clientLabel) stored error runner) rfl
  intro moves line ran
  obtain ⟨bound, goes, whole⟩ := staged.completes .fresh rfl moves line ran
  obtain ⟨stage, rfl, -⟩ := staged.run moves .fresh line ran
  refine ⟨bound, ?_, ?_, ?_, goes, ?_⟩
  · intro through
    cases stage with
    | refused =>
        rw [impasse, failed] at through
        cases through
    | _ => cases through
  · cases stage <;> rfl
  · cases stage with
    | refused =>
        rw [impasse, failed]
        rfl
    | _ => rfl
  · intro all
    rw [whole all]
    refine ⟨?_, ?_⟩
    · rw [impasse, failed]
    · intro move
      have still := staged.simulates .refused move
      cases move <;> exact still

end Impasse

end Round

/-! ## What a cut leaves -/

variable [KeyStorage σ] {store : σ → KeyStore} {again : σ → Except StoreError σ} {id : String}

-- What is found is the storage of before the round or the one of after it.
theorem cutShort_of_lasts (round : Round) {storage : σ} {previous : Key}
    (known : KeyStorage.key? storage id = some previous)
    (holds : (store storage).key? id = some previous) (here : again storage = .ok storage)
    (lasts : ∀ rounds, Lasts store again id rounds storage previous) :
    CutShort store again id round storage previous := by
  obtain ⟨kept, replaces, stays, later⟩ := lasts_after round lasts
  have course := round.course_last known replaces.saved
  have rekeyed := replaces.rekeyed holds
  intro moves line ran
  obtain ⟨stage, rfl, -⟩ := (round.staged course).run moves .fresh line ran
  have parted : (round.line previous id storage
      (round.carLast id previous (.ok ()) storage kept) stage).Parted ↔ stage = .answered :=
    round.parted_line stage
  by_cases answered : stage = .answered
  · have apart := parted.mpr answered
    subst answered
    rw [round.answered_storage]
    refine ⟨kept, stays, rfl, fun together => absurd apart together, fun _ => ?_⟩
    refine ⟨rfl, replaces.reads, rekeyed, ?_⟩
    intro other differ
    exact other.turned_away replaces.reads differ
  · have together := mt parted.mp answered
    have one : round.AtOne previous storage kept (round.line previous id storage
        (round.carLast id previous (.ok ()) storage kept) stage) := round.atOne_line stage answered
    cases one with
    | before stored same =>
        rw [stored, same]
        refine ⟨storage, here, rfl, fun _ rounds => ?_, fun apart => absurd apart together⟩
        exact chained_of_lasts rounds storage previous known holds (.refl id _) (lasts rounds)
    | after stored same =>
        rw [stored, same]
        refine ⟨kept, stays, rfl, fun _ rounds => ?_, fun apart => absurd apart together⟩
        exact chained_of_lasts rounds kept _ replaces.reads replaces.holds rekeyed (later rounds)

/-- For every device that can be named and whose key is stored, wherever the
reconnection is cut: over a storage in memory with any content, and over one in a
file with any content to which everything can be written, and which is opened afresh
on the disk that the cut has left. -/
theorem reconnection_cut (named : id ≠ "") (key : Key) (round : Round) :
    (∀ storage : MemoryStorage, KeyStorage.key? storage id = some key →
      CutShort MemoryStorage.store .ok id round storage key) ∧
      ∀ (δ : Type) [Disk δ] (storage : FileStorage δ),
        Disk.Lasting δ storage.path → storage.Agrees → KeyStorage.key? storage id = some key →
        (∀ stores, storage.Saves stores) →
        CutShort FileStorage.store (FileStorage.reopened storage.path storage.secretSize) id round
          storage key := by
  constructor
  · intro storage known
    exact cutShort_of_lasts round known known rfl fun rounds => memory_lasts named rounds storage key
  · intro δ _ storage lasting agrees known saves
    have sound := KeyStore.sound_of_load (FileStorage.load_of_agrees agrees)
    exact cutShort_of_lasts round known known agrees fun rounds =>
      file_lasts named rounds storage key lasting sound (saves _)

theorem reconnection_cut_known :
    CutShort MemoryStorage.store .ok "phone" Round.plain ⟨storeOf "phone"⟩ fives ∧
      CutShort FileStorage.store (FileStorage.reopened "/k" 1) "phone" Round.plain filedPhone
        fives := by
  have named : "phone" ≠ "" := by decide
  have known := key_storeOf "phone"
  have parsed := KeyStore.ofText_toText (storeOf "phone") (sound_storeOf named)
  have agrees : filedPhone.Agrees :=
    FileStorage.agrees_of_load (KeyStore.load_text rfl rfl parsed)
  obtain ⟨memory, files⟩ := reconnection_cut named fives Round.plain
  exact ⟨memory ⟨storeOf "phone"⟩ known, files Tree filedPhone (Tree.lasting "/k") agrees known
    (Tree.saves_root filedPhone rfl nofun)⟩

/-- The head unit takes the proof of the phone and its answer is lost. The phone
comes back with the key that it has, which is no longer the stored one. -/
theorem lost_answer_turns_away :
    let round := Round.plain
    let storage : MemoryStorage := ⟨storeOf "phone"⟩
    KeyStorage.key? storage "phone" = some fives ∧ ∃ line,
      (round.start "phone" storage fives).run?
          [.phoneStarts, .carReceives, .phoneReceives, .carReceives, .carReceives] = some line ∧
        TurnedAway "phone" round line.car.storage (line.heldKey fives) := by
  intro round storage
  have known : KeyStorage.key? storage "phone" = some fives := key_storeOf "phone"
  have replaces := storage.replaces round.now (round.nextKey fives) (by decide : "phone" ≠ "")
  have course := round.course_last known replaces.saved
  have differ : resumeMac fives round.secrets.auth clientLabel ≠
      resumeMac (round.nextKey fives) round.secrets.auth clientLabel := by decide +kernel
  refine ⟨known, _, round.parted_exists course, ?_⟩
  rw [round.answered_storage]
  exact round.turned_away replaces.reads differ

end CarPairing.Resumption
