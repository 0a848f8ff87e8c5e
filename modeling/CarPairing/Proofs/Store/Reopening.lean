import CarPairing.Proofs.Store.Filing

/-!
A storage in a file against a key store that stays in memory. The file is given
up and opened again at any time, and some calls write nothing; as long as the
disk reports no error, nobody who asks the storage can tell it from the store in
memory, and the file has that store after every request.
-/

namespace CarPairing

namespace FileStorage

variable {δ : Type}

inductive Request where
  | change (call : Call)
  | readKey (id : String)

inductive Answer where
  | reply (outcome : Except StoreError Reply)
  | key (key : Option Key)

/-- A request, or the storage given up and opened again. -/
inductive Move where
  | ask (request : Request)
  | reopen

def requests : List Move → List Request
  | [] => []
  | .ask request :: rest => request :: requests rest
  | .reopen :: rest => requests rest

/-- A secret that is to be saved has this length. -/
def Move.Sized (size : Nat) : Move → Prop
  | .ask (.change (.saveSecret _ _ secret)) => secret.length = size
  | _ => True

/-- A key store in memory, with the random bytes that it draws on. -/
structure Memory where
  store : KeyStore
  entropy : Entropy

namespace Memory

/-- Takes over a store that was made, or keeps the old one. -/
def accept (memory : Memory) : Except StoreError KeyStore → Except StoreError Reply × Memory
  | .ok store => (.ok .saved, { memory with store })
  | .error error => (.error error, memory)

def perform (call : Call) (memory : Memory) : Except StoreError Reply × Memory :=
  match call with
  | .saveKey now id key => memory.accept (memory.store.saveKey id key.bytes (timestamp now))
  | .saveSecret now id secret => memory.accept (memory.store.saveSecret id secret (timestamp now))
  | .remove id =>
      let (known, store) := memory.store.remove id
      (.ok (.removed known), { memory with store })
  | .uniqueId =>
      let (id, store, entropy) := memory.store.takeId memory.entropy
      (.ok (.id id), { store, entropy })
  | .rotateId =>
      let (id, store, entropy) := memory.store.rotateId memory.entropy
      (.ok (.id id), { store, entropy })

theorem perform_plain (call : Call) (memory : Memory) (cause : DiskError) :
    (memory.perform call).1 ≠ .error (.io cause) := by
  have refuses {made : Except StoreError KeyStore} (plain : made ≠ .error (.io cause)) :
      (memory.accept made).1 ≠ .error (.io cause) := by
    cases made with
    | ok store => exact nofun
    | error error =>
        rintro same
        injection same with same
        exact plain (congrArg Except.error same)
  cases call with
  | saveKey now id key =>
      apply refuses
      unfold KeyStore.saveKey
      repeat' split
      all_goals simp
  | saveSecret now id secret =>
      apply refuses
      unfold KeyStore.saveSecret
      repeat' split
      all_goals simp
  | remove id => exact nofun
  | uniqueId => exact nofun
  | rotateId => exact nofun

def answer (request : Request) (memory : Memory) : Answer × Memory :=
  match request with
  | .change call =>
      let (outcome, memory) := memory.perform call
      (.reply outcome, memory)
  | .readKey id => (.key (memory.store.key? id), memory)

def answerAll : List Request → Memory → List Answer × Memory
  | [], memory => ([], memory)
  | request :: rest, memory =>
      let (answer, memory) := memory.answer request
      let (answers, memory) := memory.answerAll rest
      (answer :: answers, memory)

end Memory

def Desk.memory (desk : Desk δ) : Memory :=
  { store := desk.storage.store, entropy := desk.entropy }

variable [Disk δ]

def answer (request : Request) (desk : Desk δ) : Answer × Desk δ :=
  match request with
  | .change call =>
      let (outcome, desk) := perform call desk
      (.reply outcome, desk)
  | .readKey id => (.key (KeyStorage.key? desk.storage id), desk)

def reopen (desk : Desk δ) : Except StoreError (Desk δ) :=
  match FileStorage.open desk.storage.disk desk.storage.path desk.storage.secretSize with
  | .ok storage => .ok { desk with storage }
  | .error error => .error error

/-- The answers that are given. A storage that does not open again is the end. -/
def serve : List Move → Desk δ → Except StoreError (List Answer × Desk δ)
  | [], desk => .ok ([], desk)
  | .ask request :: rest, desk =>
      match serve rest (answer request desk).2 with
      | .ok (answers, after) => .ok ((answer request desk).1 :: answers, after)
      | .error error => .error error
  | .reopen :: rest, desk =>
      match reopen desk with
      | .ok desk => serve rest desk
      | .error error => .error error

/-- The disk reports no error to the request. -/
def Served (request : Request) (desk : Desk δ) : Prop :=
  ∀ cause, (answer request desk).1 ≠ .reply (.error (.io cause))

/-- The disk reports no error to any request on the way. -/
def AllServed : List Move → Desk δ → Prop
  | [], _ => True
  | .ask request :: rest, desk => Served request desk ∧ AllServed rest (answer request desk).2
  | .reopen :: rest, desk => ∀ again, reopen desk = .ok again → AllServed rest again

theorem allServed_left {earlier later : List Move} {desk : Desk δ}
    (served : AllServed (earlier ++ later) desk) : AllServed earlier desk := by
  induction earlier generalizing desk with
  | nil => trivial
  | cons move rest ih =>
      cases move with
      | ask request => exact ⟨served.1, ih served.2⟩
      | reopen => exact fun again opened => ih (served again opened)

-- Only the disk keeps a store from being written.
theorem write_outcome (storage : FileStorage δ) (store : KeyStore) :
    (storage.write store).1 = .ok () ∨ ∃ cause, (storage.write store).1 = .error (.io cause) := by
  unfold write KeyStore.save
  cases Disk.replace storage.disk storage.path (Utf8.encode store.toText) with
  | mk outcome after =>
      cases outcome with
      | ok => exact Or.inl rfl
      | error cause => exact Or.inr ⟨cause, rfl⟩

theorem write_written {storage : FileStorage δ} {store : KeyStore}
    (written : (storage.write store).1 = .ok ()) :
    storage.write store = (.ok (), (storage.write store).2) :=
  Prod.ext written rfl

theorem giveOut_written {storage : FileStorage δ} {drawn : Uuid × KeyStore × Entropy}
    (written : (storage.write drawn.2.1).1 = .ok ()) :
    storage.giveOut drawn = (.ok drawn.1, (storage.write drawn.2.1).2, drawn.2.2) := by
  simp only [giveOut]
  rw [write_written written]

section Call

variable {call : Call} {desk : Desk δ}

/-- Whatever the call sets out to write is written. -/
def Written (call : Call) (desk : Desk δ) : Prop :=
  ∀ store, intended? call desk = some store → (desk.storage.write store).1 = .ok ()

theorem written_of_served (served : Served (.change call) desk) : Written call desk := by
  intro store intended
  have unreported (cause : DiskError) : (perform call desk).1 ≠ .error (.io cause) :=
    fun failed => served cause (congrArg Answer.reply failed)
  have course := perform_course call desk
  generalize perform call desk = performed at course unreported
  cases course with
  | refuses idle _ =>
      rw [idle] at intended
      cases intended
  | answers idle _ _ =>
      rw [idle] at intended
      cases intended
  | writes other same reply entropy =>
      rw [same] at intended
      obtain rfl := Option.some.inj intended
      rcases write_outcome desk.storage other with written | ⟨cause, refused⟩
      · exact written
      · exact absurd (by rw [refused]; rfl) (unreported cause)

theorem Written.not_lost (written : Written call desk) : ¬Lost call desk := by
  rintro ⟨store, error, intended, refused, -, -⟩
  rw [written store intended] at refused
  cases refused

theorem accept_remembers {made : Except StoreError KeyStore}
    (written : ∀ store, made = .ok store → (desk.storage.write store).1 = .ok ()) :
    ((desk.storage.accept made).1.map fun _ => Reply.saved,
        Desk.memory { desk with storage := (desk.storage.accept made).2 }) =
      desk.memory.accept made := by
  cases made with
  | error error => rfl
  | ok store =>
      simp only [accept, written store rfl]
      rfl

/-- What is written is what the store in memory becomes. Where nothing is written
the store in memory stays as well. -/
theorem perform_remembers (sized : (Move.ask (.change call)).Sized desk.storage.secretSize)
    (written : Written call desk) :
    ((perform call desk).1, (perform call desk).2.memory) = desk.memory.perform call := by
  cases call with
  | saveKey now id key =>
      apply accept_remembers
      intro store made
      apply written
      simp only [intended?, made]
      rfl
  | saveSecret now id secret =>
      have passes : desk.storage.checkSecret secret = .ok () := checkSecret_sized sized
      simp only [perform, KeyStorage.saveSecret, passes]
      apply accept_remembers
      intro store made
      apply written
      simp only [intended?, passes, made]
      rfl
  | remove id =>
      cases known : desk.storage.store.device? id with
      | some device =>
          have there : (desk.storage.store.remove id).1 = true := by
            simp only [KeyStore.remove, known, Option.isSome_some]
          have wrote := written (desk.storage.store.remove id).2 (by simp [intended?, there])
          simp only [perform, KeyStorage.remove, there, if_true]
          rw [write_written wrote]
          simp only [Memory.perform, Desk.memory, there]
          rfl
      | none =>
          have missing : (desk.storage.store.remove id).1 = false := by
            simp only [KeyStore.remove, known, Option.isSome_none]
          have kept : (desk.storage.store.remove id).2 = desk.storage.store := by
            simp only [KeyStore.remove, Table.erase_absent known]
          simp only [perform, remove_unknown known, Memory.perform, Desk.memory, missing, kept]
          rfl
  | uniqueId =>
      cases had : desk.storage.store.uniqueId with
      | some id =>
          simp only [perform, KeyStorage.uniqueId, had, Memory.perform, Desk.memory,
            KeyStore.takeId_kept _ _ had]
          rfl
      | none =>
          have wrote := written (desk.storage.store.takeId desk.entropy).2.1
            (by simp [intended?, had])
          simp only [perform, KeyStorage.uniqueId, had]
          rw [giveOut_written wrote]
          rfl
  | rotateId =>
      have wrote := written (desk.storage.store.rotateId desk.entropy).2.1 rfl
      simp only [perform, rotateId]
      rw [giveOut_written wrote]
      rfl

end Call

theorem answer_remembers {request : Request} {desk : Desk δ}
    (sized : (Move.ask request).Sized desk.storage.secretSize) (served : Served request desk) :
    ((answer request desk).1, (answer request desk).2.memory) = desk.memory.answer request := by
  cases request with
  | readKey id => rfl
  | change call =>
      have same := perform_remembers sized (written_of_served served)
      simp only [answer, Memory.answer, ← same]

theorem answer_size (request : Request) (desk : Desk δ) :
    (answer request desk).2.storage.secretSize = desk.storage.secretSize := by
  cases request with
  | readKey id => rfl
  | change call => exact perform_place.2

theorem reopen_inStep {path : String} {desk : Desk δ} (inStep : InStep path desk) :
    reopen desk = .ok desk := by
  have agrees : FileStorage.open desk.storage.disk desk.storage.path desk.storage.secretSize =
      .ok desk.storage := inStep.agrees
  simp only [reopen, agrees]

theorem served_steady {path : String} {request : Request} {desk : Desk δ}
    (sized : (Move.ask request).Sized desk.storage.secretSize) (steady : Steady path desk) :
    Served request desk := by
  cases request with
  | readKey id => exact nofun
  | change call =>
      obtain ⟨inStep, writable⟩ := steady
      obtain rfl := inStep.place
      have written : Written call desk := by
        intro store _
        rw [write_exact _ store writable]
      have same := congrArg Prod.fst (perform_remembers sized written)
      intro cause failed
      injection failed with failed
      exact Memory.perform_plain call desk.memory cause (same.symm.trans failed)

section Runs

variable {path : String} (lasting : Disk.Lasting δ path)

include lasting

theorem inStep_answer {request : Request} {desk : Desk δ} (served : Served request desk)
    (inStep : InStep path desk) : InStep path (answer request desk).2 := by
  cases request with
  | readKey id => exact inStep
  | change call => exact inStep_perform lasting inStep (written_of_served served).not_lost

-- Every request leaves the file in step with the storage, so opening it again
-- gives the storage that was given up.
theorem serve_remembers {moves : List Move} {desk : Desk δ} (inStep : InStep path desk)
    (sized : ∀ move ∈ moves, move.Sized desk.storage.secretSize) (served : AllServed moves desk) :
    ∃ after, serve moves desk = .ok ((desk.memory.answerAll (requests moves)).1, after) ∧
      after.memory = (desk.memory.answerAll (requests moves)).2 ∧ InStep path after := by
  induction moves generalizing desk with
  | nil => exact ⟨desk, rfl, rfl, inStep⟩
  | cons move rest ih =>
      obtain ⟨fits, fit⟩ := List.forall_mem_cons.mp sized
      cases move with
      | reopen =>
          have again := reopen_inStep inStep
          obtain ⟨after, run, same, reached⟩ := ih inStep fit (served desk again)
          refine ⟨after, ?_, same, reached⟩
          simp only [serve, again, run, requests]
      | ask request =>
          obtain ⟨now, later⟩ := served
          have next := answer_remembers fits now
          rw [← answer_size request desk] at fit
          obtain ⟨after, run, same, reached⟩ :=
            ih (inStep_answer lasting now inStep) fit later
          refine ⟨after, ?_, ?_, reached⟩
          · simp only [serve, run, requests, Memory.answerAll, ← next]
          · simp only [same, requests, Memory.answerAll, ← next]

/-- The answers of a storage on any file that opens, whichever requests are made
and whenever it is opened again, are those of the store that the file had, kept
in memory. After every move the file has the store that is in memory. -/
theorem serves_as_memory {disk : δ} {secretSize : Nat} {storage : FileStorage δ} {store : KeyStore}
    (opened : FileStorage.open disk path secretSize = .ok storage)
    (loaded : KeyStore.load disk path = .ok store) (entropy : Entropy) (moves : List Move)
    (sized : ∀ move ∈ moves, move.Sized secretSize)
    (served : AllServed moves { storage, entropy }) :
    ∀ earlier later, moves = earlier ++ later →
      let remembered := Memory.answerAll (requests earlier) { store, entropy }
      ∃ after, serve earlier { storage, entropy } = .ok (remembered.1, after) ∧
        KeyStore.load after.storage.disk path = .ok remembered.2.store ∧
        after.entropy = remembered.2.entropy := by
  intro earlier later split remembered
  subst split
  have unfolded := opened
  rw [FileStorage.open, loaded] at unfolded
  obtain rfl : { disk, path, secretSize, store } = storage := Except.ok.inj unfolded
  have opens : InStep path
      ({ storage := { disk, path, secretSize, store }, entropy } : Desk δ) := inStep_of_open opened
  obtain ⟨after, run, same, inStep⟩ := serve_remembers lasting opens
    (fun move member => sized move (List.mem_append_left _ member)) (allServed_left served)
  obtain rfl := inStep.place
  refine ⟨after, run, ?_, congrArg Memory.entropy same⟩
  have kept : after.storage.store = remembered.2.store := congrArg Memory.store same
  rw [← kept]
  exact load_of_agrees inStep.agrees

-- A file that can be written is no reason to report an error.
theorem allServed_steady {moves : List Move} {desk : Desk δ}
    (sized : ∀ move ∈ moves, move.Sized desk.storage.secretSize) (steady : Steady path desk) :
    AllServed moves desk := by
  induction moves generalizing desk with
  | nil => trivial
  | cons move rest ih =>
      obtain ⟨fits, fit⟩ := List.forall_mem_cons.mp sized
      cases move with
      | reopen =>
          intro again opened
          rw [reopen_inStep steady.inStep] at opened
          cases opened
          exact ih fit steady
      | ask request =>
          rw [← answer_size request desk] at fit
          refine ⟨served_steady fits steady, ih fit ?_⟩
          cases request with
          | readKey id => exact steady
          | change call => exact steady_perform lasting _ steady

end Runs

/-- There is no file yet. A device comes and goes, and the storage is opened again
in between. -/
def visit : List Move :=
  [.ask (.change .uniqueId), .ask (.change (.saveKey 5 "d" (Key.derive [] [] []))), .reopen,
   .ask (.change (.saveSecret 6 "d" [1, 2])), .reopen, .ask (.change .rotateId),
   .ask (.readKey "d"), .ask (.change (.remove "d")), .reopen, .ask (.change (.remove "d")),
   .ask (.change .uniqueId)]

theorem serves_as_memory_visit :
    let storage : FileStorage Tree := { disk := {}, path := "/k", secretSize := 2, store := {} }
    let entropy : Entropy := ⟨fun _ => 0, 0⟩
    FileStorage.open ({} : Tree) "/k" 2 = .ok storage ∧
    AllServed visit { storage, entropy } ∧
    ∀ earlier later, visit = earlier ++ later →
      let remembered := Memory.answerAll (requests earlier) { store := {}, entropy }
      ∃ after, serve earlier { storage, entropy } = .ok (remembered.1, after) ∧
        KeyStore.load after.storage.disk "/k" = .ok remembered.2.store ∧
        after.entropy = remembered.2.entropy := by
  intro storage entropy
  have opened : FileStorage.open ({} : Tree) "/k" 2 = .ok storage := rfl
  have lasting := Tree.lasting "/k"
  have sized : ∀ move ∈ visit, move.Sized 2 := by
    simp [visit, Move.Sized]
  have steady : Steady "/k" { storage, entropy } :=
    ⟨inStep_of_open opened, Tree.writable_root {} (by decide)⟩
  have served := allServed_steady lasting sized steady
  exact ⟨opened, served, serves_as_memory lasting opened rfl entropy visit sized served⟩

end FileStorage

end CarPairing
