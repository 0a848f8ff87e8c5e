import CarPairing.Proofs.Association.Exact
import CarPairing.Proofs.Identity

/-!
A key is stored only for a pairing that the user has accepted: for the
conversation whose code was shown, after it was shown, and it is the key of
that conversation. What may be stored besides is a key that was there before.
-/

namespace CarPairing.Association

open Channel Agreement

variable {σ : Type} [KeyStorage σ]

/-- The key that was stored before is written again in place of `key`, since the
secret that goes with `key` was refused. -/
inductive WrittenBack (storage : σ) (now : Int) (id : String) (key previous : Key) : Prop where
  | intro (secret : Bytes) (error : StoreError) (passed written refused : σ)
      (checked : KeyStorage.checkSecret storage secret = (.ok (), passed))
      (keyed : KeyStorage.saveKey passed now id key = (.ok (), written))
      (kept : KeyStorage.saveSecret written now id secret = (.error error, refused))
      (had : KeyStorage.key? passed id = some previous)

-- An enrolment writes its own key or the one that was there.
theorem enrolled_saveKey {storage after : σ} {now : Int} {id other : String} {key saved : Key}
    {secret : Bytes} {events : List Event} {outcome answer : Except StoreError Unit}
    (enrolled : Enrolled storage now id key secret events after outcome)
    (member : .stored (.saveKey other saved) answer ∈ events) :
    other = id ∧ (saved = key ∨ WrittenBack storage now id key saved) := by
  cases enrolled <;> simp only [List.mem_cons, Event.stored.injEq, StorageCall.saveKey.injEq,
    reduceCtorEq, false_and, false_or, List.not_mem_nil, or_false] at member
  -- Where the secret is refused a key is written twice; the second one was there before.
  case restored error passed written refused previous answer checked keyed kept had undone =>
    rcases member with first | last
    · exact ⟨first.1.1, Or.inl first.1.2⟩
    · obtain ⟨⟨rfl, rfl⟩, -⟩ := last
      exact ⟨rfl, Or.inr ⟨secret, error, passed, written, refused, checked, keyed, kept, had⟩⟩
  all_goals exact ⟨member.1.1, Or.inl member.1.2⟩

/-- Over every run: whenever a key is written, a request and a key message that
matches it have been taken, the code of that conversation and no other was
shown, and the user then accepted with someone listening; and the key is the
one agreed on in that conversation, or one that was stored before. -/
theorem saved_after_acceptance (runner : Agreement) (role : runner.role = .responder)
    (idle : runner.phase = .idle) (storage : σ) (entropy : Entropy) (now : Int)
    (calls : List Call) (call : Call) (car : Car σ)
    (reached : car = performAll calls (unpaired runner storage entropy now))
    (id : String) (key : Key) (outcome : Except StoreError Unit)
    (saved : .stored (.saveKey id key) outcome ∈ news car (perform call car)) :
    ∃ (view : ResponderView) (code : String), view.entropy = entropy ∧
      runner.code? view.secrets = some code ∧
      codes (journal calls (unpaired runner storage entropy now)) = [code] ∧
      (acceptance view code).Sublist (journal calls (unpaired runner storage entropy now)) ∧
      (key = view.secrets.next ∨ WrittenBack car.storage car.now id view.secrets.next key) := by
  have stage := stage_reached runner role idle storage entropy now calls
  rw [← reached] at stage
  obtain ⟨payload, -, identified⟩ := (perform_grown call car).mem_news saved trivial
  obtain ⟨pending, device, secret, events, after, result, active, -, held, -, enrolled, made⟩ :=
    identified
  obtain ⟨view, code, -, drawn, shows, only, seen, rfl, -⟩ := stage_held stage active held
  refine ⟨view, code, drawn, shows, only, seen, ?_⟩
  rcases made with member | ⟨notice, -⟩
  · obtain ⟨rfl, own | back⟩ := enrolled_saveKey enrolled member
    · exact Or.inl own
    · exact Or.inr back
  · cases notice

-- A key is written: here by a head unit with an empty memory.
theorem saved_after_acceptance_memory :
    let runner : Agreement := { role := .responder }
    let own : Entropy := { byteAt := fun _ => 1 }
    let start : Car MemoryStorage := unpaired runner {} own 0
    let calls := untilAccepted { byteAt := fun _ => 2 }
    let device : Uuid := ⟨List.replicate 16 3, rfl⟩
    let call := Call.frame (Identity.encode device [4])
    ∃ (key : Key) (outcome : Except StoreError Unit),
      .stored (.saveKey device.toText key) outcome ∈
        news (performAll calls start) (perform call (performAll calls start)) ∧
      ∃ (view : ResponderView) (code : String), view.entropy = own ∧
        runner.code? view.secrets = some code ∧ codes (journal calls start) = [code] ∧
        (acceptance view code).Sublist (journal calls start) ∧
        (key = view.secrets.next ∨ WrittenBack (performAll calls start).storage
          (performAll calls start).now device.toText view.secrets.next key) := by
  intro runner own start calls device call
  obtain ⟨entropy, car, reached, active, finished, held, -, -⟩ :=
    performAll_untilAccepted runner rfl rfl ({} : MemoryStorage) own { byteAt := fun _ => 2 } 0
      (fun _ => ⟨_, rfl⟩)
  have named : device ≠ Uuid.nil := by decide
  obtain ⟨outcome, saved⟩ := (identity_made car (Identity.encode device [4]) _ device [4] active
    finished held (Identity.decode_encode device [4] named)).1 rfl
  have made : .stored (.saveKey device.toText _) outcome ∈ news car (perform call car) := saved
  have same : performAll calls start = car := reached
  rw [same]
  have shown := saved_after_acceptance runner rfl rfl ({} : MemoryStorage) own 0 calls call car
    same.symm device.toText _ outcome made
  exact ⟨_, outcome, made, shown⟩

end CarPairing.Association
