import CarPairing.Proofs.Sealing
import Mathlib.Data.List.Nodup

/-!
The nonces of a session and the wire form of what is sealed under them. The
counter is spent by sealing alone, whatever is opened in between, and stops
before it comes round; so no nonce is used twice, not even by another session
that drew other bytes. A payload falls into nonce and ciphertext in one way.
-/

namespace CarPairing

-- The digits tell the number as far as they go.
theorem ofNatBE_digits (width : Nat) {left right : Nat}
    (same : Bytes.ofNatBE width left = Bytes.ofNatBE width right) :
    left % Nat.pow 256 width = right % Nat.pow 256 width := by
  induction width with
  | zero => exact (Nat.mod_one left).trans (Nat.mod_one right).symm
  | succ width ih =>
      injection same with head tail
      have digit : left / Nat.pow 256 width % 256 = right / Nat.pow 256 width % 256 := by
        have bytes := congrArg UInt8.toNat head
        rw [UInt8.toNat_ofNat', UInt8.toNat_ofNat'] at bytes
        exact bytes
      change left % (Nat.pow 256 width * 256) = right % (Nat.pow 256 width * 256)
      rw [Nat.mod_mul, Nat.mod_mul, ih tail, digit]

namespace Sealed

variable {payload : Bytes} {data : Sealed}

theorem ofWire_long (long : 28 ≤ payload.length) :
    ofWire payload = .ok ⟨payload.take Aead.nonceSize, payload.drop Aead.nonceSize⟩ :=
  if_neg (Nat.not_lt.mpr long)

-- A payload is read exactly if there is room for a nonce and a tag.
theorem ofWire_ok_iff (payload : Bytes) :
    (∃ data, ofWire payload = .ok data) ↔ 28 ≤ payload.length := by
  constructor
  · rintro ⟨data, read⟩
    unfold ofWire at read
    split at read
    · cases read
    next long => exact Nat.not_lt.mp long
  · intro long
    exact ⟨_, ofWire_long long⟩

theorem toWire_ofWire (read : ofWire payload = .ok data) : data.toWire = payload := by
  rw [ofWire_long ((ofWire_ok_iff payload).mp ⟨data, read⟩)] at read
  cases read
  exact List.take_append_drop _ payload

theorem ofWire_toWire (sized : data.nonce.length = 12) (tagged : 16 ≤ data.ciphertext.length) :
    ofWire data.toWire = .ok data := by
  have long : 28 ≤ data.toWire.length := by
    rw [toWire, List.length_append]
    omega
  have front : data.toWire.take Aead.nonceSize = data.nonce := List.take_left' sized
  have back : data.toWire.drop Aead.nonceSize = data.ciphertext := List.drop_left' sized
  rw [ofWire_long long, front, back]

end Sealed

namespace Session

variable {session left : Session} {plaintext payload : Bytes}

/-- The nonces that a session has been through. -/
def numbers (session : Session) : List Bytes :=
  (List.range session.counter).map fun counter => nonce { session with counter }

theorem numbers_next (session : Session) :
    numbers { session with counter := session.counter + 1 } =
      session.numbers ++ [session.nonce] := by
  rw [numbers, List.range_succ, List.map_append]
  rfl

-- A counter that has not passed its limit has not come back to where it was.
theorem numbers_nodup (bounded : session.counter ≤ counterLimit) : session.numbers.Nodup := by
  refine List.Nodup.map_on ?_ List.nodup_range
  intro earlier before later after same
  have digits : earlier % 0x100000000 = later % 0x100000000 :=
    ofNatBE_digits 4 (List.append_cancel_right same)
  rw [List.mem_range] at before after
  rw [counterLimit] at bounded
  rwa [Nat.mod_eq_of_lt (by omega), Nat.mod_eq_of_lt (by omega)] at digits

theorem ofKey_unspent (key : Key) (entropy : Entropy) :
    (ofKey key entropy).1.counter ≠ counterLimit := by
  change 0 ≠ counterLimit
  decide

theorem wrap_spent (session : Session) (plaintext : Bytes)
    (spent : session.counter = counterLimit) :
    session.wrap plaintext = (.error .nonceExhausted, session) := by
  simp only [wrap, encrypt, if_pos spent]

-- To seal takes the nonce that is next, and there has to be one.
theorem wrap_ok (wraps : session.wrap plaintext = (.ok payload, left)) :
    session.counter ≠ counterLimit ∧
      payload = session.nonce ++ Aead.encrypt session.key.bytes session.nonce plaintext ∧
      left = { session with counter := session.counter + 1 } := by
  by_cases spent : session.counter = counterLimit
  · rw [wrap_spent session plaintext spent] at wraps
    cases wraps
  · rw [wrap_fresh session plaintext spent] at wraps
    cases wraps
    exact ⟨spent, rfl, rfl⟩

theorem wrap_error {error : CryptoError}
    (wraps : session.wrap plaintext = (.error error, left)) : left = session := by
  by_cases spent : session.counter = counterLimit
  · rw [wrap_spent session plaintext spent] at wraps
    cases wraps
    rfl
  · rw [wrap_fresh session plaintext spent] at wraps
    cases wraps

/-- What a session is used for. -/
inductive Call where
  | encrypt (plaintext : Bytes)
  | wrap (plaintext : Bytes)
  | decrypt (ciphertext nonce : Bytes)
  | unwrap (payload : Bytes)

inductive Reply where
  | data (data : Sealed)
  | payload (payload : Bytes)
  | plaintext (plaintext : Bytes)

def perform (call : Call) (session : Session) : Except CryptoError Reply × Session :=
  match call with
  | .encrypt plaintext =>
      let (outcome, session) := session.encrypt plaintext
      (outcome.map .data, session)
  | .wrap plaintext =>
      let (outcome, session) := session.wrap plaintext
      (outcome.map .payload, session)
  | .decrypt ciphertext nonce => ((session.decrypt ciphertext nonce).map .plaintext, session)
  | .unwrap payload => ((session.unwrap payload).map .plaintext, session)

/-- The outcomes of the calls, and the session after them. -/
def performAll : List Call → Session → List (Except CryptoError Reply) × Session
  | [], session => ([], session)
  | call :: rest, session =>
      let (outcome, session) := perform call session
      let (outcomes, session) := performAll rest session
      (outcome :: outcomes, session)

def Call.seals : Call → Bool
  | .encrypt _ => true
  | .wrap _ => true
  | _ => false

/-- How many of the calls are to seal something. -/
def sealings (calls : List Call) : Nat :=
  calls.countP Call.seals

/-- The nonce that was used, if something was sealed. -/
def nonce? : Except CryptoError Reply → Option Bytes
  | .ok (.data data) => some data.nonce
  | .ok (.payload payload) => some (payload.take Aead.nonceSize)
  | _ => none

/-- The nonces that the calls used, in their order. -/
def nonces (calls : List Call) (session : Session) : List Bytes :=
  (performAll calls session).1.filterMap nonce?

/-- The outcome of a call that `count` sealings have come before, and the session
after it: a sealing is made under the nonce of that number, and to open something
leaves the session as it is. -/
inductive CallResult (session : Session) (count : Nat) :
    Call → Except CryptoError Reply × Session → Prop where
  | encrypts (plaintext nonce ciphertext : Bytes)
      (numbered : nonce = Bytes.ofNatBE 4 count ++ session.nonceTail)
      (enciphered : ciphertext = Aead.encrypt session.key.bytes nonce plaintext)
      (sized : ciphertext.length = plaintext.length + 16) :
      CallResult session count (.encrypt plaintext)
        (.ok (.data ⟨nonce, ciphertext⟩), { session with counter := count + 1 })
  | wraps (plaintext nonce ciphertext : Bytes)
      (numbered : nonce = Bytes.ofNatBE 4 count ++ session.nonceTail)
      (enciphered : ciphertext = Aead.encrypt session.key.bytes nonce plaintext)
      (sized : ciphertext.length = plaintext.length + 16) :
      CallResult session count (.wrap plaintext)
        (.ok (.payload (nonce ++ ciphertext)), { session with counter := count + 1 })
  | decrypts (ciphertext nonce : Bytes) :
      CallResult session count (.decrypt ciphertext nonce)
        ((session.decrypt ciphertext nonce).map .plaintext, session)
  | unwraps (payload : Bytes) :
      CallResult session count (.unwrap payload)
        ((session.unwrap payload).map .plaintext, session)

section Calls

theorem performAll_cons (call : Call) (rest : List Call) (session : Session) :
    performAll (call :: rest) session =
      ((perform call session).1 :: (performAll rest (perform call session).2).1,
        (performAll rest (perform call session).2).2) := rfl

theorem nonces_cons (call : Call) (rest : List Call) (session : Session) :
    nonces (call :: rest) session =
      (nonce? (perform call session).1).toList ++ nonces rest (perform call session).2 := by
  rw [nonces, performAll_cons, List.filterMap_cons]
  cases nonce? (perform call session).1 <;> rfl

theorem encrypt_fresh (session : Session) (plaintext : Bytes)
    (fresh : session.counter ≠ counterLimit) :
    session.encrypt plaintext =
      (.ok ⟨session.nonce, Aead.encrypt session.key.bytes session.nonce plaintext⟩,
        { session with counter := session.counter + 1 }) := by
  rw [encrypt, if_neg fresh]

theorem perform_result (call : Call) (session : Session)
    (fresh : call.seals = true → session.counter ≠ counterLimit) :
    CallResult session session.counter call (perform call session) := by
  cases call with
  | encrypt plaintext =>
      rw [perform, encrypt_fresh session plaintext (fresh rfl)]
      exact .encrypts plaintext _ _ rfl rfl (Aead.length_encrypt _ _ plaintext)
  | wrap plaintext =>
      rw [perform, wrap_fresh session plaintext (fresh rfl)]
      exact .wraps plaintext _ _ rfl rfl (Aead.length_encrypt _ _ plaintext)
  | decrypt ciphertext nonce => exact .decrypts ciphertext nonce
  | unwrap payload => exact .unwraps payload

-- A spent session seals nothing, and nothing moves.
theorem perform_spent {call : Call} (sealing : call.seals = true)
    (spent : session.counter = counterLimit) :
    perform call session = (.error .nonceExhausted, session) := by
  cases call with
  | encrypt plaintext =>
      rw [perform, encrypt, if_pos spent]
      rfl
  | wrap plaintext =>
      rw [perform, wrap_spent session plaintext spent]
      rfl
  | _ => cases sealing

-- What is opened has used no nonce of the session.
theorem nonce_opened (outcome : Except CryptoError Bytes) :
    nonce? (outcome.map .plaintext) = none := by
  cases outcome <;> rfl

/-- A call is of a spent session and seals nothing, or it has the result of its kind. -/
theorem perform_cases (call : Call) (session : Session) :
    perform call session = (.error .nonceExhausted, session) ∨
      CallResult session session.counter call (perform call session) := by
  by_cases spent : call.seals = true ∧ session.counter = counterLimit
  · exact .inl (perform_spent spent.1 spent.2)
  · exact .inr (perform_result call session fun sealing full => spent ⟨sealing, full⟩)

-- All that a call moves is the counter.
theorem perform_fixed (call : Call) (session : Session) :
    (perform call session).2.key = session.key ∧
      (perform call session).2.nonceTail = session.nonceTail := by
  have result := perform_cases call session
  generalize perform call session = performed at result ⊢
  rcases result with rfl | result
  · exact ⟨rfl, rfl⟩
  · cases result <;> exact ⟨rfl, rfl⟩

theorem performAll_fixed (calls : List Call) (session : Session) :
    (performAll calls session).2.key = session.key ∧
      (performAll calls session).2.nonceTail = session.nonceTail := by
  induction calls generalizing session with
  | nil => exact ⟨rfl, rfl⟩
  | cons call rest ih =>
      obtain ⟨key, tail⟩ := ih (perform call session).2
      exact ⟨key.trans (perform_fixed call session).1, tail.trans (perform_fixed call session).2⟩

/-- One call uses the nonce that is next, or none. -/
theorem perform_numbers (call : Call) (session : Session) (drawn : session.Drawn) :
    (perform call session).2.numbers =
      session.numbers ++ (nonce? (perform call session).1).toList := by
  have result := perform_cases call session
  generalize perform call session = performed at result ⊢
  rcases result with rfl | result
  · exact (List.append_nil _).symm
  · cases result with
    | encrypts plaintext nonce ciphertext numbered enciphered sized =>
        subst numbered
        exact numbers_next session
    | wraps plaintext nonce ciphertext numbered enciphered sized =>
        obtain rfl : nonce = session.nonce := numbered
        have front : (session.nonce ++ ciphertext).take Aead.nonceSize = session.nonce :=
          List.take_left' (length_nonce session drawn)
        simp only [nonce?, front]
        exact numbers_next session
    | decrypts ciphertext nonce =>
        rw [nonce_opened]
        exact (List.append_nil _).symm
    | unwraps payload =>
        rw [nonce_opened]
        exact (List.append_nil _).symm

/-- However a session is used, the nonces of its sealings follow on those that it
has been through. -/
theorem performAll_numbers (calls : List Call) (session : Session) (drawn : session.Drawn) :
    (performAll calls session).2.numbers = session.numbers ++ nonces calls session := by
  induction calls generalizing session with
  | nil => exact (List.append_nil _).symm
  | cons call rest ih =>
      have drawn' : (perform call session).2.Drawn :=
        (congrArg List.length (perform_fixed call session).2).trans drawn
      have others := ih (perform call session).2 drawn'
      rw [performAll_cons, nonces_cons, ← List.append_assoc, ← perform_numbers call session drawn]
      exact others

theorem perform_counter (call : Call) (session : Session)
    (fresh : call.seals = true → session.counter ≠ counterLimit) :
    (perform call session).2.counter = session.counter + if call.seals = true then 1 else 0 := by
  have result := perform_result call session fresh
  generalize perform call session = performed at result ⊢
  cases result <;> rfl

theorem sealings_cons (call : Call) (rest : List Call) :
    sealings (call :: rest) = sealings rest + if call.seals = true then 1 else 0 :=
  List.countP_cons

theorem performAll_counter (calls : List Call) (session : Session)
    (few : session.counter + sealings calls ≤ counterLimit) :
    (performAll calls session).2.counter = session.counter + sealings calls := by
  induction calls generalizing session with
  | nil => rfl
  | cons call rest ih =>
      rw [sealings_cons] at few ⊢
      have counter := perform_counter call session fun sealing => by
        rw [if_pos sealing] at few
        omega
      rw [performAll_cons, ih _ (by omega), counter]
      omega

-- The digits of a number and the bytes that were drawn make up a nonce.
theorem tail_of_nonces {calls : List Call} {session : Session} {nonce : Bytes}
    (drawn : session.Drawn) (used : nonce ∈ nonces calls session) :
    nonce.drop 4 = session.nonceTail := by
  have member : nonce ∈ (performAll calls session).2.numbers := by
    rw [performAll_numbers calls session drawn]
    exact List.mem_append_right _ used
  obtain ⟨counter, -, rfl⟩ := List.mem_map.mp member
  exact (List.drop_left' (Bytes.length_ofNatBE 4 counter)).trans (performAll_fixed calls session).2

section Fresh

variable (key : Key) (entropy : Entropy) {calls : List Call}

theorem counter_fresh (few : sealings calls ≤ counterLimit) :
    (performAll calls (ofKey key entropy).1).2.counter = sealings calls := by
  have unused : (ofKey key entropy).1.counter = 0 := rfl
  rw [performAll_counter calls _ (by omega), unused, Nat.zero_add]

theorem numbers_fresh (calls : List Call) :
    (performAll calls (ofKey key entropy).1).2.numbers = nonces calls (ofKey key entropy).1 :=
  performAll_numbers calls _ (ofKey_drawn key entropy)

-- The next call finds the counter at the number of sealings so far.
theorem result_fresh {earlier later : List Call} {call : Call}
    (few : sealings (earlier ++ call :: later) ≤ counterLimit) :
    let before := (performAll earlier (ofKey key entropy).1).2
    before.counter = sealings earlier ∧
      CallResult before (sealings earlier) call (perform call before) := by
  intro before
  have parts : sealings (earlier ++ call :: later) =
      sealings earlier + (sealings later + if call.seals = true then 1 else 0) := by
    rw [← sealings_cons]
    exact List.countP_append
  have counter : before.counter = sealings earlier := counter_fresh key entropy (by omega)
  refine ⟨counter, ?_⟩
  rw [← counter]
  apply perform_result
  intro sealing spent
  rw [parts, if_pos sealing] at few
  omega

end Fresh

end Calls

/-- The k-th sealing of a session, whatever is opened in between and as long as
there are not too many, is made under the key of the session and the nonce that says
k - 1 in front of the bytes drawn for the session. No nonce occurs twice, nor does it
where other bytes were drawn. On the wire the nonce comes first, and there alone a
payload can be split. -/
theorem nonces_never_repeat (key : Key) (entropy : Entropy) (calls : List Call)
    (few : sealings calls ≤ counterLimit) :
    let session := (ofKey key entropy).1
    (session.nonceTail.length = 8 ∧
      ∀ earlier call later, calls = earlier ++ call :: later →
        let before := (performAll earlier session).2
        before.key = session.key ∧ before.nonceTail = session.nonceTail ∧
          before.counter = sealings earlier ∧
            CallResult before (sealings earlier) call (perform call before)) ∧
    ((nonces calls session).length = sealings calls ∧ (nonces calls session).Nodup ∧
      ∀ (other : Session) (others : List Call), other.nonceTail.length = 8 →
        other.nonceTail ≠ session.nonceTail →
          (nonces calls session).Disjoint (nonces others other)) ∧
    (∀ payload, (∃ data, Sealed.ofWire payload = .ok data) ↔ 28 ≤ payload.length) ∧
    (∀ payload data, Sealed.ofWire payload = .ok data → data.toWire = payload) ∧
    ∀ data : Sealed, data.nonce.length = 12 → 16 ≤ data.ciphertext.length →
      Sealed.ofWire data.toWire = .ok data := by
  intro session
  have drawn : session.Drawn := ofKey_drawn key entropy
  have counter : (performAll calls session).2.counter = sealings calls :=
    counter_fresh key entropy few
  have numbers : (performAll calls session).2.numbers = nonces calls session :=
    numbers_fresh key entropy calls
  refine ⟨⟨drawn, ?_⟩, ⟨?_, ?_, ?_⟩, Sealed.ofWire_ok_iff, fun _ _ => Sealed.toWire_ofWire,
    fun _ => Sealed.ofWire_toWire⟩
  · intro earlier call later split
    subst split
    obtain ⟨same, tail⟩ := performAll_fixed earlier session
    exact ⟨same, tail, result_fresh key entropy few⟩
  · rw [← numbers, Session.numbers, List.length_map, List.length_range, counter]
  · rw [← numbers]
    exact numbers_nodup (counter.symm ▸ few)
  · intro other others drawn' different nonce here there
    exact different ((tail_of_nonces drawn' there).symm.trans (tail_of_nonces drawn here))

-- Two sealings around a payload that does not open.
theorem nonces_never_repeat_opening :
    let key : Key := ⟨List.replicate 32 1, rfl⟩
    let session := (ofKey key ⟨fun _ => 2, 0⟩).1
    let calls : List Call := [.wrap [3], .unwrap [4], .encrypt []]
    sealings calls ≤ counterLimit ∧ (nonces calls session).Nodup ∧
      ∀ earlier call later, calls = earlier ++ call :: later →
        let before := (performAll earlier session).2
        before.key = session.key ∧ before.nonceTail = session.nonceTail ∧
          before.counter = sealings earlier ∧
            CallResult before (sealings earlier) call (perform call before) := by
  intro key session calls
  have few : sealings calls ≤ counterLimit := by decide
  obtain ⟨⟨-, results⟩, ⟨-, distinct, -⟩, -⟩ := nonces_never_repeat key ⟨fun _ => 2, 0⟩ calls few
  exact ⟨few, distinct, results⟩

end Session

end CarPairing
