import CarPairing.Session

/-!
Opening undoes sealing. The sessions at the two ends differ in their counters
and in the bytes they drew for their nonces; what they share is the key, and a
payload carries the nonce it was made under.
-/

namespace CarPairing

theorem xor_xor_cancel (stream message : Bytes) (long : message.length ≤ stream.length) :
    (message.xor stream).xor stream = message := by
  induction message generalizing stream with
  | nil => rfl
  | cons byte rest ih =>
      cases stream with
      | nil => simp at long
      | cons pad stream =>
          have tail := ih stream (by simpa using long)
          have head : (byte ^^^ pad) ^^^ pad = byte := by
            rw [UInt8.xor_assoc, UInt8.xor_self, UInt8.xor_zero]
          simp only [Bytes.xor, List.zipWith_cons_cons] at tail ⊢
          rw [head, tail]

theorem crypt_crypt (key nonce message : Bytes) :
    ChaCha20.crypt key nonce (ChaCha20.crypt key nonce message) = message := by
  have same := ChaCha20.length_crypt key nonce message
  rw [ChaCha20.crypt, same, ChaCha20.crypt]
  apply xor_xor_cancel
  rw [ChaCha20.length_keystream]
  omega

theorem decrypt_encrypt (key nonce plaintext : Bytes) :
    Aead.decrypt? key nonce (Aead.encrypt key nonce plaintext) = some plaintext := by
  have size := Aead.length_encrypt key nonce plaintext
  have body : (Aead.encrypt key nonce plaintext).length - Aead.tagSize =
      (ChaCha20.crypt key nonce plaintext).length := by
    rw [size, ChaCha20.length_crypt, Nat.add_sub_cancel]
  have whole : ¬(Aead.encrypt key nonce plaintext).length < Aead.tagSize := by omega
  simp only [Aead.decrypt?, if_neg whole, body]
  simp only [Aead.encrypt, List.take_left, List.drop_left, if_true, crypt_crypt]

namespace Session

/-- As drawn for a nonce: eight bytes. -/
def Drawn (session : Session) : Prop :=
  session.nonceTail.length = 8

theorem ofKey_drawn (key : Key) (entropy : Entropy) : (ofKey key entropy).1.Drawn :=
  Entropy.length_draw entropy 8

theorem length_nonce (session : Session) (drawn : session.Drawn) :
    session.nonce.length = Aead.nonceSize := by
  rw [Drawn] at drawn
  simp [nonce, Bytes.length_ofNatBE, drawn, Aead.nonceSize]

theorem wrap_fresh (session : Session) (plaintext : Bytes)
    (fresh : session.counter ≠ counterLimit) :
    session.wrap plaintext =
      (.ok (session.nonce ++ Aead.encrypt session.key.bytes session.nonce plaintext),
        { session with counter := session.counter + 1 }) := by
  simp [wrap, encrypt, fresh, Sealed.toWire]

theorem unwrap_sealed (session : Session) (nonce plaintext : Bytes)
    (sized : nonce.length = Aead.nonceSize) :
    session.unwrap (nonce ++ Aead.encrypt session.key.bytes nonce plaintext) = .ok plaintext := by
  have long : ¬(nonce ++ Aead.encrypt session.key.bytes nonce plaintext).length <
      Aead.nonceSize + Aead.tagSize := by
    rw [List.length_append, Aead.length_encrypt]
    omega
  have front : (nonce ++ Aead.encrypt session.key.bytes nonce plaintext).take Aead.nonceSize =
      nonce := by
    rw [← sized, List.take_left]
  have back : (nonce ++ Aead.encrypt session.key.bytes nonce plaintext).drop Aead.nonceSize =
      Aead.encrypt session.key.bytes nonce plaintext := by
    rw [← sized, List.drop_left]
  simp only [unwrap, Sealed.ofWire, if_neg long, front, back, decrypt, sized, ne_eq,
    not_true_eq_false, if_false, decrypt_encrypt]

-- What one end seals the other opens.
theorem unwrap_wrap (own peer : Session) (plaintext : Bytes) (shared : own.key = peer.key)
    (drawn : own.Drawn) (fresh : own.counter ≠ counterLimit) :
    ∃ payload, own.wrap plaintext = (.ok payload, { own with counter := own.counter + 1 }) ∧
      peer.unwrap payload = .ok plaintext := by
  refine ⟨_, wrap_fresh own plaintext fresh, ?_⟩
  rw [shared]
  exact unwrap_sealed peer _ _ (length_nonce own drawn)

/-- Made from a key, whatever was drawn for it and however far it has come. -/
def Made (key : Key) (session : Session) : Prop :=
  ∃ entropy counter, session = { (ofKey key entropy).1 with counter }

theorem ofKey_made (key : Key) (entropy : Entropy) : Made key (ofKey key entropy).1 :=
  ⟨entropy, 0, rfl⟩

theorem Made.drawn {key : Key} {session : Session} (made : Made key session) : session.Drawn := by
  obtain ⟨entropy, counter, rfl⟩ := made
  exact ofKey_drawn key entropy

theorem Made.wrap {key : Key} {session : Session} (made : Made key session) (plaintext : Bytes) :
    Made key (session.wrap plaintext).2 := by
  by_cases spent : session.counter = counterLimit
  · have same : (session.wrap plaintext).2 = session := by
      simp [Session.wrap, encrypt, spent]
    rw [same]
    exact made
  · obtain ⟨entropy, counter, rfl⟩ := made
    rw [wrap_fresh _ plaintext spent]
    exact ⟨entropy, _, rfl⟩

theorem Made.shared {key : Key} {own peer : Session} (made : Made key own) (other : Made key peer) :
    own.key = peer.key := by
  obtain ⟨entropy, counter, rfl⟩ := made
  obtain ⟨entropy', counter', rfl⟩ := other
  rfl

/-- Whoever has a session made from the key opens the payload to the plaintext. -/
def OpensTo (key : Key) (payload plaintext : Bytes) : Prop :=
  ∀ session, Made key session → session.unwrap payload = .ok plaintext

-- Opening depends on the key alone, so what one session opens all of them do.
theorem Made.opensTo {key : Key} {session : Session} {payload plaintext : Bytes}
    (made : Made key session) (opens : session.unwrap payload = .ok plaintext) :
    OpensTo key payload plaintext := by
  intro other made'
  rw [← opens]
  simp only [unwrap, decrypt, made'.shared made]

-- What is drawn for the two sessions does not matter, nor how often each was used.
theorem Made.seals {key : Key} {session after : Session} {plaintext payload : Bytes}
    (made : Made key session) (wrapped : session.wrap plaintext = (.ok payload, after)) :
    OpensTo key payload plaintext := by
  have fresh : session.counter ≠ counterLimit := by
    intro spent
    simp [Session.wrap, encrypt, spent] at wrapped
  intro peer opening
  obtain ⟨sealedPayload, wraps, opens⟩ :=
    unwrap_wrap session peer plaintext (made.shared opening) made.drawn fresh
  rw [wraps] at wrapped
  cases wrapped
  exact opens

end Session

end CarPairing
