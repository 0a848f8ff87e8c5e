import CarPairing.Identity

/-!
The identity message and the canonical text that a device is stored under. With
the split fixed a message is read back as what it was made of, and there is no
other message that is read as the same id and secret.
-/

namespace CarPairing

theorem Uuid.ofBytes_bytes (id : Uuid) : Uuid.ofBytes? id.bytes = some id := by
  rw [Uuid.ofBytes?, dif_pos id.length_bytes]

theorem Uuid.bytes_of_ofBytes {bytes : Bytes} {id : Uuid} (read : Uuid.ofBytes? bytes = some id) :
    bytes = id.bytes := by
  unfold Uuid.ofBytes? at read
  split at read
  · cases read
    rfl
  · cases read

theorem Uuid.ofBytes_eq_none_iff (bytes : Bytes) :
    Uuid.ofBytes? bytes = none ↔ bytes.length ≠ 16 := by
  unfold Uuid.ofBytes?
  split
  next sized => simp [sized]
  next other => simp [other]

theorem Uuid.eq_nil_iff (id : Uuid) : id = Uuid.nil ↔ ∀ byte ∈ id.bytes, byte = 0 := by
  obtain ⟨bytes, length⟩ := id
  simp only [Uuid.nil, Uuid.mk.injEq, List.eq_replicate_iff]
  exact ⟨fun zeros => zeros.2, fun zeros => ⟨length, zeros⟩⟩

theorem Identity.decode_encode (id : Uuid) (secret : Bytes) (named : id ≠ Uuid.nil) :
    Identity.decode (Identity.encode id secret) = .ok (id, secret) := by
  have front : (Identity.encode id secret).take Uuid.size = id.bytes :=
    List.take_left' id.length_bytes
  have back : (Identity.encode id secret).drop Uuid.size = secret :=
    List.drop_left' id.length_bytes
  rw [Identity.decode, front, back, Uuid.ofBytes_bytes]
  simp only [if_neg named]

namespace Identity

variable {message : Bytes}

theorem decode_short (short : message.length < 16) :
    decode message = .error (.tooShort message.length) := by
  have unread : Uuid.ofBytes? (message.take Uuid.size) = none := by
    rw [Uuid.ofBytes_eq_none_iff, List.length_take, Uuid.size]
    omega
  simp only [decode, unread]

-- A message that is long enough has an id in front, if only the nil one.
theorem decode_long (long : 16 ≤ message.length) :
    ∃ id : Uuid, id.bytes = message.take 16 ∧
      decode message = if id = Uuid.nil then .error .nil else .ok (id, message.drop 16) := by
  have sized : (message.take 16).length = 16 := by
    rw [List.length_take]
    omega
  refine ⟨⟨message.take 16, sized⟩, rfl, ?_⟩
  have read : Uuid.ofBytes? (message.take Uuid.size) = some ⟨message.take 16, sized⟩ :=
    dif_pos sized
  rw [decode, read]
  rfl

theorem encode_of_decode {id : Uuid} {secret : Bytes} (read : decode message = .ok (id, secret)) :
    encode id secret = message := by
  rcases Nat.lt_or_ge message.length 16 with short | long
  · rw [decode_short short] at read
    cases read
  · obtain ⟨front, bytes, outcome⟩ := decode_long long
    rw [outcome] at read
    split at read
    · cases read
    · cases read
      rw [encode, bytes, List.take_append_drop]

theorem decode_error_iff (message : Bytes) (error : IdentityError) :
    decode message = .error error ↔
      message.length < 16 ∧ error = .tooShort message.length ∨
      16 ≤ message.length ∧ (∀ byte ∈ message.take 16, byte = 0) ∧ error = .nil := by
  rcases Nat.lt_or_ge message.length 16 with short | long
  · rw [decode_short short]
    simp [short, Nat.not_le.mpr short, eq_comm]
  · obtain ⟨front, bytes, outcome⟩ := decode_long long
    rw [outcome, ← bytes, ← front.eq_nil_iff]
    by_cases zero : front = Uuid.nil <;> simp [zero, long, Nat.not_lt.mpr long, eq_comm]

/-- An id other than nil and a secret are read from their message, and a message
that is read is the message of what it is read as; so two messages read as the same
id and secret are one. What is not read is too short, and told with its length, or
has the nil id in front. -/
theorem decodes_exactly_encodings :
    (∀ id secret, id ≠ Uuid.nil → decode (encode id secret) = .ok (id, secret)) ∧
    (∀ message id secret, decode message = .ok (id, secret) → encode id secret = message) ∧
    (∀ message error, decode message = .error error ↔
      message.length < 16 ∧ error = .tooShort message.length ∨
      16 ≤ message.length ∧ (∀ byte ∈ message.take 16, byte = 0) ∧ error = .nil) ∧
    ∀ one other id secret, decode one = .ok (id, secret) → decode other = .ok (id, secret) →
      one = other := by
  refine ⟨decode_encode, fun message id secret => encode_of_decode, decode_error_iff, ?_⟩
  intro one other id secret first second
  exact (encode_of_decode first).symm.trans (encode_of_decode second)

end Identity

-- The canonical text has hyphens, so it is not empty.
theorem Uuid.toText_ne_empty (id : Uuid) : id.toText ≠ "" := by
  intro empty
  have chars := congrArg String.toList empty
  simp [Uuid.toText, Uuid.groups, Uuid.hyphenate] at chars

end CarPairing
