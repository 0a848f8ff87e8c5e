import CarPairing.Proofs.Nonces
import CarPairing.Proofs.Traffic.Speaking

/-!
What an end puts on the stream. The frames are read off the trace; a session
seals one frame for each count of its counter, so that the nonces of the sealed
frames are the first ones of the session, each of them once.
-/

namespace CarPairing

/-- A frame put on the stream, with what it is for. -/
def Event.sent? : Event → Option (Operation × DeviceMessage)
  | .sent operation message => some (operation, message)
  | _ => none

def Event.Unsent (event : Event) : Prop :=
  event.sent? = none

/-- The nonce that a sealed payload starts with. -/
def DeviceMessage.nonce? (message : DeviceMessage) : Option Bytes :=
  if message.encrypted then some (message.payload.take Aead.nonceSize) else none

namespace Channel

variable {φ ρ σ : Type}

/-- The frames put on the stream, in their order. -/
def outbound (channel : Channel φ ρ σ) : List (Operation × DeviceMessage) :=
  (channel.trace.filterMap Event.sent?).reverse

/-- The nonces of those that were sealed. -/
def nonces (channel : Channel φ ρ σ) : List Bytes :=
  (outbound channel).filterMap fun frame => frame.2.nonce?

/-- What a call puts on the stream: nothing, one frame of a handshake that is
under way, or one message on a channel that is established. -/
inductive Writes (before after : Channel φ ρ σ) : Prop where
  | nothing (same : outbound after = outbound before)
  | handshake (frame : DeviceMessage) (active : before.lifecycle = .active)
      (grew : outbound after = outbound before ++ [(.handshake, frame)])
  | client (message : DeviceMessage) (established : before.lifecycle = .established)
      (grew : outbound after = outbound before ++ [(.client, message)])

/-- The sealed frames on the stream have the first nonces of a session, which is
the one in use until the channel fails. -/
structure Numbered (session : Session) (channel : Channel φ ρ σ) : Prop where
  drawn : session.Drawn
  bounded : session.counter ≤ Session.counterLimit
  numbers : nonces channel = session.numbers
  installed : channel.lifecycle ≠ .failed → channel.session = some session

variable {before after : Channel φ ρ σ}

theorem outbound_unsent (grown : Grown Event.Unsent before after) :
    outbound after = outbound before :=
  congrArg List.reverse (record_grown Event.sent? (fun _ unsent => unsent) grown)

theorem nonces_same (same : outbound after = outbound before) : nonces after = nonces before :=
  congrArg (List.filterMap _) same

theorem nonces_clear {operation : Operation} {message : DeviceMessage}
    (grew : outbound after = outbound before ++ [(operation, message)])
    (clear : message.encrypted = false) : nonces after = nonces before := by
  have unsealed : message.nonce? = none := if_neg (by rw [clear]; exact Bool.false_ne_true)
  rw [nonces, grew, List.filterMap_append, List.filterMap_cons, unsealed]
  exact List.append_nil _

theorem nonces_sealed {operation : Operation} {message : DeviceMessage} {nonce rest : Bytes}
    (grew : outbound after = outbound before ++ [(operation, message)])
    (encrypted : message.encrypted = true) (payload : message.payload = nonce ++ rest)
    (sized : nonce.length = Aead.nonceSize) : nonces after = nonces before ++ [nonce] := by
  have seals : message.nonce? = some nonce := by
    rw [DeviceMessage.nonce?, if_pos encrypted, payload, ← sized, List.take_left]
  rw [nonces, grew, List.filterMap_append, List.filterMap_cons, seals]
  rfl

namespace Numbered

variable {session : Session}

theorem fresh (key : Key) (entropy : Entropy) (unsealed : nonces before = [])
    (installed : before.session = some (Session.ofKey key entropy).1) :
    Numbered (Session.ofKey key entropy).1 before where
  drawn := Session.ofKey_drawn key entropy
  bounded := Nat.zero_le _
  numbers := unsealed
  installed _ := installed

theorem nodup (numbered : Numbered session before) : (nonces before).Nodup := by
  rw [numbered.numbers]
  exact Session.numbers_nodup numbered.bounded

theorem frame (numbered : Numbered session before) (same : outbound after = outbound before)
    (kept : after.lifecycle ≠ .failed →
      before.lifecycle ≠ .failed ∧ after.session = before.session) : Numbered session after where
  drawn := numbered.drawn
  bounded := numbered.bounded
  numbers := (nonces_same same).trans numbered.numbers
  installed living := (kept living).2.trans (numbered.installed (kept living).1)

/-- One more frame has been sealed. -/
theorem seals (numbered : Numbered session before) {operation : Operation}
    {message : DeviceMessage} {rest : Bytes} (fresh : session.counter ≠ Session.counterLimit)
    (grew : outbound after = outbound before ++ [(operation, message)])
    (encrypted : message.encrypted = true) (payload : message.payload = session.nonce ++ rest)
    (installed : after.session = some { session with counter := session.counter + 1 }) :
    Numbered { session with counter := session.counter + 1 } after where
  drawn := numbered.drawn
  bounded := Nat.lt_of_le_of_ne numbered.bounded fresh
  numbers := by
    rw [nonces_sealed grew encrypted payload (session.length_nonce numbered.drawn),
      numbered.numbers, Session.numbers_next]
  installed _ := installed

-- A message goes out in clear, or takes the next nonce, or finds none left.
theorem send (numbered : Numbered session before) (message : DeviceMessage)
    (established : before.lifecycle = .established) :
    (∃ left, Numbered left (before.send message).2) ∧ Writes before (before.send message).2 := by
  have living : before.lifecycle ≠ .failed := by
    rw [established]
    exact nofun
  have sent := send_cases message established (numbered.installed living)
  generalize before.send message = ran at sent ⊢
  cases sent with
  | plain bare =>
      have grew : outbound (before.record (.sent .client message)) =
          outbound before ++ [(.client, message)] := List.reverse_cons
      have numbers := (nonces_clear grew bare).trans numbered.numbers
      exact ⟨⟨session, numbered.drawn, numbered.bounded, numbers, numbered.installed⟩,
        .client message established grew⟩
  | wrapped encrypted payload left wraps =>
      obtain ⟨fresh, starts, rfl⟩ := Session.wrap_ok wraps
      let after := { before with
        session := some { session with counter := session.counter + 1 }
        trace := .sent .client { message with payload } :: before.trace }
      have grew : outbound after = outbound before ++ [(.client, { message with payload })] :=
        List.reverse_cons
      exact ⟨⟨_, numbered.seals fresh grew encrypted starts rfl⟩, .client _ established grew⟩
  | spent error left wraps =>
      obtain rfl := Session.wrap_error wraps
      have same : outbound { before with session := some left } = outbound before := rfl
      exact ⟨⟨left, numbered.drawn, numbered.bounded, numbered.numbers, fun _ => rfl⟩,
        .nothing same⟩

end Numbered

end Channel

end CarPairing
