import CarPairing.Handshake.Message

/-!
A runner owns the key agreement of one connection. A channel or a phone only
puts requests to it and acts on the answers, so a runner is any state that
answers requests, drawing on the entropy it is handed.
-/

namespace CarPairing

inductive Request where
  | init
  | respond (message : Bytes)
  | continue (message : Bytes)
  | verify
  /-- Prove the previous key to the peer. -/
  | prove (previous : Key)
  /-- Check the peer's proof of the previous key and finish. -/
  | resume (message : Bytes) (previous : Key)
deriving DecidableEq

def Request.name : Request → String
  | .init => "init_handshake"
  | .respond _ => "respond_to_init_request"
  | .continue _ => "continue_handshake"
  | .verify => "verify_pin"
  | .prove _ => "init_reconnect_authentication"
  | .resume _ _ => "authenticate_and_resume_session"

/-- What a runner made of a request. -/
abbrev Answer := Except HandshakeError HandshakeMessage

class Runner (ρ : Type) where
  answer : ρ → Request → Entropy → Answer × ρ × Entropy
  /-- Choose between resumption (`true`) and user verification. -/
  setReconnect : ρ → Bool → ρ

end CarPairing
