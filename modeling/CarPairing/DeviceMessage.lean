import CarPairing.Uuid
import CarPairing.Text.Quoted

/-!
Frames between head unit and phone, already reassembled by the transport.
-/

namespace CarPairing

/-- What a frame is for: the handshake itself, or the application. -/
inductive Operation where
  | handshake
  | client
deriving DecidableEq

structure DeviceMessage where
  recipient : Option Uuid := none
  encrypted : Bool
  payload : Bytes
deriving DecidableEq

def DeviceMessage.describe (message : DeviceMessage) : String :=
  Quoted.record "DeviceMessage"
    [("recipient", Quoted.option Uuid.toText message.recipient),
     ("is_encrypted", toString message.encrypted),
     ("payload_len", toString message.payload.length)]

end CarPairing
