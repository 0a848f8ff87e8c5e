import CarPairing.Command.Pair
import CarPairing.Proofs.Command.Steps
import CarPairing.Proofs.Link.Resumption

/-!
A reconnection with a device, which needs a key of the device in the file and leaves
another one there.
-/

namespace CarPairing.Command

open Link

variable {δ : Type} [Disk δ] {path : String} {device : Uuid} {options : PairOptions}
variable {console : Console δ} {store : KeyStore}

/-- What a reconnection starts from. -/
def reunion (device : Uuid) (previous : Key) (console : Console δ) : Reunion :=
  { entropy := console.entropy, now := console.now, id := device.toText, previous }

end CarPairing.Command
