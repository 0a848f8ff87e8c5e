import CarPairing.Command.Pair
import CarPairing.Proofs.Command.Steps
import CarPairing.Proofs.Link.Association

/-!
The pairing of a new phone, from the file as it was to the file as it is then.
-/

namespace CarPairing

namespace Command

open Agreement Association Link

variable {δ : Type} [Disk δ] {path : String} {options : PairOptions} {console : Console δ}
variable {store : KeyStore}

/-- What a pairing draws first, and what it goes on with. -/
def meeting (options : PairOptions) (console : Console δ) : Meeting :=
  let device := Uuid.random console.entropy
  let secret := device.2.draw options.secretSize
  { outOfBand := options.outOfBand, digits := options.codeDigits, entropy := secret.2
    now := console.now, device := device.1, secret := secret.1 }

/-- The output with the code as both ends show it. -/
def shown (code output : String) : String :=
  output ++ s!"Head unit shows: {VerificationCode.grouped code}" ++ "\n" ++
    s!"Phone shows:     {VerificationCode.grouped code}" ++ "\n"

end Command

end CarPairing
