import CarPairing.Command.Devices
import CarPairing.Proofs.Command.Pairing
import CarPairing.Proofs.Command.Resuming

/-!
A device from its pairing to its end. Every command is a process of its own, with its
own random bytes and its own clock; all that goes from one to the next is the file.
-/

namespace CarPairing.Command

/-- What a process finds when it starts, the disk apart. -/
structure Occasion where
  entropy : Entropy
  now : Int
  consent : Option Bool

/-- A reconnection with a device. -/
structure Visit where
  device : Uuid
  options : PairOptions
  occasion : Occasion

variable {δ : Type}

def Occasion.on (occasion : Occasion) (disk : δ) : Console δ :=
  { disk, entropy := occasion.entropy, now := occasion.now, consent := occasion.consent }

variable [Disk δ] (path : String)

def Visit.run (visit : Visit) (disk : δ) : Except CommandError Unit × Console δ :=
  (reconnect path visit.device visit.options).run (visit.occasion.on disk)

variable {path} {store : KeyStore}

section Forget

variable {device : Uuid} {console : Console δ}

-- What the storage says decides how it ends.
theorem run_forget (secretSize : Nat) (filed : Filed path store console.disk) {known : Bool}
    {kept : FileStorage δ}
    (removed : KeyStorage.remove
      ({ disk := console.disk, path, secretSize, store } : FileStorage δ) device.toText =
        (.ok known, kept)) :
    (forget path secretSize device).run console =
      (if known then printLine s!"Forgot {device.toText}"
        else throw (.store (.unknownDevice device.toText)) : Command δ Unit).run
          { console with disk := kept.disk } := by
  have called := congrArg (fun call => (call.1, call.2, console.entropy)) removed
  rw [forget, Step.run_bind_ok _ (run_openStore console filed secretSize)]
  dsimp only
  rw [Step.run_bind_ok _ (run_onStore console called)]

end Forget

section Visits

variable (lasting : Disk.Lasting δ path) {disk : δ} (filed : Filed path store disk)

include lasting filed

end Visits

end CarPairing.Command
