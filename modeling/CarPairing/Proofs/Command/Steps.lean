import CarPairing.Command.Console
import CarPairing.Proofs.Link.Steps
import CarPairing.Proofs.Store.Filing

/-!
The steps that commands are made of, as functions of the console.
-/

namespace CarPairing.Command

variable {δ α : Type} (console : Console δ)

theorem run_onStore {call : Entropy → Except StoreError α × FileStorage δ × Entropy} {value : α}
    {storage : FileStorage δ} {entropy : Entropy}
    (called : call console.entropy = (.ok value, storage, entropy)) :
    (onStore call).run console =
      (.ok value, { console with disk := storage.disk, entropy }) := by
  rw [onStore, Step.run_bind, Step.run_get]
  simp only [called]
  rfl

variable {φ ρ : Type} {stage : Stage} {link after : Link φ ρ (FileStorage δ)}
variable {steps : Link.Step φ ρ (FileStorage δ) α}

theorem run_openStore [Disk δ] {path : String} {store : KeyStore}
    (filed : Filed path store console.disk) (secretSize : Nat) :
    (openStore path secretSize : Command δ (FileStorage δ)).run console =
      (.ok { disk := console.disk, path, secretSize, store }, console) := by
  rw [openStore, Step.run_bind, Step.run_get]
  simp only [filed.opens]
  rfl

end CarPairing.Command
