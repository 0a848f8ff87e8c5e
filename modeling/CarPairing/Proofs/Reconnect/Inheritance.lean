import CarPairing.Proofs.Channel.Intrusion
import CarPairing.Proofs.Reconnect.Calls

/-!
The steps of a reconnection, gone through once for all inherited properties.
-/

namespace CarPairing.Reconnect

open Channel

section Inherits

variable {ρ σ : Type} [Runner ρ] {P : {α : Type} → Step ρ σ α → Prop} (inherited : Inherited P)
include inherited

theorem hold_inherits (previous : Option Key) : P (hold previous : Step ρ σ Unit) :=
  inherited.update (tame_flavor fun flavor : Reconnect => { flavor with previous })

theorem processFinish_inherits (message : Bytes) : P (processFinish message) := by
  apply inherited.bind (inherited.demand _)
  intro response
  split
  · exact inherited.setState _
  · exact inherited.throw _ rfl

variable [KeyStorage σ] (calls : InheritedCalls P)
include calls

theorem processInit_inherits (message : Bytes) : P (processInit message : Step ρ σ Unit) := by
  apply inherited.read (fun _ _ => rfl)
  intro channel
  apply inherited.bind (calls.storedKey _)
  intro stored
  split
  · exact inherited.throw _ rfl
  · apply inherited.bind (hold_inherits inherited _)
    intro _
    apply inherited.bind (inherited.demand _)
    intro response
    split
    · exact inherited.throw _ rfl
    · exact inherited.bind (inherited.setState _) fun _ => inherited.sendHandshake _ _

theorem processProof_inherits (message : Bytes) : P (processProof message : Step ρ σ Unit) := by
  apply inherited.read (fun _ _ => rfl)
  intro channel
  dsimp only
  split
  · exact inherited.throw _ rfl
  · apply inherited.bind (hold_inherits inherited _)
    intro _
    apply inherited.bind (inherited.demand _)
    intro response
    split
    · split
      · exact inherited.throw _ rfl
      · exact inherited.throw _ rfl
      · apply inherited.bind (inherited.sendHandshake _ _)
        intro _
        apply inherited.bind (inherited.setState _)
        intro _
        apply inherited.bind (inherited.installKey _)
        intro _
        apply inherited.bind (calls.saveKey _ _)
        intro saved
        exact inherited.bind (inherited.accepted _) fun _ => inherited.notifyEstablished
    · exact inherited.throw _ rfl

theorem process_inherits (payload : Bytes) : P (Flavor.process payload : Step ρ σ Unit) := by
  change P (process payload)
  apply inherited.read (fun _ _ => rfl)
  intro channel
  split
  · exact processInit_inherits inherited calls payload
  · exact processFinish_inherits inherited payload
  · exact processProof_inherits inherited calls payload
  · exact inherited.throw _ rfl

end Inherits

variable {ρ σ : Type} [Runner ρ] [KeyStorage σ]

theorem process_blind (payload : Bytes) : Blind (Flavor.process payload : Step ρ σ Unit) :=
  process_inherits blind_inherited blind_calls payload

theorem process_sorts (payload : Bytes) : Sorts (Flavor.process payload : Step ρ σ Unit) :=
  process_inherits sorts_inherited sorts_calls payload

theorem oblivious : Oblivious (perform : Call → Channel Reconnect ρ σ → _) where
  since call history channel := by
    cases call with
    | frame payload => exact handshake_since process_blind payload history channel
    | receive message operation =>
        exact receive_since process_blind message operation history channel
    | send message => exact congrArg Prod.snd (blind_sendClient message history channel)
    | subscribe subscription => rfl
  sorted call channel := by
    cases call with
    | frame payload => exact handshake_sorted process_sorts payload channel
    | receive message operation => exact receive_sorted process_sorts message operation channel
    | send message => exact send_grown message channel fun _ => trivial
    | subscribe subscription => exact .same rfl

end CarPairing.Reconnect
