import CarPairing.Proofs.Association.Calls
import CarPairing.Proofs.Channel.Intrusion

/-!
The steps of an association, gone through once for all inherited properties.
That of the head unit's own id stands apart from the calls about a device.
-/

namespace CarPairing.Association

open Channel

section Inherits

variable {ρ σ : Type} [Runner ρ] {P : {α : Type} → Step ρ σ α → Prop} (inherited : Inherited P)
include inherited

theorem showCode_inherits (code : String) : P (showCode code) := by
  apply inherited.read (fun _ _ => rfl)
  intro channel
  split
  · exact inherited.update (tame_record (.codeShown code) trivial)
  · exact inherited.throw _ rfl

theorem processInit_inherits (message : Bytes) : P (processInit message) := by
  apply inherited.bind (inherited.demand _)
  intro response
  cases response.next with
  | none => exact inherited.throw _ rfl
  | some reply =>
      exact inherited.bind (inherited.setState _) fun _ => inherited.sendHandshake _ _

theorem processFinish_inherits (message : Bytes) : P (processFinish message) := by
  apply inherited.bind (inherited.demand _)
  intro response
  split
  · split
    · exact inherited.throw _ rfl
    · exact inherited.bind (inherited.setState _) fun _ => showCode_inherits inherited _
  · split
    · exact inherited.throw _ rfl
    · exact inherited.throw _ rfl
    · exact inherited.bind (inherited.setState _) fun _ => showCode_inherits inherited _
  · exact inherited.throw _ rfl

variable [KeyStorage σ]

theorem acceptCode_inherits (named : P uniqueId) : P (acceptCode : Step ρ σ Unit) := by
  apply inherited.read (fun _ _ => rfl)
  intro channel
  split
  · apply inherited.bind (inherited.ask _)
    intro answer
    split
    · exact inherited.throw _ rfl
    · split
      · split
        · exact inherited.throw _ rfl
        next key granted =>
          apply inherited.bind (inherited.setState _)
          intro _
          apply inherited.bind (inherited.installKey _)
          intro _
          apply inherited.bind
            (inherited.update (tame_flavor fun flavor => { flavor with pending := some key }))
          intro _
          apply inherited.bind named
          intro outcome
          apply inherited.bind (inherited.accepted _)
          intro id
          exact inherited.sendHandshake _ _
      · exact inherited.throw _ rfl
  · exact inherited.throw _ rfl

variable (calls : InheritedCalls P)
include calls

theorem rollBack_inherits (id : String) (previous : Option Key) :
    P (rollBack id previous : Step ρ σ Unit) := by
  cases previous with
  | some key => exact inherited.bind (calls.saveKey _ _) fun _ => inherited.pure _
  | none => exact inherited.bind (calls.forget _) fun _ => inherited.pure _

theorem processIdentity_inherits (message : Bytes) :
    P (processIdentity message : Step ρ σ Unit) := by
  apply inherited.read (fun _ _ => rfl)
  intro channel
  split
  · exact inherited.throw _ rfl
  · apply inherited.bind
      (inherited.update (tame_flavor fun flavor => { flavor with pending := none }))
    intro _
    split
    · exact inherited.throw _ rfl
    next deviceId secret decoded =>
      apply inherited.bind (inherited.notifyDeviceId _)
      intro _
      apply inherited.bind (calls.checkSecret _)
      intro checked
      apply inherited.bind (inherited.accepted _)
      intro _
      apply inherited.bind (calls.storedKey _)
      intro previous
      apply inherited.bind (calls.saveKey _ _)
      intro saved
      apply inherited.bind (inherited.accepted _)
      intro _
      apply inherited.bind (calls.saveSecret _ _)
      intro kept
      split
      · exact inherited.bind (rollBack_inherits inherited calls _ _) fun _ => inherited.throw _ rfl
      · apply inherited.bind (inherited.update
          (tame_flavor fun flavor => { flavor with deviceId := some deviceId }))
        intro _
        exact inherited.notifyEstablished

theorem process_inherits (payload : Bytes) : P (Flavor.process payload : Step ρ σ Unit) := by
  change P (process payload)
  apply inherited.read (fun _ _ => rfl)
  intro channel
  split
  · exact processInit_inherits inherited payload
  · exact processFinish_inherits inherited payload
  · exact processIdentity_inherits inherited calls payload
  · exact inherited.throw _ rfl

end Inherits

variable {ρ σ : Type} [Runner ρ] [KeyStorage σ]

theorem process_blind (payload : Bytes) : Blind (Flavor.process payload : Step ρ σ Unit) :=
  process_inherits blind_inherited blind_calls payload

theorem process_sorts (payload : Bytes) : Sorts (Flavor.process payload : Step ρ σ Unit) :=
  process_inherits sorts_inherited sorts_calls payload

theorem oblivious : Oblivious (perform : Call → Channel Association ρ σ → _) where
  since call history channel := by
    cases call with
    | frame payload => exact handshake_since process_blind payload history channel
    | receive message operation =>
        exact receive_since process_blind message operation history channel
    | send message => exact congrArg Prod.snd (blind_sendClient message history channel)
    | subscribe subscription => rfl
    | accept =>
        have blind : Blind (acceptCode : Step ρ σ Unit) :=
          acceptCode_inherits blind_inherited blind_uniqueId
        have life : (channel.since history).lifecycle = channel.lifecycle := rfl
        rw [perform, perform, accept, accept, life]
        split
        · exact settle_since blind history channel
        · rfl
    | listen on => rfl
  sorted call channel := by
    cases call with
    | frame payload => exact handshake_sorted process_sorts payload channel
    | receive message operation => exact receive_sorted process_sorts message operation channel
    | send message => exact send_grown message channel fun _ => trivial
    | subscribe subscription => exact .same rfl
    | accept =>
        have sorts : Sorts (acceptCode : Step ρ σ Unit) :=
          acceptCode_inherits sorts_inherited (sorts_callStorage _ _)
        rw [perform, accept]
        split
        · exact settle_sorted sorts channel
        · exact .refl _ channel
    | listen on => exact .same rfl

end CarPairing.Association
