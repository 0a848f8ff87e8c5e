import CarPairing.Proofs.Association.Custody
import CarPairing.Proofs.Handshake.Requests
import CarPairing.Proofs.Reconnect.Custody

/-!
Secrets are kept as long as they are needed and no longer, over every run, and
a channel that has ended does nothing any more. Only one thing is asked of the
runner for more: one that is discreet leaves no association waiting for an
identity without a key, and the real runner is.
-/

namespace CarPairing

open Channel

theorem Agreement.discreet : Runner.Discreet Agreement := by
  intro runner message entropy response answered finished
  rcases answer_cases runner (.respond message) entropy with granted | ⟨error, after, refused, -⟩
  · cases granted with
    | respond _ role idle framed =>
        rw [respond_exact runner message entropy role idle framed] at answered
        cases answered
        cases finished
  · rw [refused] at answered
    cases answered

namespace Association

variable {ρ σ : Type} [Runner ρ]

/-- What is true of the secrets of an association at any time. -/
structure Tidy (channel : Channel Association ρ σ) : Prop where
  pending : ∀ key, channel.flavor.pending = some key →
    channel.lifecycle = .active ∧ channel.state = .finished ∧
      ∃ entropy counter, channel.session = some { (Session.ofKey key entropy).1 with counter }
  failed : channel.lifecycle = .failed →
    channel.session = none ∧ channel.flavor.pending = none
  established : channel.lifecycle = .established → channel.flavor.pending = none

theorem Custody.tidy {channel : Channel Association ρ σ} (custody : Custody channel) :
    Tidy channel := by
  cases custody with
  | free unheld dropped undecided =>
      refine ⟨?_, fun failed => ⟨dropped failed, unheld⟩, fun _ => unheld⟩
      intro key held
      rw [unheld] at held
      cases held
  | held key entropy counter active finished pending sealing =>
      refine ⟨?_, ?_, ?_⟩
      · intro other held
        rw [pending] at held
        obtain rfl := Option.some.inj held
        exact ⟨active, finished, entropy, counter, sealing⟩
      · intro failed
        exact absurd active (not_active_of_failed failed)
      · intro established
        exact absurd established (not_established_of_active active)

-- With a discreet runner the state tells whether a key is held.
theorem Custody.finished_iff {channel : Channel Association ρ σ} (custody : Custody channel)
    (discreet : Runner.Discreet ρ) (active : channel.lifecycle = .active) :
    channel.state = .finished ↔ ∃ key, channel.flavor.pending = some key := by
  cases custody with
  | free unheld dropped undecided =>
      constructor
      · intro finished
        exact absurd finished (undecided discreet active)
      · rintro ⟨key, held⟩
        rw [unheld] at held
        cases held
  | held key entropy counter _ finished pending sealing =>
      constructor
      · intro _
        exact ⟨key, pending⟩
      · intro _
        exact finished

theorem custody_make (runner : ρ) (storage : σ) (entropy : Entropy) (now : Int) :
    Custody (make ({} : Association) runner storage entropy now) :=
  .free rfl nofun nofun

theorem quiescent [KeyStorage σ] (channel : Channel Association ρ σ) :
    Quiescent perform channel where
  dead failed call := by
    obtain ⟨subscription, listening, same⟩ := perform_failed call channel failed
    rw [same]
    exact ⟨⟨rfl, rfl, rfl, rfl, rfl⟩, rfl, rfl⟩
  refused failed message :=
    congrArg Prod.fst (send_refused message channel (not_established_of_failed failed))
  inert established call := by
    have ended : channel.lifecycle ≠ .active := by
      rw [established]
      exact nofun
    obtain ⟨⟨session, trace, subscription, listening, same⟩, grown⟩ :=
      perform_inert call channel ended
    rw [same] at grown ⊢
    exact ⟨⟨rfl, rfl, rfl, rfl, rfl⟩, grown⟩

end Association

namespace Reconnect

variable {ρ σ : Type} [Runner ρ]

theorem quiescent [KeyStorage σ] (channel : Channel Reconnect ρ σ) :
    Quiescent perform channel where
  dead failed call := by
    obtain ⟨subscription, same⟩ := perform_failed call channel failed
    rw [same]
    exact ⟨⟨rfl, rfl, rfl, rfl, rfl⟩, rfl, rfl⟩
  refused failed message :=
    congrArg Prod.fst (send_refused message channel (not_established_of_failed failed))
  inert established call := by
    have ended : channel.lifecycle ≠ .active := by
      rw [established]
      exact nofun
    obtain ⟨⟨session, trace, subscription, same⟩, grown⟩ := perform_inert call channel ended
    rw [same] at grown ⊢
    exact ⟨⟨rfl, rfl, rfl, rfl, rfl⟩, grown⟩

end Reconnect

/-- Over every run of either kind of channel, whatever the runner answers: no
secret outlives its use, and what has ended stays ended. With the real runner
an active association is finished exactly while it holds a key. -/
theorem secrets_transient {σ : Type} [KeyStorage σ] (storage : σ) (entropy : Entropy) (now : Int) :
    (∀ (ρ : Type) [Runner ρ] (runner : ρ) (calls : List Association.Call),
      let channel := Association.performAll calls
        (make ({} : Association) runner storage entropy now)
      Association.Tidy channel ∧ Quiescent Association.perform channel) ∧
    (∀ (ρ : Type) [Runner ρ] (runner : ρ) (device : String) (calls : List Reconnect.Call),
      let channel := Reconnect.performAll calls
        (Reconnect.paired runner device storage entropy now)
      Reconnect.Custody channel ∧ Quiescent Reconnect.perform channel) ∧
    ∀ (runner : Agreement) (calls : List Association.Call),
      let channel := Association.performAll calls
        (make ({} : Association) runner storage entropy now)
      channel.lifecycle = .active →
        (channel.state = .finished ↔ ∃ key, channel.flavor.pending = some key) := by
  have kept {ρ : Type} [Runner ρ] (runner : ρ) (calls : List Association.Call) :
      Association.Custody (Association.performAll calls
        (make ({} : Association) runner storage entropy now)) :=
    Association.performAll_custody calls (Association.custody_make runner storage entropy now)
  refine ⟨?_, ?_, ?_⟩
  · intro ρ _ runner calls
    exact ⟨(kept runner calls).tidy, Association.quiescent _⟩
  · intro ρ _ runner device calls
    have fresh : Reconnect.Custody (Reconnect.paired runner device storage entropy now) :=
      Reconnect.custody_active rfl
    exact ⟨Reconnect.performAll_custody calls fresh, Reconnect.quiescent _⟩
  · intro runner calls channel active
    exact (kept runner calls).finished_iff Agreement.discreet active

end CarPairing
