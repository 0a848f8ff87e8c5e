import CarPairing.Handshake.Script
import CarPairing.Proofs.Association.Inheritance
import CarPairing.Proofs.Reconnect.Inheritance

/-!
What a peer can do with frames that do not open, or that come too early: have
the application told of them, each once, and nothing else. Such a frame may come
at any point of a run and need not come from the peer at all.
-/

namespace CarPairing

open Channel

namespace Channel

variable {φ ρ σ κ : Type}

/-- Failures are told from errors of messages by their code. -/
structure Discerning (channel : Channel φ ρ σ) : Prop where
  failures : ∀ error : ChannelError, .notified (.failed error) ∈ channel.trace →
    error.code ≠ "CHANNEL_ERROR_INVALID_MSG"
  messages : ∀ error : ChannelError, .notified (.messageError error) ∈ channel.trace →
    error.code = "CHANNEL_ERROR_INVALID_MSG"

theorem discerning_of_sorted {channel : Channel φ ρ σ}
    (sorted : ∀ event ∈ channel.trace, event.Sorted) : Discerning channel where
  failures error told invalid := by
    have fatal : error.fatal = true := sorted _ told
    have mild := (ChannelError.not_fatal_iff error).mpr invalid
    rw [fatal] at mild
    cases mild
  messages error told := by
    have mild : error.fatal = false := sorted _ told
    exact (ChannelError.not_fatal_iff error).mp mild

variable {perform : κ → Channel φ ρ σ → Channel φ ρ σ} (oblivious : Oblivious perform)
include oblivious

theorem Oblivious.discerning (calls : List κ) {start : Channel φ ρ σ}
    (sorted : ∀ event ∈ start.trace, event.Sorted) :
    Discerning (calls.foldl (fun channel call => perform call channel) start) := by
  obtain ⟨events, grown, kinds⟩ := oblivious.run_sorted calls start
  apply discerning_of_sorted
  intro event member
  rw [grown] at member
  rcases List.mem_append.mp member with recent | old
  · exact kinds event recent
  · exact sorted event old

theorem Oblivious.harmless [Flavor φ] [Runner ρ] [KeyStorage σ] {message : DeviceMessage}
    {operation : Operation} {channel : Channel φ ρ σ} (living : channel.lifecycle ≠ .failed)
    (unusable : Unusable channel message operation) :
    ∃ error : ChannelError, error.code = "CHANNEL_ERROR_INVALID_MSG" ∧
      ∀ later : List κ, Unmoved channel.trace (channel.told (.messageError error))
        (later.foldl (fun channel call => perform call channel) channel)
        (later.foldl (fun channel call => perform call channel)
          (channel.receive message operation)) := by
  obtain ⟨error, code, told⟩ := receive_unusable living unusable
  refine ⟨error, code, fun later => ?_⟩
  rw [told]
  exact oblivious.unmoved later (.messageError error) channel

end Channel

variable {ρ σ : Type} [Runner ρ] [KeyStorage σ]

/-- A frame of no use, put in anywhere in a run of either kind of channel, is
told of once as an invalid message if anyone listens. All that comes later is as
it would have been, the results of sending included. No run tells of a failure
as an invalid message, or of a message as anything else. -/
theorem unusable_frames_harmless (runner : ρ) (storage : σ) (entropy : Entropy) (now : Int) :
    (∀ before : List Association.Call,
      let start := make ({} : Association) runner storage entropy now
      let channel := Association.performAll before start
      Discerning channel ∧
        ∀ message operation, channel.lifecycle ≠ .failed → Unusable channel message operation →
          ∃ error : ChannelError, error.code = "CHANNEL_ERROR_INVALID_MSG" ∧
            ∀ later, Unmoved channel.trace (channel.told (.messageError error))
              (Association.performAll (before ++ later) start)
              (Association.performAll (before ++ .receive message operation :: later) start)) ∧
    ∀ (device : String) (before : List Reconnect.Call),
      let start := Reconnect.paired runner device storage entropy now
      let channel := Reconnect.performAll before start
      Discerning channel ∧
        ∀ message operation, channel.lifecycle ≠ .failed → Unusable channel message operation →
          ∃ error : ChannelError, error.code = "CHANNEL_ERROR_INVALID_MSG" ∧
            ∀ later, Unmoved channel.trace (channel.told (.messageError error))
              (Reconnect.performAll (before ++ later) start)
              (Reconnect.performAll (before ++ .receive message operation :: later) start) := by
  have prepared (on : Bool) : ∀ event ∈ [Event.prepared on], event.Sorted := by
    simp [Event.Sorted]
  constructor
  · intro before start channel
    refine ⟨Association.oblivious.discerning before (prepared false), ?_⟩
    intro message operation living unusable
    obtain ⟨error, code, unmoved⟩ := Association.oblivious.harmless living unusable
    refine ⟨error, code, fun later => ?_⟩
    rw [Association.performAll_append, Association.performAll_append]
    exact unmoved later
  · intro device before start channel
    refine ⟨Reconnect.oblivious.discerning before (prepared true), ?_⟩
    intro message operation living unusable
    obtain ⟨error, code, unmoved⟩ := Reconnect.oblivious.harmless living unusable
    refine ⟨error, code, fun later => ?_⟩
    rw [Reconnect.performAll_append, Reconnect.performAll_append]
    exact unmoved later

-- A sealed frame before there is a key, to a channel that someone listens to.
theorem unusable_frames_harmless_unkeyed :
    let start : Channel Association ScriptedRunner MemoryStorage :=
      make {} (.answers []) {} { byteAt := fun _ => 0 } 0
    let message : DeviceMessage := { encrypted := true, payload := [1, 2, 3] }
    let channel := start.subscribe .everything
    ∃ error : ChannelError, error.code = "CHANNEL_ERROR_INVALID_MSG" ∧
      channel.told (.messageError error) = [.notified (.messageError error)] ∧
      ∀ later, Unmoved channel.trace [.notified (.messageError error)]
        (Association.performAll (.subscribe .everything :: later) start)
        (Association.performAll (.subscribe .everything :: .receive message .client :: later)
          start) := by
  intro start message channel
  have living : channel.lifecycle ≠ .failed := nofun
  have unusable : Unusable channel message .client := .unkeyed .client rfl rfl
  obtain ⟨error, code, unmoved⟩ := ((unusable_frames_harmless (ScriptedRunner.answers [])
    ({} : MemoryStorage) { byteAt := fun _ => 0 } 0).1 [.subscribe .everything]).2
      message .client living unusable
  exact ⟨error, code, rfl, unmoved⟩

end CarPairing
