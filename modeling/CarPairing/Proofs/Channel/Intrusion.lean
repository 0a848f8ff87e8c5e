import CarPairing.Proofs.Channel.Inheritance
import CarPairing.Proofs.Channel.Settled

/-!
Frames that a channel can do nothing with. The application is told, and the
trace is then another one; but no step looks at the trace, so that whatever
comes later goes as it would have gone. The error that is told of such a frame
is the one error that a channel never ends with.
-/

namespace CarPairing

/-- Only the error of a frame that does not open is told as the error of a
message, and it is never told as a failure. -/
def Event.Sorted : Event → Prop
  | .notified (.failed error) => error.fatal = true
  | .notified (.messageError error) => error.fatal = false
  | _ => True

theorem Event.Routine.sorted {event : Event} (routine : event.Routine) : event.Sorted := by
  cases event with
  | notified notice =>
      cases notice with
      | failed error => exact absurd routine not_false
      | messageError error => exact absurd routine not_false
      | _ => trivial
  | _ => trivial

theorem ChannelError.not_fatal_iff (error : ChannelError) :
    error.fatal = false ↔ error.code = "CHANNEL_ERROR_INVALID_MSG" := by
  cases error <;> simp [fatal, code]

namespace Channel

variable {φ ρ σ α : Type}

/-- The step does the same after any history. -/
def Blind (step : Step φ ρ σ α) : Prop :=
  ∀ history channel, step.run (channel.since history) =
    ((step.run channel).1, (step.run channel).2.since history)

/-- The errors of the step are failures, those it tells of and the one it ends with. -/
structure Sorts (step : Step φ ρ σ α) : Prop where
  emits : Emits Event.Sorted step
  ends : ∀ channel error, (step.run channel).1 = .error error → error.fatal = true

theorem blind_inherited [Runner ρ] : Inherited (@Blind φ ρ σ) where
  bind one two history channel := by
    rw [Step.run_bind, Step.run_bind, one history channel]
    cases ran : (_ : Step φ ρ σ _).run channel with
    | mk outcome middle =>
        cases outcome with
        | error error => rfl
        | ok value => exact two value history middle
  pure _ _ _ := rfl
  throw _ _ _ _ := rfl
  read same next history channel := by
    rw [Step.run_bind, Step.run_bind, Step.run_get, Step.run_get]
    simp only [same]
    exact next channel history channel
  update tame history channel := by
    rw [Step.run_modify, Step.run_modify, tame.blind]
  ask _ _ _ := rfl

theorem sorts_inherited [Runner ρ] : Inherited (@Sorts φ ρ σ) where
  bind one two := by
    refine ⟨emits_bind one.emits fun value => (two value).emits, ?_⟩
    intro channel error failed
    rw [Step.run_bind] at failed
    cases ran : (_ : Step φ ρ σ _).run channel with
    | mk outcome middle =>
        rw [ran] at failed
        cases outcome with
        | error first =>
            change Except.error first = Except.error error at failed
            cases failed
            exact one.ends channel _ (congrArg Prod.fst ran)
        | ok value => exact (two value).ends middle error failed
  pure value := ⟨emits_pure value, fun _ _ failed => by cases failed⟩
  throw error fatal := by
    refine ⟨emits_throw error, ?_⟩
    rintro channel _ ⟨⟩
    exact fatal
  read same next := by
    refine ⟨emits_bind emits_get fun channel => (next channel).emits, ?_⟩
    intro channel error failed
    rw [Step.run_bind, Step.run_get] at failed
    exact (next channel).ends channel error failed
  update tame := by
    refine ⟨emits_modify _ fun channel => ?_, fun _ _ failed => by cases failed⟩
    exact (tame.routine channel).mono fun _ routine => routine.sorted
  ask request := ⟨emits_ask request fun _ => trivial, fun _ _ failed => by cases failed⟩

theorem blind_calls [KeyStorage σ] : InheritedCalls (@Blind φ ρ σ) where
  saveKey _ _ _ _ := rfl
  storedKey _ _ _ := rfl
  saveSecret _ _ _ _ := rfl
  checkSecret _ _ _ := rfl
  forget _ _ _ := rfl

theorem blind_uniqueId [KeyStorage σ] : Blind (uniqueId : Step φ ρ σ (Except StoreError Uuid)) :=
  fun _ _ => rfl

theorem sorts_callStorage (call : StorageCall)
    (act : Channel φ ρ σ → Except StoreError α × σ × Entropy) :
    Sorts (callStorage call act : Step φ ρ σ (Except StoreError α)) :=
  ⟨emits_callStorage call act fun _ => trivial, fun _ _ failed => by cases failed⟩

theorem sorts_calls [KeyStorage σ] : InheritedCalls (@Sorts φ ρ σ) where
  saveKey _ _ := sorts_callStorage _ _
  storedKey _ := ⟨fun _ => .one rfl trivial, fun _ _ failed => by cases failed⟩
  saveSecret _ _ := sorts_callStorage _ _
  checkSecret _ := sorts_callStorage _ _
  forget _ := sorts_callStorage _ _

theorem blind_sendClient [Runner ρ] (message : DeviceMessage) :
    Blind (sendClient message : Step φ ρ σ Unit) := by
  have send (payload : Bytes) : Blind
      (modify (record (.sent .client { message with payload })) : Step φ ρ σ PUnit) :=
    blind_inherited.update (tame_record (.sent .client { message with payload }) trivial)
  apply blind_inherited.read (fun _ _ => rfl)
  intro channel
  split
  · split
    · exact blind_inherited.bind (blind_inherited.encrypt _) send
    · exact blind_inherited.bind (blind_inherited.pure _) send
  · exact blind_inherited.throw _ rfl

theorem opened_not_fatal (message : DeviceMessage) (channel : Channel φ ρ σ)
    {error : ChannelError} (closed : channel.opened message = .error error) :
    error.fatal = false := by
  unfold opened at closed
  split at closed
  · split at closed
    · cases closed
      rfl
    · split at closed
      · cases closed
      · cases closed
        rfl
  · cases closed

section Flavors

variable [Flavor φ]

theorem fail_since (error : ChannelError) (history : List Event) (channel : Channel φ ρ σ) :
    (channel.since history).fail error = (channel.fail error).since history := by
  let dropped : Channel φ ρ σ :=
    { channel with flavor := Flavor.abort channel.flavor, trace := .aborted :: channel.trace }
  by_cases active : channel.lifecycle = .active
  · have told : channel.fail error =
        { dropped with lifecycle := .failed, session := none }.notify (.failed error) :=
      if_pos active
    have ended := notify_since (.failed error) history
      { dropped with lifecycle := .failed, session := none }
    rw [told, ← ended]
    exact if_pos active
  · have silent : channel.fail error = dropped := if_neg active
    rw [silent]
    exact if_neg active

theorem settle_since {step : Step φ ρ σ Unit} (blind : Blind step) (history : List Event)
    (channel : Channel φ ρ σ) :
    (channel.since history).settle step = (channel.settle step).since history := by
  unfold settle
  rw [blind history channel]
  cases step.run channel with
  | mk outcome after =>
      cases outcome with
      | ok => rfl
      | error error => exact fail_since error history after

theorem settle_sorted {step : Step φ ρ σ Unit} (sorts : Sorts step) (channel : Channel φ ρ σ) :
    Grown Event.Sorted channel (channel.settle step) := by
  have grown := sorts.emits channel
  apply settle_cases
  · intro error after ran
    have fatal := sorts.ends channel error (congrArg Prod.fst ran)
    rw [ran] at grown
    exact grown.trans (fail_grown error after trivial fatal)
  · intro after ran
    rw [ran] at grown
    exact grown

section Calls

variable [Runner ρ] [KeyStorage σ]

theorem handshake_since
    (blind : ∀ payload, Blind (Flavor.process payload : Step φ ρ σ Unit)) (payload : Bytes)
    (history : List Event) (channel : Channel φ ρ σ) :
    (channel.since history).handshake payload = (channel.handshake payload).since history := by
  by_cases active : channel.lifecycle = .active
  · rw [handshake_active channel payload active,
      handshake_active (channel.since history) payload active]
    exact settle_since (blind payload) history (channel.record (.frame payload))
  · rw [handshake_inactive channel payload active,
      handshake_inactive (channel.since history) payload active]

theorem receive_since
    (blind : ∀ payload, Blind (Flavor.process payload : Step φ ρ σ Unit)) (message : DeviceMessage)
    (operation : Operation) (history : List Event) (channel : Channel φ ρ σ) :
    (channel.since history).receive message operation =
      (channel.receive message operation).since history := by
  have life : (channel.since history).lifecycle = channel.lifecycle := rfl
  have opens : (channel.since history).opened message = channel.opened message := rfl
  by_cases failed : channel.lifecycle = .failed
  · rw [receive_failed channel message operation failed,
      receive_failed (channel.since history) message operation failed]
  · rw [receive, receive, life, opens, if_neg failed, if_neg failed]
    cases channel.opened message with
    | error error => exact notify_since _ history channel
    | ok payload =>
        cases operation with
        | handshake => exact handshake_since blind payload history channel
        | client =>
            dsimp only
            by_cases established : channel.lifecycle = .established
            · rw [if_pos established, if_pos established, notify_since]
            · rw [if_neg established, if_neg established, notify_since]

theorem handshake_sorted
    (sorts : ∀ payload, Sorts (Flavor.process payload : Step φ ρ σ Unit)) (payload : Bytes)
    (channel : Channel φ ρ σ) : Grown Event.Sorted channel (channel.handshake payload) := by
  by_cases active : channel.lifecycle = .active
  · rw [handshake_active channel payload active]
    have framed : Grown Event.Sorted channel (channel.record (.frame payload)) := .one rfl trivial
    exact framed.trans (settle_sorted (sorts payload) _)
  · rw [handshake_inactive channel payload active]
    exact .refl _ channel

theorem receive_sorted
    (sorts : ∀ payload, Sorts (Flavor.process payload : Step φ ρ σ Unit)) (message : DeviceMessage)
    (operation : Operation) (channel : Channel φ ρ σ) :
    Grown Event.Sorted channel (channel.receive message operation) := by
  unfold receive
  split
  · exact .refl _ channel
  · cases opens : channel.opened message with
    | error error =>
        exact grown_notify _ channel fun _ => opened_not_fatal message channel opens
    | ok payload =>
        cases operation with
        | handshake => exact handshake_sorted sorts payload channel
        | client =>
            dsimp only
            split
            · exact grown_notify _ channel fun _ => trivial
            · exact grown_notify _ channel fun _ => rfl

/-- A frame of no use: it is sealed and there is nothing to open it with, or it
does not open, or it is for an application that cannot be reached yet. -/
inductive Unusable (channel : Channel φ ρ σ) (message : DeviceMessage) :
    Operation → Prop where
  | unkeyed (operation : Operation) (sealing : message.encrypted = true)
      (none : channel.session = none) : Unusable channel message operation
  | closed (operation : Operation) (session : Session) (error : CryptoError)
      (sealing : message.encrypted = true) (installed : channel.session = some session)
      (refused : session.unwrap message.payload = .error error) :
      Unusable channel message operation
  | premature (waiting : channel.lifecycle ≠ .established) : Unusable channel message .client

theorem receive_unusable {message : DeviceMessage} {operation : Operation}
    {channel : Channel φ ρ σ} (living : channel.lifecycle ≠ .failed)
    (unusable : Unusable channel message operation) :
    ∃ error : ChannelError, error.code = "CHANNEL_ERROR_INVALID_MSG" ∧
      channel.receive message operation = channel.notify (.messageError error) := by
  have invalid (detail : String) :
      (ChannelError.invalidMessage detail).code = "CHANNEL_ERROR_INVALID_MSG" := rfl
  rw [receive, if_neg living]
  cases unusable with
  | unkeyed _ sealing none =>
      refine ⟨_, invalid "encrypted message before key agreement", ?_⟩
      simp only [opened, sealing, none, if_true]
  | closed _ session error sealing installed refused =>
      refine ⟨_, invalid error.message, ?_⟩
      simp only [opened, sealing, installed, refused, if_true]
  | premature waiting =>
      cases opens : channel.opened message with
      | error error =>
          have code := (ChannelError.not_fatal_iff error).mp
            (opened_not_fatal message channel opens)
          exact ⟨error, code, rfl⟩
      | ok payload =>
          refine ⟨_, invalid "client message before the channel was established", ?_⟩
          dsimp only
          rw [if_neg waiting]

end Calls

end Flavors

section Runs

variable {κ : Type}

/-- No call looks at what has happened, and each sorts its errors. -/
structure Oblivious (perform : κ → Channel φ ρ σ → Channel φ ρ σ) : Prop where
  since : ∀ call history channel,
    perform call (channel.since history) = (perform call channel).since history
  sorted : ∀ call channel, Grown Event.Sorted channel (perform call channel)

variable {perform : κ → Channel φ ρ σ → Channel φ ρ σ} (oblivious : Oblivious perform)
include oblivious

theorem Oblivious.run_since (calls : List κ) (history : List Event) (channel : Channel φ ρ σ) :
    calls.foldl (fun channel call => perform call channel) (channel.since history) =
      (calls.foldl (fun channel call => perform call channel) channel).since history := by
  induction calls generalizing channel with
  | nil => rfl
  | cons call rest ih =>
      rw [List.foldl_cons, List.foldl_cons, oblivious.since]
      exact ih (perform call channel)

theorem Oblivious.run_sorted (calls : List κ) (channel : Channel φ ρ σ) :
    Grown Event.Sorted channel
      (calls.foldl (fun channel call => perform call channel) channel) := by
  induction calls generalizing channel with
  | nil => exact .refl _ channel
  | cons call rest ih => exact (oblivious.sorted call channel).trans (ih (perform call channel))

end Runs

/-- Two runs that differ by a notice, the runs to now being the same but for it:
all that is known of one channel is known of the other. -/
structure Unmoved (earlier notice : List Event) (plain disturbed : Channel φ ρ σ) : Prop where
  same : ∃ events, plain.trace = events ++ earlier ∧
    disturbed = { plain with trace := events ++ notice ++ earlier }
  results : ∀ message, (disturbed.send message).1 = (plain.send message).1

theorem Oblivious.unmoved [Runner ρ] {κ : Type} {perform : κ → Channel φ ρ σ → Channel φ ρ σ}
    (oblivious : Oblivious perform) (later : List κ) (notice : Notice) (channel : Channel φ ρ σ) :
    Unmoved channel.trace (channel.told notice)
      (later.foldl (fun channel call => perform call channel) channel)
      (later.foldl (fun channel call => perform call channel) (channel.notify notice)) := by
  -- Both channels are one without a history, and then with theirs behind it.
  let bare : Channel φ ρ σ := { channel with trace := [] }
  let settled := later.foldl (fun channel call => perform call channel) bare
  have plain : later.foldl (fun channel call => perform call channel) channel =
      settled.since channel.trace := oblivious.run_since later channel.trace bare
  have disturbed : later.foldl (fun channel call => perform call channel) (channel.notify notice) =
      settled.since (channel.told notice ++ channel.trace) := by
    rw [notify_told]
    exact oblivious.run_since later (channel.told notice ++ channel.trace) bare
  rw [plain, disturbed]
  constructor
  · refine ⟨settled.trace, rfl, ?_⟩
    rw [List.append_assoc]
    rfl
  · intro message
    rw [send, send, blind_sendClient, blind_sendClient]

end Channel

end CarPairing
