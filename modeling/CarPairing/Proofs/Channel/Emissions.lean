import CarPairing.Proofs.Channel.Steps

/-!
How the trace grows. It is only ever added to, so what a call has done is what
it has put in front. That a step makes events of one kind only is shown along
its text, whatever the runner and the storage answer.
-/

namespace CarPairing.Channel

variable {φ ρ σ α β : Type}

/-- What has happened since `before`, first event first. -/
def news (before after : Channel φ ρ σ) : List Event :=
  (after.trace.take (after.trace.length - before.trace.length)).reverse

theorem news_of_trace (before after : Channel φ ρ σ) (events : List Event)
    (grown : after.trace = events ++ before.trace) : news before after = events.reverse := by
  rw [news, grown, List.length_append, Nat.add_sub_cancel, List.take_left]

theorem news_same (channel : Channel φ ρ σ) : news channel channel = [] := by
  rw [news_of_trace channel channel [] rfl]
  rfl

/-- Nothing but events of one kind has happened since `before`. -/
def Grown (kind : Event → Prop) (before after : Channel φ ρ σ) : Prop :=
  ∃ events, after.trace = events ++ before.trace ∧ ∀ event ∈ events, kind event

theorem Grown.refl (kind : Event → Prop) (channel : Channel φ ρ σ) : Grown kind channel channel :=
  ⟨[], rfl, fun _ member => absurd member List.not_mem_nil⟩

theorem Grown.mono {kind wider : Event → Prop} {before after : Channel φ ρ σ}
    (grown : Grown kind before after) (weaker : ∀ event, kind event → wider event) :
    Grown wider before after := by
  obtain ⟨events, appended, kinds⟩ := grown
  exact ⟨events, appended, fun event member => weaker event (kinds event member)⟩

theorem Grown.any {kind : Event → Prop} {before after : Channel φ ρ σ}
    (grown : Grown kind before after) : Grown (fun _ => True) before after :=
  grown.mono fun _ _ => trivial

theorem Grown.trans {kind : Event → Prop} {before middle after : Channel φ ρ σ}
    (first : Grown kind before middle) (second : Grown kind middle after) :
    Grown kind before after := by
  obtain ⟨earlier, grown, kinds⟩ := first
  obtain ⟨later, grown', kinds'⟩ := second
  refine ⟨later ++ earlier, by rw [grown', grown, List.append_assoc], ?_⟩
  intro event member
  rcases List.mem_append.mp member with recent | old
  · exact kinds' event recent
  · exact kinds event old

theorem Grown.one {kind : Event → Prop} {before after : Channel φ ρ σ} {event : Event}
    (grown : after.trace = event :: before.trace) (holds : kind event) :
    Grown kind before after := by
  refine ⟨[event], grown, ?_⟩
  intro other member
  rw [List.mem_singleton.mp member]
  exact holds

theorem Grown.same {kind : Event → Prop} {before after : Channel φ ρ σ}
    (kept : after.trace = before.trace) : Grown kind before after :=
  ⟨[], kept, fun _ member => absurd member List.not_mem_nil⟩

theorem Grown.mem_news {kind : Event → Prop} {before after : Channel φ ρ σ}
    (grown : Grown kind before after) {event : Event} (member : event ∈ news before after) :
    kind event := by
  obtain ⟨events, appended, kinds⟩ := grown
  rw [news_of_trace before after events appended] at member
  exact kinds event (List.mem_reverse.mp member)

theorem news_append {before middle after : Channel φ ρ σ}
    (first : Grown (fun _ => True) before middle) (second : Grown (fun _ => True) middle after) :
    news before after = news before middle ++ news middle after := by
  obtain ⟨earlier, grown, -⟩ := first
  obtain ⟨later, grown', -⟩ := second
  rw [news_of_trace before middle earlier grown, news_of_trace middle after later grown',
    news_of_trace before after (later ++ earlier) (by rw [grown', grown, List.append_assoc]),
    List.reverse_append]

theorem grown_notify {kind : Event → Prop} (notice : Notice) (channel : Channel φ ρ σ)
    (holds : channel.subscription.hears notice = true → kind (.notified notice)) :
    Grown kind channel (channel.notify notice) := by
  unfold notify
  split
  next hears => exact .one rfl (holds hears)
  · exact .refl kind channel

/-- Whatever it starts from, a step makes events of one kind only. -/
def Emits (kind : Event → Prop) (step : Step φ ρ σ α) : Prop :=
  ∀ channel, Grown kind channel (step.run channel).2

section Emits

variable {kind : Event → Prop}

theorem emits_bind {first : Step φ ρ σ α} {next : α → Step φ ρ σ β} (one : Emits kind first)
    (two : ∀ value, Emits kind (next value)) : Emits kind (first >>= next) := by
  intro channel
  have grown := one channel
  rw [Step.run_bind]
  cases ran : first.run channel with
  | mk outcome middle =>
      rw [ran] at grown
      cases outcome with
      | error error => exact grown
      | ok value => exact grown.trans (two value middle)

theorem emits_pure (value : α) : Emits kind (pure value : Step φ ρ σ α) :=
  fun channel => .refl kind channel

theorem emits_throw (error : ChannelError) : Emits kind (throw error : Step φ ρ σ α) :=
  fun channel => .refl kind channel

theorem emits_get : Emits kind (get : Step φ ρ σ (Channel φ ρ σ)) :=
  fun channel => .refl kind channel

theorem emits_modify (change : Channel φ ρ σ → Channel φ ρ σ)
    (grown : ∀ channel, Grown kind channel (change channel)) :
    Emits kind (modify change : Step φ ρ σ PUnit) :=
  grown

theorem emits_record (event : Event) (holds : kind event) :
    Emits kind (modify (record event) : Step φ ρ σ PUnit) :=
  fun _ => .one rfl holds

theorem emits_ask [Runner ρ] (request : Request) (holds : ∀ answer, kind (.asked request answer)) :
    Emits kind (ask request : Step φ ρ σ Answer) :=
  fun _ => .one rfl (holds _)

theorem emits_demand [Runner ρ] (request : Request)
    (holds : ∀ answer, kind (.asked request answer)) :
    Emits kind (demand request : Step φ ρ σ HandshakeMessage) := by
  apply emits_bind (emits_ask request holds)
  intro answer
  cases answer with
  | ok message => exact emits_pure message
  | error error => exact emits_throw _

theorem emits_callStorage (call : StorageCall)
    (act : Channel φ ρ σ → Except StoreError α × σ × Entropy)
    (holds : ∀ outcome, kind (.stored call outcome)) :
    Emits kind (callStorage call act : Step φ ρ σ (Except StoreError α)) :=
  fun _ => .one rfl (holds _)

theorem emits_accepted (outcome : Except StoreError α) :
    Emits kind (accepted outcome : Step φ ρ σ α) := by
  cases outcome with
  | ok value => exact emits_pure value
  | error error => exact emits_throw _

theorem emits_setState (state : HandshakeState) :
    Emits kind (setState state : Step φ ρ σ Unit) :=
  fun _ => .same rfl

theorem emits_installKey (key : Key) : Emits kind (installKey key : Step φ ρ σ Unit) :=
  fun _ => .same rfl

theorem emits_encrypt (plaintext : Bytes) : Emits kind (encrypt plaintext : Step φ ρ σ Bytes) := by
  apply emits_bind emits_get
  intro channel
  cases channel.session with
  | none => exact emits_throw _
  | some session =>
      dsimp only
      obtain ⟨outcome, session⟩ := session.wrap plaintext
      refine emits_bind (emits_modify _ fun _ => .same rfl) fun _ => ?_
      cases outcome with
      | ok payload => exact emits_pure payload
      | error error => exact emits_throw _

theorem emits_sendHandshake (payload : Bytes) (encrypted : Bool)
    (holds : ∀ message, kind (.sent .handshake message)) :
    Emits kind (sendHandshake payload encrypted : Step φ ρ σ Unit) := by
  have send (payload : Bytes) : Emits kind
      (modify (record (.sent .handshake { encrypted, payload })) : Step φ ρ σ PUnit) :=
    emits_record _ (holds _)
  cases encrypted with
  | true => exact emits_bind (emits_encrypt payload) send
  | false => exact emits_bind (emits_pure payload) send

end Emits

theorem fail_settled [Flavor φ] (error : ChannelError) (channel : Channel φ ρ σ) :
    (channel.fail error).lifecycle ≠ .active := by
  unfold fail
  intro active
  dsimp only at active
  split at active
  next =>
    unfold notify at active
    split at active <;> simp [record] at active
  next ended => exact ended active

theorem fail_grown [Flavor φ] {kind : Event → Prop} (error : ChannelError)
    (channel : Channel φ ρ σ) (aborted : kind .aborted) (failed : kind (.notified (.failed error))) :
    Grown kind channel (channel.fail error) := by
  have first : Grown kind channel
      ({ channel with flavor := Flavor.abort channel.flavor }.record .aborted) := .one rfl aborted
  unfold fail
  dsimp only
  split
  · exact first.trans ((Grown.same rfl).trans (grown_notify _ _ fun _ => failed))
  · exact first

theorem settle_ok [Flavor φ] {step : Step φ ρ σ Unit} {channel after : Channel φ ρ σ}
    (ran : step.run channel = (.ok (), after)) : channel.settle step = after := by
  rw [settle, ran]

theorem settle_error [Flavor φ] {step : Step φ ρ σ Unit} {channel after : Channel φ ρ σ}
    {error : ChannelError} (ran : step.run channel = (.error error, after)) :
    channel.settle step = after.fail error := by
  rw [settle, ran]

-- What holds of a step that fails, ended, and of one that succeeds holds of any.
theorem settle_cases [Flavor φ] {motive : Channel φ ρ σ → Prop} {step : Step φ ρ σ Unit}
    {channel : Channel φ ρ σ}
    (fails : ∀ error after, step.run channel = (.error error, after) → motive (after.fail error))
    (succeeds : ∀ after, step.run channel = (.ok (), after) → motive after) :
    motive (channel.settle step) := by
  cases ran : step.run channel with
  | mk outcome after =>
  cases outcome with
  | error error =>
      rw [settle_error ran]
      exact fails error after ran
  | ok =>
      rw [settle_ok ran]
      exact succeeds after ran

/-- A step that ends the channel. -/
def Fails (step : Step φ ρ σ Unit) (channel : Channel φ ρ σ) : Prop :=
  ∃ error after, step.run channel = (.error error, after)

theorem demand_fails [Runner ρ] (request : Request) (next : HandshakeMessage → Step φ ρ σ Unit)
    (channel : Channel φ ρ σ) {error : HandshakeError} {runner : ρ} {entropy : Entropy}
    (answered : Runner.answer channel.runner request channel.entropy =
      (.error error, runner, entropy)) : Fails (demand request >>= next) channel :=
  ⟨_, _, Step.run_bind_error _ (run_demand_error request channel answered)⟩

theorem settle_fails [Flavor φ] {step : Step φ ρ σ Unit} {channel : Channel φ ρ σ}
    (fails : Fails step channel) : (channel.settle step).lifecycle ≠ .active := by
  obtain ⟨error, after, ran⟩ := fails
  rw [settle_error ran]
  exact fail_settled error after

theorem settle_grown [Flavor φ] {kind : Event → Prop} {step : Step φ ρ σ Unit}
    (emits : Emits kind step) (aborted : kind .aborted)
    (failed : ∀ error, kind (.notified (.failed error))) (channel : Channel φ ρ σ) :
    Grown kind channel (channel.settle step) := by
  have grown := emits channel
  apply settle_cases
  · intro error after ran
    rw [ran] at grown
    exact grown.trans (fail_grown error after aborted (failed error))
  · intro after ran
    rw [ran] at grown
    exact grown

theorem send_grown {kind : Event → Prop} (message : DeviceMessage)
    (channel : Channel φ ρ σ) (holds : ∀ message, kind (.sent .client message)) :
    Grown kind channel (channel.send message).2 := by
  have emits : Emits kind (sendClient message : Step φ ρ σ Unit) := by
    apply emits_bind emits_get
    intro channel
    split
    · have send (payload : Bytes) : Emits kind (modify (record (.sent .client
          { message with payload })) : Step φ ρ σ PUnit) := emits_record _ (holds _)
      split
      · exact emits_bind (emits_encrypt _) send
      · exact emits_bind (emits_pure _) send
    · exact emits_throw _
  exact emits channel

end CarPairing.Channel
