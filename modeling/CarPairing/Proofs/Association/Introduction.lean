import CarPairing.Proofs.Association.Order
import CarPairing.Proofs.Channel.Settled

/-!
How an association comes to be established: the application hears of a device,
its key is written and then its secret, and nothing else is written before or
after. This is so whatever the runner and the storage answer, and whoever
listens at which time.
-/

namespace CarPairing

/-- The event writes nothing and is not the good end. -/
structure Event.Plain (event : Event) : Prop where
  unwritten : event.write? = none
  other : event ≠ .notified .established

theorem Notice.Traffic.plain {notice : Notice} (traffic : notice.Traffic) :
    (Event.notified notice).Plain := by
  cases notice with
  | message message => exact ⟨rfl, nofun⟩
  | messageError error => exact ⟨rfl, nofun⟩
  | _ => exact absurd traffic not_false

theorem Event.plain_sent (operation : Operation) (message : DeviceMessage) :
    (Event.sent operation message).Plain :=
  ⟨rfl, nofun⟩

theorem Event.plain_asked (request : Request) (answer : Answer) :
    (Event.asked request answer).Plain :=
  ⟨rfl, nofun⟩

theorem Event.plain_uniqueId (outcome : Except StoreError Unit) :
    (Event.stored .uniqueId outcome).Plain :=
  ⟨rfl, nofun⟩

namespace Association

open Channel

variable {ρ σ : Type}

/-- A device was named, its key and secret were written and nothing else was,
and then the application was told that all is well. -/
def Introduced (events : List Event) : Prop :=
  ∃ id key secret,
    [.notified (.deviceId id), .stored (.saveKey id key) (.ok ()),
      .stored (.saveSecret id secret) (.ok ()), .notified .established].Sublist events ∧
    writes events = [(.saveKey id key, .ok ()), (.saveSecret id secret, .ok ())]

/-- What an association can tell of itself. -/
structure Story (channel : Channel Association ρ σ) : Prop where
  unnamed : channel.lifecycle = .active → channel.identified = false
  unwritten : channel.lifecycle = .active → writes channel.trace = []
  untold : channel.lifecycle = .active → .notified .established ∉ channel.trace
  introduced : .notified .established ∈ channel.trace → Introduced channel.trace.reverse

variable {before after channel : Channel Association ρ σ}

theorem untold_grown (grown : Grown (· ≠ .notified .established) before after)
    (untold : .notified .established ∉ before.trace) : .notified .established ∉ after.trace := by
  obtain ⟨events, appended, others⟩ := grown
  rw [appended]
  intro member
  rcases List.mem_append.mp member with recent | old
  · exact others _ recent rfl
  · exact untold old

-- What is plain is no part of the story.
theorem Introduced.plain {events later : List Event} (introduced : Introduced events)
    (plain : ∀ event ∈ later, event.Plain) : Introduced (events ++ later) := by
  obtain ⟨id, key, secret, ordered, only⟩ := introduced
  have nothing : later.filterMap Event.write? = [] :=
    List.filterMap_eq_nil_iff.mpr fun event member => (plain event member).unwritten
  refine ⟨id, key, secret, ordered.trans (List.sublist_append_left events later), ?_⟩
  rw [writes, List.filterMap_append, nothing, List.append_nil]
  exact only

theorem Story.plain (story : Story before) (grown : Grown Event.Plain before after)
    (back : after.lifecycle = .active →
      before.lifecycle = .active ∧ after.identified = before.identified) : Story after where
  unnamed active := (back active).2.trans (story.unnamed (back active).1)
  unwritten active := by
    rw [writes_grown (grown.mono fun _ plain => plain.unwritten)]
    exact story.unwritten (back active).1
  untold active :=
    untold_grown (grown.mono fun _ plain => plain.other) (story.untold (back active).1)
  introduced told := by
    obtain ⟨events, appended, plain⟩ := grown
    rw [appended] at told ⊢
    have earlier : .notified .established ∈ before.trace := by
      rcases List.mem_append.mp told with recent | old
      · exact absurd rfl (plain _ recent).other
      · exact old
    rw [List.reverse_append]
    apply (story.introduced earlier).plain
    intro event member
    exact plain event (List.mem_reverse.mp member)

theorem Story.settle {step : Step ρ σ Unit} (story : Story channel)
    (active : channel.lifecycle = .active) (emits : Emits Event.Plain step)
    (unnamed : (step.run channel).2.identified = channel.identified) :
    Story (channel.settle step) := by
  have aborted : Event.Plain .aborted := ⟨rfl, nofun⟩
  have failed (error : ChannelError) : Event.Plain (.notified (.failed error)) := ⟨rfl, nofun⟩
  apply story.plain (settle_grown emits aborted failed channel)
  intro still
  exact ⟨active, settle_identified unnamed⟩

section Identity

variable (channel) (device : Uuid) (events : List Event) (storage : σ)

-- A device that is stored is announced first and established last, if anybody
-- listens; the application hears of both or of neither.
theorem enrolled_heard (active : channel.lifecycle = .active)
    (unnamed : channel.identified = false) (listens : channel.subscription ≠ .nothing) :
    (enrolled channel device events storage (.ok ())).2.trace = .notified .established ::
      (events.reverse ++ .notified (.deviceId device.toText) :: channel.trace) := by
  have hears : channel.subscription.hears (.deviceId device.toText) = true ∧
      channel.subscription.hears .established = true :=
    ⟨Subscription.hears_handshake listens not_false, Subscription.hears_handshake listens not_false⟩
  simp only [enrolled, enrolling, announced, concluded, released, notify, record, active, unnamed,
    hears, and_self, if_true]

theorem enrolled_unheard (active : channel.lifecycle = .active)
    (unnamed : channel.identified = false) (unheard : channel.subscription = .nothing) :
    (enrolled channel device events storage (.ok ())).2.trace = events.reverse ++ channel.trace := by
  have deaf (notice : Notice) : channel.subscription.hears notice = false := by
    rw [unheard, Subscription.hears]
  simp only [enrolled, enrolling, announced, concluded, released, notify, active, unnamed, deaf,
    and_self, Bool.false_eq_true, if_true, if_false]

end Identity

-- The whole story is told in one call.
theorem introduced_enrolled (device : Uuid) (key : Key) (secret : Bytes) (storage : σ)
    (active : channel.lifecycle = .active) (story : Story channel)
    (listens : channel.subscription ≠ .nothing) :
    Introduced (enrolled channel device
      [.stored (.checkSecret secret) (.ok ()), .stored (.key device.toText) (.ok ()),
        .stored (.saveKey device.toText key) (.ok ()),
        .stored (.saveSecret device.toText secret) (.ok ())] storage (.ok ())).2.trace.reverse := by
  rw [enrolled_heard channel device _ storage active (story.unnamed active) listens]
  have before : channel.trace.reverse.filterMap Event.write? = [] := by
    rw [List.filterMap_reverse]
    exact congrArg List.reverse (story.unwritten active)
  simp only [List.reverse_cons, List.reverse_append, List.reverse_reverse, List.append_assoc]
  refine ⟨device.toText, key, secret, ?_, ?_⟩
  · refine List.Sublist.trans ?_ (List.sublist_append_right _ _)
    exact .cons_cons _ (.cons _ (.cons _ (.refl _)))
  · rw [writes, List.filterMap_append, before]
    rfl

theorem story_make [Runner ρ] (runner : ρ) (storage : σ) (entropy : Entropy) (now : Int) :
    Story (make ({} : Association) runner storage entropy now) where
  unnamed _ := rfl
  unwritten _ := rfl
  untold _ := by
    change Event.notified .established ∉ [Event.prepared false]
    simp
  introduced told := by
    change Event.notified .established ∈ [Event.prepared false] at told
    simp at told

section Calls

variable [KeyStorage σ]

theorem story_identity (payload : Bytes) (story : Story channel)
    (active : channel.lifecycle = .active) :
    Story (channel.settle (processIdentity payload)) := by
  have settled := identity_settled payload channel
  have untold := story.untold active
  refine ⟨fun still => absurd still settled, fun still => absurd still settled,
    fun still => absurd still settled, fun told => ?_⟩
  have run := processIdentity_cases payload channel
  unfold settle at told ⊢
  generalize (processIdentity payload).run channel = ran at run told ⊢
  cases run with
  | idle unheld => exact absurd told (untold_grown (fail_grown _ channel nofun nofun) untold)
  | garbled key error held unread =>
      exact absurd told
        (untold_grown ((Grown.same rfl).trans (fail_grown _ _ nofun nofun)) untold)
  | enrols key device secret events storage outcome held decoded stores =>
      have calls : Grown (· ≠ .notified .established) channel
          (enrolling channel device.toText events storage) := by
        refine (enrolling_grown channel device.toText events storage).mono ?_
        rintro event (member | ⟨rfl, -⟩)
        · obtain ⟨calls, rfl⟩ := stores.calls
          obtain ⟨_, -, rfl⟩ := List.mem_map.mp member
          exact nofun
        · exact nofun
      cases outcome with
      | error error =>
          exact absurd told (untold_grown (calls.trans (fail_grown _ _ nofun nofun)) untold)
      | ok =>
          cases stores with
          | stored passed written _ checked keyed kept =>
          by_cases listens : channel.subscription = .nothing
          · change _ ∈ (enrolled channel device _ storage (.ok ())).2.trace at told
            rw [enrolled_unheard channel device _ storage active (story.unnamed active) listens]
              at told
            rcases List.mem_append.mp told with recent | old
            · simp at recent
            · exact absurd old untold
          · exact introduced_enrolled device key secret storage active story listens

variable [Runner ρ]

theorem story_handshake (payload : Bytes) (story : Story channel) :
    Story (channel.handshake payload) := by
  by_cases active : channel.lifecycle = .active
  · have framed : Story (channel.record (.frame payload)) :=
      story.plain (.one rfl ⟨rfl, nofun⟩) fun still => ⟨still, rfl⟩
    rw [handshake_active channel payload active, settle_process]
    cases state : (channel.record (.frame payload)).state with
    | unknown =>
        apply framed.settle active
        · exact processInit_emits payload Event.plain_asked (Event.plain_sent .handshake)
        · obtain ⟨outcome, runner, entropy, state, trace, ran, -⟩ :=
            processInit_answered payload (channel.record (.frame payload))
          rw [ran]
    | inProgress =>
        apply framed.settle active
        · exact processFinish_emits payload Event.plain_asked fun _ => ⟨rfl, nofun⟩
        · have completed := processFinish_completed payload (channel.record (.frame payload))
          generalize (processFinish payload : Step ρ σ Unit).run _ = ran at completed ⊢
          cases completed with
          | refused => rfl
          | shown => rfl
    | finished => exact story_identity payload framed active
    | _ => exact framed.settle active (emits_throw _) rfl
  · rw [handshake_inactive channel payload active]
    exact story

theorem perform_story (call : Call) (story : Story channel) : Story (perform call channel) := by
  cases call with
  | frame payload => exact story_handshake payload story
  | receive message operation =>
      rw [perform]
      cases receive_cases channel message operation with
      | ignored failed same =>
          rw [same]
          exact story
      | told notice living traffic same =>
          rw [same]
          have grown := grown_notify notice channel fun _ => traffic.plain
          obtain ⟨trace, frame⟩ := notify_frame notice channel
          rw [frame] at grown ⊢
          exact story.plain grown fun still => ⟨still, rfl⟩
      | taken payload living handshakes opened same =>
          rw [same]
          exact story_handshake payload story
  | send message =>
      rw [perform]
      have grown : Grown Event.Plain channel (channel.send message).2 :=
        send_grown message channel (Event.plain_sent .client)
      obtain ⟨session, trace, frame⟩ := send_frame message channel
      rw [frame] at grown ⊢
      exact story.plain grown fun still => ⟨still, rfl⟩
  | subscribe subscription => exact story.plain (.same rfl) fun still => ⟨still, rfl⟩
  | accept =>
      rw [perform, accept]
      split
      next active =>
        apply story.settle active
        · exact acceptCode_emits Event.plain_asked Event.plain_uniqueId
            (Event.plain_sent .handshake)
        · obtain ⟨outcome, after, ran, accepting⟩ := acceptCode_accepting channel
          obtain ⟨runner, storage, entropy, session, state, pending, trace, rfl⟩ := accepting.frame
          rw [ran]
      · exact story
  | listen on => exact story.plain (.same rfl) fun still => ⟨still, rfl⟩

theorem performAll_story (calls : List Call) (story : Story channel) :
    Story (performAll calls channel) := by
  induction calls generalizing channel with
  | nil => exact story
  | cons call rest ih => exact ih (perform_story call story)

end Calls

end Association

end CarPairing
