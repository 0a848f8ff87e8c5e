import CarPairing.Proofs.Companion.Calls

/-!
What an application may count on in a phone, whatever the runner answers and
whatever is done in whatever order. A step asks, opens and seals first and writes
down last what has come of it, so one that fails has written nothing. A key comes
with the last state of the handshake, out of which no step leads.
-/

namespace CarPairing.Companion

inductive Act where
  | call (call : Call)
  | wrap (recipient : Option Uuid) (payload : Bytes)
  | unwrap (message : DeviceMessage)

inductive Result where
  | frames (frames : List DeviceMessage)
  | plaintext (payload : Bytes)

/-- What an application can ask of a phone without an act. -/
structure Shown where
  state : HandshakeState
  verification : Option Verification
  key : Option Key
  carId : Option Uuid
  established : Bool

variable {ρ α β : Type}

def shown (phone : Companion ρ) : Shown :=
  { state := phone.state, verification := phone.verification, key := phone.key
    carId := phone.carId, established := phone.established }

section Acts

variable [Runner ρ]

def act (phone : Companion ρ) : Act → Except ChannelError Result × Companion ρ
  | .call call => ((perform call phone).1.map .frames, (perform call phone).2)
  | .wrap recipient payload =>
      ((wrap recipient payload phone).1.map fun frame => .frames [frame],
        (wrap recipient payload phone).2)
  | .unwrap message => ((unwrap message phone).map .plaintext, phone)

def actAll (acts : List Act) (phone : Companion ρ) : Companion ρ :=
  acts.foldl (fun phone next => (act phone next).2) phone

theorem actAll_append (earlier later : List Act) (phone : Companion ρ) :
    actAll (earlier ++ later) phone = actAll later (actAll earlier phone) :=
  List.foldl_append

end Acts

/-- The step shows nothing new, whether it fails or not. -/
def Hides (step : Step ρ α) : Prop :=
  ∀ phone, shown (step.run phone).2 = shown phone

theorem hides_bind {first : Step ρ α} {next : α → Step ρ β} (one : Hides first)
    (two : ∀ value, Hides (next value)) : Hides (first >>= next) := by
  intro phone
  have middle := one phone
  rw [Step.run_bind]
  cases ran : first.run phone with
  | mk outcome after =>
      rw [ran] at middle
      cases outcome with
      | error error => exact middle
      | ok value => exact (two value after).trans middle

theorem hides_get : Hides (get : Step ρ (Companion ρ)) :=
  fun _ => rfl

theorem hides_encrypt (plaintext : Bytes) : Hides (encrypt plaintext : Step ρ Bytes) := by
  intro phone
  cases installed : phone.session with
  | none => rw [run_encrypt_bare plaintext phone installed]
  | some session =>
      rw [run_encrypt_wrapped plaintext phone installed rfl]
      rfl

/-- What a step of the handshake does to what is shown: nothing if it fails, and
a first key it shows with the last state. -/
structure Lands (step : Step ρ α) : Prop where
  atomic : ∀ phone error, (step.run phone).1 = .error error →
    shown (step.run phone).2 = shown phone
  finishes : ∀ phone, phone.key = none →
    (step.run phone).2.key = none ∨ (step.run phone).2.state = .finished

theorem Hides.lands {step : Step ρ α} (hides : Hides step) : Lands step where
  atomic phone _ _ := hides phone
  finishes phone unkeyed := Or.inl ((congrArg Shown.key (hides phone)).trans unkeyed)

theorem lands_bind {first : Step ρ α} {next : α → Step ρ β} (one : Hides first)
    (two : ∀ value, Lands (next value)) : Lands (first >>= next) := by
  constructor
  · intro phone error failed
    have middle := one phone
    rw [Step.run_bind] at failed ⊢
    cases ran : first.run phone with
    | mk outcome after =>
        rw [ran] at failed middle
        cases outcome with
        | error error => exact middle
        | ok value => exact ((two value).atomic after error failed).trans middle
  · intro phone unkeyed
    have middle := congrArg Shown.key (one phone)
    rw [Step.run_bind]
    cases ran : first.run phone with
    | mk outcome after =>
        rw [ran] at middle
        cases outcome with
        | error error => exact Or.inl (middle.trans unkeyed)
        | ok value => exact (two value).finishes after (middle.trans unkeyed)

theorem lands_throw (error : ChannelError) : Lands (throw error : Step ρ α) :=
  Hides.lands fun _ => rfl

-- The writing down at the end of a step does not fail.
theorem lands_write (change : Companion ρ → Companion ρ) (value : α)
    (finishes : ∀ phone, phone.key = none →
      (change phone).key = none ∨ (change phone).state = .finished) :
    Lands (do modify change; pure value : Step ρ α) where
  atomic _ _ failed := nomatch failed
  finishes := finishes

section Steps

variable [Runner ρ]

theorem hides_ask (request : Request) : Hides (ask request : Step ρ Answer) :=
  fun _ => rfl

theorem hides_demand (request : Request) : Hides (demand request : Step ρ HandshakeMessage) := by
  apply hides_bind (hides_ask request)
  intro answer
  cases answer <;> exact fun _ => rfl

theorem lands_start : Lands (start : Step ρ DeviceMessage) := by
  apply lands_bind hides_get
  intro phone
  split
  · apply lands_bind (hides_demand .init)
    intro response
    split
    · exact lands_throw _
    · exact lands_write _ _ fun _ => Or.inl
  · exact lands_throw _

theorem lands_handleServerInit (payload : Bytes) :
    Lands (handleServerInit payload : Step ρ (List DeviceMessage)) := by
  apply lands_bind (hides_demand _)
  intro response
  split
  · exact lands_throw _
  · apply lands_bind hides_get
    intro phone
    split
    · split
      · exact lands_throw _
      · exact lands_write _ _ fun _ => Or.inl
    · split
      · exact lands_throw _
      · exact lands_write _ _ fun _ => Or.inl
    · apply lands_bind (hides_demand _)
      intro answer
      split
      · exact lands_throw _
      · exact lands_write _ _ fun _ => Or.inl
    · exact lands_throw _

theorem lands_handleProof (payload : Bytes) (previous : Key) :
    Lands (handleProof payload previous : Step ρ (List DeviceMessage)) := by
  apply lands_bind (hides_demand _)
  intro response
  split
  · split
    · exact lands_throw _
    · exact ⟨fun _ _ failed => (nomatch failed), fun _ _ => Or.inr rfl⟩
  · exact lands_throw _

omit [Runner ρ] in
theorem lands_handleCarId (payload : Bytes) (deviceId : Uuid) (secret : Bytes) :
    Lands (handleCarId payload deviceId secret : Step ρ (List DeviceMessage)) := by
  rw [handleCarId]
  split
  · exact lands_throw _
  · apply lands_bind (hides_encrypt _)
    intro identity
    exact lands_write _ _ fun _ => Or.inl

theorem lands_handleFrame (message : DeviceMessage) :
    Lands (handleFrame message : Step ρ (List DeviceMessage)) := by
  apply lands_bind hides_get
  intro phone
  split
  · exact lands_throw _
  · split
    · exact lands_throw _
    · split
      · exact lands_handleServerInit _
      · exact lands_handleProof _ _
      · exact lands_handleCarId _ _ _
      · exact lands_throw _

theorem lands_acceptCode : Lands (acceptCode : Step ρ Unit) := by
  apply lands_bind hides_get
  intro phone
  dsimp only
  split
  · apply lands_bind (hides_ask .verify)
    intro answer
    split
    · exact lands_throw _
    · split
      · split
        · exact lands_throw _
        · exact ⟨fun _ _ failed => (nomatch failed), fun _ _ => Or.inr rfl⟩
      · exact lands_throw _
  · exact lands_throw _

end Steps

theorem hides_sealMessage (recipient : Option Uuid) (payload : Bytes) :
    Hides (sealMessage recipient payload : Step ρ DeviceMessage) := by
  apply hides_bind
  · apply hides_bind hides_get
    intro phone
    split <;> exact fun _ => rfl
  · intro _
    apply hides_bind (hides_encrypt payload)
    intro _ _
    rfl

theorem keeps_encrypt (plaintext : Bytes) : Keeps (encrypt plaintext : Step ρ Bytes) := by
  intro phone keyed
  cases keyed with
  | bare unkeyed silent waiting =>
      rw [run_encrypt_bare plaintext phone silent]
      exact .bare unkeyed silent waiting
  | keyed key speaks => exact .keyed key (speaks.encrypt plaintext)

theorem keeps_sealMessage (recipient : Option Uuid) (payload : Bytes) :
    Keeps (sealMessage recipient payload : Step ρ DeviceMessage) := by
  apply keeps_bind
  · apply keeps_bind keeps_get
    intro phone
    split
    · exact keeps_pure _
    · exact keeps_throw _
  · intro _
    exact keeps_bind (keeps_encrypt payload) fun _ => keeps_pure _

section Finished

variable [Runner ρ] {phone : Companion ρ} (finished : phone.state = .finished)

include finished

theorem start_finished :
    start.run phone = (.error (.invalidState "handshake already started"), phone) := by
  rw [start, Step.run_bind, Step.run_get]
  simp only [finished, reduceCtorEq, if_false]
  rfl

theorem accept_finished :
    accept phone = (.error (.invalidState "nothing to verify in state finished"), phone) := by
  rw [accept, acceptCode, Step.run_bind, Step.run_get]
  simp only [finished, reduceCtorEq, or_self, if_false]
  rfl

-- The last state takes only the id of the head unit.
theorem handle_finished (message : DeviceMessage) :
    (∃ error, handle message phone = (.error error, phone)) ∨
      ∃ payload device secret, handle message phone =
        (handleCarId payload device secret).run phone := by
  rw [handle, handleFrame, Step.run_bind, Step.run_get]
  dsimp only
  split
  · exact Or.inl ⟨_, rfl⟩
  · split
    · exact Or.inl ⟨_, rfl⟩
    · split
      · rename_i initiated
        rw [finished] at initiated
        cases initiated
      · rename_i resumes _
        rw [finished] at resumes
        cases resumes
      · exact Or.inr ⟨_, _, _, rfl⟩
      · exact Or.inl ⟨_, rfl⟩

end Finished

theorem handleCarId_stays (payload : Bytes) (device : Uuid) (secret : Bytes)
    (phone : Companion ρ) :
    ((handleCarId payload device secret).run phone).2.state = phone.state ∧
      ((handleCarId payload device secret).run phone).2.key = phone.key := by
  rw [handleCarId]
  split
  · exact ⟨rfl, rfl⟩
  · have hidden := hides_encrypt (Identity.encode device secret) phone
    rw [Step.run_bind]
    cases ran : (encrypt (Identity.encode device secret) : Step ρ Bytes).run phone with
    | mk outcome after =>
        rw [ran] at hidden
        have stays : after.state = phone.state ∧ after.key = phone.key :=
          ⟨congrArg Shown.state hidden, congrArg Shown.key hidden⟩
        cases outcome <;> exact stays

section Acts

variable [Runner ρ]

theorem error_of_map {ε γ δ : Type} {outcome : Except ε γ} {change : γ → δ} {error : ε}
    (failed : outcome.map change = .error error) : outcome = .error error := by
  cases outcome with
  | ok value => cases failed
  | error cause =>
      injection failed with same
      exact congrArg Except.error same

/-- Key and session go together, and with a key the handshake is at its end. -/
structure Settled (phone : Companion ρ) : Prop where
  keyed : Keyed phone
  finished : phone.key ≠ none → phone.state = .finished

theorem perform_atomic (call : Call) (phone : Companion ρ) {error : ChannelError}
    (failed : (perform call phone).1 = .error error) :
    shown (perform call phone).2 = shown phone := by
  cases call with
  | start => exact lands_start.atomic phone error (error_of_map failed)
  | handle message => exact (lands_handleFrame message).atomic phone error failed
  | accept => exact lands_acceptCode.atomic phone error (error_of_map failed)

theorem perform_key (call : Call) {phone : Companion ρ} (finished : phone.state = .finished) :
    (perform call phone).2.state = .finished ∧ (perform call phone).2.key = phone.key := by
  cases call with
  | start =>
      rw [perform, start_finished finished]
      exact ⟨finished, rfl⟩
  | handle message =>
      rw [perform]
      rcases handle_finished finished message with ⟨error, refused⟩ | ⟨payload, device, secret, ran⟩
      · rw [refused]
        exact ⟨finished, rfl⟩
      · rw [ran]
        obtain ⟨state, key⟩ := handleCarId_stays payload device secret phone
        exact ⟨state.trans finished, key⟩
  | accept =>
      rw [perform, accept_finished finished]
      exact ⟨finished, rfl⟩

-- Out of a phone that is through, no call leads anywhere.
theorem perform_through (call : Call) {phone : Companion ρ} (finished : phone.state = .finished)
    (through : phone.established = true) :
    ∃ error, perform call phone = (.error error, phone) := by
  cases call with
  | start =>
      rw [perform, start_finished finished]
      exact ⟨_, rfl⟩
  | handle message =>
      rw [perform, handle, handleFrame, Step.run_bind, Step.run_get]
      simp only [through, if_true]
      exact ⟨_, rfl⟩
  | accept =>
      rw [perform, accept_finished finished]
      exact ⟨_, rfl⟩

theorem settled_perform (call : Call) {phone : Companion ρ} (settled : Settled phone) :
    Settled (perform call phone).2 := by
  refine ⟨perform_keyed call phone settled.keyed, ?_⟩
  intro keyed
  by_cases unkeyed : phone.key = none
  · have finishes : (perform call phone).2.key = none ∨
        (perform call phone).2.state = .finished := by
      cases call with
      | start => exact lands_start.finishes phone unkeyed
      | handle message => exact (lands_handleFrame message).finishes phone unkeyed
      | accept => exact lands_acceptCode.finishes phone unkeyed
    exact finishes.resolve_left keyed
  · exact (perform_key call (settled.finished unkeyed)).1

theorem act_atomic (phone : Companion ρ) (next : Act) {error : ChannelError}
    (failed : (act phone next).1 = .error error) : shown (act phone next).2 = shown phone := by
  cases next with
  | call call => exact perform_atomic call phone (error_of_map failed)
  | wrap recipient payload => exact hides_sealMessage recipient payload phone
  | unwrap message => rfl

theorem settled_act (next : Act) {phone : Companion ρ} (settled : Settled phone) :
    Settled (act phone next).2 := by
  cases next with
  | call call => exact settled_perform call settled
  | wrap recipient payload =>
      have hidden := hides_sealMessage recipient payload phone
      refine ⟨keeps_sealMessage recipient payload phone settled.keyed, ?_⟩
      intro keyed
      have state : (wrap recipient payload phone).2.state = phone.state :=
        congrArg Shown.state hidden
      have key : (wrap recipient payload phone).2.key = phone.key := congrArg Shown.key hidden
      exact state.trans (settled.finished (key ▸ keyed))
  | unwrap message => exact settled

theorem key_act (next : Act) {phone : Companion ρ} {key : Key} (settled : Settled phone)
    (has : phone.key = some key) : (act phone next).2.key = some key := by
  cases next with
  | call call =>
      have finished := settled.finished (by simp [has])
      exact (perform_key call finished).2.trans has
  | wrap recipient payload =>
      exact (congrArg Shown.key (hides_sealMessage recipient payload phone)).trans has
  | unwrap message => exact has

omit [Runner ρ] in
theorem Settled.through {phone : Companion ρ} (settled : Settled phone)
    (through : phone.established = true) :
    phone.key ≠ none ∧ phone.session ≠ none ∧ phone.state = .finished := by
  cases settled.keyed with
  | bare _ _ waiting =>
      rw [waiting] at through
      cases through
  | keyed key speaks =>
      obtain ⟨has, session, installed, -⟩ := speaks
      have keyed : phone.key ≠ none := by simp [has]
      exact ⟨keyed, by simp [installed], settled.finished keyed⟩

theorem established_act (next : Act) {phone : Companion ρ} (settled : Settled phone)
    (through : phone.established = true) : (act phone next).2.established = true := by
  cases next with
  | call call =>
      obtain ⟨error, refused⟩ := perform_through call (settled.through through).2.2 through
      rw [act, refused]
      exact through
  | wrap recipient payload =>
      exact (congrArg Shown.established (hides_sealMessage recipient payload phone)).trans through
  | unwrap message => exact through

section Runs

variable (acts : List Act) {phone : Companion ρ} (settled : Settled phone)

include settled

theorem settled_actAll : Settled (actAll acts phone) := by
  induction acts generalizing phone with
  | nil => exact settled
  | cons next rest ih => exact ih (settled_act next settled)

theorem key_actAll {key : Key} (has : phone.key = some key) :
    (actAll acts phone).key = some key := by
  induction acts generalizing phone with
  | nil => exact has
  | cons next rest ih => exact ih (settled_act next settled) (key_act next settled has)

theorem established_actAll (through : phone.established = true) :
    (actAll acts phone).established = true := by
  induction acts generalizing phone with
  | nil => exact through
  | cons next rest ih =>
      exact ih (settled_act next settled) (established_act next settled through)

end Runs

/-- What holds of a phone after any acts, and from then on. -/
structure Dependable (start : Companion ρ) : Prop where
  atomic : ∀ acts next error, (act (actAll acts start) next).1 = .error error →
    shown (act (actAll acts start) next).2 = shown (actAll acts start)
  paired : ∀ acts, (actAll acts start).key.isSome = (actAll acts start).session.isSome
  final : ∀ acts later key, (actAll acts start).key = some key →
    (actAll (acts ++ later) start).key = some key
  through : ∀ acts later, (actAll acts start).established = true →
    (actAll (acts ++ later) start).established = true ∧
      (actAll (acts ++ later) start).key ≠ none ∧
      (actAll (acts ++ later) start).session ≠ none ∧
      ∀ call, ∃ error, perform call (actAll (acts ++ later) start) =
        (.error error, actAll (acts ++ later) start)

theorem dependable_of_settled {start : Companion ρ} (settled : Settled start) :
    Dependable start where
  atomic acts next error failed := act_atomic _ next failed
  paired acts := by
    cases (settled_actAll acts settled).keyed with
    | bare unkeyed silent _ => rw [unkeyed, silent]; rfl
    | keyed key speaks =>
        obtain ⟨has, session, installed, -⟩ := speaks
        rw [has, installed]
        rfl
  final acts later key has := by
    rw [actAll_append]
    exact key_actAll later (settled_actAll acts settled) has
  through acts later through := by
    rw [actAll_append]
    have reached := settled_actAll later (settled_actAll acts settled)
    have stays := established_actAll later (settled_actAll acts settled) through
    obtain ⟨keyed, sealing, finished⟩ := reached.through stays
    exact ⟨stays, keyed, sealing, fun call => perform_through call finished stays⟩

/-- Of every runner, in both modes: what fails has changed nothing that is shown,
the key comes with the session and stays, and a phone that is through has both,
stays through and takes no more calls of the handshake. -/
theorem dependable (runner : ρ) (entropy : Entropy) :
    (∀ device secret, Dependable (associate runner device secret entropy)) ∧
      ∀ previous, Dependable (reconnect runner previous entropy) := by
  have settled {start : Companion ρ} (unkeyed : start.key = none) (silent : start.session = none)
      (waiting : start.established = false) : Settled start :=
    ⟨.bare unkeyed silent waiting, fun keyed => absurd unkeyed keyed⟩
  exact ⟨fun _ _ => dependable_of_settled (settled rfl rfl rfl),
    fun _ => dependable_of_settled (settled rfl rfl rfl)⟩

end Acts

end CarPairing.Companion
