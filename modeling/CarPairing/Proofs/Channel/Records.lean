import CarPairing.Proofs.Channel.Emissions

/-!
What of a trace a handshake alone brings about: frames taken, codes shown,
notices of its end and of the device, and writes to the storage. Each of these
records is a part of the trace, unchanged by events it has no line for.
-/

namespace CarPairing

namespace Event

def code? : Event → Option String
  | .codeShown code => some code
  | _ => none

/-- How the handshake has ended, where the application is told. -/
def outcome? : Event → Option Notice
  | .notified .established => some .established
  | .notified (.failed error) => some (.failed error)
  | _ => none

def identity? : Event → Option String
  | .notified (.deviceId id) => some id
  | _ => none

/-- A call that changes what is stored of a device, and how it ended. -/
def write? : Event → Option (StorageCall × Except StoreError Unit)
  | .stored (.saveKey id key) outcome => some (.saveKey id key, outcome)
  | .stored (.saveSecret id secret) outcome => some (.saveSecret id secret, outcome)
  | .stored (.remove id) outcome => some (.remove id, outcome)
  | _ => none

/-- A handshake frame that was taken. -/
def frame? : Event → Option Bytes
  | .frame payload => some payload
  | _ => none

structure Silent (event : Event) : Prop where
  code : event.code? = none
  outcome : event.outcome? = none
  identity : event.identity? = none

/-- The event takes no frame and writes nothing. -/
structure Aside (event : Event) : Prop where
  frame : event.frame? = none
  write : event.write? = none

end Event

namespace Channel

def codes (events : List Event) : List String :=
  events.filterMap fun
    | .codeShown code => some code
    | _ => none

def notices (events : List Event) : List Notice :=
  events.filterMap fun
    | .notified notice => some notice
    | _ => none

def outcomes (events : List Event) : List Notice :=
  events.filterMap Event.outcome?

def identities (events : List Event) : List String :=
  events.filterMap Event.identity?

def writes (events : List Event) : List (StorageCall × Except StoreError Unit) :=
  events.filterMap Event.write?

def taken (events : List Event) : List Bytes :=
  events.filterMap Event.frame?

variable {φ ρ σ α : Type} {before after : Channel φ ρ σ}

-- A record that has no line for any of the new events has not changed.
theorem record_grown {kind : Event → Prop} (line? : Event → Option α)
    (blind : ∀ event, kind event → line? event = none) (grown : Grown kind before after) :
    after.trace.filterMap line? = before.trace.filterMap line? := by
  obtain ⟨events, appended, kinds⟩ := grown
  have nothing : events.filterMap line? = [] :=
    List.filterMap_eq_nil_iff.mpr fun event member => blind event (kinds event member)
  rw [appended, List.filterMap_append, nothing, List.nil_append]

theorem codes_silent (grown : Grown Event.Silent before after) :
    codes after.trace = codes before.trace :=
  record_grown Event.code? (fun _ silent => silent.code) grown

theorem outcomes_silent (grown : Grown Event.Silent before after) :
    outcomes after.trace = outcomes before.trace :=
  record_grown Event.outcome? (fun _ silent => silent.outcome) grown

theorem identities_silent (grown : Grown Event.Silent before after) :
    identities after.trace = identities before.trace :=
  record_grown Event.identity? (fun _ silent => silent.identity) grown

theorem writes_grown (grown : Grown (fun event => event.write? = none) before after) :
    writes after.trace = writes before.trace :=
  record_grown Event.write? (fun _ unwritten => unwritten) grown

/-- The frames that a channel has taken and what it has written, each in the
order in which it came about. -/
structure Log (channel : Channel φ ρ σ) (frames : List Bytes)
    (written : List (StorageCall × Except StoreError Unit)) : Prop where
  frames : taken channel.trace.reverse = frames
  writes : writes channel.trace.reverse = written

section Log

variable {frames : List Bytes} {written : List (StorageCall × Except StoreError Unit)}

theorem Log.aside (log : Log before frames written) (grown : Grown Event.Aside before after) :
    Log after frames written where
  frames := by
    rw [← log.frames, taken, taken, List.filterMap_reverse, List.filterMap_reverse,
      record_grown Event.frame? (fun _ aside => aside.frame) grown]
  writes := by
    rw [← log.writes, Channel.writes, Channel.writes, List.filterMap_reverse,
      List.filterMap_reverse, record_grown Event.write? (fun _ aside => aside.write) grown]

theorem Log.frame (log : Log before frames written) (payload : Bytes) :
    Log (before.record (.frame payload)) (frames ++ [payload]) written where
  frames := by
    change taken (.frame payload :: before.trace).reverse = _
    rw [← log.frames, List.reverse_cons, taken, List.filterMap_append]
    rfl
  writes := by
    change Channel.writes (.frame payload :: before.trace).reverse = _
    rw [← log.writes, List.reverse_cons, Channel.writes, List.filterMap_append]
    exact List.append_nil _

theorem Log.write (log : Log before frames written) {call : StorageCall}
    {outcome : Except StoreError Unit}
    (line : (Event.stored call outcome).write? = some (call, outcome))
    (made : after.trace = .stored call outcome :: before.trace) :
    Log after frames (written ++ [(call, outcome)]) where
  frames := by
    rw [← log.frames, made, List.reverse_cons, taken, List.filterMap_append]
    exact List.append_nil _
  writes := by
    rw [← log.writes, made, List.reverse_cons, Channel.writes, List.filterMap_append]
    simp only [List.filterMap_cons, line, List.filterMap_nil]
    rfl

end Log

end Channel

end CarPairing
