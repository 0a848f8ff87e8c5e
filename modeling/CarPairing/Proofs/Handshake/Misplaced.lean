import CarPairing.Proofs.Handshake.SingleUse

/-!
Requests out of turn. A runner that is asked for something in the wrong phase, or
in the wrong role, says so and is as it was; except that the proof of a
resumption, when none is under way, ends the agreement that it should not have
touched.
-/

namespace CarPairing.Agreement

/-- The request is refused for having come at all. -/
def Misplaced (runner : Agreement) (request : Request) (entropy : Entropy) : Prop :=
  ∃ operation phase,
    (Runner.answer runner request entropy).1 = .error (.unexpectedCall operation phase)

/-- All the answers of a runner. -/
def answers (runner : Agreement) (uses : List Use) : List (Request × Answer) :=
  (Interview.useAll ⟨runner, []⟩ uses).log

/-- The request has left nothing behind, and nothing that is done to the runner
later shows that it was made. -/
structure Harmless (runner : Agreement) (request : Request) (entropy : Entropy) : Prop where
  kept : (Runner.answer runner request entropy).2 = (runner, entropy)
  unheard : ∀ uses, answers (Runner.answer runner request entropy).2.1 uses = answers runner uses

/-- A proof is to be checked, on a runner that is not dead yet. -/
def Spoils (runner : Agreement) (request : Request) : Prop :=
  ∃ message previous, request = .resume message previous ∧ runner.phase ≠ .failed

-- A frame is refused for what is in it.
theorem checkFrame_placed (message : Bytes) (size : Nat) (what operation phase : String) :
    checkFrame message size what ≠ .error (.unexpectedCall operation phase) := by
  unfold checkFrame
  split
  · exact nofun
  · split
    · exact nofun
    · split <;> exact nofun

section Request

variable {runner : Agreement} {entropy : Entropy}

theorem start_unmoved (misplaced : Misplaced runner .init entropy) :
    (Runner.answer runner .init entropy).2 = (runner, entropy) := by
  obtain ⟨operation, phase, refused⟩ := misplaced
  rcases start_cases runner entropy with granted | ⟨error, left⟩
  · cases granted with
    | init role idle =>
        rw [start_exact runner entropy role idle] at refused
        cases refused
  · exact congrArg Prod.snd left

theorem respond_unmoved {message : Bytes} (misplaced : Misplaced runner (.respond message) entropy) :
    (Runner.answer runner (.respond message) entropy).2 = (runner, entropy) := by
  obtain ⟨operation, phase, refused⟩ := misplaced
  simp only [Runner.answer, respond] at refused ⊢
  split at refused
  · split at refused
    · rename_i error checked
      cases refused
      exact absurd checked (checkFrame_placed _ _ _ _ _)
    · cases refused
  · rfl

theorem proceed_unmoved {message : Bytes}
    (misplaced : Misplaced runner (.continue message) entropy) :
    (Runner.answer runner (.continue message) entropy).2 = (runner, entropy) := by
  obtain ⟨operation, phase, refused⟩ := misplaced
  simp only [Runner.answer, proceed, agreed_exact] at refused ⊢
  split at refused
  · split at refused
    · rename_i error checked
      cases refused
      exact absurd checked (checkFrame_placed _ _ _ _ _)
    · split at refused <;> cases refused
  · split at refused
    · rename_i error checked
      cases refused
      exact absurd checked (checkFrame_placed _ _ _ _ _)
    · cases refused
  · rfl

-- Every other request puts back what it took.
theorem unmoved {request : Request} (misplaced : Misplaced runner request entropy)
    (unproven : ∀ message previous, request ≠ .resume message previous) :
    (Runner.answer runner request entropy).2 = (runner, entropy) := by
  cases request with
  | init => exact start_unmoved misplaced
  | respond message => exact respond_unmoved misplaced
  | «continue» message => exact proceed_unmoved misplaced
  | verify =>
      obtain ⟨operation, phase, refused⟩ := misplaced
      rcases verify_cases runner with granted | ⟨error, left⟩
      · cases granted with
        | verify secrets waiting =>
            rw [verify_exact runner secrets entropy waiting] at refused
            cases refused
      · simp only [Runner.answer, left]
  | prove previous =>
      obtain ⟨operation, phase, refused⟩ := misplaced
      rcases prove_cases runner previous with granted | ⟨error, left⟩
      · cases granted with
        | prove _ secrets role resuming =>
            rw [prove_exact runner previous secrets entropy role resuming] at refused
            cases refused
      · simp only [Runner.answer, left]
  | resume message previous => exact absurd rfl (unproven message previous)

theorem resume_kills {message : Bytes} {previous : Key}
    (misplaced : Misplaced runner (.resume message previous) entropy) :
    (Runner.answer runner (.resume message previous) entropy).2 =
      ({ runner with phase := .failed }, entropy) := by
  obtain ⟨operation, phase, refused⟩ := misplaced
  rcases resume_cases runner message previous with granted | ⟨error, left⟩
  · cases granted with
    | resume _ _ secrets resuming proven =>
        rw [resume_exact runner message previous secrets entropy resuming proven] at refused
        cases refused
  · simp only [Runner.answer, left]

theorem kept_of_unspoiled {request : Request} (misplaced : Misplaced runner request entropy)
    (unspoiled : ¬Spoils runner request) :
    (Runner.answer runner request entropy).2 = (runner, entropy) := by
  cases request with
  | resume message previous =>
      have dead : runner.phase = .failed := by
        by_contra living
        exact unspoiled ⟨message, previous, rfl, living⟩
      rw [resume_kills misplaced, ← dead]
  | _ => exact unmoved misplaced nofun

theorem dead_of_spoils {request : Request} (misplaced : Misplaced runner request entropy)
    (spoils : Spoils runner request) :
    (Runner.answer runner request entropy).2 = ({ runner with phase := .failed }, entropy) := by
  obtain ⟨message, previous, rfl, -⟩ := spoils
  exact resume_kills misplaced

end Request

/-- The request has ended the agreement: nothing is granted any more, and there is
something that the runner would have answered differently. -/
structure Ruinous (runner : Agreement) (request : Request) (entropy : Entropy) : Prop where
  dead : (Runner.answer runner request entropy).2 = ({ runner with phase := .failed }, entropy)
  refuses : ∀ uses, ∀ entry ∈ answers (Runner.answer runner request entropy).2.1 uses,
    ∃ error, entry.2 = .error error
  heard : ∃ uses, answers (Runner.answer runner request entropy).2.1 uses ≠ answers runner uses

namespace Interview

-- A dead runner grants nothing and stays dead.
theorem use_dead {interview : Interview} (step : Use) (dead : interview.runner.phase = .failed)
    (errors : ∀ entry ∈ interview.log, ∃ error, entry.2 = .error error) :
    (interview.use step).runner.phase = .failed ∧
      ∀ entry ∈ (interview.use step).log, ∃ error, entry.2 = .error error := by
  cases step with
  | reconnect on => exact ⟨dead, errors⟩
  | request request entropy =>
      rcases answer_cases interview.runner request entropy with
        granted | ⟨error, after, refused, left⟩
      · exact absurd granted (not_granted_spent (Or.inr dead))
      · simp only [use, refused]
        constructor
        · rcases left with rfl | rfl
          · exact dead
          · rfl
        · intro entry member
          rcases List.mem_append.mp member with old | recent
          · exact errors entry old
          · rw [List.mem_singleton.mp recent]
            exact ⟨error, rfl⟩

theorem useAll_dead (uses : List Use) {interview : Interview}
    (dead : interview.runner.phase = .failed)
    (errors : ∀ entry ∈ interview.log, ∃ error, entry.2 = .error error) :
    ∀ entry ∈ (interview.useAll uses).log, ∃ error, entry.2 = .error error := by
  induction uses generalizing interview with
  | nil => exact errors
  | cons step rest ih =>
      obtain ⟨still, more⟩ := use_dead step dead errors
      exact ih still more

end Interview

theorem name_failed {phase : Phase} (named : phase.name = "failed") : phase = .failed := by
  cases phase with
  | failed => rfl
  | _ => exact absurd named (by simp [Phase.name])

-- Whoever confirms the code is told in which phase the runner is.
theorem verify_tells (runner : Agreement) (living : runner.phase ≠ .failed) (entropy : Entropy) :
    answers { runner with phase := .failed } [.request .verify entropy] ≠
      answers runner [.request .verify entropy] := by
  intro same
  have told : (Runner.answer runner .verify entropy).1 =
      .error (.unexpectedCall "verify_pin" "failed") := by
    injection same with entry
    exact (congrArg Prod.snd entry).symm
  rcases verify_cases runner with granted | ⟨error, left⟩
  · cases granted with
    | verify secrets waiting =>
        rw [verify_exact runner secrets entropy waiting] at told
        cases told
  · simp only [Runner.answer, verify] at told
    split at told
    · cases told
    · injection told with told
      injection told with _ named
      exact living (name_failed named)

/-- Over all runners, whatever they have been through: a request out of turn is
harmless if and only if it does not spoil the agreement, and otherwise it ends
it. -/
theorem misplaced_harmless_iff (runner : Agreement) (request : Request) (entropy : Entropy)
    (misplaced : Misplaced runner request entropy) :
    (Harmless runner request entropy ↔ ¬Spoils runner request) ∧
      (Spoils runner request → Ruinous runner request entropy) := by
  have ruins (spoils : Spoils runner request) : Ruinous runner request entropy := by
    have dead := dead_of_spoils misplaced spoils
    obtain ⟨message, previous, -, living⟩ := spoils
    refine ⟨dead, ?_, [.request .verify entropy], ?_⟩
    · intro uses
      rw [dead]
      exact Interview.useAll_dead uses rfl (by simp)
    · rw [dead]
      exact verify_tells runner living entropy
  refine ⟨⟨?_, ?_⟩, ruins⟩
  · intro harmless spoils
    obtain ⟨uses, differ⟩ := (ruins spoils).heard
    exact differ (harmless.unheard uses)
  · intro unspoiled
    have kept := kept_of_unspoiled misplaced unspoiled
    exact ⟨kept, fun uses => by rw [kept]⟩

theorem misplaced_harmless_iff_fresh :
    let phone : Agreement := { role := .initiator }
    let entropy : Entropy := ⟨fun _ => 0, 0⟩
    Misplaced phone .verify entropy ∧
      (Harmless phone .verify entropy ↔ ¬Spoils phone .verify) ∧
      (Spoils phone .verify → Ruinous phone .verify entropy) := by
  intro phone entropy
  have misplaced : Misplaced phone .verify entropy := ⟨"verify_pin", "idle", rfl⟩
  exact ⟨misplaced, misplaced_harmless_iff phone .verify entropy misplaced⟩

/-- A phone is told to check a proof before it has said anything. It refuses, as
the call is out of place, and then refuses to start as well. -/
theorem stray_proof_ends_agreement :
    let phone : Agreement := { role := .initiator }
    let entropy : Entropy := ⟨fun _ => 0, 0⟩
    let stray := Request.resume [] (Key.derive [] [] [])
    let after := (Runner.answer phone stray entropy).2.1
    (Runner.answer phone stray entropy).1 =
        .error (.unexpectedCall "authenticate_and_resume_session" "not_resuming") ∧
      after.phase = .failed ∧
      (Runner.answer phone .init entropy).1 =
        .ok { state := .inProgress, next := some (clientInitOf entropy) } ∧
      (Runner.answer after .init entropy).1 =
        .error (.unexpectedCall "init_handshake" "failed") ∧
      ¬Harmless phone stray entropy := by
  intro phone entropy stray after
  have dead : after.phase = .failed := rfl
  refine ⟨rfl, dead, rfl, rfl, ?_⟩
  intro harmless
  have same : after = phone := congrArg Prod.fst harmless.kept
  rw [same] at dead
  cases dead

end CarPairing.Agreement
