import CarPairing.Proofs.Settings.Precedence

/-!
A file read as the only layer. It is merged into an empty object, which gives the file
again, so that it comes to the same settings as a file that is named and stands alone.
-/

namespace CarPairing

open Json (Value)

namespace Settings

section Single

variable {δ : Type} [Disk δ] {disk : δ} {path : String}

theorem readLayers_single (present : Disk.present disk path = true) :
    readLayers disk (.object []) [path] = readValue disk path := by
  cases read : readValue disk path with
  | error error => simp only [readLayers, present, if_true, read]
  | ok file =>
      have whole : (Value.object []).merge file = file :=
        Value.merge_empty (readValue_distinct read)
      simp only [readLayers, present, if_true, read, whole]

-- They may differ only in the text of their errors, which is dropped here.
theorem ofLayers_single (present : Disk.present disk path = true) :
    (ofLayers disk [path]).toOption = (ofFile disk path).toOption := by
  unfold ofLayers ofFile
  rw [readLayers_single present]
  cases readValue disk path with
  | error error => rfl
  | ok file =>
      dsimp only
      cases ofValue? file <;> rfl

end Single

/-- What merging comes to, at whatever depth: along a path on which both sides are objects
there is an object with the keys of both, which has under each of them what one side has
or the merge of both; an empty object changes nothing on either side, and neither does a
value merged with itself or an overlay merged in twice. So a file that is there comes to
the same settings, or to none, as the only layer and on its own. -/
theorem layering_lawful {base overlay : Value} (below : base.Distinct)
    (above : overlay.Distinct) {δ : Type} [Disk δ] {disk : δ} {file : String}
    (present : Disk.present disk file = true) :
    (base.merge overlay).Distinct ∧
    (∀ path members others, base.descend? path = some (.object members) →
      overlay.descend? path = some (.object others) →
      ∃ merged, (base.merge overlay).descend? path = some (.object merged) ∧
        Value.Combines (.object members) (.object others) (.object merged)) ∧
    (Value.object []).merge overlay = overlay ∧
    (base.isObject = true → base.merge (.object []) = base) ∧
    base.merge base = base ∧
    (base.merge overlay).merge overlay = base.merge overlay ∧
    (ofLayers disk [file]).toOption = (ofFile disk file).toOption := by
  refine ⟨below.merge above, ?_, Value.merge_empty above, ?_, Value.merge_self below,
    Value.merge_again base above, ofLayers_single present⟩
  · intro path members others old new
    obtain ⟨merged, same⟩ := Value.merge_object (.object members) others
    refine ⟨merged, ?_, ?_⟩
    · rw [Value.descend_merge above old new, same]
    · rw [← same]
      exact Value.combines_merge _ (above.descend new).keys
  · intro object
    cases base with
    | object members => rfl
    | _ => cases object

/-- Both files have a channel, and a timeout in it. -/
theorem layering_lawful_house :
    let disk := house userFile ownFile
    let users : List (String × Value) :=
      [("verification_mode", .string "out_of_band"), ("handshake_timeout_secs", natValue 90)]
    let owns : List (String × Value) := [("handshake_timeout_secs", natValue 10)]
    userValue.Distinct ∧ ownValue.Distinct ∧ Disk.present disk (projectPath "/p") = true ∧
    userValue.descend? ["channel"] = some (.object users) ∧
    ownValue.descend? ["channel"] = some (.object owns) ∧
    (userValue.merge ownValue).Distinct ∧
    (∃ merged, (userValue.merge ownValue).descend? ["channel"] = some (.object merged) ∧
      Value.Combines (.object users) (.object owns) (.object merged)) ∧
    (Value.object []).merge ownValue = ownValue ∧
    userValue.merge (.object []) = userValue ∧
    userValue.merge userValue = userValue ∧
    (userValue.merge ownValue).merge ownValue = userValue.merge ownValue ∧
    (ofLayers disk [projectPath "/p"]).toOption = (ofFile disk (projectPath "/p")).toOption := by
  intro disk users owns
  have below : userValue.Distinct := Value.distinct_of_text ofText_userFile
  have above : ownValue.Distinct := Value.distinct_of_text ofText_ownFile
  have present : Disk.present disk (projectPath "/p") = true := rfl
  have old : userValue.descend? ["channel"] = some (.object users) := rfl
  have new : ownValue.descend? ["channel"] = some (.object owns) := rfl
  obtain ⟨distinct, along, into, onto, self, again, alone⟩ := layering_lawful below above present
  exact ⟨below, above, present, old, new, distinct, along ["channel"] users owns old new, into,
    onto rfl, self, again, alone⟩

end Settings

end CarPairing
