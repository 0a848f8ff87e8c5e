import CarPairing.Json.Document
import CarPairing.Proofs.Json.Decimal

/-!
The tokens of a printed text. What ends by itself leaves nothing open; a numeral
is only ended by the character after it, which in a printed text is always one
that a numeral does not have.
-/

namespace CarPairing.Json

namespace Token

theorem steps_append (progress : Progress) (first second : List Char) :
    steps? progress (first ++ second) =
      (steps? progress first).bind fun middle => steps? middle second := by
  induction first generalizing progress with
  | nil => rfl
  | cons character rest ih =>
      simp only [List.cons_append, steps?]
      cases step? progress character with
      | none => rfl
      | some next => exact ih next

theorem steps_trans {progress middle after : Progress} {first second : List Char}
    (one : steps? progress first = some middle) (two : steps? middle second = some after) :
    steps? progress (first ++ second) = some after := by
  rw [steps_append, one]
  exact two

/-- Read after any tokens, the text adds these and leaves nothing open. -/
def Lexes (text : List Char) (tokens : List Token) : Prop :=
  ∀ before, steps? ⟨before, .nothing⟩ text = some ⟨tokens.reverse ++ before, .nothing⟩

theorem Lexes.append {first second : List Char} {one two : List Token} (lexes : Lexes first one)
    (more : Lexes second two) : Lexes (first ++ second) (one ++ two) := by
  intro before
  rw [steps_trans (lexes before) (more _)]
  simp

theorem lexes_nil : Lexes [] [] :=
  fun _ => rfl

theorem lexes_punctuation {character : Char} {token : Token}
    (means : ∀ before, start? before character = some ⟨token :: before, .nothing⟩) :
    Lexes [character] [token] := by
  intro before
  simp [steps?, step?, means]

theorem lexes_blanks {text : List Char} (blank : ∀ character ∈ text, isBlank character = true) :
    Lexes text [] := by
  induction text with
  | nil => exact lexes_nil
  | cons character rest ih =>
      obtain ⟨first, others⟩ := List.forall_mem_cons.mp blank
      have one : Lexes [character] [] := by
        intro before
        simp [steps?, step?, start?, first]
      exact one.append (ih others)

theorem lexes_lineBreak (layout : Layout) : Lexes layout.lineBreak [] := by
  cases layout with
  | compact => exact lexes_nil
  | indented depth =>
      apply lexes_blanks
      intro character member
      rcases List.mem_cons.mp member with rfl | space
      · rfl
      · rw [List.eq_of_mem_replicate space]
        rfl

theorem lexes_colon (layout : Layout) : Lexes layout.colon [.colon] := by
  have colon : Lexes [':'] [.colon] := lexes_punctuation fun _ => rfl
  cases layout with
  | compact => exact colon
  | indented depth =>
      have blank : Lexes [' '] [] := lexes_blanks (by simp [isBlank])
      exact colon.append blank

/-- What a character of a string is read as. -/
def piece (character : Char) : Piece :=
  if character ∈ ['"', '\\', '\x08', '\x0c', '\n', '\r', '\t'] then .char character
  else if character.toNat < 0x20 then .unit character.toNat
  else .char character

def pieces (text : String) : List Piece :=
  text.toList.map piece

theorem steps_escape (before : List Token) (read : List Piece) (character : Char) :
    steps? ⟨before, .text read⟩ (escape character) =
      some ⟨before, .text (piece character :: read)⟩ := by
  unfold escape
  split
  iterate 7 rfl
  next quote backslash backspace feed line carriage tab =>
    have plain : character ∉ ['"', '\\', '\x08', '\x0c', '\n', '\r', '\t'] := by
      simp only [List.mem_cons, List.not_mem_nil, or_false]
      rintro (rfl | rfl | rfl | rfl | rfl | rfl | rfl) <;> contradiction
    by_cases control : character.toNat < 0x20
    · have high := Hex.value_digit (character.toNat / 16) (by omega)
      have low := Hex.value_digit (character.toNat % 16) (by omega)
      have zero : Hex.value? '0' = some 0 := rfl
      have whole : character.toNat / 16 * 16 + character.toNat % 16 = character.toNat := by omega
      simp [piece, plain, control, steps?, step?, textStep?, escapeStep?, unitStep?, high, low,
        zero, whole]
    · have unquoted : character ≠ '"' := fun same => quote same
      have unescaped : character ≠ '\\' := fun same => backslash same
      simp [piece, plain, control, steps?, step?, textStep?, unquoted, unescaped]

theorem steps_text (before : List Token) (read : List Piece) (text : List Char) :
    steps? ⟨before, .text read⟩ (text.flatMap escape) =
      some ⟨before, .text ((text.map piece).reverse ++ read)⟩ := by
  induction text generalizing read with
  | nil => rfl
  | cons character rest ih =>
      rw [List.flatMap_cons, steps_trans (steps_escape before read character) (ih _)]
      simp

theorem lexes_quote (text : String) : Lexes (quote text) [.text (pieces text)] := by
  intro before
  have opening : steps? ⟨before, .nothing⟩ ['"'] = some ⟨before, .text []⟩ := rfl
  have closing (read : List Piece) :
      steps? ⟨before, .text read⟩ ['"'] = some ⟨.text read.reverse :: before, .nothing⟩ := rfl
  have whole := steps_trans (steps_trans opening (steps_text before [] text.toList)) (closing _)
  rw [quote]
  simpa [pieces] using whole

/-- A character that a numeral or a word does not go on with. -/
def Ends (character : Char) : Prop :=
  isLetter character = false ∧ Numeral.isPart character = false

/-- Read after any tokens, the text adds these as soon as a character comes that
ends it. -/
def Pends (text : List Char) (tokens : List Token) : Prop :=
  ∀ before next, Ends next →
    steps? ⟨before, .nothing⟩ (text ++ [next]) = start? (tokens.reverse ++ before) next

theorem Lexes.pends {text : List Char} {tokens : List Token} (lexes : Lexes text tokens) :
    Pends text tokens := by
  intro before next _
  rw [steps_append, lexes before]
  simp only [Option.bind_some, steps?, step?]
  cases start? (tokens.reverse ++ before) next <;> rfl

theorem Lexes.pends_append {first second : List Char} {one two : List Token}
    (lexes : Lexes first one) (pends : Pends second two) :
    Pends (first ++ second) (one ++ two) := by
  intro before next ends
  rw [List.append_assoc, steps_append, lexes before]
  simpa using pends (one.reverse ++ before) next ends

theorem Pends.append {first second : List Char} {one two : List Token} (pends : Pends first one)
    (lexes : Lexes second two) (opens : ∃ next rest, second = next :: rest ∧ Ends next) :
    Lexes (first ++ second) (one ++ two) := by
  intro before
  obtain ⟨next, rest, rfl, ends⟩ := opens
  have read := lexes (one.reverse ++ before)
  have same : steps? ⟨before, .nothing⟩ (first ++ next :: rest) =
      steps? ⟨one.reverse ++ before, .nothing⟩ (next :: rest) := by
    rw [List.append_cons, steps_append, pends before next ends]
    simp only [steps?, step?]
    cases start? (one.reverse ++ before) next <;> rfl
  rw [same, read]
  simp

-- The end of a text ends what a blank would have ended.
theorem finish_of_blank {progress : Progress} {tokens : List Token}
    (ended : step? progress ' ' = some ⟨tokens, .nothing⟩) : finish? progress = some tokens := by
  have blank (read : List Token) : start? read ' ' = some ⟨read, .nothing⟩ := rfl
  obtain ⟨read, collecting⟩ := progress
  cases collecting with
  | nothing => simpa [step?, blank, finish?] using ended
  | word letters =>
      cases done : finish? ⟨read, .word letters⟩ with
      | none => simp [step?, isLetter, done] at ended
      | some all => simpa [step?, isLetter, done, blank] using ended
  | numeral characters =>
      have part : Numeral.isPart ' ' = false := rfl
      cases done : finish? ⟨read, .numeral characters⟩ with
      | none => simp [step?, part, done] at ended
      | some all => simpa [step?, part, done, blank] using ended
  | text pieces => simp [step?, textStep?] at ended
  | escape pieces => simp [step?, escapeStep?, escaped?] at ended
  | unit pieces digits =>
      have digit : Hex.value? ' ' = none := rfl
      simp [step?, unitStep?, digit] at ended

theorem Pends.whole {text : List Char} {tokens : List Token} (pends : Pends text tokens) :
    ofChars? text = some tokens := by
  have ended := pends [] ' ' ⟨rfl, rfl⟩
  have blank (read : List Token) : start? read ' ' = some ⟨read, .nothing⟩ := rfl
  rw [steps_append, blank] at ended
  rw [ofChars?]
  cases collected : steps? ⟨[], .nothing⟩ text with
  | none => simp [collected] at ended
  | some progress =>
      have last : step? progress ' ' = some ⟨tokens.reverse, .nothing⟩ := by
        cases stepped : step? progress ' ' with
        | none => simp [collected, steps?, stepped] at ended
        | some next => simpa [collected, steps?, stepped] using ended
      simp [finish_of_blank last]

theorem steps_numeral (before : List Token) (read text : List Char)
    (parts : ∀ character ∈ text, Numeral.isPart character = true) :
    steps? ⟨before, .numeral read⟩ text = some ⟨before, .numeral (text.reverse ++ read)⟩ := by
  induction text generalizing read with
  | nil => rfl
  | cons character rest ih =>
      obtain ⟨first, others⟩ := List.forall_mem_cons.mp parts
      simp only [steps?, step?, first, if_true]
      rw [ih _ others]
      simp

theorem start_digit (before : List Token) {character : Char}
    (digit : Numeral.isDigit character = true) :
    start? before character = some ⟨before, .numeral [character]⟩ := by
  have other (known : Char) (no : Numeral.isDigit known = false) : character ≠ known := by
    rintro rfl
    rw [digit] at no
    cases no
  have blank : isBlank character = false := by
    simp [isBlank, other ' ' rfl, other '\n' rfl, other '\t' rfl, other '\r' rfl]
  have letter : isLetter character = false := by
    simp only [Numeral.isDigit, Bool.and_eq_true, decide_eq_true_eq, Char.le_def,
      UInt32.le_iff_toNat_le] at digit
    simp only [isLetter, Bool.and_eq_false_iff, decide_eq_false_iff_not, Char.le_def,
      UInt32.le_iff_toNat_le]
    have first : 'a'.val.toNat = 97 := rfl
    have last : '9'.val.toNat = 57 := rfl
    omega
  have part := Numeral.isPart_of_isDigit digit
  simp [start?, blank, letter, part, other '"' rfl]

theorem start_minus (before : List Token) :
    start? before '-' = some ⟨before, .numeral ['-']⟩ := rfl

-- A sign or a digit starts a numeral, and digits go on with it.
theorem integer_starts (value : Int) (before : List Token) :
    ∃ first rest, (Number.integer value).print = first :: rest ∧
      start? before first = some ⟨before, .numeral [first]⟩ ∧
        ∀ character ∈ rest, Numeral.isPart character = true := by
  have printed : (Number.integer value).print = (Numeral.ofInt value).toChars :=
    Numeral.toChars_ofInt value
  have digits : ∀ character ∈ Nat.toDigits 10 value.natAbs,
      Numeral.isDigit character = true := fun _ => Numeral.isDigit_toDigits
  by_cases negative : value < 0
  · refine ⟨'-', Nat.toDigits 10 value.natAbs, ?_, start_minus before, ?_⟩
    · rw [printed]
      simp [Numeral.ofInt, Numeral.toChars, negative]
    · intro character member
      exact Numeral.isPart_of_isDigit (digits character member)
  · obtain ⟨first, rest, split⟩ := Numeral.toDigits_cons value.natAbs
    rw [split] at digits
    obtain ⟨one, others⟩ := List.forall_mem_cons.mp digits
    refine ⟨first, rest, ?_, start_digit before one, ?_⟩
    · rw [printed]
      simp [Numeral.ofInt, Numeral.toChars, negative, split]
    · intro character member
      exact Numeral.isPart_of_isDigit (others character member)

theorem pends_integer (value : Int) :
    Pends (Number.integer value).print [.number (Numeral.ofInt value)] := by
  intro before next ends
  obtain ⟨first, rest, text, begins, parts⟩ := integer_starts value before
  have read : Numeral.ofChars? (first :: rest) = some (Numeral.ofInt value) := by
    rw [← text]
    exact (congrArg Numeral.ofChars? (Numeral.toChars_ofInt value)).trans
      (Numeral.ofChars_ofInt value)
  have collected : steps? ⟨before, .nothing⟩ (first :: rest) =
      some ⟨before, .numeral (first :: rest).reverse⟩ := by
    have more := steps_numeral before [first] rest parts
    simp only [steps?, step?, begins]
    simpa using more
  rw [text, steps_append, collected]
  simp [steps?, step?, ends.2, finish?, read]
  cases start? (.number (Numeral.ofInt value) :: before) next <;> rfl

end Token

end CarPairing.Json
