import CarPairing.Companion

/-!
What the user compares tells the code. The display keeps the characters of the
code in their order and puts a blank after every third of them that is not the
last, whatever the characters are; without its fourth characters it is the code.
-/

namespace CarPairing

theorem Hex.encode_injective {one other : Bytes} (same : Hex.encode one = Hex.encode other) :
    one = other := by
  have read := congrArg Hex.decode? same
  rw [Hex.decode_encode, Hex.decode_encode] at read
  exact Option.some.inj read

namespace VerificationCode

/-- What is left without every fourth character. -/
def dropFourths : List Char → List Char
  | a :: b :: c :: _ :: rest => a :: b :: c :: dropFourths rest
  | short => short

-- Not more than one group: there is nothing to part and nothing to drop.
theorem dropFourths_short {chars : List Char} (short : chars.length ≤ 3) :
    dropFourths chars = chars := by
  match chars with
  | [] | [_] | [_, _] | [_, _, _] => rfl
  | _ :: _ :: _ :: _ :: rest =>
      simp only [List.length_cons] at short
      omega

theorem groupChars_short {chars : List Char} (short : chars.length ≤ 3) :
    groupChars chars = chars := by
  match chars with
  | [] | [_] | [_, _] | [_, _, _] => rfl
  | _ :: _ :: _ :: _ :: rest =>
      simp only [List.length_cons] at short
      omega

-- Up to one group there is nothing to do; else the first group is one step.
@[elab_as_elim]
theorem groups_induction {motive : List Char → Prop} (chars : List Char)
    (short : ∀ chars, chars.length ≤ 3 → motive chars)
    (long : ∀ a b c d rest, motive (d :: rest) → motive (a :: b :: c :: d :: rest)) :
    motive chars := by
  induction chars using groupChars.induct with
  | case1 a b c d rest ih => exact long a b c d rest ih
  | case2 chars other =>
      apply short
      match chars with
      | [] | [_] | [_, _] | [_, _, _] => simp
      | a :: b :: c :: d :: rest => exact absurd rfl (other a b c d rest)

theorem dropFourths_groupChars (chars : List Char) : dropFourths (groupChars chars) = chars := by
  induction chars using groups_induction with
  | short chars few => rw [groupChars_short few, dropFourths_short few]
  | long a b c d rest ih => rw [groupChars, dropFourths, ih]

theorem length_groupChars (chars : List Char) :
    (groupChars chars).length = chars.length + (chars.length - 1) / 3 := by
  induction chars using groups_induction with
  | short chars few =>
      rw [groupChars_short few]
      omega
  | long a b c d rest ih =>
      simp only [groupChars, List.length_cons] at ih ⊢
      rw [ih]
      omega

-- A character is moved by the blanks before it.
theorem groupChars_character (chars : List Char) (index : Nat) :
    (groupChars chars)[index + index / 3]? = chars[index]? := by
  induction chars using groups_induction generalizing index with
  | short chars few =>
      rw [groupChars_short few]
      rcases Nat.lt_or_ge index 3 with inside | outside
      · rw [Nat.div_eq_of_lt inside, Nat.add_zero]
      · rw [List.getElem?_eq_none (by omega), List.getElem?_eq_none (by omega)]
  | long a b c d rest ih =>
      match index with
      | 0 | 1 | 2 => rfl
      | index + 3 =>
          have moved : index + 3 + (index + 3) / 3 = index + index / 3 + 1 + 1 + 1 + 1 := by omega
          rw [groupChars, moved]
          simp only [List.getElem?_cons_succ]
          exact ih index

theorem groupChars_blank (chars : List Char) (block : Nat)
    (further : 3 * block + 3 < chars.length) :
    (groupChars chars)[4 * block + 3]? = some ' ' := by
  induction chars using groups_induction generalizing block with
  | short chars few => omega
  | long a b c d rest ih =>
      match block with
      | 0 => rfl
      | block + 1 =>
          have moved : 4 * (block + 1) + 3 = 4 * block + 3 + 1 + 1 + 1 + 1 := by omega
          rw [groupChars, moved]
          simp only [List.getElem?_cons_succ]
          apply ih
          simp only [List.length_cons] at further ⊢
          omega

theorem ofList_dropFourths_grouped (code : String) :
    String.ofList (dropFourths (grouped code).toList) = code := by
  rw [grouped, String.toList_ofList, dropFourths_groupChars, String.ofList_toList]

theorem grouped_injective {one other : String} (same : grouped one = grouped other) :
    one = other := by
  rw [← ofList_dropFourths_grouped one, same, ofList_dropFourths_grouped]

theorem outOfBand_injective {one other : Bytes} (same : outOfBand one = outOfBand other) :
    one = other :=
  Hex.encode_injective same

end VerificationCode

namespace Verification

/-- Both short codes, or both whole auth strings. -/
def SameKind : Verification → Verification → Prop
  | numeric _, numeric _ | outOfBand _, outOfBand _ => True
  | _, _ => False

theorem display_injective {one other : Verification} (kind : one.SameKind other)
    (same : one.display = other.display) : one = other := by
  cases one with
  | numeric code =>
      cases other with
      | numeric code' => exact congrArg numeric same
      | outOfBand _ => exact kind.elim
  | outOfBand code =>
      cases other with
      | numeric _ => exact kind.elim
      | outOfBand code' => exact congrArg outOfBand (VerificationCode.outOfBand_injective same)

end Verification

open VerificationCode

/-- The display of a code of any characters is the characters in their order, each
moved by one blank for every three before it, and a blank after every third that is
not the last; so without its fourth characters it is the code again. What is shown
of two codes of a kind is the same only if the codes are. -/
theorem display_determines_code :
    (∀ code : String,
      (grouped code).toList.length = code.toList.length + (code.toList.length - 1) / 3 ∧
      (∀ index, (grouped code).toList[index + index / 3]? = code.toList[index]?) ∧
      (∀ block, 3 * block + 3 < code.toList.length →
        (grouped code).toList[4 * block + 3]? = some ' ') ∧
      String.ofList (dropFourths (grouped code).toList) = code) ∧
    (∀ one other : String, grouped one = grouped other → one = other) ∧
    (∀ one other : Bytes, grouped (outOfBand one) = grouped (outOfBand other) → one = other) ∧
    ∀ one other : Verification, one.SameKind other →
      (one.display = other.display ∨ grouped one.display = grouped other.display) →
        one = other := by
  refine ⟨?layout, fun _ _ => grouped_injective, ?whole, ?shown⟩
  case layout =>
    intro code
    refine ⟨?_, ?_, ?_, ofList_dropFourths_grouped code⟩ <;>
      rw [grouped, String.toList_ofList]
    · exact length_groupChars code.toList
    · exact groupChars_character code.toList
    · exact groupChars_blank code.toList
  case whole =>
    intro one other same
    exact outOfBand_injective (grouped_injective same)
  case shown =>
    rintro one other kind (same | same)
    · exact Verification.display_injective kind same
    · exact Verification.display_injective kind (grouped_injective same)

-- Blanks of the code itself are no exception.
example : grouped "a  b c" = "a   b c" ∧ grouped "123" = "123" ∧
    grouped "1234567" = "123 456 7" := by
  decide

end CarPairing
