import CarPairing.Json.Printer

/-!
Integers in decimal: what is printed for an integer of 64 bits is a numeral
without point and exponent, and has the value it was printed for.
-/

namespace CarPairing.Json.Numeral

theorem isDigit_toDigits {character : Char} {value : Nat}
    (member : character ∈ Nat.toDigits 10 value) : isDigit character = true := by
  have digit := Nat.isDigit_of_mem_toDigits (by decide) (by decide) member
  simp only [Char.isDigit, Bool.and_eq_true, decide_eq_true_eq] at digit
  simp only [isDigit, Bool.and_eq_true, decide_eq_true_eq]
  exact digit

theorem isPart_of_isDigit {character : Char} (digit : isDigit character = true) :
    isPart character = true := by
  simp [isPart, digit]

theorem toDigits_cons (value : Nat) :
    ∃ first rest, Nat.toDigits 10 value = first :: rest :=
  List.exists_cons_of_ne_nil Nat.toDigits_ne_nil

-- No numeral but zero starts with a zero.
theorem toDigits_head (value : Nat) (positive : 0 < value) :
    (Nat.toDigits 10 value).head? ≠ some '0' := by
  induction value using Nat.strongRecOn with
  | _ value ih =>
      by_cases small : value < 10
      · rw [Nat.toDigits_of_lt_base small]
        simp
        omega
      · have tens := ih (value / 10) (by omega) (by omega)
        obtain ⟨first, rest, digits⟩ := toDigits_cons (value / 10)
        rw [Nat.toDigits_of_base_le (by decide) (by omega), digits]
        rw [digits] at tens
        simpa using tens

theorem natOf_toDigits (value : Nat) : natOf (Nat.toDigits 10 value) = value := by
  have read := Nat.ofDigitChars_ten_toDigits (n := value)
  rw [Nat.ofDigitChars_eq_foldl] at read
  simpa only [natOf, Nat.mul_comm] using read

/-- The numeral that an integer is printed as. -/
def ofInt (value : Int) : Numeral :=
  { negative := decide (value < 0), whole := Nat.toDigits 10 value.natAbs, fraction := none
    exponent := none }

theorem toChars_ofInt (value : Int) : (toString value).toList = (ofInt value).toChars := by
  rw [Int.toString_eq_repr, Int.repr_eq_if]
  by_cases negative : value < 0
  · have size : (-value).toNat = value.natAbs := by omega
    rw [if_neg (by omega), size]
    simp [toChars, ofInt, negative, String.toList_append]
  · have size : value.toNat = value.natAbs := by omega
    rw [if_pos (by omega), size]
    simp [toChars, ofInt, negative]

theorem span_toDigits (value : Nat) :
    (Nat.toDigits 10 value).takeWhile isDigit = Nat.toDigits 10 value ∧
      (Nat.toDigits 10 value).dropWhile isDigit = [] := by
  have digits : ∀ character ∈ Nat.toDigits 10 value, isDigit character = true :=
    fun _ member => isDigit_toDigits member
  have taken : (Nat.toDigits 10 value ++ []).takeWhile isDigit = Nat.toDigits 10 value ++ [] :=
    List.takeWhile_append_of_pos digits
  have dropped : (Nat.toDigits 10 value ++ []).dropWhile isDigit = [] :=
    List.dropWhile_append_of_pos digits
  rw [List.append_nil] at taken dropped
  exact ⟨taken, dropped⟩

theorem ofChars_ofInt (value : Int) : ofChars? (ofInt value).toChars = some (ofInt value) := by
  obtain ⟨taken, dropped⟩ := span_toDigits value.natAbs
  -- Which way the sign is read is settled by this fact in the context.
  have unsigned : ∀ rest, Nat.toDigits 10 value.natAbs ≠ '-' :: rest := by
    intro rest digits
    have digit : isDigit '-' = true := isDigit_toDigits (by rw [digits]; exact List.mem_cons_self)
    cases digit
  have leading : ¬((Nat.toDigits 10 value.natAbs).head? = some '0' ∧
      Nat.toDigits 10 value.natAbs ≠ ['0']) := by
    rintro ⟨zero, other⟩
    by_cases positive : 0 < value.natAbs
    · exact toDigits_head _ positive zero
    · have none : value.natAbs = 0 := by omega
      rw [none] at other
      exact other rfl
  by_cases negative : value < 0
  · simp [ofChars?, toChars, ofInt, negative, taken, dropped, leading, fractionOf?, exponentOf?]
  · simp [ofChars?, toChars, ofInt, negative, taken, dropped, leading, fractionOf?, exponentOf?]

/-- Whether a numeral of this integer is read as a signed integer of 64 bits. -/
def Fits (value : Int) : Prop :=
  -0x8000000000000000 ≤ value ∧ value < 0x8000000000000000

theorem integer_ofInt {value : Int} (fits : Fits value) :
    (ofInt value).integer? = some value := by
  obtain ⟨low, high⟩ := fits
  have short : (Nat.toDigits 10 value.natAbs).length ≤ 21 :=
    (Nat.length_toDigits_le_iff (by decide) (by decide)).mpr (by omega)
  have whole : natOf ((ofInt value).whole.take 21) = value.natAbs := by
    rw [ofInt, List.take_of_length_le short, natOf_toDigits]
  have plain : ¬((ofInt value).fraction.isSome ∨ (ofInt value).exponent.isSome) := by
    simp [ofInt]
  rw [integer?, if_neg plain, whole]
  by_cases negative : value < 0
  · have minus : (ofInt value).negative = true := by simp [ofInt, negative]
    rw [minus, if_pos rfl, if_pos (by omega)]
    simp only [Option.some.injEq]
    omega
  · have plus : (ofInt value).negative = false := by simp [ofInt, negative]
    rw [plus, if_neg (by decide), if_pos (by omega)]
    simp only [Option.some.injEq]
    omega

end CarPairing.Json.Numeral
