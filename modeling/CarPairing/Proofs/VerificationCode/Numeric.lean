import CarPairing.VerificationCode

/-!
The short code as a number. It is the last decimal digits of the first 32 bits of
the auth string, all of them with nine, so that a shorter code is the end of every
longer one. The number is made in words of 32 bits, and no step overflows one.
-/

namespace CarPairing.VerificationCode

section Digits

theorem isDigit_digit : ∀ value < 10, (Hex.digit value).isDigit = true := by
  decide

theorem toNat_digit : ∀ value < 10, (Hex.digit value).toNat - '0'.toNat = value := by
  decide

theorem length_decimal (width value : Nat) : (decimal width value).length = width := by
  induction width generalizing value with
  | zero => rfl
  | succ width ih => simp [decimal, ih]

theorem isDigit_decimal {width value : Nat} {character : Char}
    (member : character ∈ decimal width value) : character.isDigit = true := by
  induction width generalizing value with
  | zero => cases member
  | succ width ih =>
      rcases List.mem_append.mp member with front | last
      · exact ih front
      · rw [List.mem_singleton.mp last]
        exact isDigit_digit _ (Nat.mod_lt _ (by decide))

theorem ofDigitChars_decimal (width value : Nat) :
    Nat.ofDigitChars 10 (decimal width value) 0 = value % Nat.pow 10 width := by
  induction width generalizing value with
  | zero => exact (Nat.mod_one value).symm
  | succ width ih =>
      have last := toNat_digit (value % 10) (Nat.mod_lt _ (by decide))
      have split : value % Nat.pow 10 (width + 1) =
          value % 10 + 10 * (value / 10 % Nat.pow 10 width) := by
        rw [← Nat.mod_mul, Nat.mul_comm]
        rfl
      rw [decimal, Nat.ofDigitChars_append, ih, split, Nat.ofDigitChars_eq_foldl]
      simp only [List.foldl_cons, List.foldl_nil, last]
      omega

-- The last digits of a number do not depend on how many are written before them.
theorem drop_decimal {narrow wide : Nat} (value : Nat) (narrower : narrow ≤ wide) :
    (decimal wide value).drop (wide - narrow) = decimal narrow value := by
  induction narrow generalizing wide value with
  | zero => exact List.drop_eq_nil_of_le (Nat.le_of_eq (length_decimal wide value))
  | succ narrow ih =>
      obtain ⟨rest, rfl⟩ : ∃ rest, wide = rest + 1 := ⟨wide - 1, by omega⟩
      have room : rest - narrow ≤ (decimal rest (value / 10)).length := by
        rw [length_decimal]
        omega
      rw [Nat.add_sub_add_right, decimal, decimal, List.drop_append_of_le_length room,
        ih _ (by omega)]

theorem decimal_mod {width wider : Nat} (value : Nat) (enough : width ≤ wider) :
    decimal width (value % Nat.pow 10 wider) = decimal width value := by
  induction width generalizing value wider with
  | zero => rfl
  | succ width ih =>
      obtain ⟨rest, rfl⟩ : ∃ rest, wider = rest + 1 := ⟨wider - 1, by omega⟩
      have power : Nat.pow 10 (rest + 1) = 10 * Nat.pow 10 rest := Nat.mul_comm _ _
      have last : value % (10 * Nat.pow 10 rest) % 10 = value % 10 :=
        Nat.mod_mul_right_mod value 10 (Nat.pow 10 rest)
      rw [decimal, decimal, power, Nat.mod_mul_right_div_self, ih _ (by omega), last]

end Digits

section Words

/-- A number, if it is a word of 32 bits. -/
def word? (value : Nat) : Option Nat :=
  if value < 0x100000000 then some value else none

/-- The number of big-endian bytes, taken in byte by byte. -/
def wordOf? (bytes : Bytes) : Option Nat :=
  bytes.foldlM (fun value byte => word? (value * 256 + byte.toNat)) 0

/-- `scale * base ^ exponent` by squaring, with every product a word. -/
def wordPower? (scale base exponent : Nat) : Option Nat :=
  if exponent = 0 then some scale
  else if exponent = 1 then word? (scale * base)
  else do
    let scale ← word? (if exponent % 2 = 1 then scale * base else scale)
    let base ← word? (base * base)
    wordPower? scale base (exponent / 2)
termination_by exponent

/-- The number that a code of this many digits is made from, in words. There is
none if a step overflows, or divides by zero. -/
def wordNumber? (auth : Bytes) (width : Nat) : Option Nat := do
  let value ← wordOf? (auth.take 4)
  let modulus ← wordPower? 1 10 width
  if modulus = 0 then none else some (value % modulus)

theorem word_fits {value : Nat} (fits : value < 0x100000000) : word? value = some value :=
  if_pos fits

theorem foldlM_word_fits (bytes : Bytes) (value : Nat)
    (fits : (value + 1) * Nat.pow 256 bytes.length ≤ 0x100000000) :
    bytes.foldlM (fun value byte => word? (value * 256 + byte.toNat)) value =
      some (bytes.foldl (fun value byte => value * 256 + byte.toNat) value) := by
  induction bytes generalizing value with
  | nil => rfl
  | cons byte rest ih =>
      have small := byte.toNat_lt
      have room : (value * 256 + byte.toNat + 1) * Nat.pow 256 rest.length ≤ 0x100000000 := by
        calc (value * 256 + byte.toNat + 1) * Nat.pow 256 rest.length
            ≤ (value + 1) * 256 * Nat.pow 256 rest.length :=
              Nat.mul_le_mul_right _ (by omega)
          _ = (value + 1) * Nat.pow 256 (rest.length + 1) := by
              rw [Nat.mul_assoc, Nat.mul_comm 256]
              rfl
          _ ≤ 0x100000000 := fits
      have positive : 0 < Nat.pow 256 rest.length := Nat.pow_pos (by decide)
      have next : value * 256 + byte.toNat < 0x100000000 := by
        have grows := Nat.le_mul_of_pos_right (value * 256 + byte.toNat + 1) positive
        omega
      rw [List.foldlM_cons, word_fits next]
      exact ih _ room

theorem wordOf_fits {bytes : Bytes} (short : bytes.length ≤ 4) :
    wordOf? bytes = some (Bytes.toNatBE bytes) := by
  apply foldlM_word_fits
  rw [Nat.zero_add, Nat.one_mul]
  exact Nat.pow_le_pow_right (by decide) short

-- Half of the exponent goes into the square, and what is odd of it into the scale.
theorem power_halved (scale base exponent : Nat) :
    (if exponent % 2 = 1 then scale * base else scale) * Nat.pow (base * base) (exponent / 2) =
      scale * Nat.pow base exponent := by
  have squared : Nat.pow (base * base) (exponent / 2) = Nat.pow base (2 * (exponent / 2)) := by
    have twice : base * base = base ^ 2 := (Nat.pow_two base).symm
    rw [twice]
    exact (Nat.pow_mul base 2 (exponent / 2)).symm
  rw [squared]
  split
  next odd =>
    have parts : exponent = 2 * (exponent / 2) + 1 := by omega
    rw [Nat.mul_assoc, Nat.mul_comm base]
    exact congrArg (fun power => scale * Nat.pow base power) parts.symm
  next even =>
    have parts : exponent = 2 * (exponent / 2) := by omega
    exact congrArg (fun power => scale * Nat.pow base power) parts.symm

-- A square is taken only while the exponent is at least two, so that it is part of the
-- result: nothing on the way is larger.
theorem wordPower_fits (scale base exponent : Nat) (scaled : 0 < scale) (based : 0 < base)
    (fits : scale * Nat.pow base exponent < 0x100000000) :
    wordPower? scale base exponent = some (scale * Nat.pow base exponent) := by
  induction exponent using Nat.strongRecOn generalizing scale base with
  | _ exponent ih =>
      rw [wordPower?]
      by_cases none : exponent = 0
      · subst none
        exact congrArg some (Nat.mul_one scale).symm
      by_cases single : exponent = 1
      · subst single
        have power : Nat.pow base 1 = base := Nat.pow_one base
        rw [power] at fits ⊢
        exact word_fits fits
      have halved := power_halved scale base exponent
      generalize carries : (if exponent % 2 = 1 then scale * base else scale) = carried at halved ⊢
      have positive : 0 < carried := by
        rw [← carries]
        split
        · exact Nat.mul_pos scaled based
        · exact scaled
      have squared : 0 < base * base := Nat.mul_pos based based
      have square : base * base ≤ Nat.pow (base * base) (exponent / 2) :=
        Nat.le_pow (by omega)
      rw [← halved] at fits ⊢
      have small : carried < 0x100000000 :=
        Nat.lt_of_le_of_lt (Nat.le_mul_of_pos_right carried (Nat.pow_pos squared)) fits
      have inside : base * base < 0x100000000 :=
        Nat.lt_of_le_of_lt (Nat.le_trans square (Nat.le_mul_of_pos_left _ positive)) fits
      simp only [if_neg none, if_neg single, word_fits small, word_fits inside,
        Option.bind_eq_bind, Option.bind_some]
      exact ih _ (by omega) carried (base * base) positive squared fits

theorem wordNumber_fits (auth : Bytes) {width : Nat} (short : width ≤ 9) :
    wordNumber? auth width = some (Bytes.toNatBE (auth.take 4) % Nat.pow 10 width) := by
  have bytes : wordOf? (auth.take 4) = some (Bytes.toNatBE (auth.take 4)) :=
    wordOf_fits (List.length_take_le 4 auth)
  have bound : Nat.pow 10 width ≤ Nat.pow 10 9 := Nat.pow_le_pow_right (by decide) short
  have power : wordPower? 1 10 width = some (Nat.pow 10 width) := by
    rw [wordPower_fits 1 10 width (by decide) (by decide), Nat.one_mul]
    rw [Nat.one_mul]
    exact Nat.lt_of_le_of_lt bound (by decide)
  have positive : Nat.pow 10 width ≠ 0 := Nat.ne_of_gt (Nat.pow_pos (by decide))
  simp only [wordNumber?, bytes, power, Option.bind_eq_bind, Option.bind_some, if_neg positive]

end Words

/-- The number of decimal digits that a setting stands for. -/
def width (digits : Nat) : Nat :=
  min (max digits 1) 9

theorem width_le (digits : Nat) : width digits ≤ 9 :=
  Nat.min_le_right _ _

theorem width_mono {fewer digits : Nat} (narrower : fewer ≤ digits) :
    width fewer ≤ width digits := by
  simp only [width]
  omega

theorem numeric_short {auth : Bytes} (short : auth.length < 4) (digits : Nat) :
    numeric? auth digits = none :=
  if_pos short

theorem numeric_long {auth : Bytes} (long : 4 ≤ auth.length) (digits : Nat) :
    numeric? auth digits =
      some (String.ofList (decimal (width digits) (Bytes.toNatBE (auth.take 4)))) := by
  rw [numeric?, if_neg (Nat.not_lt.mpr long)]
  change some (String.ofList (decimal (width digits)
    (Bytes.toNatBE (auth.take 4) % Nat.pow 10 (width digits)))) = _
  rw [decimal_mod _ (Nat.le_refl _)]

theorem numeric_eq_none_iff (auth : Bytes) (digits : Nat) :
    numeric? auth digits = none ↔ auth.length < 4 := by
  constructor
  · intro absent
    apply Nat.lt_of_not_le
    intro long
    rw [numeric_long long] at absent
    cases absent
  · intro short
    exact numeric_short short digits

-- A code is the end of the code for any setting that is not smaller.
theorem numeric_narrower {auth other : Bytes} {digits fewer : Nat} (narrower : fewer ≤ digits)
    (same : numeric? auth digits = numeric? other digits) :
    numeric? auth fewer = numeric? other fewer := by
  rcases Nat.lt_or_ge auth.length 4 with short | long
  · rw [numeric_short short] at same ⊢
    exact (numeric_short ((numeric_eq_none_iff other digits).mp same.symm) fewer).symm
  · have long' : 4 ≤ other.length := by
      apply Nat.le_of_not_lt
      intro short
      rw [numeric_short short] at same
      exact Nat.not_lt.mpr long ((numeric_eq_none_iff auth digits).mp same)
    rw [numeric_long long, numeric_long long'] at same ⊢
    have codes := congrArg String.toList (Option.some.inj same)
    rw [String.toList_ofList, String.toList_ofList] at codes
    have ends := congrArg (List.drop (width digits - width fewer)) codes
    rw [drop_decimal _ (width_mono narrower), drop_decimal _ (width_mono narrower)] at ends
    rw [ends]

/-- A code is missing exactly for less than four bytes. Else it is the number of the
first four, the highest first, modulo a power of ten, in as many decimal digits as
the setting says, one at least and nine at most; the number is made in words without
an overflow, and the code is the end of the code of nine digits. So where the codes
of two auth strings are the same, their shorter codes are. -/
theorem numeric_renders_number (auth : Bytes) (digits : Nat) :
    (numeric? auth digits = none ↔ auth.length < 4) ∧
    (∀ (a b c d : UInt8) (rest : Bytes), auth = a :: b :: c :: d :: rest →
      let width := min (max digits 1) 9
      let number := (a.toNat * 0x1000000 + b.toNat * 0x10000 + c.toNat * 0x100 + d.toNat) %
        Nat.pow 10 width
      wordNumber? auth width = some number ∧
      ∃ code longest, numeric? auth digits = some code ∧ numeric? auth 9 = some longest ∧
        code.toList.length = width ∧ (∀ digit ∈ code.toList, digit.isDigit = true) ∧
        Nat.ofDigitChars 10 code.toList 0 = number ∧
        code.toList = longest.toList.drop (9 - width)) ∧
    ∀ other fewer, fewer ≤ digits → numeric? auth digits = numeric? other digits →
      numeric? auth fewer = numeric? other fewer := by
  refine ⟨numeric_eq_none_iff auth digits, ?code, fun _ _ => numeric_narrower⟩
  case code =>
    rintro a b c d rest rfl
    have long : 4 ≤ (a :: b :: c :: d :: rest).length := by
      simp only [List.length_cons]
      omega
    have number : Bytes.toNatBE ((a :: b :: c :: d :: rest).take 4) =
        a.toNat * 0x1000000 + b.toNat * 0x10000 + c.toNat * 0x100 + d.toNat := by
      simp only [Bytes.toNatBE, List.take_succ_cons, List.take_zero, List.foldl_cons,
        List.foldl_nil]
      omega
    refine ⟨?_, _, _, numeric_long long digits, numeric_long long 9, ?_⟩
    · rw [← number]
      exact wordNumber_fits _ (width_le digits)
    · rw [number, String.toList_ofList, String.toList_ofList]
      refine ⟨length_decimal _ _, fun _ => isDigit_decimal, ofDigitChars_decimal _ _, ?_⟩
      exact (drop_decimal _ (width_le digits)).symm

example : numeric? [0xff, 0xff, 0xff, 0xff, 1] 6 = some "967295" ∧
    numeric? [0, 0, 0, 17] 0 = some "7" ∧ numeric? [0, 0, 0, 17] 20 = some "000000017" := by
  decide

end CarPairing.VerificationCode
