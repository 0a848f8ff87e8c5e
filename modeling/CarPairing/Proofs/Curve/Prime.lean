import CarPairing.Cipher.X25519
import Mathlib.NumberTheory.LucasPrimality
import Mathlib.Tactic.NormNum.Prime
import Mathlib.Tactic.ReduceModChar

/-!
The modulus of curve25519 is prime. A number is certified by a base whose order
modulo it is one less than the number; for that the prime factors of the order
have to be known, the large ones by certificates of their own.
-/

namespace CarPairing.X25519

theorem prime_of_factors {number : Nat} (base : ZMod number) (factors : List Nat)
    (product : factors.prod = number - 1) (order : base ^ (number - 1) = 1)
    (certified : ∀ factor ∈ factors, factor.Prime ∧ base ^ ((number - 1) / factor) ≠ 1) :
    number.Prime := by
  apply lucas_primality number base order
  intro factor prime divides
  rw [← product, prime.prime.dvd_prod_iff] at divides
  obtain ⟨other, member, divides⟩ := divides
  obtain ⟨otherPrime, proper⟩ := certified other member
  have same := (Nat.prime_dvd_prime_iff_eq prime otherPrime).mp divides
  exact same ▸ proper

theorem numeral_ne_one {number value : Nat} [value.AtLeastTwo] (small : value < number) :
    (OfNat.ofNat value : ZMod number) ≠ 1 := by
  have large : 2 ≤ value := Nat.AtLeastTwo.prop
  have cast : ((value : Nat) : ZMod number) ≠ ((1 : Nat) : ZMod number) := by
    rw [Ne, ZMod.natCast_eq_natCast_iff', Nat.mod_eq_of_lt small, Nat.mod_eq_of_lt (by omega)]
    omega
  rwa [Nat.cast_one] at cast

theorem prime_2773320623 : Nat.Prime 2773320623 := by
  apply prime_of_factors 5 [2, 2437, 569003]
  · norm_num
  · norm_num
    reduce_mod_char
  · simp only [List.forall_mem_cons]
    refine ⟨⟨?_, ?_⟩, ⟨?_, ?_⟩, ⟨?_, ?_⟩, nofun⟩ <;> norm_num <;> reduce_mod_char <;>
      exact numeral_ne_one (by norm_num)

theorem prime_72106336199 : Nat.Prime 72106336199 := by
  apply prime_of_factors 7 [2, 13, 2773320623]
  · norm_num
  · norm_num
    reduce_mod_char
  · simp only [List.forall_mem_cons]
    refine ⟨⟨?_, ?_⟩, ⟨?_, ?_⟩, ⟨prime_2773320623, ?_⟩, nofun⟩ <;> norm_num <;>
      reduce_mod_char <;> exact numeral_ne_one (by norm_num)

theorem prime_1919519569386763 : Nat.Prime 1919519569386763 := by
  apply prime_of_factors 2 [2, 3, 7, 19, 47, 47, 127, 8574133]
  · norm_num
  · norm_num
    reduce_mod_char
  · simp only [List.forall_mem_cons]
    refine ⟨⟨?_, ?_⟩, ⟨?_, ?_⟩, ⟨?_, ?_⟩, ⟨?_, ?_⟩, ⟨?_, ?_⟩, ⟨?_, ?_⟩, ⟨?_, ?_⟩, ⟨?_, ?_⟩,
      nofun⟩ <;> norm_num <;> reduce_mod_char <;> exact numeral_ne_one (by norm_num)

theorem prime_31757755568855353 : Nat.Prime 31757755568855353 := by
  apply prime_of_factors 10 [2, 2, 2, 3, 31, 107, 223, 4153, 430751]
  · norm_num
  · norm_num
    reduce_mod_char
  · simp only [List.forall_mem_cons]
    refine ⟨⟨?_, ?_⟩, ⟨?_, ?_⟩, ⟨?_, ?_⟩, ⟨?_, ?_⟩, ⟨?_, ?_⟩, ⟨?_, ?_⟩, ⟨?_, ?_⟩, ⟨?_, ?_⟩,
      ⟨?_, ?_⟩, nofun⟩ <;> norm_num <;> reduce_mod_char <;> exact numeral_ne_one (by norm_num)

theorem prime_75445702479781427272750846543864801 :
    Nat.Prime 75445702479781427272750846543864801 := by
  apply prime_of_factors 7 [2, 2, 2, 2, 2, 3, 3, 5, 5, 75707, 72106336199, 1919519569386763]
  · norm_num
  · norm_num
    reduce_mod_char
  · simp only [List.forall_mem_cons]
    refine ⟨⟨?_, ?_⟩, ⟨?_, ?_⟩, ⟨?_, ?_⟩, ⟨?_, ?_⟩, ⟨?_, ?_⟩, ⟨?_, ?_⟩, ⟨?_, ?_⟩, ⟨?_, ?_⟩,
      ⟨?_, ?_⟩, ⟨?_, ?_⟩, ⟨prime_72106336199, ?_⟩, ⟨prime_1919519569386763, ?_⟩, nofun⟩ <;>
      norm_num <;> reduce_mod_char <;> exact numeral_ne_one (by norm_num)

theorem prime_cofactor : Nat.Prime
    74058212732561358302231226437062788676166966415465897661863160754340907 := by
  apply prime_of_factors 2 [2, 3, 353, 57467, 132049, 1923133, 31757755568855353,
    75445702479781427272750846543864801]
  · norm_num
  · norm_num
    reduce_mod_char
  · simp only [List.forall_mem_cons]
    refine ⟨⟨?_, ?_⟩, ⟨?_, ?_⟩, ⟨?_, ?_⟩, ⟨?_, ?_⟩, ⟨?_, ?_⟩, ⟨?_, ?_⟩,
      ⟨prime_31757755568855353, ?_⟩, ⟨prime_75445702479781427272750846543864801, ?_⟩, nofun⟩ <;>
      norm_num <;> reduce_mod_char <;> exact numeral_ne_one (by norm_num)

theorem prime_value : prime =
    57896044618658097711785492504343953926634992332820282019728792003956564819949 := by
  norm_num [prime]

theorem prime_prime : prime.Prime := by
  rw [prime_value]
  apply prime_of_factors 2 [2, 2, 3, 65147,
    74058212732561358302231226437062788676166966415465897661863160754340907]
  · norm_num
  · norm_num
    reduce_mod_char
  · simp only [List.forall_mem_cons]
    refine ⟨⟨?_, ?_⟩, ⟨?_, ?_⟩, ⟨?_, ?_⟩, ⟨?_, ?_⟩, ⟨prime_cofactor, ?_⟩, nofun⟩ <;>
      norm_num <;> reduce_mod_char <;> exact numeral_ne_one (by norm_num)

instance : Fact prime.Prime :=
  ⟨prime_prime⟩

end CarPairing.X25519
