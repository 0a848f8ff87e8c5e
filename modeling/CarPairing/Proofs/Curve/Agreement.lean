import CarPairing.Proofs.Curve.Montgomery
import CarPairing.Proofs.Curve.Prime
import Mathlib.FieldTheory.Finite.Basic

/-!
What a private key and a peer's public key agree on is the x-coordinate of a
multiple of the peer's point, so two ends that exchange public keys agree on
the same bytes, whatever their private keys are.
-/

namespace CarPairing.X25519

open Montgomery WeierstrassCurve.Affine

abbrev Residue := ZMod prime

abbrev CurvePoint := (curve (486662 : Residue)).Point

theorem prime_bound : prime < 2 ^ 255 := by
  rw [prime_value]
  norm_num

theorem cast_ne_zero {value : Nat} (positive : 0 < value) (small : value < prime) :
    (value : Residue) ≠ 0 := by
  intro zero
  have divides := (ZMod.natCast_eq_zero_iff value prime).mp zero
  exact absurd (Nat.le_of_dvd positive divides) (not_le.mpr small)

theorem small_residue {value : Nat} (small : value < 2 ^ 64) : value < prime := by
  apply small.trans
  rw [prime_value]
  norm_num

theorem two_ne_zero_residue : (2 : Residue) ≠ 0 := by
  have nonzero := cast_ne_zero (show 0 < 2 by norm_num) (small_residue (by norm_num))
  exact_mod_cast nonzero

section Casts

theorem cast_square (value : Nat) : (square value : Residue) = value ^ 2 := by
  simp [square, sq]

theorem cast_minus {left right : Nat} (reduced : right ≤ prime) :
    (minus left right : Residue) = left - right := by
  rw [minus, ZMod.natCast_mod, Nat.cast_sub (by omega), Nat.cast_add, ZMod.natCast_self, add_zero]

theorem mod_le_prime (value : Nat) : value % prime ≤ prime :=
  (Nat.mod_lt _ prime_prime.pos).le

theorem cast_double (p : Point) (reduced : p.z ≤ prime) :
    ((double p).x : Residue) = (p.x + p.z) ^ 2 * (p.x - p.z) ^ 2 ∧
      ((double p).z : Residue) = ((p.x + p.z) ^ 2 - (p.x - p.z) ^ 2) *
        ((p.x + p.z) ^ 2 + 121665 * ((p.x + p.z) ^ 2 - (p.x - p.z) ^ 2)) := by
  have small : square (minus p.x p.z) ≤ prime := mod_le_prime _
  constructor <;>
    simp only [double, ZMod.natCast_mod, Nat.cast_mul, Nat.cast_add, cast_square,
      cast_minus reduced, cast_minus small, Nat.cast_ofNat]

theorem cast_add (base : Nat) (p q : Point) (reduced : p.z ≤ prime) (reduced' : q.z ≤ prime) :
    ((add base p q).x : Residue) =
        ((q.x - q.z) * (p.x + p.z) + (q.x + q.z) * (p.x - p.z)) ^ 2 ∧
      ((add base p q).z : Residue) =
        base * ((q.x - q.z) * (p.x + p.z) - (q.x + q.z) * (p.x - p.z)) ^ 2 := by
  have small : (q.x + q.z) * minus p.x p.z % prime ≤ prime := mod_le_prime _
  constructor <;>
    simp only [add, ZMod.natCast_mod, Nat.cast_mul, Nat.cast_add, cast_square,
      cast_minus reduced, cast_minus reduced', cast_minus small]

end Casts

section Ladder

/-- The pair of numbers stands for the x-coordinate of the point. -/
def Stands (p : Point) (P : CurvePoint) : Prop :=
  p.z ≤ prime ∧ Represents (p.x : Residue) (p.z : Residue) P

theorem stands_double {p : Point} {P : CurvePoint} (h : Stands p P) :
    Stands (double p) (P + P) := by
  obtain ⟨reduced, represents⟩ := h
  obtain ⟨above, below⟩ := cast_double p reduced
  refine ⟨mod_le_prime _, ?_⟩
  rw [above, below]
  exact represents_double two_ne_zero_residue (by norm_num) represents

theorem stands_add {base : Nat} {p q : Point} {u v : Residue} {P Q : CurvePoint}
    (on : (curve 486662).Nonsingular u v) (based : (base : Residue) = u) (nonzero : u ≠ 0)
    (step : Q = P + .some u v on) (h : Stands p P) (h' : Stands q Q) :
    Stands (add base p q) (P + Q) := by
  obtain ⟨reduced, represents⟩ := h
  obtain ⟨reduced', represents'⟩ := h'
  obtain ⟨above, below⟩ := cast_add base p q reduced reduced'
  refine ⟨mod_le_prime _, ?_⟩
  rw [above, below, based]
  exact represents_add two_ne_zero_residue on nonzero step represents represents'

theorem mod_two_pow_succ (value count : Nat) :
    value % 2 ^ (count + 1) = value % 2 ^ count + 2 ^ count * (value.testBit count).toNat := by
  rw [Nat.mod_pow_succ, Nat.toNat_testBit]

-- The second point stays one base point ahead of the first. With `bit` the next
-- bit of the scalar, `m` and `m + 1` become `2 m + bit` and `2 m + bit + 1`.
theorem stands_ladder {base : Nat} {u v : Residue} (on : (curve 486662).Nonsingular u v)
    (based : (base : Residue) = u) (nonzero : u ≠ 0) (scalar count m : Nat) (p q : Point)
    (h : Stands p (m • (.some u v on : CurvePoint)))
    (h' : Stands q ((m + 1) • (.some u v on : CurvePoint))) :
    Stands (ladder base scalar count (p, q)).1
      ((m * 2 ^ count + scalar % 2 ^ count) • (.some u v on : CurvePoint)) := by
  induction count generalizing m p q with
  | zero => simpa [ladder, Nat.mod_one] using h
  | succ count ih =>
      have step : (m + 1) • (.some u v on : CurvePoint) =
          m • (.some u v on : CurvePoint) + .some u v on := succ_nsmul _ _
      have sum : Stands (add base p q) ((2 * m + 1) • (.some u v on : CurvePoint)) := by
        have added := stands_add on based nonzero step h h'
        rwa [← add_nsmul, show m + (m + 1) = 2 * m + 1 by ring] at added
      simp only [ladder]
      by_cases bit : scalar.testBit count
      · have twice := stands_double h'
        rw [← add_nsmul, show m + 1 + (m + 1) = 2 * m + 1 + 1 by ring] at twice
        have next := ih (2 * m + 1) (add base p q) (double q) sum twice
        have split : m * 2 ^ (count + 1) + scalar % 2 ^ (count + 1) =
            (2 * m + 1) * 2 ^ count + scalar % 2 ^ count := by
          rw [mod_two_pow_succ, bit, pow_succ]
          simp only [Bool.toNat_true]
          ring
        rw [if_pos bit, split]
        exact next
      · have twice := stands_double h
        rw [← add_nsmul, ← two_mul] at twice
        have next := ih (2 * m) (double p) (add base p q) twice sum
        have split : m * 2 ^ (count + 1) + scalar % 2 ^ (count + 1) =
            2 * m * 2 ^ count + scalar % 2 ^ count := by
          rw [mod_two_pow_succ, Bool.eq_false_of_not_eq_true bit, pow_succ]
          simp only [Bool.toNat_false]
          ring
        rw [if_neg bit, split]
        exact next

-- With base zero the first denominator stays zero.
theorem ladder_zero (scalar count : Nat) (p q : Point) (neutral : p.z = 0) :
    (ladder 0 scalar count (p, q)).1.z = 0 := by
  induction count generalizing p q with
  | zero => exact neutral
  | succ count ih =>
      have doubled : (double p).z = 0 := by
        have same : square (p.x + p.z) = square (minus p.x p.z) := by
          simp [neutral, square, minus]
        simp [double, same, minus]
      have added : (add 0 p q).z = 0 := by simp [add]
      simp only [ladder]
      split
      · exact ih _ _ added
      · exact ih _ _ doubled

end Ladder

section Inverse

theorem cast_power (value exponent count result : Nat) :
    (power value exponent count result : Residue) =
      (result : Residue) ^ 2 ^ count * (value : Residue) ^ (exponent % 2 ^ count) := by
  induction count generalizing result with
  | zero => simp [power, Nat.mod_one]
  | succ count ih =>
      simp only [power]
      rw [ih, mod_two_pow_succ]
      by_cases bit : exponent.testBit count
      · rw [if_pos bit, bit]
        simp only [ZMod.natCast_mod, Nat.cast_mul, cast_square, Bool.toNat_true]
        ring
      · rw [if_neg bit, Bool.eq_false_of_not_eq_true bit]
        simp only [cast_square, Bool.toNat_false]
        ring

theorem cast_inverse (value : Nat) : (inverse value : Residue) = (value : Residue)⁻¹ := by
  have short : (prime - 2) % 2 ^ 255 = prime - 2 :=
    Nat.mod_eq_of_lt (by have := prime_bound; omega)
  rw [inverse, cast_power, short, Nat.cast_one, one_pow, one_mul]
  by_cases zero : (value : Residue) = 0
  · have positive : prime - 2 ≠ 0 := by
      rw [prime_value]
      norm_num
    rw [zero, zero_pow positive, inv_zero]
  · apply eq_inv_of_mul_eq_one_left
    have exponent : prime - 2 + 1 = prime - 1 := by
      rw [prime_value]
    rw [← pow_succ, exponent]
    exact ZMod.pow_card_sub_one_eq_one zero

theorem quotient_val {p : Point} {x : Residue}
    (h : (p.x : Residue) * (p.z : Residue)⁻¹ = x) : p.x * inverse p.z % prime = x.val := by
  rw [← h, ← cast_inverse, ← Nat.cast_mul, ZMod.val_natCast]

end Inverse

theorem scalar_even (secret : Bytes) : ∃ half, scalarOf secret = half * 2 := by
  refine ⟨Nat.pow 2 253 + secret.toNatLE % Nat.pow 2 254 / 8 * 4, ?_⟩
  have power : Nat.pow 2 254 = Nat.pow 2 253 * 2 := by norm_num
  rw [scalarOf]
  omega

theorem scalar_bound (secret : Bytes) : scalarOf secret < 2 ^ 255 := by
  have power : Nat.pow 2 254 = 2 ^ 254 := rfl
  have low : secret.toNatLE % 2 ^ 254 < 2 ^ 254 := Nat.mod_lt _ (by norm_num)
  rw [scalarOf, power]
  omega

-- The agreed bytes spell the x-coordinate of a multiple of the peer's point.
theorem agree_exact (secret peer : Bytes) (P : CurvePoint)
    (peers : (coordinateOf peer : Residue) = coordinate P) :
    agree secret peer = Bytes.ofNatLE 32 (coordinate (scalarOf secret • P)).val := by
  have quotient : ((ladder (coordinateOf peer) (scalarOf secret) 255
      (⟨1, 0⟩, ⟨coordinateOf peer, 1⟩)).1.x : Residue) *
      ((ladder (coordinateOf peer) (scalarOf secret) 255
        (⟨1, 0⟩, ⟨coordinateOf peer, 1⟩)).1.z : Residue)⁻¹ =
      coordinate (scalarOf secret • P) := by
    by_cases origin : coordinate P = 0
    · obtain ⟨half, even⟩ := scalar_even secret
      have neutral : scalarOf secret • P = 0 := by
        rw [even, mul_nsmul', two_nsmul, double_origin origin, nsmul_zero]
      have base : coordinateOf peer = 0 := by
        rw [origin, ZMod.natCast_eq_zero_iff] at peers
        exact Nat.eq_zero_of_dvd_of_lt peers (Nat.mod_lt _ prime_prime.pos)
      rw [neutral, base, ladder_zero _ _ _ _ rfl, Nat.cast_zero, inv_zero, mul_zero]
      rfl
    · cases P with
      | zero => exact absurd rfl origin
      | some u v on =>
          have neutral : Stands ⟨1, 0⟩ (0 • (.some u v on : CurvePoint)) := by
            rw [zero_nsmul]
            refine ⟨Nat.zero_le _, ?_⟩
            show _ ∧ _
            simp
          have start : Stands ⟨coordinateOf peer, 1⟩ ((0 + 1) • (.some u v on : CurvePoint)) := by
            rw [zero_add, one_nsmul]
            refine ⟨prime_prime.pos, ?_⟩
            rw [represents_of_ne _ _ _ (Point.some_ne_zero on), peers]
            simp
          have climbed := stands_ladder on peers origin (scalarOf secret) 255 0 _ _ neutral start
          rw [zero_mul, zero_add, Nat.mod_eq_of_lt (scalar_bound secret)] at climbed
          exact represents_quotient climbed.2
  rw [agree, ← quotient_val quotient]

theorem toNatLE_ofNatLE (width value : Nat) :
    (Bytes.ofNatLE width value).toNatLE = value % 256 ^ width := by
  induction width generalizing value with
  | zero => simp [Bytes.ofNatLE, Bytes.toNatLE, Nat.mod_one]
  | succ width ih =>
      have byte : (UInt8.ofNat value).toNat = value % 256 := by simp
      rw [Bytes.ofNatLE, Bytes.toNatLE, ih, byte, pow_succ', Nat.mod_mul]

theorem coordinate_of_bytes (x : Residue) :
    (coordinateOf (Bytes.ofNatLE 32 x.val) : Residue) = x := by
  have small : x.val < prime := ZMod.val_lt x
  have fits : x.val < 2 ^ 255 := small.trans prime_bound
  have power : Nat.pow 2 255 = 2 ^ 255 := rfl
  rw [coordinateOf, toNatLE_ofNatLE, power, Nat.mod_eq_of_lt (fits.trans (by norm_num)),
    Nat.mod_eq_of_lt fits, Nat.mod_eq_of_lt small, ZMod.natCast_zmod_val]

def baseOrdinate : Nat :=
  14781619447589544791020593568409986887264606134616475288964881837755586237401

theorem base_equation : (baseOrdinate : Residue) ^ 2 = 9 ^ 3 + 486662 * 9 ^ 2 + 9 := by
  have square : baseOrdinate ^ 2 % prime = 39420360 % prime := by
    rw [prime_value]
    norm_num [baseOrdinate]
  have cast := (ZMod.natCast_eq_natCast_iff' _ _ prime).mpr square
  rw [← Nat.cast_pow, cast]
  norm_num

theorem base_nonsingular : (curve (486662 : Residue)).Nonsingular 9 baseOrdinate := by
  have slope := cast_ne_zero (show 0 < 8760160 by norm_num) (small_residue (by norm_num))
  refine (nonsingular_iff _ _).mpr ⟨(equation_curve _ _).mpr base_equation, Or.inl ?_⟩
  intro level
  apply slope
  simp only [curve] at level
  push_cast
  linear_combination -level

def basePoint : CurvePoint :=
  .some 9 baseOrdinate base_nonsingular

theorem publicKey_exact (secret : Bytes) :
    publicKey secret = Bytes.ofNatLE 32 (coordinate (scalarOf secret • basePoint)).val := by
  have nine : (9 : Residue).val = 9 := ZMod.val_natCast_of_lt (small_residue (by norm_num))
  have base := coordinate_of_bytes 9
  rw [nine] at base
  exact agree_exact secret _ basePoint base

theorem agree_publicKey_comm (secret secret' : Bytes) :
    agree secret (publicKey secret') = agree secret' (publicKey secret) := by
  rw [publicKey_exact secret, publicKey_exact secret',
    agree_exact secret _ _ (coordinate_of_bytes _), agree_exact secret' _ _ (coordinate_of_bytes _),
    smul_comm]

end CarPairing.X25519
