import Mathlib.AlgebraicGeometry.EllipticCurve.Affine.Point
import Mathlib.Tactic.FieldSimp
import Mathlib.Tactic.LinearCombination

/-!
Montgomery curves `y² = x³ + A x² + x` and arithmetic on their x-coordinates.
An x-coordinate is kept as a fraction; doubling a point and adding two points
of known difference need nothing else. Both formulas hold without exceptions,
up to one: the difference may not have the x-coordinate zero.
-/

namespace CarPairing.Montgomery

open WeierstrassCurve.Affine

variable {K : Type*} [Field K] {A : K}

def curve (A : K) : WeierstrassCurve.Affine K :=
  { a₁ := 0, a₂ := A, a₃ := 0, a₄ := 1, a₆ := 0 }

theorem equation_curve (x y : K) :
    (curve A).Equation x y ↔ y ^ 2 = x ^ 3 + A * x ^ 2 + x := by
  simp [equation_iff, curve]

theorem negY_curve (x y : K) : (curve A).negY x y = -y := by
  simp [negY, curve]

theorem addX_curve (x x' slope : K) : (curve A).addX x x' slope = slope ^ 2 - A - x - x' := by
  simp [addX, curve]

/-- The x-coordinate, zero for the neutral element. -/
def coordinate : (curve A).Point → K
  | .zero => 0
  | .some x _ _ => x

theorem coordinate_neg (P : (curve A).Point) : coordinate (-P) = coordinate P := by
  cases P with
  | zero => rfl
  | some => rfl

/-- A fraction stands for the x-coordinate of a point, with denominator zero
for the neutral element alone. -/
def Represents (x z : K) : (curve A).Point → Prop
  | .zero => z = 0 ∧ x ≠ 0
  | .some u _ _ => z ≠ 0 ∧ x = u * z

theorem represents_of_ne (x z : K) (P : (curve A).Point) (affine : P ≠ 0) :
    Represents x z P ↔ z ≠ 0 ∧ x = coordinate P * z := by
  cases P with
  | zero => exact absurd rfl affine
  | some => rfl

theorem represents_quotient {x z : K} {P : (curve A).Point} (h : Represents x z P) :
    x * z⁻¹ = coordinate P := by
  cases P with
  | zero =>
      obtain ⟨rfl, -⟩ := h
      simp [coordinate]
  | some u v on =>
      obtain ⟨nonzero, rfl⟩ := h
      exact mul_inv_cancel_right₀ nonzero u

-- A point of order two is not singular, so its x-coordinate is neither one nor minus one.
theorem square_ne_one {x y : K} (h : (curve A).Nonsingular x y) (flat : y = 0) : x ^ 2 ≠ 1 := by
  intro unit
  obtain ⟨on, regular⟩ := (nonsingular_iff _ _).mp h
  rw [equation_curve] at on
  subst flat
  have tangent : 3 * x ^ 2 + 2 * A * x + 1 = 0 := by
    linear_combination -(2 * x ^ 2 + 1 + 2 * A * x) * unit - 2 * x * on
  simp [curve] at regular
  exact regular tangent.symm

variable [DecidableEq K]

theorem double_flat {x y : K} (h : (curve A).Nonsingular x y) (flat : 2 * y = 0) :
    Point.some x y h + Point.some x y h = 0 := by
  apply Point.add_self_of_Y_eq
  rw [negY_curve]
  linear_combination flat

theorem double_tilted {x y : K} (h : (curve A).Nonsingular x y) (tilted : 2 * y ≠ 0) :
    Point.some x y h + Point.some x y h ≠ 0 ∧
      coordinate (Point.some x y h + Point.some x y h) * (2 * y) ^ 2 = (x ^ 2 - 1) ^ 2 := by
  have ne : y ≠ (curve A).negY x y := by
    rw [negY_curve]
    intro same
    apply tilted
    linear_combination same
  have on := (equation_curve _ _).mp h.1
  have run : y - -y = 2 * y := by ring
  have cancel (rise : K) : (rise / (2 * y)) ^ 2 * (2 * y) ^ 2 = rise ^ 2 := by
    rw [← mul_pow, div_mul_cancel₀ _ tilted]
  rw [Point.add_self_of_Y_ne ne]
  refine ⟨Point.some_ne_zero _, ?_⟩
  simp only [coordinate, slope_of_Y_ne rfl ne, addX_curve, negY_curve, run]
  simp only [curve]
  linear_combination cancel (3 * x ^ 2 + 2 * A * x + 1 - 0 * y) - (4 * A + 8 * x) * on

-- The x-coordinates of a sum and a difference determine each other.
theorem sum_difference {x y x' y' : K} (h : (curve A).Nonsingular x y)
    (h' : (curve A).Nonsingular x' y') (apart : x ≠ x') :
    Point.some x y h + Point.some x' y' h' ≠ 0 ∧
      coordinate (Point.some x y h + Point.some x' y' h') *
        coordinate (Point.some x' y' h' - Point.some x y h) * (x' - x) ^ 2 = (x * x' - 1) ^ 2 := by
  have run : x' - x ≠ 0 := sub_ne_zero.mpr (Ne.symm apart)
  have on := (equation_curve _ _).mp h.1
  have on' := (equation_curve _ _).mp h'.1
  have cancel (rise : K) : (rise / (x' - x)) ^ 2 * (x' - x) ^ 2 = rise ^ 2 := by
    rw [← mul_pow, div_mul_cancel₀ _ run]
  have turned : (y - y') / (x - x') = (y' - y) / (x' - x) := by
    rw [← neg_sub y', ← neg_sub x', neg_div_neg_eq]
  rw [sub_eq_add_neg, Point.neg_some, Point.add_of_X_ne apart, Point.add_of_X_ne (Ne.symm apart)]
  refine ⟨Point.some_ne_zero _, ?_⟩
  simp only [coordinate, slope_of_X_ne apart, slope_of_X_ne (Ne.symm apart), addX_curve,
    negY_curve, turned, sub_neg_eq_add]
  generalize rising : (y' - y) / (x' - x) = s
  generalize falling : (y' + y) / (x' - x) = t
  have first : s ^ 2 * (x' - x) ^ 2 = (y' - y) ^ 2 := rising ▸ cancel (y' - y)
  have second : t ^ 2 * (x' - x) ^ 2 = (y' + y) ^ 2 := falling ▸ cancel (y' + y)
  apply mul_right_cancel₀ (pow_ne_zero 2 run)
  calc (s ^ 2 - A - x - x') * (t ^ 2 - A - x' - x) * (x' - x) ^ 2 * (x' - x) ^ 2
      = (s ^ 2 * (x' - x) ^ 2 - (A + x + x') * (x' - x) ^ 2) *
          (t ^ 2 * (x' - x) ^ 2 - (A + x + x') * (x' - x) ^ 2) := by ring
    _ = ((y' - y) ^ 2 - (A + x + x') * (x' - x) ^ 2) *
          ((y' + y) ^ 2 - (A + x + x') * (x' - x) ^ 2) := by rw [first, second]
    _ = (y' ^ 2 - y ^ 2) ^ 2 - 2 * ((A + x + x') * (x' - x) ^ 2) * (y' ^ 2 + y ^ 2) +
          ((A + x + x') * (x' - x) ^ 2) ^ 2 := by ring
    _ = (x * x' - 1) ^ 2 * (x' - x) ^ 2 := by rw [on, on']; ring

theorem represents_double {x z a24 : K} {P : (curve A).Point} (two : (2 : K) ≠ 0)
    (small : 4 * a24 + 2 = A) (h : Represents x z P) :
    Represents ((x + z) ^ 2 * (x - z) ^ 2)
      (((x + z) ^ 2 - (x - z) ^ 2) * ((x + z) ^ 2 + a24 * ((x + z) ^ 2 - (x - z) ^ 2)))
      (P + P) := by
  cases P with
  | zero =>
      obtain ⟨rfl, nonzero⟩ := h
      show _ ∧ _
      constructor
      · ring
      · simpa using nonzero
  | some u v on =>
      obtain ⟨nonzero, rfl⟩ := h
      have equation := (equation_curve _ _).mp on.1
      have above : (u * z + z) ^ 2 * (u * z - z) ^ 2 = (u ^ 2 - 1) ^ 2 * z ^ 4 := by ring
      have below : ((u * z + z) ^ 2 - (u * z - z) ^ 2) * ((u * z + z) ^ 2 +
          a24 * ((u * z + z) ^ 2 - (u * z - z) ^ 2)) = (2 * v) ^ 2 * z ^ 4 := by
        linear_combination 4 * u ^ 2 * z ^ 4 * small - 4 * z ^ 4 * equation
      rw [above, below]
      by_cases flat : 2 * v = 0
      · rw [double_flat on flat, flat]
        have zero : v = 0 := (mul_eq_zero.mp flat).resolve_left two
        constructor
        · ring
        · exact mul_ne_zero (pow_ne_zero 2 (sub_ne_zero.mpr (square_ne_one on zero)))
            (pow_ne_zero 4 nonzero)
      · obtain ⟨affine, doubled⟩ := double_tilted on flat
        rw [represents_of_ne _ _ _ affine]
        constructor
        · exact mul_ne_zero (pow_ne_zero 2 flat) (pow_ne_zero 4 nonzero)
        · rw [← doubled]
          ring

-- Opposite points whose difference is not of order two are not where the
-- numerator of their sum vanishes.
theorem square_ne_one_of_opposite {a b c d u v : K} (on : (curve A).Nonsingular u v)
    (nonzero : u ≠ 0) (onP : (curve A).Nonsingular a b) (onQ : (curve A).Nonsingular c d)
    (opposite : Point.some a b onP = -Point.some c d onQ)
    (difference : Point.some c d onQ - Point.some a b onP = .some u v on) : a ^ 2 ≠ 1 := by
  have doubled : Point.some a b onP + Point.some a b onP = -.some u v on := by
    rw [← difference, opposite]
    abel
  have tilted : 2 * b ≠ 0 := by
    intro flat
    rw [double_flat onP flat] at doubled
    exact Point.some_ne_zero on (neg_eq_zero.mp doubled.symm)
  obtain ⟨-, slope⟩ := double_tilted onP tilted
  rw [doubled, coordinate_neg] at slope
  intro unit
  rw [unit, sub_self] at slope
  simp [coordinate, nonzero, tilted] at slope

theorem represents_add {x z x' z' u v : K} {P Q : (curve A).Point} (two : (2 : K) ≠ 0)
    (on : (curve A).Nonsingular u v) (nonzero : u ≠ 0) (step : Q = P + .some u v on)
    (h : Represents x z P) (h' : Represents x' z' Q) :
    Represents (((x' - z') * (x + z) + (x' + z') * (x - z)) ^ 2)
      (u * ((x' - z') * (x + z) - (x' + z') * (x - z)) ^ 2) (P + Q) := by
  have above : (x' - z') * (x + z) + (x' + z') * (x - z) = 2 * (x * x' - z * z') := by ring
  have below : (x' - z') * (x + z) - (x' + z') * (x - z) = 2 * (z * x' - x * z') := by ring
  have difference : Q - P = .some u v on := by rw [step, add_sub_cancel_left]
  rw [above, below]
  cases P with
  | zero =>
      obtain ⟨rfl, hx⟩ := h
      have same : Q = .some u v on := by
        rw [step]
        exact zero_add _
      subst same
      obtain ⟨hz', rfl⟩ := h'
      rw [← Point.zero_def, zero_add, represents_of_ne _ _ _ (Point.some_ne_zero on)]
      constructor
      · simp [two, nonzero, hx, hz']
      · simp only [coordinate]
        ring
  | some a b onP =>
      obtain ⟨hz, rfl⟩ := h
      cases Q with
      | zero =>
          obtain ⟨rfl, hx'⟩ := h'
          have same : -Point.some a b onP = .some u v on := by
            rw [← difference, ← Point.zero_def, zero_sub]
          rw [Point.neg_some] at same
          cases same
          rw [← Point.zero_def, add_zero, represents_of_ne _ _ _ (Point.some_ne_zero onP)]
          constructor
          · simp [two, nonzero, hx', hz]
          · simp only [coordinate]
            ring
      | some c d onQ =>
          obtain ⟨hz', rfl⟩ := h'
          by_cases level : a = c
          · rcases Point.X_eq_iff.mp level with same | opposite
            · rw [same, sub_self] at difference
              exact absurd difference.symm (Point.some_ne_zero on)
            · have unit := square_ne_one_of_opposite on nonzero onP onQ opposite difference
              have factor : a * z * (a * z') - z * z' = (a ^ 2 - 1) * (z * z') := by ring
              rw [opposite, neg_add_cancel]
              subst level
              constructor
              · ring
              · rw [factor]
                simp [two, hz, hz', sub_ne_zero.mpr unit]
          · obtain ⟨affine, product⟩ := sum_difference onP onQ level
            have apart : c - a ≠ 0 := sub_ne_zero.mpr (Ne.symm level)
            have factor : z * (c * z') - a * z * z' = (c - a) * (z * z') := by ring
            rw [difference] at product
            rw [represents_of_ne _ _ _ affine, factor]
            constructor
            · simp [two, nonzero, hz, hz', apart]
            · simp only [coordinate] at product ⊢
              linear_combination -4 * z ^ 2 * z' ^ 2 * product

-- Twice a point with the x-coordinate zero is the neutral element.
theorem double_origin {P : (curve A).Point} (origin : coordinate P = 0) : P + P = 0 := by
  cases P with
  | zero => exact zero_add _
  | some u v on =>
      have equation := (equation_curve _ _).mp on.1
      have zero : u = 0 := origin
      rw [zero] at equation
      have flat : v = 0 := by simpa using equation
      exact double_flat on (by rw [flat, mul_zero])

end CarPairing.Montgomery
