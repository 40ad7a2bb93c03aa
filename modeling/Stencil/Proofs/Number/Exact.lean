import Mathlib.Algebra.Order.Field.Rat
import Mathlib.Tactic.Linarith
import Mathlib.Tactic.NormNum
import Stencil.Proofs.Number.Integers

/-!
# Exact values of numbers

A finite number stands for a rational: its significand, with its sign, times a power of two.
What is decided on whole counts of units can be said of exact values.  A number equals a natural
number exactly if its value does, and it is rounded to the integer that is nearest to its value,
away from zero if two are equally near.
-/

namespace Stencil

namespace Number

/-- The exact value of a finite number. -/
def toRat? : Number → Option ℚ
  | .finite negative significand exponent _ =>
      some ((signed negative significand : ℚ) * 2 ^ ((exponent : ℤ) - (1074 : ℕ)))
  | _ => none

theorem unitsPerOne_pos : 0 < unitsPerOne := by
  delta unitsPerOne
  generalize 1074 = places
  exact Nat.two_pow_pos places

theorem signed_true (count : Nat) : signed true count = -(count : ℤ) := rfl

theorem signed_mul (negative : Bool) (count factor : Nat) :
    signed negative (count * factor) = signed negative count * factor := by
  cases negative with
  | false => exact Int.natCast_mul count factor
  | true => simp [signed]

/-- The exact value is the place on the line, counted in ones and not in units. -/
theorem toRat?_finite (negative : Bool) {significand exponent : Nat}
    (canonical : Canonical significand exponent) :
    (finite negative significand exponent canonical).toRat? =
      some ((signed negative (magnitude significand exponent) : ℚ) / (unitsPerOne : ℚ)) := by
  rw [toRat?, magnitude, signed_mul]
  delta unitsPerOne
  generalize 1074 = places
  rw [zpow_sub₀ two_ne_zero, zpow_natCast, zpow_natCast, ← mul_div_assoc, Int.cast_mul, Nat.pow_eq,
    Nat.pow_eq, Int.cast_natCast, Nat.cast_pow, Nat.cast_pow, Nat.cast_ofNat]

/-! ## Numbers that are natural numbers -/

theorem eq_mul_iff {count i units : Nat} (hunits : 0 < units) :
    count = i * units ↔ count % units = 0 ∧ count / units = i := by
  constructor
  · rintro rfl
    exact ⟨Nat.mul_mod_left i units, Nat.mul_div_cancel i hunits⟩
  · rintro ⟨hmod, rfl⟩
    exact (Nat.div_mul_cancel (Nat.dvd_of_mod_eq_zero hmod)).symm

/-- A count with a minus sign is no natural number, unless it is zero. -/
theorem signed_eq_natCast_iff {negative : Bool} {count total : Nat} :
    signed negative count = (total : ℤ) ↔ count = total ∧ (negative = false ∨ count = 0) := by
  rw [signed]
  split
  · rename_i hnegative
    simp only [hnegative, Bool.true_eq_false, false_or]
    omega
  · rename_i hpositive
    simp only [Bool.not_eq_true] at hpositive
    simp only [hpositive, true_or, and_true]
    omega

/-- A number equals a natural number exactly if its value does. -/
theorem toNat?_eq_some_iff {n : Number} {i : Nat} :
    n.toNat? = some i ↔ n.toRat? = some (i : ℚ) := by
  cases n with
  | nan => simp [toNat?, toRat?]
  | infinite negative => simp [toNat?, toRat?]
  | finite negative significand exponent canonical =>
      have hunits : (unitsPerOne : ℚ) ≠ 0 := Nat.cast_ne_zero.mpr (Nat.ne_of_gt unitsPerOne_pos)
      have hcast : (i : ℚ) * unitsPerOne = (((i * unitsPerOne : Nat) : ℤ) : ℚ) := by
        rw [Int.cast_natCast, Nat.cast_mul]
      rw [toRat?_finite, Option.some_inj, div_eq_iff hunits, hcast, Int.cast_inj,
        signed_eq_natCast_iff, eq_mul_iff unitsPerOne_pos, toNat?, Option.ite_none_right_eq_some,
        Option.some_inj]
      exact and_right_comm

/-! ## Integers that are numbers -/

theorem signed_natAbs (r : ℤ) : signed (r < 0) r.natAbs = r := by
  rw [signed]
  split
  · rename_i hnegative
    have hsign := of_decide_eq_true hnegative
    omega
  · rename_i hpositive
    have hsign : ¬ r < 0 := fun hneg => hpositive (decide_eq_true hneg)
    omega

/-- The number nearest to an integer that is a number is that integer. -/
theorem toRat?_ofInt {significand exponent : Nat}
    (canonical : Canonical significand exponent) {r : ℤ}
    (h : magnitude significand exponent = r.natAbs * unitsPerOne) :
    (ofInt r).toRat? = some (r : ℚ) := by
  have hunits : (unitsPerOne : ℚ) ≠ 0 := Nat.cast_ne_zero.mpr (Nat.ne_of_gt unitsPerOne_pos)
  rw [ofInt, ofRatio, ← h, ofUnits_magnitude _ canonical, toRat?_finite, h, signed_mul,
    signed_natAbs, Int.cast_mul, Int.cast_natCast, mul_div_cancel_right₀ _ hunits]

theorem exists_canonical_of_lt {n : Nat} (h : n < Nat.pow 2 53) :
    ∃ significand exponent, Canonical significand exponent ∧
      magnitude significand exponent = n * unitsPerOne := by
  rcases Nat.eq_zero_or_pos n with rfl | hpos
  · refine ⟨0, 0, by decide, ?_⟩
    rw [magnitude, Nat.zero_mul, Nat.zero_mul]
  · obtain ⟨significand, exponent, hcanonical, -, hmagnitude⟩ := exists_canonical hpos h
    exact ⟨significand, exponent, hcanonical, hmagnitude⟩

/-- Below `2 ^ 53` the number nearest to a natural number equals it. -/
theorem toNat?_ofNat {n : Nat} (h : n < Nat.pow 2 53) : (ofNat n).toNat? = some n := by
  obtain ⟨significand, exponent, hcanonical, hmagnitude⟩ := exists_canonical_of_lt h
  rw [toNat?_eq_some_iff]
  exact toRat?_ofInt (r := n) hcanonical hmagnitude

/-! ## The nearest integer -/

/-- An integer is a rational rounded if it is no further than a half from it, and further from
zero if it is exactly a half from it. -/
structure IsRoundingOf (r : ℤ) (q : ℚ) : Prop where
  near : |q - r| ≤ 1 / 2
  away : |q - r| = 1 / 2 → |q| < |(r : ℚ)|

namespace IsRoundingOf

variable {r s : ℤ} {q : ℚ}

theorem neg (h : IsRoundingOf r q) : IsRoundingOf (-r) (-q) := by
  have hdistance : |-q - ((-r : ℤ) : ℚ)| = |q - r| := by
    rw [Int.cast_neg, ← neg_sub', abs_neg]
  constructor
  · rw [hdistance]
    exact h.near
  · intro hhalf
    rw [hdistance] at hhalf
    rw [Int.cast_neg, abs_neg, abs_neg]
    exact h.away hhalf

/-- Two roundings of one rational are in order, since the rational would be half way between two
that are not, and the one nearer to zero would not be a rounding. -/
theorem le (h : IsRoundingOf r q) (h' : IsRoundingOf s q) : r ≤ s := by
  by_contra hlt
  have hnext : (s : ℚ) + 1 ≤ r := by exact_mod_cast Int.not_le.mp hlt
  have hr := abs_le.mp h.near
  have hs := abs_le.mp h'.near
  have hmiddle : q - s = 1 / 2 := by linarith
  have hmiddle' : q - r = -(1 / 2) := by linarith
  have haway : |q| < |(r : ℚ)| := by
    apply h.away
    rw [hmiddle', abs_neg, abs_of_nonneg (by norm_num)]
  have haway' : |q| < |(s : ℚ)| := by
    apply h'.away
    rw [hmiddle, abs_of_nonneg (by norm_num)]
  rcases Int.lt_or_le s 0 with hneg | hnonneg
  · have hr : (r : ℚ) ≤ 0 := by
      have hsucc : (s : ℚ) + 1 ≤ 0 := by exact_mod_cast hneg
      linarith
    rw [abs_of_nonpos hr] at haway
    have hbelow := neg_le_abs q
    linarith
  · have hs : (0 : ℚ) ≤ s := by exact_mod_cast hnonneg
    rw [abs_of_nonneg hs] at haway'
    have habove := le_abs_self q
    linarith

/-- There is only one way to round. -/
theorem unique (h : IsRoundingOf r q) (h' : IsRoundingOf s q) : r = s :=
  Int.le_antisymm (h.le h') (h'.le h)

end IsRoundingOf

theorem isRoundingOf_roundHalfUp (n : Nat) {d : Nat} (hd : 0 < d) :
    IsRoundingOf (roundHalfUp n d) ((n : ℚ) / d) := by
  have hlow : 2 * d * roundHalfUp n d ≤ 2 * n + d := Nat.mul_div_le _ _
  have hhigh : 2 * n + d < 2 * d * (roundHalfUp n d + 1) :=
    Nat.lt_mul_div_succ _ (Nat.mul_pos (by decide) hd)
  generalize roundHalfUp n d = k at hlow hhigh
  have hdenominator : (0 : ℚ) < d := Nat.cast_pos.mpr hd
  have hfrom : (k : ℚ) - 1 / 2 ≤ n / d := by
    have hcast : (2 : ℚ) * d * k ≤ 2 * n + d := by exact_mod_cast hlow
    rw [le_div_iff₀ hdenominator]
    linarith
  have hbelow : (n : ℚ) / d < k + 1 / 2 := by
    have hcast : (2 : ℚ) * n + d < 2 * d * (k + 1) := by exact_mod_cast hhigh
    rw [div_lt_iff₀ hdenominator]
    linarith
  have hnonneg : (0 : ℚ) ≤ n / d := div_nonneg (Nat.cast_nonneg n) (Nat.cast_nonneg d)
  generalize (n : ℚ) / d = q at hfrom hbelow hnonneg ⊢
  constructor
  · rw [Int.cast_natCast, abs_le]
    constructor
    · linarith
    · linarith
  · intro hhalf
    rw [Int.cast_natCast] at hhalf ⊢
    have hless : q - k < 0 := by
      rcases lt_or_ge (q - k) 0 with hneg | hge
      · exact hneg
      · rw [abs_of_nonneg hge] at hhalf
        linarith
    rw [abs_of_nonneg hnonneg, abs_of_nonneg (Nat.cast_nonneg k)]
    linarith

/-- A finite number is rounded to the integer nearest to its value, a half going away from zero. -/
theorem exists_nearestInt? {n : Number} {q : ℚ} (h : n.toRat? = some q) :
    ∃ r, n.nearestInt? = some r ∧ IsRoundingOf r q := by
  cases n with
  | nan => cases h
  | infinite negative => cases h
  | finite negative significand exponent canonical =>
      have hrounding := isRoundingOf_roundHalfUp (magnitude significand exponent) unitsPerOne_pos
      rw [toRat?_finite, Option.some_inj] at h
      refine ⟨_, rfl, ?_⟩
      rw [← h]
      cases negative with
      | false => exact hrounding
      | true =>
          rw [signed_true, signed_true, Int.cast_neg, Int.cast_natCast, neg_div]
          exact hrounding.neg

end Number

end Stencil
