import Stencil.Number.Decimal

/-!
# Runs of digits and the numbers they stand for

A magnitude of double precision is rounded to itself, and an integer is rounded to an integer:
where the significand reaches below one, nothing has to be rounded.  So a number that a run of
digits stands for is an integer or infinite, and the digits of that integer, or of one beyond
all finite numbers, stand for the number again.
-/

namespace Stencil

theorem roundHalfEven_mul {n d : Nat} (hd : 0 < d) : roundHalfEven (n * d) d = n := by
  have hdiv : n * d / d = n := Nat.mul_div_cancel n hd
  have hmod : n * d % d = 0 := Nat.mul_mod_left n d
  rw [roundHalfEven, hdiv, hmod, if_neg]
  omega

namespace BinaryFormat

theorem exponentFor_double (n : Nat) : double.exponentFor n 1 = n.log2 + 1 - 53 := by
  simp [exponentFor, double]

/-- A count of units rounded to double precision, before it is compared with the greatest
magnitude. -/
def rounded (n : Nat) : Nat × Nat :=
  let exponent := n.log2 + 1 - 53
  let significand := roundHalfEven n (Nat.pow 2 exponent)
  if significand = Nat.pow 2 53 then (significand / 2, exponent + 1) else (significand, exponent)

theorem round?_double (n : Nat) :
    double.round? n 1 = if (rounded n).2 ≤ 2045 then some (rounded n) else none := by
  have hprecision : double.precision = 53 := rfl
  have hhighest : double.highest = 2045 := rfl
  simp only [round?, exponentFor_double, Nat.one_mul, hprecision, hhighest, rounded]
  rfl

theorem eq_rounded_of_round? {n : Nat} {result : Nat × Nat}
    (h : double.round? n 1 = some result) : result = rounded n := by
  rw [round?_double] at h
  split at h
  · exact (Option.some.inj h).symm
  · cases h

/-- What rounding leaves as it is if nothing of it lies below the last bit of the significand. -/
theorem magnitude_rounded_of_dvd {n : Nat} (h : Nat.pow 2 (n.log2 + 1 - 53) ∣ n) :
    Number.magnitude (rounded n).1 (rounded n).2 = n := by
  obtain ⟨count, hcount⟩ := h
  have hsignificand : roundHalfEven n (Nat.pow 2 (n.log2 + 1 - 53)) = count := by
    generalize n.log2 + 1 - 53 = exponent at hcount ⊢
    rw [hcount, Nat.mul_comm]
    exact roundHalfEven_mul (Nat.two_pow_pos exponent)
  rw [rounded, Number.magnitude]
  simp only [hsignificand]
  split
  · rename_i hfull
    have hhalf : 2 * (count / 2) = count := by
      rw [Nat.pow_eq] at hfull
      omega
    rw [Nat.pow_eq, Nat.pow_succ, Nat.mul_comm _ 2, ← Nat.mul_assoc, Nat.mul_comm _ 2, hhalf,
      Nat.mul_comm]
    exact hcount.symm
  · rw [Nat.mul_comm]
    exact hcount.symm

theorem exponent_le_rounded (n : Nat) : n.log2 + 1 - 53 ≤ (rounded n).2 := by
  rw [rounded]
  split
  · exact Nat.le_succ _
  · exact Nat.le_refl _

end BinaryFormat

/-- The significand of a magnitude fills the precision exactly at the exponent of the magnitude. -/
theorem log2_magnitude {significand exponent : Nat} (h : Canonical significand exponent) :
    (Number.magnitude significand exponent).log2 + 1 - 53 = exponent := by
  obtain ⟨hlt, -, hnormal⟩ := h
  rw [Number.magnitude]
  simp only [Nat.pow_eq] at hlt hnormal ⊢
  by_cases hsignificand : 2 ^ 52 ≤ significand
  · have hne : significand * 2 ^ exponent ≠ 0 :=
      Nat.ne_of_gt (Nat.mul_pos (Nat.lt_of_lt_of_le (by decide) hsignificand)
        (Nat.pow_pos (by decide)))
    have hlog : (significand * 2 ^ exponent).log2 = 52 + exponent := by
      rw [Nat.log2_eq_iff hne]
      constructor
      · rw [Nat.pow_add]
        exact Nat.mul_le_mul_right _ hsignificand
      · have hpow : 2 ^ (52 + exponent + 1) = 2 ^ 53 * 2 ^ exponent := by
          rw [← Nat.pow_add]
          congr 1
          omega
        rw [hpow]
        exact Nat.mul_lt_mul_of_pos_right hlt (Nat.pow_pos (by decide))
    omega
  · have hexponent : exponent = 0 := hnormal.resolve_right hsignificand
    subst hexponent
    rw [Nat.pow_zero, Nat.mul_one]
    by_cases hzero : significand = 0
    · subst hzero
      decide
    · have hlog : significand.log2 < 53 := (Nat.log2_lt hzero).mpr hlt
      omega

namespace Number

/-- A magnitude of double precision is rounded to itself. -/
theorem ofUnits_magnitude {significand exponent : Nat} (negative : Bool)
    (h : Canonical significand exponent) :
    ofUnits negative (magnitude significand exponent) 1 =
      .finite negative significand exponent h := by
  have hsignificand :
      roundHalfEven (magnitude significand exponent) (Nat.pow 2 exponent) = significand :=
    roundHalfEven_mul (Nat.two_pow_pos exponent)
  have hrounded :
      BinaryFormat.rounded (magnitude significand exponent) = (significand, exponent) := by
    rw [BinaryFormat.rounded]
    simp only [log2_magnitude h, hsignificand]
    exact if_neg (Nat.ne_of_lt h.1)
  have hround : BinaryFormat.double.round? (magnitude significand exponent) 1 =
      some (significand, exponent) := by
    rw [BinaryFormat.round?_double, hrounded]
    exact if_pos h.2.1
  rw [ofUnits, hround]
  exact dif_pos h

theorem pow_dvd_unitsPerOne {exponent : Nat} (h : exponent ≤ 1074) :
    Nat.pow 2 exponent ∣ unitsPerOne := by
  delta unitsPerOne
  generalize 1074 = places at h ⊢
  exact Nat.pow_dvd_pow 2 h

theorem unitsPerOne_dvd_magnitude {exponent : Nat} (h : 1074 ≤ exponent) (count : Nat) :
    unitsPerOne ∣ magnitude count exponent := by
  delta unitsPerOne magnitude
  generalize 1074 = places at h ⊢
  exact Nat.dvd_trans (Nat.pow_dvd_pow 2 h) (Nat.dvd_mul_left _ _)

/-- An integer is rounded to an integer: either nothing is rounded off, or the last bit of the
significand stands for a multiple of one. -/
theorem unitsPerOne_dvd_of_round? {n significand exponent : Nat}
    (h : BinaryFormat.double.round? (n * unitsPerOne) 1 = some (significand, exponent)) :
    unitsPerOne ∣ magnitude significand exponent := by
  have hresult := BinaryFormat.eq_rounded_of_round? h
  have hmagnitude : magnitude significand exponent =
      magnitude (BinaryFormat.rounded (n * unitsPerOne)).1
        (BinaryFormat.rounded (n * unitsPerOne)).2 := by
    rw [← hresult]
  rw [hmagnitude]
  by_cases hleast : (n * unitsPerOne).log2 + 1 - 53 ≤ 1074
  · have hexact := Nat.dvd_trans (pow_dvd_unitsPerOne hleast) (Nat.dvd_mul_left unitsPerOne n)
    rw [BinaryFormat.magnitude_rounded_of_dvd hexact]
    exact Nat.dvd_mul_left unitsPerOne n
  · have hexponent : 1074 ≤ (BinaryFormat.rounded (n * unitsPerOne)).2 :=
      Nat.le_trans (Nat.le_of_lt (Nat.not_le.mp hleast)) (BinaryFormat.exponent_le_rounded _)
    exact unitsPerOne_dvd_magnitude hexponent _

/-- A number that an integer is rounded to is infinite, or the integer at its own place is
rounded to it. -/
theorem ofNat_cases (n : Nat) :
    ofNat n = .infinite false ∨ ∃ m, (ofNat n).toNat? = some m ∧ ofNat m = ofNat n := by
  cases hround : BinaryFormat.double.round? (n * unitsPerOne) 1 with
  | none =>
      refine Or.inl ?_
      rw [ofNat, ofRatio, ofUnits, hround]
  | some rounded =>
      obtain ⟨significand, exponent⟩ := rounded
      by_cases hcanonical : Canonical significand exponent
      · have hvalue : ofNat n = .finite false significand exponent hcanonical := by
          rw [ofNat, ofRatio, ofUnits, hround]
          exact dif_pos hcanonical
        have hdvd := unitsPerOne_dvd_of_round? hround
        refine Or.inr ⟨magnitude significand exponent / unitsPerOne, ?_, ?_⟩
        · rw [hvalue, toNat?]
          exact if_pos ⟨Nat.mod_eq_zero_of_dvd hdvd, Or.inl rfl⟩
        · rw [hvalue, ← ofUnits_magnitude false hcanonical, ofNat, ofRatio,
            Nat.div_mul_cancel hdvd]
      · refine Or.inl ?_
        rw [ofNat, ofRatio, ofUnits, hround]
        exact dif_neg hcanonical

/-! ## Digits -/

/-- A run of decimal digits, at least one. -/
def IsDigitRun (digits : List Char) : Prop :=
  digits ≠ [] ∧ ∀ c ∈ digits, c.isDigit = true

theorem digitValue_digitChar {n : Nat} (h : n < 10) : digitValue n.digitChar = n := by
  have hdigit : n.digitChar.isDigit = true := by
    rw [Nat.isDigit_digitChar]
    exact decide_eq_true h
  rw [digitValue, if_pos hdigit]
  exact Nat.toNat_digitChar_sub_48_of_lt_ten h

theorem digitsValue_append (digits : List Char) (c : Char) :
    digitsValue (digits ++ [c]) = 10 * digitsValue digits + digitValue c := by
  rw [digitsValue, List.foldl_append]
  rfl

theorem digitsValue_toDigits (n : Nat) : digitsValue (Nat.toDigits 10 n) = n := by
  induction n using Nat.strongRecOn with
  | ind n ih =>
      by_cases h : n < 10
      · rw [Nat.toDigits_of_lt_base h]
        have hsingle := digitsValue_append [] n.digitChar
        rw [digitValue_digitChar h] at hsingle
        exact hsingle.trans (Nat.zero_add n)
      · have hle : 10 ≤ n := Nat.not_lt.mp h
        rw [Nat.toDigits_of_base_le (by decide) hle, digitsValue_append, ih (n / 10) (by omega),
          digitValue_digitChar (Nat.mod_lt n (by decide))]
        exact Nat.div_add_mod n 10

theorem isDigitRun_toDigits (n : Nat) : IsDigitRun (Nat.toDigits 10 n) :=
  ⟨Nat.toDigits_ne_nil, fun _ hc => Nat.isDigit_of_mem_toDigits (by decide) (by decide) hc⟩

theorem decimalRatio_zero (significand : Nat) : decimalRatio significand 0 = (significand, 1) := by
  rw [decimalRatio, if_neg (by omega), if_pos (by omega)]
  simp

theorem ofDigits_eq_ofNat (digits : List Char) : ofDigits digits = ofNat (digitsValue digits) := by
  rw [ofDigits, ofDecimal, decimalRatio_zero, ofNat]

/-- A number that is neither not-a-number nor below zero, and has no minus sign. -/
inductive IsUnsigned : Number → Prop
  | infinite : IsUnsigned (.infinite false)
  | finite (significand exponent : Nat) (canonical : Canonical significand exponent) :
      IsUnsigned (.finite false significand exponent canonical)

theorem isUnsigned_ofUnits (n d : Nat) : (ofUnits false n d).IsUnsigned := by
  rw [ofUnits]
  split
  · split
    · exact .finite _ _ _
    · exact .infinite
  · exact .infinite

/-- A run of digits has no sign to write. -/
theorem isUnsigned_ofDigits (digits : List Char) : (ofDigits digits).IsUnsigned := by
  rw [ofDigits, ofDecimal, ofRatio]
  exact isUnsigned_ofUnits _ _

/-- A run of digits for a number: those of the integer that it is, or some that are too many for
any finite number. -/
def digitRun (value : Number) : List Char :=
  match value.toNat? with
  | some n => Nat.toDigits 10 n
  | none => '1' :: List.replicate 400 '0'

theorem isDigitRun_digitRun (value : Number) : IsDigitRun value.digitRun := by
  rw [digitRun]
  split
  · exact isDigitRun_toDigits _
  · refine ⟨List.cons_ne_nil _ _, ?_⟩
    intro c hc
    rcases List.mem_cons.mp hc with rfl | hzero
    · rfl
    · rw [List.eq_of_mem_replicate hzero]
      rfl

theorem ofDigits_overflow : ofDigits ('1' :: List.replicate 400 '0') = .infinite false := by
  decide +kernel

/-- The digits of a number that a run of digits stands for stand for it. -/
theorem ofDigits_digitRun (digits : List Char) :
    ofDigits (ofDigits digits).digitRun = ofDigits digits := by
  rw [ofDigits_eq_ofNat digits]
  rcases ofNat_cases (digitsValue digits) with hinfinite | ⟨n, hn, hvalue⟩
  · rw [hinfinite]
    exact ofDigits_overflow
  · rw [digitRun, hn]
    change ofDigits (Nat.toDigits 10 n) = _
    rw [ofDigits_eq_ofNat, digitsValue_toDigits, hvalue]

end Number

end Stencil
