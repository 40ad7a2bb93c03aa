import Stencil.Number.Shortest
import Stencil.Proofs.Number.Digits

/-!
# Texts of integers

The decimals that round to one number form an interval, and the intervals of two numbers do not
meet: where they touch, the significand of one is odd, and its interval is open.  The text of a
number that is an integer writes an integer in the interval of the number.  So numbers that are
integers can be told apart by their texts.

Up to `2 ^ 53` every integer is a number of its own, and no other integer is in the interval of
that number.  So up to there the text of the number writes the integer itself.
-/

namespace Stencil

namespace Number

namespace Interval

variable {interval : Interval}

/-! ## The coarsest grid -/

theorem contains_of_nearestMultiple? {step factor : Nat}
    (h : interval.nearestMultiple? step = some factor) :
    interval.contains (factor * step) = true := by
  rw [nearestMultiple?] at h
  split at h
  · rename_i hhigh
    cases h
    exact hhigh.1
  · split at h
    · rename_i hlow
      cases h
      exact hlow
    · cases h

theorem nearestMultiple?_isSome (hself : interval.contains interval.center = true) {step : Nat}
    (hdvd : step ∣ interval.center) : (interval.nearestMultiple? step).isSome = true := by
  rw [nearestMultiple?, Nat.div_mul_cancel hdvd, hself]
  split
  · rfl
  · rfl

/-- The point that the search ends with is in the interval. -/
theorem contains_coarsest (hself : interval.contains interval.center = true)
    (hdvd : 4 ∣ interval.center) (places : Nat) :
    interval.contains
      (4 * ((interval.coarsest places).1 * Nat.pow 10 (interval.coarsest places).2)) = true := by
  induction places with
  | zero =>
      have hcenter : 4 * (interval.center / 4 * Nat.pow 10 0) = interval.center := by
        rw [Nat.pow_eq, Nat.pow_zero, Nat.mul_one, Nat.mul_div_cancel' hdvd]
      rw [coarsest, hcenter]
      exact hself
  | succ places ih =>
      rw [coarsest]
      split
      · rename_i factor hfactor
        have hcontains := contains_of_nearestMultiple? hfactor
        rw [Nat.mul_left_comm] at hcontains
        exact hcontains
      · exact ih

/-- The search does not go below a grid that the number itself is on. -/
theorem le_place_coarsest (hself : interval.contains interval.center = true) {place places : Nat}
    (hdvd : 4 * Nat.pow 10 place ∣ interval.center) (hle : place ≤ places) :
    place ≤ (interval.coarsest places).2 := by
  induction places with
  | zero => exact hle
  | succ places ih =>
      rw [coarsest]
      split
      · exact hle
      · rename_i hnone
        by_cases heq : place = places + 1
        · have hsome := nearestMultiple?_isSome hself hdvd
          rw [heq, hnone] at hsome
          cases hsome
        · exact ih (by omega)

/-! ## Intervals do not meet -/

theorem contains_iff {count : Nat} :
    interval.contains count = true ↔
      interval.center ≤ count + interval.below ∧ count ≤ interval.center + interval.above ∧
        (interval.closed = true ∨
          interval.center < count + interval.below ∧ count < interval.center + interval.above) := by
  rw [contains]
  split
  · rename_i hclosed
    simp [hclosed]
  · rename_i hopen
    simp [hopen]
    omega

/-- A quarter of the distance between two neighbouring significands. -/
def quarter (exponent : Nat) : Nat := Nat.pow 2 exponent * Nat.pow 5 1074

theorem quarter_pos (exponent : Nat) : 0 < quarter exponent := by
  delta quarter
  generalize 1074 = places
  exact Nat.mul_pos (Nat.pow_pos (by decide)) (Nat.pow_pos (by decide))

theorem two_mul_quarter_le {exponent other : Nat} (h : exponent < other) :
    2 * quarter exponent ≤ quarter other := by
  rw [quarter, quarter, ← Nat.mul_assoc]
  apply Nat.mul_le_mul_right
  have hpow : 2 * Nat.pow 2 exponent = Nat.pow 2 (exponent + 1) := by
    rw [Nat.pow_eq, Nat.pow_eq, Nat.pow_succ, Nat.mul_comm]
  rw [hpow]
  exact Nat.pow_le_pow_right (by decide) h

variable {significand exponent significand' exponent' : Nat}

theorem center_around :
    (around significand exponent).center = 4 * (significand * quarter exponent) :=
  rfl

theorem above_around : (around significand exponent).above = 2 * quarter exponent :=
  rfl

theorem below_around : (around significand exponent).below =
    if significand = Nat.pow 2 52 ∧ exponent ≠ 0 then quarter exponent else 2 * quarter exponent :=
  rfl

theorem closed_around : (around significand exponent).closed = decide (significand % 2 = 0) :=
  rfl

theorem below_around_pos (significand exponent : Nat) :
    0 < (around significand exponent).below := by
  have hquarter := quarter_pos exponent
  rw [below_around]
  split
  · exact hquarter
  · omega

theorem below_around_le (significand exponent : Nat) :
    (around significand exponent).below ≤ 2 * quarter exponent := by
  rw [below_around]
  split
  · omega
  · omega

/-- From the first full significand on, an interval begins no earlier than a quarter below that
significand. -/
theorem below_around_full_le (hfull : Nat.pow 2 52 ≤ significand) (hexponent : exponent ≠ 0) :
    (around significand exponent).below + 18014398509481983 * quarter exponent ≤
      (around significand exponent).center := by
  have hvalue : Nat.pow 2 52 = 4503599627370496 := rfl
  rw [below_around, center_around]
  rw [hvalue] at hfull ⊢
  by_cases heq : significand = 4503599627370496
  · rw [if_pos ⟨heq, hexponent⟩, heq]
    omega
  · have hproduct : 4503599627370497 * quarter exponent ≤ significand * quarter exponent :=
      Nat.mul_le_mul_right _ (by omega)
    rw [if_neg (fun hboth => heq hboth.1)]
    omega

theorem contains_center_around (significand exponent : Nat) :
    (around significand exponent).contains (around significand exponent).center = true := by
  have hbelow := below_around_pos significand exponent
  have hquarter := quarter_pos exponent
  rw [contains_iff, above_around]
  omega

/-- Two magnitudes are in order if their exponents are, or if their significands are at one
exponent. -/
def Before (significand exponent significand' exponent' : Nat) : Prop :=
  exponent < exponent' ∨ exponent = exponent' ∧ significand < significand'

/-- The interval of a magnitude ends where that of a later one has not yet begun, or begins with
an end that does not belong to both. -/
theorem not_both_contain (h : Canonical significand exponent)
    (h' : Canonical significand' exponent')
    (hbefore : Before significand exponent significand' exponent') {count : Nat}
    (hcount : (around significand exponent).contains count = true) :
    (around significand' exponent').contains count = false := by
  apply Bool.eq_false_iff.mpr
  intro hcount'
  rw [contains_iff, center_around, above_around, closed_around, decide_eq_true_eq] at hcount hcount'
  have hquarter := quarter_pos exponent
  rcases hbefore with hexponent | ⟨rfl, hsignificand⟩
  · -- The later interval begins no earlier than below the first full significand at the next
    -- exponent.
    have hdouble := two_mul_quarter_le hexponent
    have hnonzero : exponent' ≠ 0 := Nat.ne_zero_of_lt hexponent
    have hbelow := below_around_full_le (h'.2.2.resolve_left hnonzero) hnonzero
    rw [center_around] at hbelow
    have hlast : significand < 9007199254740992 := h.1
    by_cases heven : significand % 2 = 0
    · have hproduct : significand * quarter exponent ≤ 9007199254740990 * quarter exponent :=
        Nat.mul_le_mul_right _ (by omega)
      omega
    · have hproduct : significand * quarter exponent ≤ 9007199254740991 * quarter exponent :=
        Nat.mul_le_mul_right _ (by omega)
      omega
  · have hbelow := below_around_le significand' exponent
    by_cases hnext : significand' = significand + 1
    · subst hnext
      rw [Nat.add_mul, Nat.one_mul] at hcount'
      omega
    · have hproduct : (significand + 2) * quarter exponent ≤ significand' * quarter exponent :=
        Nat.mul_le_mul_right _ (by omega)
      rw [Nat.add_mul] at hproduct
      omega

/-- No decimal is in the intervals of two magnitudes. -/
theorem eq_of_contains (h : Canonical significand exponent) (h' : Canonical significand' exponent')
    {count : Nat} (hcount : (around significand exponent).contains count = true)
    (hcount' : (around significand' exponent').contains count = true) :
    significand = significand' ∧ exponent = exponent' := by
  have hforward : ¬ Before significand exponent significand' exponent' := by
    intro hbefore
    rw [not_both_contain h h' hbefore hcount] at hcount'
    cases hcount'
  have hbackward : ¬ Before significand' exponent' significand exponent := by
    intro hbefore
    rw [not_both_contain h' h hbefore hcount'] at hcount
    cases hcount
  rw [Before] at hforward hbackward
  omega

end Interval

/-! ## The integer that a text writes -/

theorem toDigits_mul_pow {n : Nat} (hn : 0 < n) (places : Nat) :
    Nat.toDigits 10 (n * Nat.pow 10 places) = Nat.toDigits 10 n ++ List.replicate places '0' := by
  induction places with
  | zero => simp
  | succ places ih =>
      have hpos : 0 < n * Nat.pow 10 places := Nat.mul_pos hn (Nat.pow_pos (by decide))
      have hnext : n * Nat.pow 10 (places + 1) = 10 * (n * Nat.pow 10 places) + 0 := by
        rw [Nat.pow_eq, Nat.pow_eq, Nat.pow_succ, Nat.add_zero, Nat.mul_comm 10, Nat.mul_assoc]
      rw [hnext, ← Nat.toDigits_append_toDigits (by decide) hpos (by decide), ih,
        List.replicate_succ', List.append_assoc]
      rfl

/-- Digits in front of a power of ten that is no fraction write an integer. -/
theorem positional_toDigits {factor : Nat} (hfactor : 0 < factor) (places : Nat) :
    positional (Nat.toDigits 10 factor) (places : Int) =
      Nat.toDigits 10 (factor * Nat.pow 10 places) := by
  rw [positional, if_pos (Int.natCast_nonneg places), Int.toNat_natCast, toDigits_mul_pow hfactor]

namespace Interval

theorem length_toDigits_mul_pow {n : Nat} (hn : 0 < n) (fraction : Nat) :
    fraction ≤ (Nat.toDigits 10 (n * Nat.pow 10 fraction)).length := by
  rw [toDigits_mul_pow hn, List.length_append, List.length_replicate]
  exact Nat.le_add_left _ _

/-- If a number is on the grid with so many places behind the point, the search ends on that
grid or a coarser one. -/
theorem coarsest_of_multiple {interval : Interval}
    (hself : interval.contains interval.center = true) {n fraction : Nat} (hn : 0 < n)
    (hcenter : interval.center = 4 * (n * Nat.pow 10 fraction)) :
    ∃ factor places : Nat,
      interval.coarsest (Nat.toDigits 10 (interval.center / 4)).length =
        (factor, fraction + places) ∧
        interval.contains (4 * (factor * Nat.pow 10 places * Nat.pow 10 fraction)) = true := by
  generalize hlength : (Nat.toDigits 10 (interval.center / 4)).length = length
  have hle : fraction ≤ length := by
    rw [← hlength, hcenter, Nat.mul_div_cancel_left _ (by decide)]
    exact length_toDigits_mul_pow hn fraction
  have hgrid : 4 * Nat.pow 10 fraction ∣ interval.center := by
    rw [hcenter]
    exact Nat.mul_dvd_mul_left 4 (Nat.dvd_mul_left _ _)
  have hplace := le_place_coarsest hself hgrid hle
  have hcontains := contains_coarsest hself (Nat.dvd_trans (Nat.dvd_mul_right 4 _) hgrid) length
  obtain ⟨places, hplaces⟩ := Nat.exists_eq_add_of_le hplace
  refine ⟨(interval.coarsest length).1, places, Prod.ext rfl hplaces, ?_⟩
  rw [hplaces, Nat.pow_eq, Nat.pow_add, Nat.mul_comm (10 ^ fraction)] at hcontains
  rw [Nat.mul_assoc]
  exact hcontains

theorem pos_of_contains {significand exponent count : Nat} (hsignificand : 0 < significand)
    (hcount : (around significand exponent).contains count = true) : 0 < count := by
  have hquarter := quarter_pos exponent
  have hbelow := below_around_le significand exponent
  have hproduct : 1 * quarter exponent ≤ significand * quarter exponent :=
    Nat.mul_le_mul_right _ hsignificand
  rw [contains_iff, center_around] at hcount
  omega

end Interval

/-- The count of an integer in quarters of the finest decimal grid. -/
def integerCount (n : Nat) : Nat := 4 * (n * Nat.pow 10 1074)

theorem center_around_of_integer {significand exponent n : Nat}
    (h : magnitude significand exponent = n * unitsPerOne) :
    (Interval.around significand exponent).center = integerCount n := by
  delta magnitude unitsPerOne at h
  rw [Interval.center_around]
  delta Interval.quarter integerCount
  generalize 1074 = fraction at h ⊢
  have hpow : Nat.pow 2 fraction * Nat.pow 5 fraction = Nat.pow 10 fraction :=
    (Nat.mul_pow 2 5 fraction).symm
  rw [← Nat.mul_assoc significand, h, Nat.mul_assoc n, hpow]

theorem shortest_def : shortest = fun significand exponent =>
    let interval := Interval.around significand exponent
    let places := (Nat.toDigits 10 (interval.center / 4)).length
    let (factor, place) := interval.coarsest places
    (Nat.toDigits 10 factor, (place : Int) - 1074) :=
  rfl

/-- The end of the search in a variable interval.  In the interval of a magnitude the search
would be run, for as many places as the digits of the unit, when the kernel compares the two
sides. -/
theorem digits_of_coarsest {interval : Interval} {factor place : Nat}
    (h : interval.coarsest (Nat.toDigits 10 (interval.center / 4)).length = (factor, place)) :
    (let places := (Nat.toDigits 10 (interval.center / 4)).length
      let (factor, place) := interval.coarsest places
      (Nat.toDigits 10 factor, (place : Int) - 1074)) =
        (Nat.toDigits 10 factor, (place : Int) - 1074) := by
  dsimp only
  rw [h]

/-- The search ends on a grid of integers if the magnitude is one. -/
theorem shortest_of_integer {significand exponent n : Nat} (hn : 0 < n)
    (h : magnitude significand exponent = n * unitsPerOne) :
    ∃ factor places : Nat,
      shortest significand exponent = (Nat.toDigits 10 factor, (places : Int)) ∧
      (Interval.around significand exponent).contains
        (integerCount (factor * Nat.pow 10 places)) = true := by
  obtain ⟨factor, places, hcoarsest, hcontains⟩ :=
    Interval.coarsest_of_multiple (Interval.contains_center_around _ _) hn
      (center_around_of_integer h)
  refine ⟨factor, places, ?_, hcontains⟩
  have hpower (fraction : Nat) : ((fraction + places : Nat) : Int) - fraction = places := by
    omega
  have hdigits := digits_of_coarsest hcoarsest
  rw [shortest_def]
  exact hdigits.trans (congrArg (Prod.mk _) (hpower 1074))

theorem integerCount_zero : integerCount 0 = 0 := by
  delta integerCount
  generalize 1074 = fraction
  rw [Nat.zero_mul]

/-- The text of a magnitude that is an integer writes an integer in its interval. -/
theorem magnitudeText_of_integer {significand exponent n : Nat}
    (h : magnitude significand exponent = n * unitsPerOne) :
    ∃ m, magnitudeText significand exponent = Nat.toDigits 10 m ∧
      (Interval.around significand exponent).contains (integerCount m) = true := by
  rw [magnitudeText]
  split
  · rename_i hzero
    have hcenter : (Interval.around significand exponent).center = integerCount 0 := by
      rw [Interval.center_around, hzero, Nat.zero_mul, integerCount_zero]
    refine ⟨0, rfl, ?_⟩
    rw [← hcenter]
    exact Interval.contains_center_around _ _
  · rename_i hsignificand
    have hpos : 0 < significand := Nat.pos_of_ne_zero hsignificand
    have hn : 0 < n := by
      apply Nat.pos_of_mul_pos_right
      rw [← h]
      exact Nat.mul_pos hpos (Nat.two_pow_pos exponent)
    obtain ⟨factor, places, hshortest, hcontains⟩ := shortest_of_integer hn h
    have hfactor : factor ≠ 0 := by
      rintro rfl
      rw [Nat.zero_mul, integerCount_zero] at hcontains
      exact Nat.lt_irrefl 0 (Interval.pos_of_contains hpos hcontains)
    refine ⟨factor * Nat.pow 10 places, ?_, hcontains⟩
    rw [hshortest]
    exact positional_toDigits (Nat.pos_of_ne_zero hfactor) places

/-! ## Numbers that are integers -/

/-- An integer, or infinite. -/
inductive IsIntegral : Number → Prop
  | infinite (negative : Bool) : IsIntegral (.infinite negative)
  | finite (negative : Bool) {significand exponent : Nat}
      (canonical : Canonical significand exponent)
      (hdvd : unitsPerOne ∣ magnitude significand exponent) :
      IsIntegral (.finite negative significand exponent canonical)

theorem isIntegral_ofInt (k : Int) : (ofInt k).IsIntegral := by
  rw [ofInt, ofRatio, ofUnits]
  split
  · rename_i significand exponent hround
    split
    · rename_i canonical
      exact .finite _ canonical (unitsPerOne_dvd_of_round? hround)
    · exact .infinite _
  · exact .infinite _

theorem signText_inj {negative negative' : Bool} {text text' : List Char} (h : '-' ∉ text)
    (h' : '-' ∉ text') (heq : signText negative text = signText negative' text') :
    negative = negative' ∧ text = text' := by
  cases negative with
  | false =>
      cases negative' with
      | false => exact ⟨rfl, heq⟩
      | true =>
          change text = '-' :: text' at heq
          exact absurd List.mem_cons_self (heq ▸ h)
  | true =>
      cases negative' with
      | false =>
          change '-' :: text = text' at heq
          exact absurd List.mem_cons_self (heq ▸ h')
      | true => exact ⟨rfl, List.tail_eq_of_cons_eq heq⟩

theorem not_mem_toDigits {c : Char} (hc : c.isDigit = false) (n : Nat) : c ∉ Nat.toDigits 10 n := by
  intro hmem
  rw [(isDigitRun_toDigits n).2 c hmem] at hc
  cases hc

theorem infinite_text_ne_finite {negative negative' : Bool} {significand exponent : Nat}
    (canonical : Canonical significand exponent)
    (h : unitsPerOne ∣ magnitude significand exponent) :
    (infinite negative).text ≠ (finite negative' significand exponent canonical).text := by
  obtain ⟨n, hn⟩ := h
  obtain ⟨m, hdigits, -⟩ := magnitudeText_of_integer (hn.trans (Nat.mul_comm _ _))
  intro heq
  rw [text, text, String.ofList_inj, hdigits] at heq
  have hletters := (signText_inj (by decide) (not_mem_toDigits (by decide) m) heq).2
  have hletter : 'i' ∈ "inf".toList := by decide
  rw [hletters] at hletter
  exact not_mem_toDigits (by decide) m hletter

/-- Numbers that are integers are told apart by their texts. -/
theorem eq_of_text_eq {a b : Number} (ha : a.IsIntegral) (hb : b.IsIntegral)
    (h : a.text = b.text) : a = b := by
  cases ha with
  | infinite negative =>
      cases hb with
      | infinite negative' =>
          rw [text, text, String.ofList_inj] at h
          rw [(signText_inj (by decide) (by decide) h).1]
      | finite negative' canonical' hdvd' =>
          exact absurd h (infinite_text_ne_finite canonical' hdvd')
  | finite negative canonical hdvd =>
      cases hb with
      | infinite negative' => exact absurd h.symm (infinite_text_ne_finite canonical hdvd)
      | finite negative' canonical' hdvd' =>
          obtain ⟨n, hn⟩ := hdvd
          obtain ⟨n', hn'⟩ := hdvd'
          obtain ⟨m, hdigits, hcontains⟩ := magnitudeText_of_integer (hn.trans (Nat.mul_comm _ _))
          obtain ⟨m', hdigits', hcontains'⟩ :=
            magnitudeText_of_integer (hn'.trans (Nat.mul_comm _ _))
          rw [text, text, String.ofList_inj, hdigits, hdigits'] at h
          obtain ⟨rfl, hequal⟩ := signText_inj (not_mem_toDigits (by decide) m)
            (not_mem_toDigits (by decide) m') h
          have hm : m = m' := by
            rw [← digitsValue_toDigits m, hequal, digitsValue_toDigits]
          subst hm
          obtain ⟨rfl, rfl⟩ := Interval.eq_of_contains canonical canonical' hcontains hcontains'
          rfl

theorem ofInt_eq_of_text_eq {k l : Int} (h : (ofInt k).text = (ofInt l).text) : ofInt k = ofInt l :=
  eq_of_text_eq (isIntegral_ofInt k) (isIntegral_ofInt l) h

/-! ## Integers that are numbers -/

/-- Below `2 ^ 53` the last bit of the significand of an integer stands for one or for less. -/
theorem exists_canonical {n : Nat} (hpos : 0 < n) (hlt : n < Nat.pow 2 53) :
    ∃ significand exponent, Canonical significand exponent ∧ exponent ≤ 1074 ∧
      magnitude significand exponent = n * unitsPerOne := by
  have hlog : n.log2 < 53 := (Nat.log2_lt (Nat.ne_of_gt hpos)).mpr hlt
  obtain ⟨spare, hspare⟩ := Nat.exists_eq_add_of_le (Nat.le_of_lt_succ hlog)
  have hlow : Nat.pow 2 52 ≤ n * Nat.pow 2 spare := by
    rw [hspare, Nat.pow_eq, Nat.pow_eq, Nat.pow_add]
    exact Nat.mul_le_mul_right _ (Nat.log2_self_le (Nat.ne_of_gt hpos))
  have hhigh : n * Nat.pow 2 spare < Nat.pow 2 53 := by
    have hfull : Nat.pow 2 53 = Nat.pow 2 (n.log2 + 1) * Nat.pow 2 spare := by
      rw [Nat.pow_eq, Nat.pow_eq, Nat.pow_eq, ← Nat.pow_add]
      congr 1
      omega
    rw [hfull]
    exact Nat.mul_lt_mul_of_pos_right Nat.lt_log2_self (Nat.two_pow_pos spare)
  refine ⟨n * Nat.pow 2 spare, 1074 - spare, ⟨hhigh, by omega, Or.inr hlow⟩, by omega, ?_⟩
  have hone : spare ≤ 1074 := by omega
  delta magnitude unitsPerOne
  generalize 1074 = fraction at hone ⊢
  rw [Nat.mul_assoc, Nat.pow_eq, Nat.pow_eq, Nat.pow_eq, ← Nat.pow_add, Nat.add_sub_cancel' hone]

theorem quarter_le {exponent : Nat} (h : exponent ≤ 1074) :
    Interval.quarter exponent ≤ Nat.pow 10 1074 := by
  delta Interval.quarter
  generalize 1074 = fraction at h ⊢
  have hpow : Nat.pow 10 fraction = Nat.pow 2 fraction * Nat.pow 5 fraction :=
    Nat.mul_pow 2 5 fraction
  rw [hpow]
  exact Nat.mul_le_mul_right _ (Nat.pow_le_pow_right (by decide) h)

/-- An interval that reaches no further than half of one to either side has no other integer
than the number itself. -/
theorem eq_of_contains_integer {significand exponent n m : Nat} (hexponent : exponent ≤ 1074)
    (h : magnitude significand exponent = n * unitsPerOne)
    (hcontains : (Interval.around significand exponent).contains (integerCount m) = true) :
    m = n := by
  have hquarter := quarter_le hexponent
  have hpos := Interval.quarter_pos exponent
  have hbelow := Interval.below_around_le significand exponent
  rw [Interval.contains_iff, center_around_of_integer h, Interval.above_around] at hcontains
  delta integerCount at hcontains
  generalize Nat.pow 10 1074 = one at hquarter hcontains
  rcases Nat.lt_trichotomy m n with hlt | heq | hgt
  · have hstep : (m + 1) * one ≤ n * one := Nat.mul_le_mul_right _ hlt
    rw [Nat.add_mul] at hstep
    omega
  · exact heq
  · have hstep : (n + 1) * one ≤ m * one := Nat.mul_le_mul_right _ hgt
    rw [Nat.add_mul] at hstep
    omega

theorem toString_eq_signText (k : Int) :
    toString k = String.ofList (signText (k < 0) (Nat.toDigits 10 k.natAbs)) := by
  cases k with
  | ofNat n =>
      have hsign : decide (Int.ofNat n < 0) = false :=
        decide_eq_false (Int.not_lt.mpr (Int.natCast_nonneg n))
      rw [hsign]
      rfl
  | negSucc n =>
      have hsign : decide (Int.negSucc n < 0) = true := decide_eq_true (Int.negSucc_lt_zero n)
      rw [hsign, signText, if_pos rfl, ← List.singleton_append, String.ofList_append]
      rfl

theorem eq_of_toString_eq {k l : Int} (h : toString k = toString l) : k = l := by
  rw [toString_eq_signText, toString_eq_signText, String.ofList_inj] at h
  obtain ⟨hsign, hdigits⟩ := signText_inj (not_mem_toDigits (by decide) k.natAbs)
    (not_mem_toDigits (by decide) l.natAbs) h
  have habs : k.natAbs = l.natAbs := by
    rw [← digitsValue_toDigits k.natAbs, hdigits, digitsValue_toDigits]
  rw [decide_eq_decide] at hsign
  omega

/-- Up to `2 ^ 53` the text of the number nearest to an integer writes the integer. -/
theorem text_ofInt {k : Int} (h : k.natAbs ≤ Nat.pow 2 53) : (ofInt k).text = toString k := by
  rcases Nat.eq_zero_or_pos k.natAbs with hzero | hpos
  · rw [Int.natAbs_eq_zero.mp hzero]
    decide +kernel
  · rcases Nat.eq_or_lt_of_le h with heq | hlt
    · -- The last interval reaches up to the next integer, but that has as many digits.
      have habs : k.natAbs = 9007199254740992 := heq
      have hvalue : k = 9007199254740992 ∨ k = -9007199254740992 := by omega
      rcases hvalue with rfl | rfl
      · decide +kernel
      · decide +kernel
    · obtain ⟨significand, exponent, hcanonical, hexponent, hmagnitude⟩ := exists_canonical hpos hlt
      obtain ⟨m, hdigits, hcontains⟩ := magnitudeText_of_integer hmagnitude
      have hvalue : ofInt k = .finite (k < 0) significand exponent hcanonical := by
        rw [ofInt, ofRatio, ← hmagnitude, ofUnits_magnitude _ hcanonical]
      rw [hvalue, text, hdigits, eq_of_contains_integer hexponent hmagnitude hcontains,
        toString_eq_signText]

/-- Up to `2 ^ 53` different integers have different nearest numbers. -/
theorem eq_of_ofInt_eq {k l : Int} (hk : k.natAbs ≤ Nat.pow 2 53) (hl : l.natAbs ≤ Nat.pow 2 53)
    (h : ofInt k = ofInt l) : k = l := by
  apply eq_of_toString_eq
  rw [← text_ofInt hk, ← text_ofInt hl, h]

end Number

end Stencil
