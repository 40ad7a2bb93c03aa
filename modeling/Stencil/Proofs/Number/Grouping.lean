import Mathlib.Data.List.Basic
import Mathlib.Data.List.TakeWhile
import Stencil.Modifier.Builtin
import Stencil.Proofs.Number.Exact

/-!
# Digits in groups

Going through digits from the left, a comma is put wherever a whole number of groups of three is
left.  That cuts them into groups of exactly three behind a first group of one to three, as an
induction on the digits shows: the digit in front either opens a new first group, if the one
behind it is full, or joins it.

The digits are those of the value rounded, and the sign is that of the rounded value.  So with
the commas deleted the text reads back as the integer, and that integer is a number of double
precision itself: above `2 ^ 53` nothing is rounded off, and up to there every integer is a
number.
-/

namespace Stencil

namespace Number

/-! ## Groups of three -/

/-- Digits cut into groups of three behind a first group of one to three. -/
structure IsGrouping (digits first : List Char) (more : List (List Char)) : Prop where
  first_pos : 1 ≤ first.length
  first_le : first.length ≤ 3
  length_more : ∀ group ∈ more, group.length = 3
  flatten : (first :: more).flatten = digits

namespace IsGrouping

variable {digits first : List Char} {more : List (List Char)} {digit : Char}

theorem length_flatten (h : IsGrouping digits first more) :
    digits.length = first.length + 3 * more.length := by
  have hmore : more.flatten.length = 3 * more.length := by
    rw [List.length_flatten, List.map_eq_replicate_iff.mpr h.length_more, List.sum_replicate_nat,
      Nat.mul_comm]
  rw [← h.flatten, List.flatten_cons, List.length_append, hmore]

/-- The first group is full exactly if the digits are a whole number of groups. -/
theorem length_first_iff (h : IsGrouping digits first more) :
    first.length = 3 ↔ digits.length % 3 = 0 := by
  have hlength := h.length_flatten
  have hpos := h.first_pos
  have hle := h.first_le
  omega

theorem head?_first (h : IsGrouping digits first more) : first.head? = digits.head? := by
  have hnonempty : first ≠ [] := List.length_pos_iff.mp h.first_pos
  rw [← h.flatten, List.flatten_cons, List.head?_append_of_ne_nil _ hnonempty]

theorem single (digit : Char) : IsGrouping [digit] [digit] [] := by
  constructor
  · exact Nat.le_refl 1
  · exact Nat.le_add_left 1 2
  · intro group hgroup
    cases hgroup
  · rfl

/-- Behind a full group a digit is a first group of its own. -/
theorem open_group (h : IsGrouping digits first more) (hfull : first.length = 3) :
    IsGrouping (digit :: digits) [digit] (first :: more) := by
  constructor
  · exact Nat.le_refl 1
  · exact Nat.le_add_left 1 2
  · intro group hgroup
    rcases List.mem_cons.mp hgroup with rfl | hmore
    · exact hfull
    · exact h.length_more group hmore
  · rw [List.flatten_cons, h.flatten]
    rfl

/-- In front of a group that is not full a digit joins it. -/
theorem join_group (h : IsGrouping digits first more) (hroom : first.length ≠ 3) :
    IsGrouping (digit :: digits) (digit :: first) more := by
  have hle := h.first_le
  constructor
  · exact Nat.le_add_left 1 _
  · rw [List.length_cons]
    omega
  · exact h.length_more
  · rw [← h.flatten]
    rfl

end IsGrouping

/-- Grouped digits are groups with commas between them. -/
theorem exists_isGrouping {digits : List Char} (h : digits ≠ []) :
    ∃ first more, IsGrouping digits first more ∧
      groupedDigits digits = [','].intercalate (first :: more) := by
  induction digits with
  | nil => exact absurd rfl h
  | cons digit rest ih =>
      rw [groupedDigits]
      by_cases hrest : rest = []
      · subst hrest
        exact ⟨[digit], [], IsGrouping.single digit, rfl⟩
      · obtain ⟨first, more, hgrouping, hgrouped⟩ := ih hrest
        have hnonempty : rest.isEmpty = false := List.isEmpty_eq_false_iff.mpr hrest
        rw [hgrouped]
        by_cases hwhole : rest.length % 3 = 0
        · have hfull := hgrouping.length_first_iff.mpr hwhole
          refine ⟨[digit], first :: more, hgrouping.open_group hfull, ?_⟩
          rw [if_pos ⟨hnonempty, hwhole⟩, List.intercalate_cons_cons]
          rfl
        · have hroom := mt hgrouping.length_first_iff.mp hwhole
          refine ⟨digit :: first, more, hgrouping.join_group hroom, ?_⟩
          rw [if_neg (fun hboth => hwhole hboth.2)]
          cases more with
          | nil => simp
          | cons group more => simp

theorem filter_groupedDigits {digits : List Char} (h : ',' ∉ digits) :
    (groupedDigits digits).filter (· ≠ ',') = digits := by
  induction digits with
  | nil => rfl
  | cons digit rest ih =>
      have hrest : ',' ∉ rest := List.not_mem_of_not_mem_cons h
      have hdigit : digit ≠ ',' := (List.ne_of_not_mem_cons h).symm
      rw [groupedDigits]
      split
      · simpa [hdigit] using ih hrest
      · simpa [hdigit] using ih hrest

/-! ## Digits without a leading zero -/

theorem head?_toDigits_iff (n : Nat) : (Nat.toDigits 10 n).head? = some '0' ↔ n = 0 := by
  constructor
  · intro h
    induction n using Nat.strongRecOn with
    | ind n ih =>
        by_cases hlt : n < 10
        · rw [Nat.toDigits_of_lt_base hlt, List.head?_cons, Option.some_inj] at h
          rw [← digitValue_digitChar hlt, h]
          rfl
        · have hle : 10 ≤ n := Nat.not_lt.mp hlt
          rw [Nat.toDigits_of_base_le (by decide) hle,
            List.head?_append_of_ne_nil _ Nat.toDigits_ne_nil] at h
          have hzero := ih (n / 10) (by omega) h
          omega
  · rintro rfl
    rfl

/-! ## Reading an integer back -/

theorem toLower_of_isDigit {c : Char} (h : c.isDigit = true) : c.toLower = c := by
  rw [Char.isDigit, Bool.and_eq_true, decide_eq_true_eq, decide_eq_true_eq] at h
  have hnotUpper : ¬ (c.val ≥ 'A'.val ∧ c.val ≤ 'Z'.val) := by
    intro hupper
    have hletter := UInt32.le_trans hupper.1 h.2
    exact absurd hletter (by decide)
  exact dif_neg hnotUpper

theorem takeSign_signText (negative : Bool) (n : Nat) :
    Numeral.takeSign (signText negative (Nat.toDigits 10 n)) = (negative, Nat.toDigits 10 n) := by
  cases negative with
  | true => rfl
  | false =>
      have hminus := not_mem_toDigits (c := '-') (by decide) n
      have hplus := not_mem_toDigits (c := '+') (by decide) n
      change Numeral.takeSign (Nat.toDigits 10 n) = (false, Nat.toDigits 10 n)
      generalize Nat.toDigits 10 n = digits at hminus hplus ⊢
      rw [Numeral.takeSign.eq_def]
      split
      · exact absurd List.mem_cons_self hminus
      · exact absurd List.mem_cons_self hplus
      · rfl

/-- Digits alone are read as the integer that they write. -/
theorem readUnsigned?_toDigits (negative : Bool) (n : Nat) :
    Numeral.readUnsigned? negative (Nat.toDigits 10 n) = some (.decimal negative n 0) := by
  obtain ⟨hnonempty, hdigits⟩ := isDigitRun_toDigits n
  have htake : (Nat.toDigits 10 n).takeWhile Char.isDigit = Nat.toDigits 10 n :=
    List.takeWhile_eq_self_iff.mpr hdigits
  have hdrop : (Nat.toDigits 10 n).dropWhile Char.isDigit = [] :=
    List.dropWhile_eq_nil_iff.mpr hdigits
  simp [Numeral.readUnsigned?, htake, hdrop, Numeral.takeFraction, Numeral.readExponent?,
    hnonempty, digitsValue_toDigits]

/-- Digits with an optional sign are read as the integer that they write. -/
theorem read?_signText (negative : Bool) (n : Nat) :
    Numeral.read? (String.ofList (signText negative (Nat.toDigits 10 n))) =
      some (.decimal negative n 0) := by
  have hlower : (Nat.toDigits 10 n).map Char.toLower = Nat.toDigits 10 n := by
    rw [List.map_congr_left fun c hc => toLower_of_isDigit ((isDigitRun_toDigits n).2 c hc),
      List.map_id']
  have hname {name : String} (h : String.ofList (Nat.toDigits 10 n) = name) :
      name.toList.all Char.isDigit = true := by
    rw [← h, String.toList_ofList, List.all_eq_true]
    exact (isDigitRun_toDigits n).2
  rw [Numeral.read?, String.toList_ofList, takeSign_signText]
  dsimp only
  rw [hlower]
  split
  · rename_i h
    exact absurd (hname h) (by decide)
  · rename_i h
    exact absurd (hname h) (by decide)
  · rename_i h
    exact absurd (hname h) (by decide)
  · exact readUnsigned?_toDigits negative n

/-! ## The nearest integer is a number -/

/-- A whole count is rounded to itself. -/
theorem roundHalfUp_mul (n : Nat) {d : Nat} (hd : 0 < d) : roundHalfUp (n * d) d = n := by
  have hproduct : n * (2 * d) = 2 * (n * d) := Nat.mul_left_comm n 2 d
  rw [roundHalfUp]
  apply Nat.div_eq_of_lt_le
  · rw [hproduct]
    exact Nat.le_add_right _ _
  · rw [Nat.add_mul, hproduct]
    omega

theorem roundHalfUp_le {n d bound : Nat} (hd : 0 < d) (h : n < bound * d) :
    roundHalfUp n d ≤ bound := by
  rw [roundHalfUp, ← Nat.lt_succ_iff, Nat.div_lt_iff_lt_mul (by omega)]
  have hproduct : bound.succ * (2 * d) = 2 * (bound * d) + 2 * d := by
    rw [Nat.succ_mul, Nat.mul_left_comm]
  rw [hproduct]
  omega

theorem magnitude_lt_of_lt {significand exponent : Nat} (canonical : Canonical significand exponent)
    (h : exponent < 1074) : magnitude significand exponent < Nat.pow 2 52 * unitsPerOne := by
  delta magnitude unitsPerOne
  generalize 1074 = places at h ⊢
  have hpower : 2 * Nat.pow 2 exponent ≤ Nat.pow 2 places := by
    rw [Nat.pow_eq, Nat.pow_eq, ← Nat.pow_succ']
    exact Nat.pow_le_pow_right (by decide) h
  calc
    significand * Nat.pow 2 exponent < Nat.pow 2 53 * Nat.pow 2 exponent :=
      Nat.mul_lt_mul_of_pos_right canonical.1 (Nat.two_pow_pos exponent)
    _ = Nat.pow 2 52 * (2 * Nat.pow 2 exponent) := (Nat.mul_assoc (Nat.pow 2 52) 2 _)
    _ ≤ Nat.pow 2 52 * Nat.pow 2 places := Nat.mul_le_mul_left _ hpower

/-- From the exponent of one on nothing is rounded off, and below it the nearest integer is less
than `2 ^ 53`. -/
theorem exists_canonical_roundHalfUp {significand exponent : Nat}
    (canonical : Canonical significand exponent) :
    ∃ significand' exponent', Canonical significand' exponent' ∧
      magnitude significand' exponent' =
        roundHalfUp (magnitude significand exponent) unitsPerOne * unitsPerOne := by
  rcases Nat.lt_or_ge exponent 1074 with hlt | hge
  · have hle := roundHalfUp_le unitsPerOne_pos (magnitude_lt_of_lt canonical hlt)
    generalize roundHalfUp (magnitude significand exponent) unitsPerOne = k at hle ⊢
    exact exists_canonical_of_lt (Nat.lt_of_le_of_lt hle (by decide))
  · obtain ⟨k, hk⟩ := unitsPerOne_dvd_magnitude hge significand
    refine ⟨significand, exponent, canonical, ?_⟩
    rw [hk, Nat.mul_comm, roundHalfUp_mul k unitsPerOne_pos]

theorem natAbs_signed (negative : Bool) (count : Nat) : (signed negative count).natAbs = count := by
  cases negative with
  | false => exact Int.natAbs_natCast count
  | true => rw [signed_true, Int.natAbs_neg, Int.natAbs_natCast]

/-- The integer nearest to a number is a number. -/
theorem toRat?_ofInt_of_nearestInt? {n : Number} {r : ℤ} (h : n.nearestInt? = some r) :
    (ofInt r).toRat? = some (r : ℚ) := by
  cases n with
  | nan => cases h
  | infinite negative => cases h
  | finite negative significand exponent canonical =>
      obtain ⟨significand', exponent', hcanonical, hmagnitude⟩ :=
        exists_canonical_roundHalfUp canonical
      rw [nearestInt?, Option.some_inj] at h
      apply toRat?_ofInt hcanonical
      rw [hmagnitude, ← h, natAbs_signed]

/-! ## The text -/

theorem filter_signText {c : Char} (hc : c ≠ '-') (negative : Bool) (text : List Char) :
    (signText negative text).filter (· ≠ c) = signText negative (text.filter (· ≠ c)) := by
  cases negative with
  | false => rfl
  | true =>
      simp [signText, hc.symm]

end Number

namespace Modifier

open Number

variable {σ : Type}

theorem formatNumber_of_nearestInt? {value : Value} {n : Number} {r : ℤ}
    (hnumber : value.toNumber? = some n) (h : n.nearestInt? = some r) :
    formatNumber value = .string (groupedInt r) := by
  have htext : n.groupedText = groupedInt r := by
    rw [groupedText, h]
  rw [formatNumber, hnumber, ← htext]

/-- A finite number is formatted as the digits of its value rounded, a half going away from
zero, with no zero in front, in groups of three behind a first group of one to three, and with a
sign exactly if the rounded value is below zero.  With the commas deleted the text reads back as
the rounded value. -/
theorem apply_number_format {value : Value} {n : Number} {q : ℚ}
    (hnumber : value.toNumber? = some n) (hvalue : n.toRat? = some q) (host : σ) :
    ∃ (r : ℤ) (text : String) (first : List Char) (more : List (List Char)),
      IsRoundingOf r q ∧ (∀ s, IsRoundingOf s q → s = r) ∧
      Registry.builtin.apply "number_format" value host = (.string text, host) ∧
      text.toList = signText (r < 0) ([','].intercalate (first :: more)) ∧
      IsGrouping (Nat.toDigits 10 r.natAbs) first more ∧
      (first.head? = some '0' ↔ r = 0) ∧ (r = 0 → text = "0") ∧
      Numeral.read? (String.ofList (text.toList.filter (· ≠ ','))) =
        some (.decimal (r < 0) r.natAbs 0) ∧
      (Numeral.decimal (r < 0) r.natAbs 0).toNumber.toRat? = some (r : ℚ) := by
  obtain ⟨r, hr, hrounding⟩ := exists_nearestInt? hvalue
  obtain ⟨first, more, hgrouping, hgrouped⟩ :=
    exists_isGrouping (Nat.toDigits_ne_nil (b := 10) (n := r.natAbs))
  refine ⟨r, groupedInt r, first, more, hrounding, fun s hs => hs.unique hrounding, ?_, ?_,
    hgrouping, ?_, ?_, ?_, ?_⟩
  · rw [← formatNumber_of_nearestInt? hnumber hr]
    rfl
  · rw [groupedInt, String.toList_ofList, hgrouped]
  · rw [hgrouping.head?_first]
    exact head?_toDigits_iff r.natAbs |>.trans Int.natAbs_eq_zero
  · rintro rfl
    rfl
  · rw [groupedInt, String.toList_ofList, filter_signText (by decide),
      filter_groupedDigits (not_mem_toDigits (by decide) _), read?_signText]
  · rw [Numeral.toNumber, ofDecimal, decimalRatio_zero]
    exact toRat?_ofInt_of_nearestInt? hr

/-- A number half way between two integers, below zero and inside an optional layer: `-1234.5`
is formatted as `-1,235`. -/
theorem apply_number_format_half :
    let n := Number.finite true (2469 * 2 ^ 41) 1032 (by decide)
    let value := Value.present (.number n)
    value.toNumber? = some n ∧ n.toRat? = some (-2469 / 2) ∧
      ∃ (r : ℤ) (text : String) (first : List Char) (more : List (List Char)),
        IsRoundingOf r (-2469 / 2) ∧ (∀ s, IsRoundingOf s (-2469 / 2) → s = r) ∧
        Registry.builtin.apply "number_format" value () = (.string text, ()) ∧
        text.toList = signText (r < 0) ([','].intercalate (first :: more)) ∧
        IsGrouping (Nat.toDigits 10 r.natAbs) first more ∧
        (first.head? = some '0' ↔ r = 0) ∧ (r = 0 → text = "0") ∧
        Numeral.read? (String.ofList (text.toList.filter (· ≠ ','))) =
          some (.decimal (r < 0) r.natAbs 0) ∧
        (Numeral.decimal (r < 0) r.natAbs 0).toNumber.toRat? = some (r : ℚ) ∧
        r = -1235 ∧ text = "-1,235" := by
  intro n value
  have hnumber : value.toNumber? = some n := rfl
  have hvalue : n.toRat? = some (-2469 / 2) := by
    simp only [n, toRat?]
    norm_num [signed]
  have hhalf : IsRoundingOf (-1235) (-2469 / 2) := by
    constructor
    · norm_num
    · intro
      norm_num
  have htext : n.groupedText = "-1,235" := by
    decide +kernel
  obtain ⟨r, text, first, more, hrounding, hunique, happly, hsign, hgrouping, hlead, hzero, hread,
    hback⟩ :=
    apply_number_format hnumber hvalue ()
  have hformatted : Value.string n.groupedText = .string text := congrArg Prod.fst happly
  refine ⟨hnumber, hvalue, r, text, first, more, hrounding, hunique, happly, hsign, hgrouping,
    hlead, hzero, hread, hback, (hunique _ hhalf).symm, ?_⟩
  rw [← Value.string.inj hformatted, htext]

end Modifier

end Stencil
