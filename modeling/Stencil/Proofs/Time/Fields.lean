import Mathlib.Algebra.Ring.Nat
import Stencil.Proofs.Token.Lexemes
import Stencil.Time.Rfc3339

/-!
# Fields of a timestamp, written and read

What is written in a fixed number of digits is read back off the front of any text that goes on
behind it, and so are the fraction of a second and the offset, each in front of what can follow
it.  Readings are put together from readings of parts: one that succeeds hands the rest of the
text on, and one as a whole succeeds only if all its parts do.
-/

namespace Stencil

namespace Timestamp

/-! ## Readings one after the other -/

variable {α β : Type}

theorem bind_of_ok {reading : Reading α} {text rest : List Char} {value : α}
    (h : reading text = .ok (value, rest)) (next : α → Reading β) :
    (reading >>= next) text = next value rest := by
  change (reading text >>= fun result => next result.1 result.2) = _
  rw [h]
  rfl

theorem bind_eq_ok {reading : Reading α} {next : α → Reading β} {text : List Char}
    {result : β × List Char} (h : (reading >>= next) text = .ok result) :
    ∃ value rest, reading text = .ok (value, rest) ∧ next value rest = .ok result := by
  change (reading text >>= fun result => next result.1 result.2) = _ at h
  cases hreading : reading text with
  | error error =>
      rw [hreading] at h
      cases h
  | ok found =>
      rw [hreading] at h
      exact ⟨found.1, found.2, rfl, h⟩

theorem readMark_cons {allowed : Char → Bool} {c : Char} (h : allowed c = true) (rest : List Char) :
    readMark allowed (c :: rest) = .ok ((), rest) := by
  rw [readMark, if_pos h]

theorem inRange_of {holds : Bool} (h : holds = true) (text : List Char) :
    inRange holds text = .ok ((), text) := by
  rw [inRange, if_pos h]
  rfl

/-! ## Numbers in a fixed number of digits -/

theorem length_padded {width n : Nat} (hwidth : 0 < width) (h : n < 10 ^ width) :
    (padded width n).length = width := by
  have hle : (Nat.toDigits 10 n).length ≤ width :=
    (Nat.length_toDigits_le_iff (by decide) hwidth).mpr h
  rw [padded, List.length_append, List.length_replicate]
  omega

theorem width_le_length_padded (width n : Nat) : width ≤ (padded width n).length := by
  rw [padded, List.length_append, List.length_replicate]
  omega

theorem isDigit_of_mem_padded (width n : Nat) : ∀ c ∈ padded width n, c.isDigit = true := by
  intro c hc
  rcases List.mem_append.mp hc with hzero | hdigit
  · rw [List.eq_of_mem_replicate hzero]
    rfl
  · exact (Number.isDigitRun_toDigits n).2 c hdigit

theorem digitsValue_padded (width n : Nat) : Number.digitsValue (padded width n) = n := by
  have hzeros (count : Nat) : Number.digitsValue (List.replicate count '0') = 0 := by
    induction count with
    | zero => rfl
    | succ count ih =>
        rw [List.replicate_succ', Number.digitsValue_append, ih]
        rfl
  refine Eq.trans ?_ (Number.digitsValue_toDigits n)
  rw [padded, Number.digitsValue, List.foldl_append, ← Number.digitsValue, hzeros]
  rfl

theorem length_le_byteLength (text : List Char) : text.length ≤ byteLength text := by
  induction text with
  | nil => exact Nat.le_refl _
  | cons c rest ih =>
      have hpos := c.utf8Size_pos
      change rest.length + 1 ≤ c.utf8Size + byteLength rest
      omega

theorem takeDigits_append {digits : List Char} (h : ∀ c ∈ digits, c.isDigit = true) (value : Nat)
    (rest : List Char) :
    takeDigits digits.length value (digits ++ rest) =
      .ok (digits.foldl (fun value c => 10 * value + Number.digitValue c) value, rest) := by
  induction digits generalizing value with
  | nil => rfl
  | cons c further ih =>
      obtain ⟨hc, hfurther⟩ := List.forall_mem_cons.mp h
      rw [List.length_cons, List.cons_append, takeDigits, if_pos hc]
      exact ih hfurther _

/-- A number is read off the front of a text that begins with it. -/
theorem readField_padded {width n : Nat} (hwidth : 0 < width) (h : n < 10 ^ width)
    (rest : List Char) : readField width (padded width n ++ rest) = .ok (n, rest) := by
  have hlength := length_padded hwidth h
  have hbytes : ¬ byteLength (padded width n ++ rest) < width := by
    have hle := length_le_byteLength (padded width n ++ rest)
    rw [List.length_append, hlength] at hle
    omega
  have htake := takeDigits_append (isDigit_of_mem_padded width n) 0 rest
  rw [hlength] at htake
  rw [readField, if_neg hbytes, htake]
  exact congrArg (fun value => Except.ok (value, rest)) (digitsValue_padded width n)

/-- The first character that a number is read off is a digit. -/
theorem isDigit_of_readField {width n : Nat} {c : Char} {text rest : List Char}
    (h : readField (width + 1) (c :: text) = .ok (n, rest)) : c.isDigit = true := by
  rw [readField] at h
  split at h
  · cases h
  · rw [takeDigits] at h
    split at h
    · assumption
    · cases h

/-! ## The fraction of a second -/

theorem readFraction_append {digits rest : List Char} (hne : digits ≠ [])
    (hdigits : ∀ c ∈ digits, c.isDigit = true) (hlength : digits.length ≤ 9)
    (hrest : ∀ c ∈ rest.head?, c.isDigit = false) :
    readFraction (digits ++ rest) =
      .ok (Number.digitsValue digits * 10 ^ (9 - digits.length), rest) := by
  cases digits with
  | nil => exact absurd rfl hne
  | cons c further =>
      obtain ⟨hc, hfurther⟩ := List.forall_mem_cons.mp hdigits
      have hkept := Cut.takeWhile_append hdigits hrest
      have hleft := Cut.dropWhile_append hfurther hrest
      rw [List.cons_append] at hkept ⊢
      rw [readFraction, if_pos hc, hkept, hleft, List.take_of_length_le hlength]
      rfl

theorem readNanoseconds_point {width n : Nat} (hwidth : 0 < width) (hnine : width ≤ 9)
    (h : n < 10 ^ width) {rest : List Char} (hrest : ∀ c ∈ rest.head?, c.isDigit = false) :
    readNanoseconds (('.' :: padded width n) ++ rest) = .ok (n * 10 ^ (9 - width), rest) := by
  have hlength := length_padded hwidth h
  have hne : padded width n ≠ [] := by
    apply List.ne_nil_of_length_pos
    omega
  have hfraction := readFraction_append hne (isDigit_of_mem_padded width n) (by omega) hrest
  rw [digitsValue_padded, hlength] at hfraction
  exact hfraction

/-- The fraction of a second is read back as its nanoseconds, in front of what goes on neither
with a digit nor with a point. -/
theorem readNanoseconds_fractionText {n : Nat} (h : n < 10 ^ 9) {rest : List Char}
    (hrest : ∀ c ∈ rest.head?, c.isDigit = false ∧ c ≠ '.') :
    readNanoseconds (fractionText n ++ rest) = .ok (n, rest) := by
  have hdigit : ∀ c ∈ rest.head?, c.isDigit = false := fun c hc => (hrest c hc).1
  rw [fractionText]
  split
  · rename_i hzero
    subst hzero
    cases rest with
    | nil => rfl
    | cons c further =>
        have hpoint : c ≠ '.' := (hrest c rfl).2
        rw [List.nil_append, readNanoseconds]
        rintro _ ⟨⟩
        exact hpoint rfl
  · split
    · rename_i hmilli
      rw [readNanoseconds_point (by decide) (by decide) (by omega) hdigit]
      have hback : n / 1000000 * 10 ^ (9 - 3) = n :=
        Nat.div_mul_cancel (Nat.dvd_of_mod_eq_zero hmilli)
      rw [hback]
    · split
      · rename_i hmicro
        rw [readNanoseconds_point (by decide) (by decide) (by omega) hdigit]
        have hback : n / 1000 * 10 ^ (9 - 6) = n :=
          Nat.div_mul_cancel (Nat.dvd_of_mod_eq_zero hmicro)
        rw [hback]
      · rw [readNanoseconds_point (by decide) (by decide) h hdigit, Nat.sub_self, Nat.pow_zero,
          Nat.mul_one]

/-! ## The offset -/

theorem head?_offsetText (offset : Int) :
    ∀ c ∈ (offsetText offset).head?, c.isDigit = false ∧ c ≠ '.' := by
  rw [offsetText]
  split
  · rintro _ ⟨⟩
    decide
  · simp only
    split
    · rintro _ ⟨⟩
      decide
    · rintro _ ⟨⟩
      decide

theorem readSignedOffset_padded (negative : Bool) {minutes : Nat} (h : minutes < 1440) :
    readSignedOffset negative (padded 2 (minutes / 60) ++ ':' :: padded 2 (minutes % 60)) =
      .ok (Number.signed negative (60 * minutes), []) := by
  have hhours : minutes / 60 < 10 ^ 2 := by omega
  have hminutes : minutes % 60 < 10 ^ 2 := by omega
  have hrange : decide (minutes % 60 < 60) = true := decide_eq_true (by omega)
  have hend := readField_padded (by decide) hminutes []
  rw [List.append_nil] at hend
  rw [readSignedOffset]
  refine (bind_of_ok (readField_padded (by decide) hhours _) _).trans ?_
  refine (bind_of_ok (readMark_cons (by decide) _) _).trans ?_
  refine (bind_of_ok hend _).trans ?_
  refine (bind_of_ok (inRange_of hrange []) _).trans ?_
  have hsum : 3600 * (minutes / 60) + 60 * (minutes % 60) = 60 * minutes := by omega
  rw [hsum]
  rfl

/-- An offset of whole minutes is read back, if it is less than a day. -/
theorem readOffset_offsetText {offset : Int} (hminutes : offset % 60 = 0)
    (h : offset.natAbs < 86400) :
    readOffset (offsetText offset) = .ok (offset, []) := by
  rw [offsetText]
  split
  · rename_i hzero
    rw [hzero]
    rfl
  · generalize hcount : (offset.natAbs + 30) / 60 = minutes
    have hday : minutes < 1440 := by omega
    have hread (negative : Bool) := readSignedOffset_padded negative hday
    simp only
    split
    · rename_i hnegative
      have hoffset : Number.signed true (60 * minutes) = offset := by
        rw [Number.signed, if_pos rfl]
        omega
      rw [← hoffset]
      exact hread true
    · have hoffset : Number.signed false (60 * minutes) = offset := by
        rw [Number.signed, if_neg Bool.false_ne_true]
        omega
      rw [← hoffset]
      exact hread false

/-- Offsets are read in whole minutes. -/
theorem minutes_of_readOffset {text rest : List Char} {offset : Int}
    (h : readOffset text = .ok (offset, rest)) : offset % 60 = 0 := by
  have hsigned {negative : Bool} {text : List Char}
      (h : readSignedOffset negative text = .ok (offset, rest)) : offset % 60 = 0 := by
    obtain ⟨hours, _, -, h⟩ := bind_eq_ok h
    obtain ⟨_, _, -, h⟩ := bind_eq_ok h
    obtain ⟨minutes, _, -, h⟩ := bind_eq_ok h
    obtain ⟨_, _, -, h⟩ := bind_eq_ok h
    cases h
    rw [Number.signed]
    split <;> omega
  cases text with
  | nil => cases h
  | cons c further =>
      rw [readOffset] at h
      split at h
      · cases h
        rfl
      · split at h
        · exact hsigned h
        · split at h
          · exact hsigned h
          · cases h

end Timestamp

end Stencil
