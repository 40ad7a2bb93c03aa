import Mathlib.Tactic.ByContra
import Stencil.Host.Typed
import Stencil.Proofs.Host.Order
import Stencil.Proofs.Time.Calendar
import Stencil.Proofs.Time.Fields

/-!
# Timestamps written and read back

A timestamp is written as its clock shows it.  Reading that text gives the day of the date and
the second of the day back, and with them the instant, provided that the format knows the year
and the offset is one of whole minutes.  Of any other year the sign in front is not read, and
any other offset is not written as it is.

A leap second is written as second sixty behind fifty-nine, and read back as what it was.
Elsewhere it could not be told from the second that follows.
-/

namespace Stencil

namespace Timestamp

/-! ## The parts of a text -/

theorem readDate_append {date : Date} (hvalid : date.isValid = true)
    (hyear : 0 ≤ date.year ∧ date.year ≤ 9999) (rest : List Char) :
    readDate (padded 4 date.year.natAbs ++ ('-' :: (padded 2 date.month ++
      ('-' :: (padded 2 date.day ++ rest))))) = .ok (date, rest) := by
  obtain ⟨year, month, day⟩ := date
  obtain ⟨hmonth, -, hday⟩ := (Date.isValid_iff _).mp hvalid
  have hdays : Date.daysInMonth year month ≤ 31 := by
    rw [Date.daysInMonth]
    split_ifs <;> decide
  simp only at hyear hmonth hday ⊢
  have hcount : ((year.natAbs : Nat) : Int) = year := Int.natAbs_of_nonneg hyear.1
  have hread : (⟨(year.natAbs : Nat), month, day⟩ : Date).isValid = true := by
    rwa [hcount]
  rw [readDate]
  refine (bind_of_ok (readField_padded (by decide) (by omega) _) _).trans ?_
  refine (bind_of_ok (readMark_cons (by decide) _) _).trans ?_
  refine (bind_of_ok (readField_padded (by decide) (by omega) _) _).trans ?_
  refine (bind_of_ok (readMark_cons (by decide) _) _).trans ?_
  refine (bind_of_ok (readField_padded (by decide) (by omega) _) _).trans ?_
  refine (bind_of_ok (inRange_of hread _) _).trans ?_
  rw [hcount]
  rfl

/-- Second sixty is read as the leap second behind fifty-nine. -/
theorem readClock_append {hour minute second nanoseconds : Nat} (hhour : hour < 24)
    (hminute : minute < 60) (hsecond : second ≤ 60) (hnanoseconds : nanoseconds < 10 ^ 9)
    {rest : List Char} (hrest : ∀ c ∈ rest.head?, c.isDigit = false ∧ c ≠ '.') :
    readClock (padded 2 hour ++ (':' :: (padded 2 minute ++ (':' :: (padded 2 second ++
        (fractionText nanoseconds ++ rest)))))) =
      .ok (if second = 60 then (3600 * hour + 60 * minute + 59, nanoseconds + 1000000000)
        else (3600 * hour + 60 * minute + second, nanoseconds), rest) := by
  have hrange : (decide (hour < 24) && decide (minute < 60) && decide (second ≤ 60)) = true := by
    simp [hhour, hminute, hsecond]
  rw [readClock]
  refine (bind_of_ok (readField_padded (by decide) (by omega) _) _).trans ?_
  refine (bind_of_ok (readMark_cons (by decide) _) _).trans ?_
  refine (bind_of_ok (readField_padded (by decide) (by omega) _) _).trans ?_
  refine (bind_of_ok (readMark_cons (by decide) _) _).trans ?_
  refine (bind_of_ok (readField_padded (by decide) (by omega) _) _).trans ?_
  refine (bind_of_ok (readNanoseconds_fractionText hnanoseconds hrest) _).trans ?_
  refine (bind_of_ok (inRange_of hrange _) _).trans ?_
  split <;> rfl

/-! ## The whole text -/

/-- What the text of a timestamp is read as: itself, except that a leap second elsewhere than
behind second fifty-nine is taken for the next second. -/
def asRead (t : Timestamp) : Timestamp :=
  if 1000000000 ≤ t.nanoseconds ∧ t.seconds % 60 ≠ 59 then
    ⟨t.seconds + 1, t.nanoseconds - 1000000000, t.offset⟩
  else t

theorem clockText_append {t : Timestamp} (hyear : 0 ≤ t.localDate.year ∧ t.localDate.year ≤ 9999)
    (rest : List Char) :
    t.clockText ++ rest =
      padded 4 t.localDate.year.natAbs ++ ('-' :: (padded 2 t.localDate.month ++
        ('-' :: (padded 2 t.localDate.day ++ ('T' :: (padded 2 (t.secondOfDay / 3600) ++
          (':' :: (padded 2 (t.secondOfDay / 60 % 60) ++
            (':' :: (padded 2 (t.secondOfDay % 60 + t.nanoseconds / 1000000000) ++
              (fractionText (t.nanoseconds % 1000000000) ++ rest))))))))))) := by
  simp only [clockText, yearText, if_pos hyear, List.append_assoc, List.cons_append]

/-- The time of day is read back with the day of the date to the instant that the text is read
as. -/
theorem readClock_clockText {t : Timestamp} (hnanoseconds : t.nanoseconds < 2000000000)
    (hminutes : t.offset % 60 = 0) :
    ∃ second nanoseconds,
      readClock (padded 2 (t.secondOfDay / 3600) ++ (':' :: (padded 2 (t.secondOfDay / 60 % 60) ++
          (':' :: (padded 2 (t.secondOfDay % 60 + t.nanoseconds / 1000000000) ++
            (fractionText (t.nanoseconds % 1000000000) ++ offsetText t.offset)))))) =
        .ok ((second, nanoseconds), offsetText t.offset) ∧
      86400 * t.localDate.toDays + second - t.offset = t.asRead.seconds ∧
        nanoseconds = t.asRead.nanoseconds := by
  have hday : t.localDate.toDays = t.localSeconds / 86400 := Date.toDays_ofDays _
  have hlocal : t.localSeconds = t.seconds + t.offset := rfl
  have hsecond : (t.secondOfDay : Int) = t.localSeconds % 86400 :=
    Int.toNat_of_nonneg (Int.emod_nonneg _ (by decide))
  have hread := readClock_append (by omega : t.secondOfDay / 3600 < 24)
    (by omega : t.secondOfDay / 60 % 60 < 60)
    (by omega : t.secondOfDay % 60 + t.nanoseconds / 1000000000 ≤ 60)
    (by omega : t.nanoseconds % 1000000000 < 10 ^ 9) (head?_offsetText t.offset)
  rw [hday, asRead]
  by_cases hleap : 1000000000 ≤ t.nanoseconds
  · by_cases hlast : t.seconds % 60 = 59
    · have hsixty : t.secondOfDay % 60 + t.nanoseconds / 1000000000 = 60 := by omega
      rw [if_pos hsixty] at hread
      rw [if_neg (fun h => h.2 hlast)]
      exact ⟨_, _, hread, by omega, by omega⟩
    · have hsixty : t.secondOfDay % 60 + t.nanoseconds / 1000000000 ≠ 60 := by omega
      rw [if_neg hsixty] at hread
      simp only [if_pos (And.intro hleap hlast)]
      exact ⟨_, _, hread, by omega, by omega⟩
  · have hsixty : t.secondOfDay % 60 + t.nanoseconds / 1000000000 ≠ 60 := by omega
    rw [if_neg hsixty] at hread
    rw [if_neg (fun h => hleap h.1)]
    exact ⟨_, _, hread, by omega, by omega⟩

theorem offset_asRead (t : Timestamp) : t.asRead.offset = t.offset := by
  rw [asRead]
  split <;> rfl

/-- Every timestamp writes at least a date and a time of day. -/
theorem length_clockText (t : Timestamp) : 19 ≤ t.clockText.length := by
  have hyear : 4 ≤ (yearText t.localDate.year).length := by
    have hdigits := width_le_length_padded 4 t.localDate.year.natAbs
    rw [yearText]
    split
    · exact hdigits
    · split <;> exact Nat.le_succ_of_le hdigits
  have hmonth := width_le_length_padded 2 t.localDate.month
  have hday := width_le_length_padded 2 t.localDate.day
  have hhour := width_le_length_padded 2 (t.secondOfDay / 3600)
  have hminute := width_le_length_padded 2 (t.secondOfDay / 60 % 60)
  have hsecond := width_le_length_padded 2 (t.secondOfDay % 60 + t.nanoseconds / 1000000000)
  simp only [clockText, List.length_append, List.length_cons]
  omega

/-- The text of a timestamp is read, if the format knows the year and the offset is one of whole
minutes. -/
theorem read_text {t : Timestamp} (hnanoseconds : t.nanoseconds < 2000000000)
    (hoffset : t.offset.natAbs < 86400)
    (hyear : 0 ≤ t.localDate.year ∧ t.localDate.year ≤ 9999) (hminutes : t.offset % 60 = 0) :
    read t.text = .ok t.asRead := by
  obtain ⟨second, nanoseconds, hclock, hseconds, hrest⟩ := readClock_clockText hnanoseconds hminutes
  have hdate : t.localDate.isValid = true := Date.isValid_ofDays _
  have hresult :
      (⟨86400 * t.localDate.toDays + second - t.offset, nanoseconds, t.offset⟩ : Timestamp) =
        t.asRead := by
    rw [hseconds, hrest, ← offset_asRead]
  have hfields : readFields (t.clockText ++ offsetText t.offset) = .ok (t.asRead, []) := by
    rw [clockText_append hyear, readFields]
    refine (bind_of_ok (readDate_append hdate hyear _) _).trans ?_
    refine (bind_of_ok (readMark_cons (by decide) _) _).trans ?_
    refine (bind_of_ok hclock _).trans ?_
    refine (bind_of_ok (readOffset_offsetText hminutes hoffset) _).trans ?_
    refine (bind_of_ok (show readEnd [] = .ok ((), []) from rfl) _).trans ?_
    refine (bind_of_ok (inRange_of (decide_eq_true hoffset) []) _).trans ?_
    exact congrArg (fun result => Except.ok (result, [])) hresult
  have hbytes : ¬ byteLength (t.clockText ++ offsetText t.offset) < 19 := by
    have hle := length_le_byteLength (t.clockText ++ offsetText t.offset)
    have hlength := length_clockText t
    rw [List.length_append] at hle
    omega
  rw [read, text, String.toList_ofList, if_neg hbytes, hfields]
  rfl

/-! ## What cannot be read back -/

/-- A text that is read begins with a digit, and its offset is one of whole minutes. -/
theorem read_eq_ok {text : String} {t : Timestamp} (h : read text = .ok t) :
    (∃ c rest, text.toList = c :: rest ∧ c.isDigit = true) ∧ t.offset % 60 = 0 := by
  rw [read] at h
  split at h
  · cases h
  · obtain ⟨result, hfields, rfl⟩ := Except.map_eq_ok h
    obtain ⟨date, _, hdate, hrest⟩ := bind_eq_ok hfields
    constructor
    · obtain ⟨year, _, hyear, -⟩ := bind_eq_ok hdate
      cases htext : text.toList with
      | nil =>
          rw [htext] at hyear
          cases hyear
      | cons c rest =>
          rw [htext] at hyear
          exact ⟨c, rest, rfl, isDigit_of_readField hyear⟩
    · obtain ⟨_, _, -, hrest⟩ := bind_eq_ok hrest
      obtain ⟨clock, _, -, hrest⟩ := bind_eq_ok hrest
      obtain ⟨offset, _, hoffset, hrest⟩ := bind_eq_ok hrest
      obtain ⟨_, _, -, hrest⟩ := bind_eq_ok hrest
      obtain ⟨_, _, -, hrest⟩ := bind_eq_ok hrest
      cases hrest
      exact minutes_of_readOffset hoffset

/-- A year that the format does not know is written with a sign. -/
theorem head_text {t : Timestamp} (hyear : ¬ (0 ≤ t.localDate.year ∧ t.localDate.year ≤ 9999)) :
    ∃ c rest, t.text.toList = c :: rest ∧ c.isDigit = false := by
  rw [text, String.toList_ofList, clockText, yearText, if_neg hyear]
  split
  · exact ⟨'+', _, rfl, rfl⟩
  · exact ⟨'-', _, rfl, rfl⟩

/-- Reading the text of a timestamp gives the timestamp in exactly three circumstances at once:
the format knows the year, the offset is one of whole minutes, and a leap second stands behind
second fifty-nine. -/
theorem read_text_iff {t : Timestamp} (hnanoseconds : t.nanoseconds < 2000000000)
    (hoffset : t.offset.natAbs < 86400) :
    read t.text = .ok t ↔
      (0 ≤ t.localDate.year ∧ t.localDate.year ≤ 9999) ∧ t.offset % 60 = 0 ∧
        (1000000000 ≤ t.nanoseconds → t.seconds % 60 = 59) := by
  constructor
  · intro h
    obtain ⟨⟨c, rest, hdigits, hdigit⟩, hminutes⟩ := read_eq_ok h
    have hyear : 0 ≤ t.localDate.year ∧ t.localDate.year ≤ 9999 := by
      by_contra hout
      obtain ⟨sign, further, hsigned, hsign⟩ := head_text hout
      rw [hdigits] at hsigned
      cases hsigned
      exact Bool.false_ne_true (hsign.symm.trans hdigit)
    refine ⟨hyear, hminutes, ?_⟩
    intro hleap
    by_contra hlast
    rw [read_text hnanoseconds hoffset hyear hminutes, asRead, if_pos ⟨hleap, hlast⟩] at h
    have hback := congrArg nanoseconds (Except.ok.inj h)
    simp only at hback
    omega
  · rintro ⟨hyear, hminutes, hleap⟩
    rw [read_text hnanoseconds hoffset hyear hminutes, asRead, if_neg]
    rintro ⟨hlong, hlast⟩
    exact hlast (hleap hlong)

/-- What holds of every timestamp that a host can have: its nanoseconds are those of a second or
of one with a leap second in it, and its offset is less than a day. -/
structure Valid (t : Timestamp) : Prop where
  nanoseconds_lt : t.nanoseconds < 2000000000
  offset_lt : t.offset.natAbs < 86400

theorem asRead_of_long {t : Timestamp} (hlong : 1000000000 ≤ t.nanoseconds)
    (hlast : t.seconds % 60 ≠ 59) :
    t.asRead = ⟨t.seconds + 1, t.nanoseconds - 1000000000, t.offset⟩ := by
  rw [asRead, if_pos ⟨hlong, hlast⟩]

end Timestamp

namespace Datum

theorem toValue_ofTimestamp (t : Timestamp) (path : List Nat) :
    (ofTimestamp t).toValue path =
      ((Timestamp.read t.text).mapError .timestampText).map .time := by
  simp only [ofTimestamp, plainTime, toValue, Except.bind, readTimestamp]

theorem toValue_ofTimestamp_eq_ok_iff {t back : Timestamp} {path : List Nat} :
    (ofTimestamp t).toValue path = .ok (.time back) ↔ Timestamp.read t.text = .ok back := by
  rw [toValue_ofTimestamp]
  rcases Timestamp.read t.text with error | found
  · exact ⟨nofun, nofun⟩
  · constructor
    · rintro ⟨⟩
      rfl
    · rintro ⟨⟩
      rfl

/-- A timestamp that is handed over under the mark is converted to the same instant with the
same offset in exactly three circumstances at once: the format knows the year, the offset is one
of whole minutes, and nanoseconds beyond a second stand behind second fifty-nine.  It is then
the value that the timestamp has at once, and a timestamp that may be missing is converted to
that value in an optional layer.  Where only the third does not hold, it is converted to the
same time written as one of the next second. -/
theorem toValue_ofTimestamp_iff {t : Timestamp} (h : t.Valid) (path place : List Nat) :
    let written := (0 ≤ t.localDate.year ∧ t.localDate.year ≤ 9999) ∧ t.offset % 60 = 0
    let survives := written ∧ (1000000000 ≤ t.nanoseconds → t.seconds % 60 = 59)
    ((∃ back, (ofTimestamp t).toValue path = .ok (.time back) ∧ back.sameInstant t = true ∧
        back.nanoseconds = t.nanoseconds ∧ back.offset = t.offset) ↔ survives) ∧
      (survives → (ofTimestamp t).toValue path = .ok ((Typed.time t).toValue place) ∧
        (ofTimestamp? (some t)).toValue path = .ok (.present ((Typed.time t).toValue place))) ∧
      (written → 1000000000 ≤ t.nanoseconds → t.seconds % 60 ≠ 59 →
        (ofTimestamp t).toValue path =
          .ok (.time ⟨t.seconds + 1, t.nanoseconds - 1000000000, t.offset⟩)) := by
  intro written survives
  have hread : Timestamp.read t.text = .ok t ↔ survives := by
    rw [Timestamp.read_text_iff h.nanoseconds_lt h.offset_lt, ← and_assoc]
  have hvalue (hall : survives) : (ofTimestamp t).toValue path = .ok (.time t) :=
    toValue_ofTimestamp_eq_ok_iff.mpr (hread.mpr hall)
  refine ⟨⟨?_, ?_⟩, ?_, ?_⟩
  · rintro ⟨back, hback, hinstant, -, hoffset⟩
    have hsame : back = t := by
      obtain ⟨seconds, nanoseconds, offset⟩ := back
      simp only [Timestamp.sameInstant, Bool.and_eq_true, decide_eq_true_eq] at hinstant
      rw [hinstant.1, hinstant.2, show offset = t.offset from hoffset]
    rw [hsame] at hback
    exact hread.mp (toValue_ofTimestamp_eq_ok_iff.mp hback)
  · intro hall
    exact ⟨t, hvalue hall, by simp [Timestamp.sameInstant], rfl, rfl⟩
  · intro hall
    refine ⟨hvalue hall, ?_⟩
    rw [ofTimestamp?, toValue, hvalue hall]
    rfl
  · rintro ⟨hyear, hminutes⟩ hlong hlast
    rw [toValue_ofTimestamp_eq_ok_iff, ← Timestamp.asRead_of_long hlong hlast]
    exact Timestamp.read_text h.nanoseconds_lt h.offset_lt hyear hminutes

/-- A leap second on a clock behind universal time, an offset with seconds of its own, and
nanoseconds beyond a second in the middle of a minute. -/
theorem toValue_ofTimestamp_iff_leap :
    let leap : Timestamp := ⟨1483228799, 1500000000, -9000⟩
    let odd : Timestamp := ⟨1483228799, 1500000000, 3601⟩
    let long : Timestamp := ⟨1483228730, 1500000000, -9000⟩
    leap.Valid ∧ odd.Valid ∧ long.Valid ∧
      (ofTimestamp leap).toValue [] = .ok (.time leap) ∧
      (¬ ∃ back, (ofTimestamp odd).toValue [] = .ok (.time back) ∧ back.sameInstant odd = true ∧
        back.nanoseconds = odd.nanoseconds ∧ back.offset = odd.offset) ∧
      (ofTimestamp long).toValue [] = .ok (.time ⟨1483228731, 500000000, -9000⟩) := by
  intro leap odd long
  have hleap : leap.Valid := ⟨by decide, by decide⟩
  have hodd : odd.Valid := ⟨by decide, by decide⟩
  have hlong : long.Valid := ⟨by decide, by decide⟩
  refine ⟨hleap, hodd, hlong, ?_, ?_, ?_⟩
  · exact ((toValue_ofTimestamp_iff hleap [] []).2.1 (by decide)).1
  · rw [(toValue_ofTimestamp_iff hodd [] []).1]
    decide
  · have hnext : (⟨long.seconds + 1, long.nanoseconds - 1000000000, long.offset⟩ : Timestamp) =
        ⟨1483228731, 500000000, -9000⟩ := by
      decide
    rw [← hnext]
    exact (toValue_ofTimestamp_iff hlong [] []).2.2 (by decide) (by decide) (by decide)

/-- The year and the offset do not decide alone: with nanoseconds beyond a second at second
forty-five of a minute, a timestamp is written like the one half a second into second forty-six,
and converted to that. -/
theorem toValue_ofTimestamp_long_second :
    let t : Timestamp := ⟨45045, 1500000000, 0⟩
    t.Valid ∧ (0 ≤ t.localDate.year ∧ t.localDate.year ≤ 9999) ∧ t.offset % 60 = 0 ∧
      (ofTimestamp t).toValue [] = .ok (.time ⟨45046, 500000000, 0⟩) ∧
      ¬ ∃ back, (ofTimestamp t).toValue [] = .ok (.time back) ∧ back.sameInstant t = true ∧
        back.nanoseconds = t.nanoseconds ∧ back.offset = t.offset := by
  intro t
  have hread : t.asRead = ⟨45046, 500000000, 0⟩ := by
    decide
  have hnext : (ofTimestamp t).toValue [] = .ok (.time ⟨45046, 500000000, 0⟩) := by
    rw [toValue_ofTimestamp_eq_ok_iff, ← hread]
    exact Timestamp.read_text (by decide) (by decide) (by decide) (by decide)
  refine ⟨⟨by decide, by decide⟩, by decide, by decide, hnext, ?_⟩
  rintro ⟨back, hback, -, hnanoseconds, -⟩
  rw [hnext] at hback
  cases hback
  exact absurd hnanoseconds (by decide)

end Datum

end Stencil
