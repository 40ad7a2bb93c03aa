import Stencil.Number.Decimal
import Stencil.Time.Timestamp

/-!
# Timestamps as RFC 3339 text

Writing gives the date and time on the timestamp's own clock, with no fraction or as many of
three, six or nine digits as it takes, and then the offset to the nearest minute, or `Z` for an
offset of zero.  A leap second is written as second sixty.  Years beyond four digits, which the
format does not know, get a sign.

Reading accepts the format with any count of fraction digits, of which nine are kept, and says
of any other text what first kept it from being read.
-/

namespace Stencil

/-- What keeps a text from being read as a timestamp. -/
inductive TimestampError
  | endOfInput
  | invalidCharacter
  | outOfRange
  | trailingInput
  deriving DecidableEq

namespace TimestampError

/-- The wording of an error. -/
def message : TimestampError → String
  | endOfInput => "premature end of input"
  | invalidCharacter => "input contains invalid characters"
  | outOfRange => "input is out of range"
  | trailingInput => "trailing input"

end TimestampError

namespace Timestamp

/-- A number in decimal with at least `width` digits. -/
def padded (width n : Nat) : List Char :=
  let digits := Nat.toDigits 10 n
  List.replicate (width - digits.length) '0' ++ digits

/-- A year: four digits, or with a sign and as many as it takes. -/
def yearText (year : Int) : List Char :=
  if 0 ≤ year ∧ year ≤ 9999 then padded 4 year.natAbs
  else if 0 ≤ year then '+' :: padded 4 year.natAbs
  else '-' :: padded 4 year.natAbs

/-- The fraction of a second, from its nanoseconds. -/
def fractionText (nanoseconds : Nat) : List Char :=
  if nanoseconds = 0 then []
  else if nanoseconds % 1000000 = 0 then '.' :: padded 3 (nanoseconds / 1000000)
  else if nanoseconds % 1000 = 0 then '.' :: padded 6 (nanoseconds / 1000)
  else '.' :: padded 9 nanoseconds

/-- An offset to the nearest minute. -/
def offsetText (offset : Int) : List Char :=
  if offset = 0 then ['Z']
  else
    let minutes := (offset.natAbs + 30) / 60
    (if offset < 0 then '-' else '+') :: padded 2 (minutes / 60) ++ ':' :: padded 2 (minutes % 60)

/-- The date and time of a timestamp without its offset. -/
def clockText (t : Timestamp) : List Char :=
  let date := t.localDate
  let second := t.secondOfDay % 60 + t.nanoseconds / 1000000000
  yearText date.year ++ '-' :: padded 2 date.month ++ '-' :: padded 2 date.day ++
    'T' :: padded 2 (t.secondOfDay / 3600) ++ ':' :: padded 2 (t.secondOfDay / 60 % 60) ++
    ':' :: padded 2 second ++ fractionText (t.nanoseconds % 1000000000)

/-- The RFC 3339 text of a timestamp. -/
def text (t : Timestamp) : String :=
  String.ofList (t.clockText ++ offsetText t.offset)

/-- A reading step takes what it reads off the front of a text, or says what keeps it from
reading. -/
abbrev Reading := StateT (List Char) (Except TimestampError)

/-- How many bytes a text takes. -/
def byteLength (text : List Char) : Nat :=
  text.foldr (fun c length => c.utf8Size + length) 0

/-- Takes exactly `width` digits off a text, behind those that write `value`. -/
def takeDigits : Nat → Nat → List Char → Except TimestampError (Nat × List Char)
  | 0, value, text => .ok (value, text)
  | _ + 1, _, [] => .error .endOfInput
  | width + 1, value, c :: rest =>
      if c.isDigit then takeDigits width (10 * value + Number.digitValue c) rest
      else .error .invalidCharacter

/-- Reads exactly `width` digits.  A text too short for them, in bytes, is taken to end early
whatever is in it. -/
def readField (width : Nat) : Reading Nat := fun text =>
  if byteLength text < width then .error .endOfInput else takeDigits width 0 text

/-- Reads one character out of those that a test allows. -/
def readMark (allowed : Char → Bool) : Reading Unit
  | [] => .error .endOfInput
  | c :: rest => if allowed c then .ok ((), rest) else .error .invalidCharacter

/-- Goes on only if what has been read is in range. -/
def inRange (holds : Bool) : Reading Unit :=
  if holds then return () else throw .outOfRange

/-- Reads a date that the calendar has. -/
def readDate : Reading Date := do
  let year ← readField 4
  readMark (· == '-')
  let month ← readField 2
  readMark (· == '-')
  let day ← readField 2
  inRange (Date.isValid ⟨year, month, day⟩)
  return ⟨year, month, day⟩

/-- Reads the digits behind the point as nanoseconds, dropping those behind the ninth. -/
def readFraction : Reading Nat
  | [] => .error .endOfInput
  | c :: rest =>
      if c.isDigit then
        let kept := ((c :: rest).takeWhile Char.isDigit).take 9
        .ok (Number.digitsValue kept * Nat.pow 10 (9 - kept.length), rest.dropWhile Char.isDigit)
      else .error .invalidCharacter

/-- Reads the nanoseconds, zero where there is no point. -/
def readNanoseconds : Reading Nat
  | '.' :: rest => readFraction rest
  | text => .ok (0, text)

/-- Reads a time of day as its seconds since midnight and the nanoseconds.  Second sixty is the leap
second that belongs to second fifty-nine. -/
def readClock : Reading (Nat × Nat) := do
  let hour ← readField 2
  readMark (· == ':')
  let minute ← readField 2
  readMark (· == ':')
  let second ← readField 2
  let nanoseconds ← readNanoseconds
  inRange (hour < 24 && minute < 60 && second ≤ 60)
  if second = 60 then return (3600 * hour + 60 * minute + 59, nanoseconds + 1000000000)
  else return (3600 * hour + 60 * minute + second, nanoseconds)

/-- Reads the hours and minutes of an offset on the given side of universal time. -/
def readSignedOffset (negative : Bool) : Reading Int := do
  let hours ← readField 2
  readMark (· == ':')
  let minutes ← readField 2
  inRange (minutes < 60)
  return Number.signed negative (3600 * hours + 60 * minutes)

/-- Reads an offset in seconds east: `Z`, or a sign with hours and minutes. -/
def readOffset : Reading Int
  | [] => .error .endOfInput
  | c :: rest =>
      if c = 'Z' ∨ c = 'z' then .ok (0, rest)
      else if c = '+' then readSignedOffset false rest
      else if c = '-' ∨ c = '\u2212' then readSignedOffset true rest
      else .error .invalidCharacter

/-- Ends a text. -/
def readEnd : Reading Unit
  | [] => .ok ((), [])
  | _ => .error .trailingInput

/-- Reads a date, a time of day and an offset of less than a day, and nothing else. -/
def readFields : Reading Timestamp := do
  let date ← readDate
  readMark (fun c => c == 'T' || c == 't' || c == ' ')
  let (secondOfDay, nanoseconds) ← readClock
  let offset ← readOffset
  readEnd
  inRange (offset.natAbs < 86400)
  return ⟨86400 * date.toDays + secondOfDay - offset, nanoseconds, offset⟩

/-- Reads an RFC 3339 text.  One that cannot even hold a date and a time of day is taken to end
early whatever is in it. -/
def read (text : String) : Except TimestampError Timestamp :=
  if byteLength text.toList < 19 then .error .endOfInput
  else (readFields text.toList).map Prod.fst

end Timestamp

end Stencil
