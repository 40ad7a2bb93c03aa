import Stencil.Value.Text

/-!
# Host data

A host hands its data over part by part: scalars, optional data, sequences, maps and records,
and variants that have a name in front of such data.  Converting it keeps the structure.  A map
is handed over as a run of keys and values, and what is a key must be, or write, a text.

A timestamp comes as its text under a mark, so that it can be told from other texts.  Conversion
fails at the first part that cannot be converted, and the error says why.
-/

namespace Stencil

/-- Why host data cannot be converted. -/
inductive ConversionError
  | custom (message : String)
  | keyType (typeName : String)
  | valueWithoutKey
  | timestampType (typeName : String)
  | timestampText (error : TimestampError)
  deriving DecidableEq

namespace ConversionError

/-- The wording of an error. -/
def message : ConversionError → String
  | custom message => message
  | keyType typeName => "map key must be a string, got " ++ typeName
  | valueWithoutKey => "map value without a key"
  | timestampType typeName => "expected an RFC 3339 timestamp, got " ++ typeName
  | timestampText error => error.message

end ConversionError

mutual

/-- Data as a host hands them over. -/
inductive Datum
  | boolean (flag : Bool)
  | integer (n : Int)
  | double (n : Number)
  | single (n : Number)
  | string (text : String)
  | bytes (values : List Nat)
  | nothing
  | something (inner : Datum)
  | unit
  | sequence (items : List Datum)
  | map (parts : List MapPart)
  | record (fields : List (String × Datum))
  | variant (name : String) (payload : Datum)
  | timestamp (text : Datum)
  | failure (message : String)

/-- A key or a value of a map, as a host hands them over. -/
inductive MapPart
  | key (datum : Datum)
  | value (datum : Datum)

end

instance : Inhabited Datum := ⟨.unit⟩

namespace Datum

/-- A variant without any data. -/
def unitVariant (name : String) : Datum := .string name

/-- A variant with several data in order. -/
def tupleVariant (name : String) (items : List Datum) : Datum := .variant name (.sequence items)

/-- A variant with data under names. -/
def recordVariant (name : String) (fields : List (String × Datum)) : Datum :=
  .variant name (.record fields)

/-- The name of a record of one field that marks a timestamp. -/
def timeMark : String := "$shimmysmarty::Time"

/-- A record of one field, whose field has no name.  It is its field, unless its own name is the
mark. -/
def wrapped (name : String) (inner : Datum) : Datum :=
  if name = timeMark then .timestamp inner else inner

/-- A timestamp as text without the mark. -/
def plainTime (time : Timestamp) : Datum := .string time.text

/-- A timestamp as text under the mark. -/
def ofTimestamp (time : Timestamp) : Datum := .timestamp (plainTime time)

/-- A timestamp that may be missing. -/
def ofTimestamp? : Option Timestamp → Datum
  | some time => .something (ofTimestamp time)
  | none => .nothing

/-- A map given by pairs of a key and a value. -/
def ofPairs (pairs : List (Datum × Datum)) : Datum :=
  .map (pairs.flatMap fun pair => [.key pair.1, .value pair.2])

/-- The name under which a map holds what has been given under a key. -/
def keyName (key : Value) : Except ConversionError String :=
  match key.unwrapped with
  | .string text => .ok text
  | .number n => .ok n.text
  | .boolean flag => .ok (Value.truthText flag)
  | other => .error (.keyType other.typeName)

/-- The timestamp that a value under the mark writes. -/
def readTimestamp : Value → Except ConversionError Value
  | .string text => (Timestamp.read text).mapError .timestampText |>.map .time
  | other => .error (.timestampType other.typeName)

mutual

/-- The value of host data, with the labels of its containers under a path. -/
def toValue (path : List Nat) : Datum → Except ConversionError Value
  | boolean flag => .ok (.boolean flag)
  | integer n => .ok (.number (Number.ofInt n))
  | double n => .ok (.number n)
  | single n => .ok (.number n.toSingle)
  | string text => .ok (.string text)
  | bytes values =>
      .ok (.array (.host path) (values.map fun byte => .number (Number.ofNat byte)))
  | nothing => .ok .absent
  | something inner => (inner.toValue path).map fun value => Value.optional (some value)
  | unit => .ok .null
  | sequence items => (itemValues path 0 items).map (.array (.host path))
  | map parts => (partEntries path 0 none [] parts).map (.map (.host path))
  | record fields => (fieldEntries path 0 [] fields).map (.map (.host path))
  | variant name payload =>
      (payload.toValue (0 :: path)).map fun value => .map (.host path) [(name, value)]
  | timestamp text => (text.toValue path).bind readTimestamp
  | failure message => .error (.custom message)

/-- The values of the items of a sequence from a position on. -/
def itemValues (path : List Nat) : Nat → List Datum → Except ConversionError (List Value)
  | _, [] => .ok []
  | position, item :: rest => do
      let value ← item.toValue (position :: path)
      let values ← itemValues path (position + 1) rest
      return value :: values

/-- The entries of a map, whose values are counted from a position on.  A key waits for the next
value; a further key takes its place. -/
def partEntries (path : List Nat) :
    Nat → Option String → Entries Value → List MapPart → Except ConversionError (Entries Value)
  | _, _, entries, [] => .ok entries
  | position, _, entries, .key datum :: rest => do
      let key ← datum.toValue (position :: path)
      let name ← keyName key
      partEntries path position (some name) entries rest
  | _, none, _, .value _ :: _ => .error .valueWithoutKey
  | position, some name, entries, .value datum :: rest => do
      let value ← datum.toValue (position :: path)
      partEntries path (position + 1) none (Entries.insert name value entries) rest

/-- The entries of a record from a position on. -/
def fieldEntries (path : List Nat) :
    Nat → Entries Value → List (String × Datum) → Except ConversionError (Entries Value)
  | _, entries, [] => .ok entries
  | position, entries, (name, datum) :: rest => do
      let value ← datum.toValue (position :: path)
      fieldEntries path (position + 1) (Entries.insert name value entries) rest

end

end Datum

end Stencil
