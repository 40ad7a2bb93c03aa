import Stencil.Entries
import Stencil.Number.Basic
import Stencil.Time.Timestamp

/-!
# Template values

A value is a scalar, an array, a map, a timestamp, or a value that a host may or may not have
given.  Arrays and maps carry an identity: two of them are the same to a template only if their
identities are, however much alike their contents may be.  Identities are labels, not addresses.
A host's containers are labelled by where they stand in what the host gave, and the maps that a
loop makes for its own use by how deeply the loop is nested.  So no two containers that a
template can hold at one time share a label, as long as modifiers make no containers and keep
none: one that keeps the map of a loop in the host's state can give it back beside another that
has the label by then.

An optional value that is there counts as the value inside it nearly everywhere, and one that is
not there as null; `unwrapped` is that reading.
-/

namespace Stencil

/-- The maps that a named loop makes: the whole context, the map of loops in it, and the flags
of one loop in that. -/
inductive LoopPart
  | context
  | loops
  | flags
  deriving DecidableEq

/-- What tells one array or map from another of the same content. -/
inductive Identity
  | host (path : List Nat)
  | loop (depth : Nat) (part : LoopPart)
  deriving DecidableEq

/-- A template value. -/
inductive Value
  | null
  | boolean (flag : Bool)
  | number (number : Number)
  | string (text : String)
  | array (identity : Identity) (items : List Value)
  | map (identity : Identity) (entries : List (String × Value))
  | time (time : Timestamp)
  | absent
  | present (inner : Value)

namespace Value

instance : Inhabited Value := ⟨.null⟩

/-- An optional value, in which a null that is there counts as one that is not. -/
def optional : Option Value → Value
  | none => .absent
  | some .null => .absent
  | some inner => .present inner

/-- The name of a value's type. -/
def typeName : Value → String
  | null => "null"
  | boolean _ => "boolean"
  | number _ => "number"
  | string _ => "string"
  | array _ _ => "array"
  | map _ _ => "map"
  | time _ => "time"
  | absent => "optional"
  | present _ => "optional"

/-- The value inside all layers of optional values. -/
def unwrapped : Value → Value
  | present inner => inner.unwrapped
  | absent => null
  | other => other

/-- Whether a value is null inside all layers of optional values. -/
def isNull (value : Value) : Bool :=
  match value.unwrapped with
  | null => true
  | _ => false

/-- Whether a condition with this value holds. -/
def isTruthy : Value → Bool
  | null => false
  | boolean flag => flag
  | number n => n.isNonzero
  | string text => !text.isEmpty
  | array _ items => !items.isEmpty
  | map _ entries => !entries.isEmpty
  | time t => !t.isEpoch
  | absent => false
  | present inner => inner.isTruthy

/-- The number that a value is inside all layers of optional values. -/
def toNumber? (value : Value) : Option Number :=
  match value.unwrapped with
  | number n => some n
  | _ => none

/-- The text that a value is inside all layers of optional values. -/
def toText? (value : Value) : Option String :=
  match value.unwrapped with
  | string text => some text
  | _ => none

/-- Whether two values without optional layers are the same to a template: scalars of one type
by value, timestamps by instant, arrays and maps by identity. -/
def sameUnwrapped : Value → Value → Bool
  | null, null => true
  | boolean a, boolean b => a == b
  | number a, number b => a.equals b
  | string a, string b => a == b
  | array a _, array b _ => a = b
  | map a _, map b _ => a = b
  | time a, time b => a.sameInstant b
  | _, _ => false

/-- Whether two values are the same to a template. -/
def same (a b : Value) : Bool :=
  sameUnwrapped a.unwrapped b.unwrapped

mutual

/-- Whether two values have the same structure and equal parts, whatever their identities.  Optional
layers count. -/
def sameContent : Value → Value → Bool
  | null, null => true
  | boolean a, boolean b => a == b
  | number a, number b => a.equals b
  | string a, string b => a == b
  | array _ a, array _ b => sameItems a b
  | map _ a, map _ b => sameEntries a b
  | time a, time b => a.sameInstant b
  | absent, absent => true
  | present a, present b => sameContent a b
  | _, _ => false

/-- Whether two lists of values have the same length and equal values. -/
def sameItems : List Value → List Value → Bool
  | [], [] => true
  | a :: as, b :: bs => sameContent a b && sameItems as bs
  | _, _ => false

/-- Whether two maps have the same names and equal values. -/
def sameEntries : List (String × Value) → List (String × Value) → Bool
  | [], [] => true
  | (name, a) :: as, (other, b) :: bs => name == other && sameContent a b && sameEntries as bs
  | _, _ => false

end

/-- The value of a field of a map; nothing else has fields. -/
def field (value : Value) (name : String) : Value :=
  match value.unwrapped with
  | map _ entries => (Entries.find? name entries).getD null
  | _ => null

/-- The item of an array at a numeric position that it has; nothing else has positions. -/
def item (value position : Value) : Value :=
  match value.unwrapped, position.unwrapped with
  | array _ items, number n => (n.toNat?.bind fun i => items[i]?).getD null
  | _, _ => null

/-- The keys and items of the array from a position on. -/
def numbered : Nat → List Value → List (Value × Value)
  | _, [] => []
  | position, item :: rest => (number (Number.ofNat position), item) :: numbered (position + 1) rest

/-- The keys and items that a loop over a value goes through: an array with its positions, a map
with its names, and nothing for any other value. -/
def iteration (value : Value) : List (Value × Value) :=
  match value.unwrapped with
  | array _ items => numbered 0 items
  | map _ entries => entries.map fun entry => (string entry.1, entry.2)
  | _ => []

/-- The entries of a map, and none for any other value. -/
def mapEntries (value : Value) : Entries Value :=
  match value.unwrapped with
  | map _ entries => entries
  | _ => []

end Value

end Stencil
