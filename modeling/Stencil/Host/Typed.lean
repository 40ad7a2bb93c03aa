import Stencil.Value.Basic

/-!
# Typed host values

Host values whose type is known have a value in every case, so converting them cannot fail.
-/

namespace Stencil

/-- A host value of a known type. -/
inductive Typed
  | boolean (flag : Bool)
  | integer (n : Int)
  | double (n : Number)
  | single (n : Number)
  | string (text : String)
  | nothing
  | something (inner : Typed)
  | sequence (items : List Typed)
  | map (entries : List (String × Typed))
  | time (instant : Timestamp)
  | value (whole : Value)

namespace Typed

mutual

/-- The value of a typed host value, with the labels of its containers under a path. -/
def toValue (path : List Nat) : Typed → Value
  | boolean flag => .boolean flag
  | integer n => .number (Number.ofInt n)
  | double n => .number n
  | single n => .number n.toSingle
  | string text => .string text
  | nothing => .absent
  | something inner => Value.optional (some (inner.toValue path))
  | sequence items => .array (.host path) (itemValues path 0 items)
  | map entries => .map (.host path) (Entries.ofList (entryValues path 0 entries))
  | time instant => .time instant
  | value whole => whole

/-- The values of the items of a sequence from a position on. -/
def itemValues (path : List Nat) : Nat → List Typed → List Value
  | _, [] => []
  | position, item :: rest =>
      item.toValue (position :: path) :: itemValues path (position + 1) rest

/-- The values of the entries of a map from a position on. -/
def entryValues (path : List Nat) : Nat → List (String × Typed) → List (String × Value)
  | _, [] => []
  | position, (name, item) :: rest =>
      (name, item.toValue (position :: path)) :: entryValues path (position + 1) rest

end

end Typed

end Stencil
