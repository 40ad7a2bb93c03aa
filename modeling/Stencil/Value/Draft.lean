import Stencil.Value.Basic

/-!
# Drafts of values

A draft describes a value that is still to be made.  Every array and map in it becomes one of
its own, labelled by where it stands in the draft, except where the draft asks for the value of
a variable: that is shared as it is.
-/

namespace Stencil

/-- The variables of a template and their values. -/
abbrev Variables := Entries Value

/-- A description of a value. -/
inductive Draft
  | null
  | boolean (flag : Bool)
  | number (number : Number)
  | string (text : String)
  | array (items : List Draft)
  | map (entries : List (String × Draft))
  | time (time : Timestamp)
  | absent
  | present (inner : Draft)
  | optional (inner : Draft)
  | shared (name : String)

instance : Inhabited Draft := ⟨.null⟩

namespace Draft

mutual

/-- The value that a draft describes, with the labels of its containers under a path.  A
variable that is not bound is null. -/
def build (vars : Variables) (path : List Nat) : Draft → Value
  | null => .null
  | boolean flag => .boolean flag
  | number n => .number n
  | string text => .string text
  | array items => .array (.host path) (buildItems vars path 0 items)
  | map entries => .map (.host path) (Entries.ofList (buildEntries vars path 0 entries))
  | time t => .time t
  | absent => .absent
  | present inner => .present (build vars path inner)
  | optional inner => Value.optional (some (build vars path inner))
  | shared name => (Entries.find? name vars).getD .null

/-- The values of the items of an array from a position on. -/
def buildItems (vars : Variables) (path : List Nat) : Nat → List Draft → List Value
  | _, [] => []
  | position, item :: rest =>
      build vars (position :: path) item :: buildItems vars path (position + 1) rest

/-- The values of the entries of a map from a position on. -/
def buildEntries (vars : Variables) (path : List Nat) :
    Nat → List (String × Draft) → List (String × Value)
  | _, [] => []
  | position, (name, item) :: rest =>
      (name, build vars (position :: path) item) ::
        buildEntries vars path (position + 1) rest

end

/-- Binds names to drafts one after the other; a draft can share what those in front of it are bound
to. -/
def bindAll (vars : Variables) (path : List Nat) :
    Nat → List (String × Draft) → Variables
  | _, [] => vars
  | position, (name, draft) :: rest =>
      bindAll (Entries.insert name (draft.build vars (position :: path)) vars) path
        (position + 1) rest

end Draft

end Stencil
