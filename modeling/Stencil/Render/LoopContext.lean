import Stencil.Environment.Scope

/-!
# The context of named loops

While a loop with a label runs, the context variable holds a map in which its flags are found
under its label: whether the item is the first and whether it is the last.  The context of an
outer loop, or one that the host has given, is carried over with all else that is in it.

The maps are labelled by the depth of the loop.  Loops at one depth run one after the other and
take their contexts along when they end, so no two of the maps that a template can hold at one
time have one label.  This does not go for what a modifier keeps in the state of the host: a map
kept from a loop that is over can be given back beside the map of a later loop at that depth,
and then the two have one label.
-/

namespace Stencil

namespace LoopContext

/-- The variable that holds the context. -/
def contextName : String := "smarty"

/-- The entry of the context that holds the flags of the loops. -/
def loopsName : String := "foreach"

/-- The flags put into a map of flags. -/
def putFlags (first last : Bool) (flags : Entries Value) : Entries Value :=
  Entries.insert "last" (.boolean last) (Entries.insert "first" (.boolean first) flags)

/-- Applies a change to the entries of a map, which then is a map of the loop's own; other
values stay as they are. -/
def changeMap (depth : Nat) (part : LoopPart) (change : Entries Value → Entries Value) :
    Value → Value
  | .map _ entries => .map (.loop depth part) (change entries)
  | other => other

/-- The context of a new loop: the one around it, in which the loop's label has flags that are
down. -/
def create (depth : Nat) (label : String) (around : Value) : Value :=
  let outer := around.mapEntries
  let loops := ((Entries.find? loopsName outer).getD .null).mapEntries
  let flags := Value.map (.loop depth .flags) (putFlags false false [])
  let loops := Value.map (.loop depth .loops) (Entries.insert label flags loops)
  .map (.loop depth .context) (Entries.insert loopsName loops outer)

/-- The context with the flags of a loop set, as far as it has a map to set them in. -/
def setFlags (depth : Nat) (label : String) (first last : Bool) : Value → Value :=
  changeMap depth .context
    (Entries.modify loopsName
      (changeMap depth .loops
        (Entries.modify label (changeMap depth .flags (putFlags first last)))))

/-- Opens the scope of a loop; one with a label begins by binding its context. -/
def openScope (depth : Nat) (label : Option String) (vars : Variables) : Scope :=
  match label with
  | some label =>
      let around := (Entries.find? contextName vars).getD .null
      (Scope.ofVariables vars).bind contextName (create depth label around)
  | none => Scope.ofVariables vars

/-- Sets the flags of a loop in the variables of its scope, if it has a label. -/
def updateScope (depth : Nat) (label : Option String) (first last : Bool) (scope : Scope) : Scope :=
  match label with
  | some label =>
      { scope with
        vars :=
          Entries.modify contextName (setFlags depth label first last) scope.vars }
  | none => scope

end LoopContext

end Stencil
