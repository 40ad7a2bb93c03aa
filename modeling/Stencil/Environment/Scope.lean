import Stencil.Value.Draft

/-!
# Scopes

A scope is opened on variables, and names can be bound through it.  Of each name it remembers
the state that it had just before it was first bound through the scope.  When the scope is
closed, those states are put back, whatever has become of the names since; all other names keep
the state they have.
-/

namespace Stencil

/-- The state of a name: its value, or that it has none. -/
abbrev Saved := String × Option Value

/-- Variables on which a scope is open, and the states that it puts back, the latest first. -/
structure Scope where
  vars : Variables
  saved : List Saved

namespace Scope

/-- Opens a scope. -/
def ofVariables (vars : Variables) : Scope := ⟨vars, []⟩

/-- Binds a name through a scope. -/
def bind (scope : Scope) (name : String) (value : Value) : Scope where
  vars := Entries.insert name value scope.vars
  saved :=
    if scope.saved.any fun entry => entry.1 = name then scope.saved
    else (name, Entries.find? name scope.vars) :: scope.saved

/-- Binds a name through a scope, if there is one. -/
def bind? (scope : Scope) (name : Option String) (value : Value) : Scope :=
  match name with
  | some name => scope.bind name value
  | none => scope

/-- Puts back the state of a name. -/
def restore (vars : Variables) : Saved → Variables
  | (name, some value) => Entries.insert name value vars
  | (name, none) => Entries.erase name vars

/-- Closes a scope. -/
def close (scope : Scope) : Variables :=
  scope.saved.foldl restore scope.vars

end Scope

end Stencil
