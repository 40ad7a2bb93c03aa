import Stencil.Host.Datum
import Stencil.Value.Draft

/-!
# Bindings

A host builds the variables of a template from bindings, each of which gives a name a value or
fails to.  If all succeed, a name has the value of its last binding; otherwise there are no
variables, and every failure is reported.
-/

namespace Stencil

/-- A name and the value that it is to have, or why there is none. -/
structure Binding where
  name : String
  value : Except ConversionError Value

/-- A name whose value could not be converted. -/
structure BindingFailure where
  name : String
  error : ConversionError

namespace BindingFailure

/-- The wording of a failure. -/
def text (failure : BindingFailure) : String :=
  "cannot convert binding `" ++ failure.name ++ "`: " ++ failure.error.message

/-- The wording of several failures together. -/
def summary (failures : List BindingFailure) : String :=
  toString failures.length ++ " binding(s) failed to convert: " ++
    "\n".intercalate (failures.map text)

end BindingFailure

namespace Binding

/-- The failure of a binding, if it has failed. -/
def failure? (binding : Binding) : Option BindingFailure :=
  match binding.value with
  | .ok _ => none
  | .error error => some ⟨binding.name, error⟩

/-- The entry of a binding, if it has a value. -/
def entry? (binding : Binding) : Option (String × Value) :=
  match binding.value with
  | .ok value => some (binding.name, value)
  | .error _ => none

/-- The variables that bindings make, or all their failures in order. -/
def toVariables (bindings : List Binding) : Except (List BindingFailure) Variables :=
  match bindings.filterMap failure? with
  | [] => .ok (Entries.ofList (bindings.filterMap entry?))
  | failures => .error failures

end Binding

/-- Where the value of a binding comes from. -/
inductive BindingSource
  | draft (given : Draft)
  | datum (given : Datum)

namespace BindingSource

/-- The value that a source gives. -/
def value (vars : Variables) (path : List Nat) :
    BindingSource → Except ConversionError Value
  | draft given => .ok (given.build vars path)
  | datum given => given.toValue path

/-- The bindings of names to sources from a position on; a draft can share what those in front of it
are bound to. -/
def bindings (path : List Nat) : Nat → Variables → List (String × BindingSource) → List Binding
  | _, _, [] => []
  | position, vars, (name, source) :: rest =>
      let value := source.value vars (position :: path)
      let vars :=
        match value with
        | .ok value => Entries.insert name value vars
        | .error _ => vars
      ⟨name, value⟩ :: bindings path (position + 1) vars rest

end BindingSource

end Stencil
