import Stencil.Text.Quoted
import Stencil.Value.Basic

/-!
# Modifiers

A modifier takes a value to another.  It belongs to the host, so it may also take the host's own
state to another; what that state is, is left open.  A registry holds modifiers under names.

A modifier gets no hold of the registry that it is called through, so a registry stays as it is
while a template is rendered.  A modifier that registers another one in the meantime is outside
the model as such.  It is covered where the other one is in the registry from the start and asks
the state of the host: as long as nothing has been registered there, it does what an unknown
name does.
-/

namespace Stencil

/-- A modifier, which acts on a value and on the state of the host, and not on the registry. -/
abbrev Modifier (σ : Type) := Value → σ → Value × σ

/-- Modifiers under names, which stay the same while a template is rendered. -/
abbrev Registry (σ : Type) := Entries (Modifier σ)

namespace Registry

variable {σ : Type}

/-- The registry with a modifier put under a name. -/
def register (registry : Registry σ) (name : String) (modifier : Modifier σ) : Registry σ :=
  Entries.insert name modifier registry

/-- Sends a value through the modifier of a name.  Where there is none, nothing happens but that the
result is null. -/
def apply (registry : Registry σ) (name : String) (value : Value) (host : σ) : Value × σ :=
  match Entries.find? name registry with
  | some modifier => modifier value host
  | none => (.null, host)

/-- The text that describes a registry: its names. -/
def describe (registry : Registry σ) : String :=
  "ModifierRegistry \x7b modifiers: [" ++
    ", ".intercalate ((Entries.names registry).map Text.quoted) ++ "] \x7d"

end Registry

end Stencil
