import Stencil.Render.Basic

/-!
# Template libraries

A library keeps templates under names.  Adding a source that cannot be read fails with all that
is wrong with it, and rendering a template that is not there fails with its name; both leave
everything else as it is.
-/

namespace Stencil

/-- Why a library cannot do what it is asked for. -/
inductive TemplateError
  | parse (diagnostics : List Diagnostic)
  | notFound (name : String)
  deriving DecidableEq

namespace TemplateError

/-- The wording of an error. -/
def message : TemplateError → String
  | parse diagnostics =>
      "template parse failed:\n" ++ "\n".intercalate (diagnostics.map Diagnostic.text)
  | notFound name => "template not found: " ++ name

end TemplateError

/-- Templates under names. -/
abbrev Library := Entries Template

namespace Library

variable {σ : Type}

/-- Reads a template and puts it under a name. -/
def add (library : Library) (name source : String) : Except TemplateError Library :=
  match Template.parse source with
  | .ok template => .ok (Entries.insert name template library)
  | .error diagnostics => .error (.parse diagnostics)

/-- Renders the template under a name. -/
def render
    (library : Library) (name : String) (registry : Registry σ) (state : Surroundings σ) :
    Except TemplateError String × Surroundings σ :=
  match Entries.find? name library with
  | some template =>
      let result := template.render registry state
      (.ok result.1, result.2)
  | none => (.error (.notFound name), state)

/-- Reads a template and renders it without keeping it. -/
def renderSource (source : String) (registry : Registry σ) (state : Surroundings σ) :
    Except TemplateError String × Surroundings σ :=
  match Template.parse source with
  | .ok template =>
      let result := template.render registry state
      (.ok result.1, result.2)
  | .error diagnostics => (.error (.parse diagnostics), state)

end Library

end Stencil
