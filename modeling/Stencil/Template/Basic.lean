import Stencil.Template.OpenTemplate

/-!
# Templates

Reading a source gives a tree in any case, and with it all that is wrong with the source.  A
template is the tree of a source with which nothing is wrong.
-/

namespace Stencil

/-- The tree of a source and the diagnostics, in the order in which they were found. -/
def readSource (source : String) : List Node × List Diagnostic :=
  let template := (OpenTemplate.start.read (Scanner.ofSource source).tokens).closeAll
  (template.nodes, template.diagnostics)

/-- A template. -/
structure Template where
  nodes : List Node

namespace Template

/-- The text that describes a template. -/
def describe (template : Template) : String :=
  Node.describeAll template.nodes

/-- Reads a template, or gives all that is wrong with its source. -/
def parse (source : String) : Except (List Diagnostic) Template :=
  match readSource source with
  | (nodes, []) => .ok ⟨nodes⟩
  | (_, diagnostics) => .error diagnostics

end Template

end Stencil
