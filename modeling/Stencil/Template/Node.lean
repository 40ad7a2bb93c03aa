import Stencil.Template.Expr

/-!
# Template trees

A template is a list of nodes: text to put out as it stands, an expression to put out, a
condition that chooses between blocks, or a loop over the items of a value.  A block is again a
list of nodes.

The text of a tree describes it in the notation of its source.  Different trees can have the
same text, so it is not meant to be read again.
-/

namespace Stencil

/-- What a loop goes through, the names that it binds, and the label under which its flags are
found. -/
structure LoopHeader where
  source : Expr
  item : String
  key : Option String
  label : Option String
  deriving DecidableEq

mutual

/-- A node of a template. -/
inductive Node
  | text (content : String)
  | action (expr : Expr)
  | conditional (condition : Expr) (block : List Node) (otherwise : Alternative)
  | loop (header : LoopHeader) (body : List Node) (ifEmpty : Option (List Node))

/-- What a condition that does not hold goes on to: nothing, a block, or a further condition. -/
inductive Alternative
  | nothing
  | block (nodes : List Node)
  | elseIf (condition : Expr) (block : List Node) (otherwise : Alternative)

end

instance : Inhabited Node := ⟨.text ""⟩

instance : Inhabited Alternative := ⟨.nothing⟩

namespace LoopHeader

/-- An attribute that may be missing, with its name in front. -/
def attributeText (name : String) : Option String → String
  | none => ""
  | some value => " " ++ name ++ "=" ++ value

/-- The opening tag of a loop. -/
def text (header : LoopHeader) : String :=
  "\x7bforeach from=" ++ header.source.text ++ " item=" ++ header.item ++
    attributeText "key" header.key ++ attributeText "name" header.label ++ "\x7d"

end LoopHeader

mutual

/-- The text of a node. -/
def Node.describe : Node → String
  | .text content => content
  | .action expr => "\x7b" ++ expr.text ++ "\x7d"
  | .conditional condition block otherwise =>
      "\x7bif " ++ condition.text ++ "\x7d" ++ Node.describeAll block ++ otherwise.describe ++
        "\x7b/if\x7d"
  | .loop header body none => header.text ++ Node.describeAll body ++ "\x7b/foreach\x7d"
  | .loop header body (some block) =>
      header.text ++ Node.describeAll body ++ "\x7bforeachelse\x7d" ++ Node.describeAll block ++
        "\x7b/foreach\x7d"

/-- The texts of the nodes of a block. -/
def Node.describeAll : List Node → String
  | [] => ""
  | node :: rest => node.describe ++ Node.describeAll rest

/-- The text of what follows the block of a condition. -/
def Alternative.describe : Alternative → String
  | .nothing => ""
  | .block nodes => "\x7belse\x7d" ++ Node.describeAll nodes
  | .elseIf condition block otherwise =>
      "\x7belseif " ++ condition.text ++ "\x7d" ++ Node.describeAll block ++ otherwise.describe

end

end Stencil
