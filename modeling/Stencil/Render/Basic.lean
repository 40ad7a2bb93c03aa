import Stencil.Render.Expr
import Stencil.Render.LoopContext
import Stencil.Template.Basic
import Stencil.Value.Text

/-!
# Rendering

Rendering a block puts out what its nodes stand for, one after the other.  A loop renders its
body once for every item, with the item, its key and the loop's flags bound in a scope that is
closed when the loop ends.  Everything else leaves the variables as they are.
-/

namespace Stencil

/-- What rendering acts on: the variables and the state of the host. -/
structure Surroundings (σ : Type) where
  vars : Variables
  host : σ

namespace LoopHeader

variable {σ : Type}

/-- Binds what the body of a loop finds in one round: the item, the key and the flags. -/
def bindRound
    (header : LoopHeader) (depth : Nat) (first last : Bool) (entry : Value × Value)
    (scope : Scope) : Scope :=
  LoopContext.updateScope depth header.label first last
    ((scope.bind header.item entry.2).bind? header.key entry.1)

/-- Renders the body once for every entry. -/
def rounds
    (header : LoopHeader) (depth : Nat) (body : Surroundings σ → String × Surroundings σ) :
    Bool → List (Value × Value) → Scope → σ → String × Scope × σ
  | _, [], scope, host => ("", scope, host)
  | first, entry :: rest, scope, host =>
      let bound := header.bindRound depth first rest.isEmpty entry scope
      let result := body ⟨bound.vars, host⟩
      let further :=
        header.rounds depth body false rest
          { bound with vars := result.2.vars } result.2.host
      (result.1 ++ further.1, further.2)

/-- Renders a loop: its body for the entries of its source, or what stands in for it if there are
none. -/
def run
    (header : LoopHeader) (registry : Registry σ) (depth : Nat)
    (body : Surroundings σ → String × Surroundings σ)
    (ifEmpty : Surroundings σ → Value × Surroundings σ)
    (state : Surroundings σ) : Value × Surroundings σ :=
  let source := header.source.eval registry state.vars state.host
  match source.1.iteration with
  | [] => ifEmpty { state with host := source.2 }
  | entries =>
      let scope := LoopContext.openScope depth header.label state.vars
      let result := header.rounds depth body true entries scope source.2
      (if result.1.isEmpty then .null else .string result.1,
        ⟨result.2.1.close, result.2.2⟩)

end LoopHeader

variable {σ : Type}

/-- The value that a block stands for: the text that it puts out. -/
def blockValue (result : String × Surroundings σ) : Value × Surroundings σ :=
  (.string result.1, result.2)

mutual

/-- The value that a node stands for. -/
def Node.eval (registry : Registry σ) :
    Node → Nat → Surroundings σ → Value × Surroundings σ
  | .text content, _, state => (.string content, state)
  | .action expr, _, state =>
      let result := expr.eval registry state.vars state.host
      (result.1, { state with host := result.2 })
  | .conditional condition block otherwise, depth, state =>
      let result := condition.eval registry state.vars state.host
      if result.1.isTruthy then
        blockValue (Node.renderAll registry block depth { state with host := result.2 })
      else otherwise.eval registry depth { state with host := result.2 }
  | .loop header body none, depth, state =>
      header.run registry depth (Node.renderAll registry body (depth + 1))
        (fun state => (.null, state)) state
  | .loop header body (some block), depth, state =>
      header.run registry depth (Node.renderAll registry body (depth + 1))
        (fun state => blockValue (Node.renderAll registry block depth state)) state

/-- The text that a block puts out. -/
def Node.renderAll (registry : Registry σ) :
    List Node → Nat → Surroundings σ → String × Surroundings σ
  | [], _, state => ("", state)
  | node :: rest, depth, state =>
      let result := node.eval registry depth state
      let further := Node.renderAll registry rest depth result.2
      (result.1.output ++ further.1, further.2)

/-- The value of what a condition goes on to when it does not hold. -/
def Alternative.eval (registry : Registry σ) :
    Alternative → Nat → Surroundings σ → Value × Surroundings σ
  | .nothing, _, state => (.null, state)
  | .block nodes, depth, state => blockValue (Node.renderAll registry nodes depth state)
  | .elseIf condition block otherwise, depth, state =>
      let result := condition.eval registry state.vars state.host
      if result.1.isTruthy then
        blockValue (Node.renderAll registry block depth { state with host := result.2 })
      else otherwise.eval registry depth { state with host := result.2 }

end

namespace Template

/-- The text that a template puts out, and the variables and the state of the host behind it. -/
def render (template : Template) (registry : Registry σ) (state : Surroundings σ) :
    String × Surroundings σ :=
  Node.renderAll registry template.nodes 0 state

end Template

end Stencil
