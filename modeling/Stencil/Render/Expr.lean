import Stencil.Modifier.Basic
import Stencil.Template.Expr
import Stencil.Value.Draft

/-!
# Values of expressions

Evaluation never fails: what makes no sense is null, or false where a truth value is asked for.
It reads the variables and sends values through modifiers, in the order in which they are
written.  The right side of a conjunction or disjunction is evaluated only if the left side does
not decide it.
-/

namespace Stencil

namespace BinaryOp

/-- The truth of a comparison of two values, if both are numbers. -/
def compare (holds : Number → Number → Bool) (left right : Value) : Bool :=
  match left.toNumber?, right.toNumber? with
  | some a, some b => holds a b
  | _, _ => false

/-- Whether an operator holds of two values. -/
def holds (op : BinaryOp) (left right : Value) : Bool :=
  match op with
  | or => left.isTruthy || right.isTruthy
  | and => left.isTruthy && right.isTruthy
  | equal => left.same right
  | notEqual => !left.same right
  | less => compare Number.below left right
  | lessEqual => compare Number.atMost left right
  | greater => compare (fun a b => b.below a) left right
  | greaterEqual => compare (fun a b => b.atMost a) left right

/-- Whether the left side alone decides what an operator makes of both. -/
def isDecided (op : BinaryOp) (left : Value) : Bool :=
  match op with
  | or => left.isTruthy
  | and => !left.isTruthy
  | _ => false

end BinaryOp

namespace Expr

variable {σ : Type}

/-- The value of an expression, and the state of the host behind it. -/
def eval (registry : Registry σ) (vars : Variables) : Expr → σ → Value × σ
  | .variable name, host => ((Entries.find? name vars).getD .null, host)
  | .number value, host => (.number value, host)
  | .string text, host => (.string text, host)
  | .field base name, host =>
      let result := base.eval registry vars host
      (result.1.field name, result.2)
  | .index base position, host =>
      let left := base.eval registry vars host
      let right := position.eval registry vars left.2
      (left.1.item right.1, right.2)
  | .binary left op right, host =>
      let first := left.eval registry vars host
      if op.isDecided first.1 then (.boolean first.1.isTruthy, first.2)
      else
        let second := right.eval registry vars first.2
        (.boolean (op.holds first.1 second.1), second.2)
  | .pipe input modifier, host =>
      let result := input.eval registry vars host
      registry.apply modifier result.1 result.2

end Expr

end Stencil
