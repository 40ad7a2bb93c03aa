import Stencil.Number.Decimal
import Stencil.Template.Diagnostic
import Stencil.Template.Expr

/-!
# Reading expressions

An open expression is what has been read of an expression so far, and reading takes it one token
further.  Left operands wait on a stack until their right operand is complete; an operator
completes all waiting ones that bind at least as tightly, so equal operators group to the left.
A bracket waits on the same stack and keeps what is inside it apart from what is outside.

An expression is complete in front of the first token that cannot go on with it.
-/

namespace Stencil

/-- What waits for the operand that is being read: the left side of an operator, or the array whose
position stands in brackets. -/
inductive Pending
  | operator (left : Expr) (op : BinaryOp)
  | bracket (base : Expr)

/-- What may stand next in an expression: an operand, the name behind a dollar, anything that
goes on with or follows an operand, or the name behind a dot. -/
inductive ReadingPoint
  | operand
  | variableName
  | suffix (operand : Expr)
  | propertyName (base : Expr)

/-- What has been read of an expression. -/
structure OpenExpr where
  pending : List Pending
  point : ReadingPoint

namespace OpenExpr

/-- An expression of which nothing has been read. -/
def start : OpenExpr := ⟨[], .operand⟩

/-- An expression of which a dollar has been read. -/
def startVariable : OpenExpr := ⟨[], .variableName⟩

/-- Makes an operand the right side of the waiting operators, up to the innermost bracket, that
bind at least as tightly as a minimum. -/
def join (minimum : Nat) (operand : Expr) : List Pending → Expr × List Pending
  | .operator left op :: rest =>
      if minimum ≤ op.precedence then join minimum (.binary left op operand) rest
      else (operand, .operator left op :: rest)
  | rest => (operand, rest)

/-- Takes an operand and what waits for it to a token that goes on with neither: the bracket that it
closes, or the end of the expression. -/
def close (pending : List Pending) (operand : Expr) (token : Token) : Progress OpenExpr Expr :=
  match join 0 operand pending with
  | (position, .bracket base :: outer) =>
      if token.kind = .closeBracket then .more ⟨outer, .suffix (.index base position)⟩
      else .failed (.expected (.token .closeBracket) token)
  | (whole, _) => .done whole

/-- Takes an operand one token further. -/
def stepSuffix (pending : List Pending) (operand : Expr) (token : Token) : Progress OpenExpr Expr :=
  match token.kind with
  | .dot => .more ⟨pending, .propertyName operand⟩
  | .openBracket => .more ⟨.bracket operand :: pending, .operand⟩
  | kind =>
      match BinaryOp.ofKind? kind with
      | some op =>
          let joined := join op.precedence operand pending
          .more ⟨.operator joined.1 op :: joined.2, .operand⟩
      | none => close pending operand token

/-- Takes an expression to the token that begins an operand. -/
def stepOperand (pending : List Pending) (token : Token) : Progress OpenExpr Expr :=
  match token.kind with
  | .dollar => .more ⟨pending, .variableName⟩
  | .number => .more ⟨pending, .suffix (.number (Number.ofDigits token.literal.toList))⟩
  | .string => .more ⟨pending, .suffix (.string token.literal)⟩
  | _ => .failed (.expected .expression token)

/-- Takes an expression to the token that has to be a name. -/
def stepName
    (pending : List Pending) (what : Expectation) (named : String → Expr) (token : Token) :
    Progress OpenExpr Expr :=
  if token.kind.isWord then .more ⟨pending, .suffix (named token.literal)⟩
  else .failed (.expected what token)

/-- Takes an expression one token further.  It is complete in front of the token, not with it. -/
def step (expr : OpenExpr) (token : Token) : Progress OpenExpr Expr :=
  match expr.point with
  | .operand => stepOperand expr.pending token
  | .variableName => stepName expr.pending .variableName .variable token
  | .suffix operand => stepSuffix expr.pending operand token
  | .propertyName base => stepName expr.pending .propertyName (.field base) token

end OpenExpr

end Stencil
