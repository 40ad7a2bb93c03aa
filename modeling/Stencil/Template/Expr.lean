import Stencil.Number.Shortest
import Stencil.Token.Basic

/-!
# Expressions

An expression names a variable, writes a number or a string, takes a field or an item of another
expression, joins two by an operator, or sends one through a modifier.  Operators bind in three
groups: disjunction loosest, then conjunction, then the comparisons.
-/

namespace Stencil

/-- An operator between two expressions. -/
inductive BinaryOp
  | or
  | and
  | equal
  | notEqual
  | less
  | lessEqual
  | greater
  | greaterEqual
  deriving DecidableEq

namespace BinaryOp

/-- The operator that a kind of token stands for. -/
def ofKind? : TokenKind → Option BinaryOp
  | .orWord => some or
  | .andWord => some and
  | .equal => some equal
  | .notEqual => some notEqual
  | .less => some less
  | .lessEqual => some lessEqual
  | .greater => some greater
  | .greaterEqual => some greaterEqual
  | _ => none

/-- How tightly an operator binds. -/
def precedence : BinaryOp → Nat
  | or => 1
  | and => 2
  | _ => 3

/-- An operator as it is spelled. -/
def text : BinaryOp → String
  | or => "or"
  | and => "and"
  | equal => "=="
  | notEqual => "!="
  | less => "<"
  | lessEqual => "<="
  | greater => ">"
  | greaterEqual => ">="

end BinaryOp

/-- An expression. -/
inductive Expr
  | variable (name : String)
  | number (value : Number)
  | string (text : String)
  | field (base : Expr) (name : String)
  | index (base position : Expr)
  | binary (left : Expr) (op : BinaryOp) (right : Expr)
  | pipe (input : Expr) (modifier : String)
  deriving DecidableEq

instance : Inhabited Expr := ⟨.string ""⟩

namespace Expr

/-- An expression in full parentheses, as a description and not as source. -/
def text : Expr → String
  | .variable name => "$" ++ name
  | .number value => value.text
  | .string text => "\x22" ++ text ++ "\x22"
  | .field base name => "(" ++ base.text ++ "." ++ name ++ ")"
  | .index base position => "(" ++ base.text ++ "[" ++ position.text ++ "])"
  | .binary left op right => "(" ++ left.text ++ " " ++ op.text ++ " " ++ right.text ++ ")"
  | .pipe input modifier => "(" ++ input.text ++ " | " ++ modifier ++ ")"

end Expr

end Stencil
