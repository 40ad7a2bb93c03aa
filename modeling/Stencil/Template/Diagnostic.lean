import Stencil.Token.Basic

/-!
# Diagnostics

A diagnostic says what is wrong with a template and where.  Most of them name what should have
stood at a place and the token found there instead.
-/

namespace Stencil

/-- What a reader of templates can be waiting for. -/
inductive Expectation
  | token (kind : TokenKind)
  | expression
  | variableName
  | propertyName
  | modifierName
  | attributeName
  | loopVariable
  | loopName
  deriving DecidableEq

namespace Expectation

/-- The name of an expectation. -/
def text : Expectation → String
  | token kind => "`" ++ kind.name ++ "`"
  | expression => "expression"
  | variableName => "variable name after `$`"
  | propertyName => "property name after `.`"
  | modifierName => "modifier name after `|`"
  | attributeName => "foreach attribute"
  | loopVariable => "loop variable name"
  | loopName => "loop name"

end Expectation

/-- What can be wrong with a template. -/
inductive Problem
  | expected (what : Expectation) (found : Token)
  | unknownTag (found : Token)
  | misplacedForeachElse
  | unsupportedAttribute (name : String)
  | duplicateAttribute (name : String)
  | missingSource
  | missingItem
  | unterminatedIf
  | unterminatedForeach
  | unterminatedLiteral
  | unterminatedForeachTag
  deriving DecidableEq

namespace Problem

/-- The wording of a problem. -/
def message : Problem → String
  | expected what found => "expected " ++ what.text ++ ", got " ++ found.describe
  | unknownTag found => "unknown tag: " ++ found.describe
  | misplacedForeachElse => "\x7bforeachelse\x7d outside of \x7bforeach\x7d"
  | unsupportedAttribute name => "unsupported foreach attribute `" ++ name ++ "`"
  | duplicateAttribute name => "duplicate foreach attribute `" ++ name ++ "`"
  | missingSource => "\x7bforeach\x7d requires a `from` attribute"
  | missingItem => "\x7bforeach\x7d requires an `item` attribute"
  | unterminatedIf => "unterminated \x7bif\x7d: missing \x7b/if\x7d"
  | unterminatedForeach => "unterminated \x7bforeach\x7d: missing \x7b/foreach\x7d"
  | unterminatedLiteral => "unterminated \x7bliteral\x7d: missing \x7b/literal\x7d"
  | unterminatedForeachTag => "unterminated \x7bforeach\x7d tag"

end Problem

/-- A problem and its place. -/
structure Diagnostic where
  problem : Problem
  position : Position
  deriving DecidableEq

namespace Diagnostic

/-- The diagnostic that a token is not what should stand in its place. -/
def expected (what : Expectation) (found : Token) : Diagnostic :=
  ⟨.expected what found, found.position⟩

/-- The wording of a diagnostic. -/
def message (diagnostic : Diagnostic) : String :=
  diagnostic.problem.message

/-- A diagnostic with its place in front. -/
def text (diagnostic : Diagnostic) : String :=
  "line " ++ toString diagnostic.position.line ++ ", column " ++
    toString diagnostic.position.column ++ ": " ++ diagnostic.message

end Diagnostic

/-- What one more token does to something that is being read: there is more to come, it is
complete, or the token cannot stand there. -/
inductive Progress (State Result : Type)
  | more (next : State)
  | done (result : Result)
  | failed (diagnostic : Diagnostic)

end Stencil
