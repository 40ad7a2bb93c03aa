import Stencil.Template.Node
import Stencil.Template.OpenExpr

/-!
# Reading tags

The inside of a tag is read one token after the other: an expression with the modifiers that it
is sent through, a condition, or the attributes of a loop.  A tag is complete with the brace
that closes it.
-/

namespace Stencil

/-- The brace that has to close a tag whose content is complete. -/
def closeWith {State Result : Type} (result : Result) (token : Token) : Progress State Result :=
  if token.kind = .closeTag then .done result
  else .failed (.expected (.token .closeTag) token)

/-- What has been read of a condition. -/
structure OpenCondition where
  expr : OpenExpr

namespace OpenCondition

/-- A condition of which nothing has been read. -/
def start : OpenCondition := ⟨.start⟩

/-- Takes a condition one token further. -/
def step (condition : OpenCondition) (token : Token) : Progress OpenCondition Expr :=
  match condition.expr.step token with
  | .more next => .more ⟨next⟩
  | .done whole => closeWith whole token
  | .failed diagnostic => .failed diagnostic

end OpenCondition

/-- What has been read of an expression to put out: part of it, all of it with some of its
modifiers, or also the bar in front of a further modifier. -/
inductive OpenAction
  | expr (part : OpenExpr)
  | pipeline (input : Expr)
  | modifier (input : Expr)

namespace OpenAction

/-- An expression to put out of which a dollar has been read. -/
def start : OpenAction := .expr .startVariable

/-- Takes a complete expression to the bar in front of a modifier or to the end of its tag. -/
def stepPipeline (input : Expr) (token : Token) : Progress OpenAction Expr :=
  if token.kind = .pipe then .more (.modifier input) else closeWith input token

/-- Takes an expression to put out one token further. -/
def step (action : OpenAction) (token : Token) : Progress OpenAction Expr :=
  match action with
  | .expr part =>
      match part.step token with
      | .more next => .more (.expr next)
      | .done input => stepPipeline input token
      | .failed diagnostic => .failed diagnostic
  | .pipeline input => stepPipeline input token
  | .modifier input =>
      if token.kind.isWord then .more (.pipeline (.pipe input token.literal))
      else .failed (.expected .modifierName token)

end OpenAction

/-- The attributes of a loop. -/
inductive LoopAttribute
  | source
  | item
  | key
  | label
  deriving DecidableEq

namespace LoopAttribute

/-- The attribute that a word names. -/
def ofWord? : String → Option LoopAttribute
  | "from" => some source
  | "item" => some item
  | "key" => some key
  | "name" => some label
  | _ => none

end LoopAttribute

/-- The attributes of a loop that have been read. -/
structure LoopAttributes where
  source : Option Expr
  item : Option String
  key : Option String
  label : Option String

namespace LoopAttributes

/-- No attributes at all. -/
def empty : LoopAttributes := ⟨none, none, none, none⟩

/-- Whether an attribute has been read. -/
def has (attributes : LoopAttributes) : LoopAttribute → Bool
  | .source => attributes.source.isSome
  | .item => attributes.item.isSome
  | .key => attributes.key.isSome
  | .label => attributes.label.isSome

/-- The header that the attributes of a tag make, unless one that it cannot do without is
missing. -/
def header (attributes : LoopAttributes) (tag : Position) : Progress State LoopHeader :=
  match attributes.source, attributes.item with
  | none, _ => .failed ⟨.missingSource, tag⟩
  | some _, none => .failed ⟨.missingItem, tag⟩
  | some source, some item => .done ⟨source, item, attributes.key, attributes.label⟩

end LoopAttributes

/-- The names that a loop binds. -/
inductive LoopVariable
  | item
  | key
  deriving DecidableEq

/-- What has been read of the attributes of a loop: a number of them, also the name of a further
one, or part of its value. -/
inductive OpenLoop
  | between (attributes : LoopAttributes)
  | assign (attributes : LoopAttributes) (name : LoopAttribute)
  | source (attributes : LoopAttributes) (part : OpenExpr)
  | variableOrDollar (attributes : LoopAttributes) (target : LoopVariable)
  | variableName (attributes : LoopAttributes) (target : LoopVariable)
  | label (attributes : LoopAttributes)

namespace OpenLoop

/-- A loop of which no attribute has been read. -/
def start : OpenLoop := .between .empty

/-- Puts the name of a loop variable to the attributes. -/
def bind (attributes : LoopAttributes) (name : String) : LoopVariable → LoopAttributes
  | .item => { attributes with item := some name }
  | .key => { attributes with key := some name }

/-- The point at which the value of an attribute begins. -/
def valueOf (attributes : LoopAttributes) : LoopAttribute → OpenLoop
  | .source => .source attributes .start
  | .item => .variableOrDollar attributes .item
  | .key => .variableOrDollar attributes .key
  | .label => .label attributes

/-- Takes attributes to the name of a further one. -/
def stepName (attributes : LoopAttributes) (token : Token) : Progress OpenLoop LoopHeader :=
  match LoopAttribute.ofWord? token.literal with
  | none => .failed ⟨.unsupportedAttribute token.literal, token.position⟩
  | some name =>
      if attributes.has name then
        .failed ⟨.duplicateAttribute token.literal, token.position⟩
      else .more (.assign attributes name)

/-- Takes attributes to the name of a further one or to the end of the tag. -/
def stepBetween (tag : Position) (attributes : LoopAttributes) (token : Token) :
    Progress OpenLoop LoopHeader :=
  if token.kind = .closeTag then attributes.header tag
  else if token.kind = .endOfInput then .failed ⟨.unterminatedForeachTag, token.position⟩
  else if token.kind = .identifier then stepName attributes token
  else .failed (.expected .attributeName token)

/-- Takes attributes to the token that has to name a loop variable. -/
def stepVariable (attributes : LoopAttributes) (target : LoopVariable) (token : Token) :
    Progress OpenLoop LoopHeader :=
  if token.kind.isWord then .more (.between (bind attributes token.literal target))
  else .failed (.expected .loopVariable token)

/-- Takes the attributes of a loop one token further.  A missing one is reported at the tag. -/
def step (tag : Position) (loop : OpenLoop) (token : Token) : Progress OpenLoop LoopHeader :=
  match loop with
  | .between attributes => stepBetween tag attributes token
  | .assign attributes name =>
      if token.kind = .assign then .more (valueOf attributes name)
      else .failed (.expected (.token .assign) token)
  | .source attributes part =>
      match part.step token with
      | .more next => .more (.source attributes next)
      | .done whole => stepBetween tag { attributes with source := some whole } token
      | .failed diagnostic => .failed diagnostic
  | .variableOrDollar attributes target =>
      if token.kind = .dollar then .more (.variableName attributes target)
      else stepVariable attributes target token
  | .variableName attributes target => stepVariable attributes target token
  | .label attributes =>
      if token.kind.isWord ∨ token.kind = .string then
        .more (.between { attributes with label := some token.literal })
      else .failed (.expected .loopName token)

end OpenLoop

end Stencil
