import Stencil.Proofs.Number.Digits
import Stencil.Proofs.Template.Grammar
import Stencil.Proofs.Token.Lexemes

/-!
# Printing templates

How a tree is written as a source: text in literal blocks, an expression without parentheses and
with blanks around its operators, and the optional parts of conditions and loops where they are
there.

A tree is canonical if it is made of what can be written so.  Names have to be words that are
not the end of anything, strings have to leave a quote to be put in, numbers have to be values
of digit runs, and operands have to bind as tightly as their places ask for.
-/

namespace Stencil

/-! ## Sources of trees -/

/-- The quote that a text is put in: the double one if it is not in the text. -/
def quoteFor (text : String) : Char :=
  if '\x22' ∈ text.toList then '\x27' else '\x22'

/-- A text between quotes. -/
def printQuoted (text : String) : List Char :=
  quoteFor text :: (text.toList ++ [quoteFor text])

/-- An expression and the modifiers that it is sent through. -/
def Expr.print : Expr → List Char
  | .variable name => '$' :: name.toList
  | .number value => value.digitRun
  | .string text => printQuoted text
  | .field base name => base.print ++ '.' :: name.toList
  | .index base position => base.print ++ '[' :: (position.print ++ [']'])
  | .binary left op right => left.print ++ ' ' :: (op.text.toList ++ ' ' :: right.print)
  | .pipe input modifier => input.print ++ '|' :: modifier.toList

/-- A tag that begins with a keyword. -/
def printTag (keyword : TokenKind) (content : List Char) : List Char :=
  '\x7b' :: (keyword.name.toList ++ (content ++ ['\x7d']))

/-- The word that names an attribute of a loop. -/
def LoopAttribute.word : LoopAttribute → String
  | source => "from"
  | item => "item"
  | key => "key"
  | label => "name"

/-- An attribute of a loop, with a blank in front of it. -/
def printAttribute (which : LoopAttribute) (value : List Char) : List Char :=
  ' ' :: (which.word.toList ++ '=' :: value)

/-- The attributes of a loop, those that may be missing last. -/
def LoopHeader.print (header : LoopHeader) : List Char :=
  printAttribute .source header.source.print ++
    (printAttribute .item header.item.toList ++
      ((header.key.elim [] fun key => printAttribute .key key.toList) ++
        header.label.elim [] fun label => printAttribute .label (printQuoted label)))

mutual

/-- A node. -/
def Node.print : Node → List Char
  | .text content => printTag .literalWord [] ++ (content.toList ++ printTag .endLiteralWord [])
  | .action expr => '\x7b' :: (expr.print ++ ['\x7d'])
  | .conditional condition block otherwise =>
      printTag .ifWord (' ' :: condition.print) ++ (Node.printAll block ++ otherwise.print)
  | .loop header body none =>
      printTag .foreachWord header.print ++ (Node.printAll body ++ printTag .endForeachWord [])
  | .loop header body (some block) =>
      printTag .foreachWord header.print ++
        (Node.printAll body ++
          (printTag .foreachElseWord [] ++ (Node.printAll block ++ printTag .endForeachWord [])))

/-- The nodes of a block, one behind the other. -/
def Node.printAll : List Node → List Char
  | [] => []
  | node :: rest => node.print ++ Node.printAll rest

/-- What a condition goes on to, up to its end. -/
def Alternative.print : Alternative → List Char
  | .nothing => printTag .endIfWord []
  | .block nodes => printTag .elseWord [] ++ (Node.printAll nodes ++ printTag .endIfWord [])
  | .elseIf condition block otherwise =>
      printTag .elseIfWord (' ' :: condition.print) ++ (Node.printAll block ++ otherwise.print)

end

/-- The source of a template. -/
def printSource (nodes : List Node) : String :=
  String.ofList (Node.printAll nodes)

/-! ## Trees that can be written -/

/-- A word that can stand for a name anywhere: not the end of a condition, a loop or a literal
block. -/
structure IsName (name : String) : Prop where
  word : IsWord name.toList
  not_endIf : name ≠ "/if"
  not_endForeach : name ≠ "/foreach"
  not_endLiteral : name ≠ "/literal"

theorem isName_iff (name : String) :
    IsName name ↔
      IsWord name.toList ∧ name ≠ "/if" ∧ name ≠ "/foreach" ∧ name ≠ "/literal" := by
  constructor
  · intro h
    exact ⟨h.word, h.not_endIf, h.not_endForeach, h.not_endLiteral⟩
  · rintro ⟨hword, hif, hforeach, hliteral⟩
    exact ⟨hword, hif, hforeach, hliteral⟩

instance decidableIsName (name : String) : Decidable (IsName name) :=
  decidable_of_iff _ (isName_iff name).symm

/-- A text without one of the quotes, or without both. -/
def IsQuotable (text : String) : Prop :=
  '\x22' ∉ text.toList ∨ '\x27' ∉ text.toList

instance decidableIsQuotable (text : String) : Decidable (IsQuotable text) :=
  inferInstanceAs (Decidable (_ ∨ _))

namespace Expr

/-- An expression without modifiers that can be written. -/
def Canonical : Expr → Prop
  | .variable name => IsName name
  | .number value => ∃ digits, Number.IsDigitRun digits ∧ Number.ofDigits digits = value
  | .string text => IsQuotable text
  | .field base name => base.Canonical ∧ base.tightness = tightest ∧ IsName name
  | .index base position =>
      base.Canonical ∧ base.tightness = tightest ∧ position.Canonical
  | .binary left op right =>
      left.Canonical ∧ op.precedence ≤ left.tightness ∧
        right.Canonical ∧ op.precedence < right.tightness
  | .pipe _ _ => False

/-- An expression that can be written with its modifiers. -/
def CanonicalPipeline : Expr → Prop
  | .pipe input modifier => input.CanonicalPipeline ∧ IsName modifier
  | other => other.Canonical

/-- Whether the first operand of an expression is a variable. -/
def BeginsWithVariable : Expr → Prop
  | .variable _ => True
  | .number _ => False
  | .string _ => False
  | .field base _ => base.BeginsWithVariable
  | .index base _ => base.BeginsWithVariable
  | .binary left _ _ => left.BeginsWithVariable
  | .pipe input _ => input.BeginsWithVariable

end Expr

/-- A header that can be written. -/
structure LoopHeader.Canonical (header : LoopHeader) : Prop where
  source : header.source.Canonical
  item : IsName header.item
  key : ∀ key ∈ header.key, IsName key
  label : ∀ label ∈ header.label, IsQuotable label

mutual

/-- A node that can be written. -/
def Node.Canonical : Node → Prop
  | .text content => ¬ Cut.literalEnd <:+: content.toList
  | .action expr => expr.CanonicalPipeline ∧ expr.BeginsWithVariable
  | .conditional condition block otherwise =>
      condition.Canonical ∧ Node.CanonicalAll block ∧ otherwise.Canonical
  | .loop header body none => header.Canonical ∧ Node.CanonicalAll body
  | .loop header body (some block) =>
      header.Canonical ∧ Node.CanonicalAll body ∧ Node.CanonicalAll block

/-- Nodes that can all be written. -/
def Node.CanonicalAll : List Node → Prop
  | [] => True
  | node :: rest => node.Canonical ∧ Node.CanonicalAll rest

/-- What a condition goes on to, if it can be written. -/
def Alternative.Canonical : Alternative → Prop
  | .nothing => True
  | .block nodes => Node.CanonicalAll nodes
  | .elseIf condition block otherwise =>
      condition.Canonical ∧ Node.CanonicalAll block ∧ otherwise.Canonical

end

end Stencil
