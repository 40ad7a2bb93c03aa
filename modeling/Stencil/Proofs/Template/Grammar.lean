import Stencil.Template.OpenTag

/-!
# The grammar of templates

Which sequences of tokens write which trees.  The grammar speaks of the kinds and literals of
tokens and not of their places, and it is stated without the reader: an expression is written by
its parts in order, a tag by its braces around a keyword and a content, and a condition or loop
by its tags around its blocks.

The levels of the operators are part of the grammar.  The left operand of an operator binds at
least as tightly as the operator and the right one more tightly, so operators of one level group
to the left, and only operands without an operator have fields and items.

Tokens of some kinds may be passed over between the nodes of a block.  Which kinds these are is
left open: comments may be allowed there, or nothing at all.
-/

namespace Stencil

namespace Expr

/-- The tightness of an operand that has no operator outside brackets. -/
def tightest : Nat := 4

/-- How tightly the outermost operator of an expression binds. -/
def tightness : Expr → Nat
  | .binary _ op _ => op.precedence
  | .pipe _ _ => 0
  | _ => tightest

/-- Tokens that write an expression without modifiers. -/
inductive Derives : Expr → List Token → Prop
  | variable {dollar name : Token}
      (hdollar : dollar.kind = .dollar) (hname : name.kind.isWord = true) :
      Derives (.variable name.literal) [dollar, name]
  | number {digits : Token} (hdigits : digits.kind = .number) :
      Derives (.number (Number.ofDigits digits.literal.toList)) [digits]
  | string {text : Token} (htext : text.kind = .string) :
      Derives (.string text.literal) [text]
  | field {base : Expr} {ts : List Token} {dot name : Token}
      (hbase : Derives base ts) (htight : base.tightness = tightest)
      (hdot : dot.kind = .dot) (hname : name.kind.isWord = true) :
      Derives (.field base name.literal) (ts ++ [dot, name])
  | index {base position : Expr} {ts us : List Token} {left right : Token}
      (hbase : Derives base ts) (htight : base.tightness = tightest)
      (hleft : left.kind = .openBracket) (hposition : Derives position us)
      (hright : right.kind = .closeBracket) :
      Derives (.index base position) (ts ++ left :: us ++ [right])
  | binary {left right : Expr} {op : BinaryOp} {ts us : List Token} {sign : Token}
      (hleft : Derives left ts) (hlevel : op.precedence ≤ left.tightness)
      (hsign : BinaryOp.ofKind? sign.kind = some op)
      (hright : Derives right us) (htighter : op.precedence < right.tightness) :
      Derives (.binary left op right) (ts ++ sign :: us)

/-- Tokens that write an expression and the modifiers that it is sent through. -/
inductive DerivesPipeline : Expr → List Token → Prop
  | expr {input : Expr} {ts : List Token} (hinput : Derives input ts) : DerivesPipeline input ts
  | pipe {input : Expr} {ts : List Token} {bar name : Token}
      (hinput : DerivesPipeline input ts) (hbar : bar.kind = .pipe)
      (hname : name.kind.isWord = true) :
      DerivesPipeline (.pipe input name.literal) (ts ++ [bar, name])

end Expr

/-! ## Attributes of loops -/

namespace LoopVariable

/-- The attribute that names a loop variable. -/
def toAttribute : LoopVariable → LoopAttribute
  | item => .item
  | key => .key

end LoopVariable

namespace LoopAttributes

/-- Tokens that write the value of an attribute, and the attributes before and after it. -/
inductive Adds (attributes : LoopAttributes) :
    LoopAttribute → List Token → LoopAttributes → Prop
  | source {expr : Expr} {ts : List Token} (hexpr : expr.Derives ts) :
      Adds attributes .source ts { attributes with source := some expr }
  | variable {target : LoopVariable} {name : Token} (hname : name.kind.isWord = true) :
      Adds attributes target.toAttribute [name] (OpenLoop.bind attributes name.literal target)
  | dollarVariable {target : LoopVariable} {dollar name : Token}
      (hdollar : dollar.kind = .dollar) (hname : name.kind.isWord = true) :
      Adds attributes target.toAttribute [dollar, name]
        (OpenLoop.bind attributes name.literal target)
  | label {name : Token} (hname : name.kind.isWord = true ∨ name.kind = .string) :
      Adds attributes .label [name] { attributes with label := some name.literal }

/-- The tokens in front of the value of an attribute. -/
structure IsName (which : LoopAttribute) (name assign : Token) : Prop where
  kind : name.kind = .identifier
  word : LoopAttribute.ofWord? name.literal = some which
  assign : assign.kind = .assign

/-- Tokens that write attributes, each of them at most once. -/
inductive Derives : LoopAttributes → List Token → Prop
  | empty : Derives .empty []
  | add {attributes further : LoopAttributes} {which : LoopAttribute}
      {ts us : List Token} {name assign : Token}
      (hattributes : Derives attributes ts) (hnew : attributes.has which = false)
      (hname : IsName which name assign) (hvalue : Adds attributes which us further) :
      Derives further (ts ++ name :: assign :: us)

end LoopAttributes

/-- Tokens that write the header of a loop: its attributes in some order. -/
def LoopHeader.Derives (header : LoopHeader) (ts : List Token) : Prop :=
  LoopAttributes.Derives ⟨some header.source, some header.item, header.key, header.label⟩ ts

/-! ## Nodes and blocks -/

/-- The tokens of a tag: an opening brace, a keyword, a content and a closing brace. -/
inductive IsTag (keyword : TokenKind) (content : List Token) : List Token → Prop
  | mk {left word right : Token}
      (hleft : left.kind = .openTag) (hword : word.kind = keyword)
      (hright : right.kind = .closeTag) :
      IsTag keyword content (left :: word :: content ++ [right])

/-- The tokens inside a literal block, and its text: one token of text, or none. -/
inductive IsLiteralBody : String → List Token → Prop
  | empty : IsLiteralBody "" []
  | text {body : Token} (hbody : body.kind = .text) : IsLiteralBody body.literal [body]

/-- What the grammar of templates speaks of: a node, a block, or what follows the block of a
condition to the end of the condition. -/
inductive Phrase
  | node (node : Node)
  | block (nodes : List Node)
  | ending (otherwise : Alternative)

namespace Phrase

/-- Tokens that write a phrase, where tokens of some kinds may be passed over between nodes. -/
inductive Derives (passedOver : TokenKind → Prop) : Phrase → List Token → Prop
  | text {text : Token} (htext : text.kind = .text) :
      Derives passedOver (.node (.text text.literal)) [text]
  | literal {body : String} {ts us vs : List Token}
      (hopening : IsTag .literalWord [] ts) (hbody : IsLiteralBody body us)
      (hend : IsTag .endLiteralWord [] vs) :
      Derives passedOver (.node (.text body)) (ts ++ us ++ vs)
  | action {expr : Expr} {us : List Token} {left dollar right : Token}
      (hleft : left.kind = .openTag) (hdollar : dollar.kind = .dollar)
      (hexpr : expr.DerivesPipeline (dollar :: us)) (hright : right.kind = .closeTag) :
      Derives passedOver (.node (.action expr)) (left :: dollar :: us ++ [right])
  | conditional {condition : Expr} {block : List Node} {otherwise : Alternative}
      {cs ts us vs : List Token}
      (htag : IsTag .ifWord cs ts) (hcondition : condition.Derives cs)
      (hblock : Derives passedOver (.block block) us)
      (hotherwise : Derives passedOver (.ending otherwise) vs) :
      Derives passedOver (.node (.conditional condition block otherwise)) (ts ++ us ++ vs)
  | loop {header : LoopHeader} {body : List Node} {hs ts us vs : List Token}
      (htag : IsTag .foreachWord hs ts) (hheader : header.Derives hs)
      (hbody : Derives passedOver (.block body) us) (hend : IsTag .endForeachWord [] vs) :
      Derives passedOver (.node (.loop header body none)) (ts ++ us ++ vs)
  | loopOrEmpty {header : LoopHeader} {body ifEmpty : List Node}
      {hs ts us vs ws xs : List Token}
      (htag : IsTag .foreachWord hs ts) (hheader : header.Derives hs)
      (hbody : Derives passedOver (.block body) us) (helse : IsTag .foreachElseWord [] vs)
      (hifEmpty : Derives passedOver (.block ifEmpty) ws) (hend : IsTag .endForeachWord [] xs) :
      Derives passedOver (.node (.loop header body (some ifEmpty)))
        (ts ++ us ++ vs ++ ws ++ xs)
  | nil : Derives passedOver (.block []) []
  | add {nodes : List Node} {node : Node} {ts us : List Token}
      (hnodes : Derives passedOver (.block nodes) ts)
      (hnode : Derives passedOver (.node node) us) :
      Derives passedOver (.block (nodes ++ [node])) (ts ++ us)
  | skip {nodes : List Node} {ts : List Token} {token : Token}
      (hnodes : Derives passedOver (.block nodes) ts) (htoken : passedOver token.kind) :
      Derives passedOver (.block nodes) (ts ++ [token])
  | nothing {ts : List Token} (hend : IsTag .endIfWord [] ts) :
      Derives passedOver (.ending .nothing) ts
  | block {nodes : List Node} {ts us vs : List Token}
      (helse : IsTag .elseWord [] ts) (hnodes : Derives passedOver (.block nodes) us)
      (hend : IsTag .endIfWord [] vs) :
      Derives passedOver (.ending (.block nodes)) (ts ++ us ++ vs)
  | elseIf {condition : Expr} {block : List Node} {otherwise : Alternative}
      {cs ts us vs : List Token}
      (htag : IsTag .elseIfWord cs ts) (hcondition : condition.Derives cs)
      (hblock : Derives passedOver (.block block) us)
      (hotherwise : Derives passedOver (.ending otherwise) vs) :
      Derives passedOver (.ending (.elseIf condition block otherwise)) (ts ++ us ++ vs)

/-- A derivation that passes over nothing: every token is one of the tree. -/
abbrev Exact (phrase : Phrase) (ts : List Token) : Prop :=
  phrase.Derives (fun _ => False) ts

end Phrase

end Stencil
