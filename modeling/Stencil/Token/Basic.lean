/-!
# Tokens

A token is a piece of template source of one kind: a run of text outside tags, a piece of
punctuation, a word, a number, a quoted string or a comment.  Some words are keywords and have
kinds of their own, but nearly all of them may still stand where a name is asked for.
-/

namespace Stencil

/-- The kind of a token. -/
inductive TokenKind
  | endOfInput
  | illegal
  | text
  | openTag
  | closeTag
  | dollar
  | identifier
  | number
  | string
  | comment
  | pipe
  | dot
  | openBracket
  | closeBracket
  | assign
  | equal
  | notEqual
  | less
  | lessEqual
  | greater
  | greaterEqual
  | andWord
  | orWord
  | ifWord
  | elseWord
  | elseIfWord
  | endIfWord
  | foreachWord
  | foreachElseWord
  | endForeachWord
  | literalWord
  | endLiteralWord
  deriving DecidableEq

namespace TokenKind

/-- The name of a kind: punctuation and keywords as they are spelled, and the others by a class. -/
def name : TokenKind → String
  | endOfInput => "EOF"
  | illegal => "ILLEGAL"
  | text => "TEXT"
  | openTag => "\x7b"
  | closeTag => "\x7d"
  | dollar => "$"
  | identifier => "IDENT"
  | number => "NUMBER"
  | string => "STRING"
  | comment => "COMMENT"
  | pipe => "|"
  | dot => "."
  | openBracket => "["
  | closeBracket => "]"
  | assign => "="
  | equal => "=="
  | notEqual => "!="
  | less => "<"
  | lessEqual => "<="
  | greater => ">"
  | greaterEqual => ">="
  | andWord => "and"
  | orWord => "or"
  | ifWord => "if"
  | elseWord => "else"
  | elseIfWord => "elseif"
  | endIfWord => "/if"
  | foreachWord => "foreach"
  | foreachElseWord => "foreachelse"
  | endForeachWord => "/foreach"
  | literalWord => "literal"
  | endLiteralWord => "/literal"

/-- The keywords. -/
def keywords : List TokenKind :=
  [andWord, orWord, ifWord, elseWord, elseIfWord, endIfWord, foreachWord, foreachElseWord,
    endForeachWord, literalWord, endLiteralWord]

/-- The kind of a word: the keyword that is spelled so, or else an identifier. -/
def ofWord (word : String) : TokenKind :=
  (keywords.find? fun kind => kind.name == word).getD identifier

/-- Whether a token of this kind may stand for a name. -/
def isWord : TokenKind → Bool
  | identifier | andWord | orWord | ifWord | elseWord | elseIfWord => true
  | foreachWord | foreachElseWord | literalWord => true
  | _ => false

end TokenKind

/-- A place in a source: its line, and its column in characters, both counted from one. -/
structure Position where
  line : Nat
  column : Nat
  deriving DecidableEq

namespace Position

/-- The place where a source begins. -/
def start : Position := ⟨1, 1⟩

/-- The place behind a character. -/
def after (position : Position) (c : Char) : Position :=
  if c = '\n' then ⟨position.line + 1, 1⟩ else ⟨position.line, position.column + 1⟩

/-- The place behind a text. -/
def advance (position : Position) (text : List Char) : Position :=
  text.foldl after position

end Position

/-- A token: its kind, what it says, and the place of its first character. -/
structure Token where
  kind : TokenKind
  literal : String
  position : Position
  deriving DecidableEq

namespace Token

/-- How a token is named to a reader: its literal, behind the name of its class if it has one. -/
def describe (token : Token) : String :=
  if token.kind = .endOfInput then "end of input"
  else if token.kind.name = token.literal then "`" ++ token.literal ++ "`"
  else token.kind.name ++ " `" ++ token.literal ++ "`"

end Token

end Stencil
