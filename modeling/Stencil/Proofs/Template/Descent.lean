import Stencil.Proofs.Token.Pieces
import Stencil.Template.Basic

/-!
# Reading by descent

A template can also be read by functions that call one another: a block reads the tags in it, a
tag reads the expressions inside it and the blocks up to its end, and an expression reads what
stands in brackets.  Such a reader looks at the next two tokens and goes over one token at a
time.  At the end it stays where it is.

Seven of the functions come back to themselves, as a loop that makes a further round or through
the functions that they call.  Each of them is written over what it is given for the rounds and
calls to come, so that the depth to which these nest can be bounded from outside: a reader that
is not allowed to go any deeper has no result.  Two loops need no such bound, since it is plain
that their rounds go over a token: the one that passes over what is left of a tag, and the one
over the texts of a literal block.
-/

namespace Stencil

namespace Scanner

theorem tokens_ne_nil (scanner : Scanner) : scanner.tokens ≠ [] := by
  by_cases hend : scanner.token.kind = .endOfInput
  · rw [tokens_eq_singleton hend]
    exact List.cons_ne_nil _ _
  · rw [tokens_eq_cons hend]
    exact List.cons_ne_nil _ _

/-- Only the last token says that the source has ended. -/
theorem kind_of_mem_dropLast (scanner : Scanner) :
    ∀ token ∈ scanner.tokens.dropLast, token.kind ≠ .endOfInput := by
  induction scanner using tokens.induct with
  | case1 scanner hend =>
      rw [tokens_eq_singleton hend]
      intro token hmem
      cases hmem
  | case2 scanner hend ih =>
      rw [tokens_eq_cons hend, List.dropLast_cons_of_ne_nil (tokens_ne_nil scanner.next),
        List.forall_mem_cons]
      exact ⟨hend, ih⟩

theorem kind_getLast (scanner : Scanner) :
    (scanner.tokens.getLast (tokens_ne_nil scanner)).kind = .endOfInput := by
  induction scanner using tokens.induct with
  | case1 scanner hend =>
      simp only [tokens_eq_singleton hend, List.getLast_singleton]
      exact hend
  | case2 scanner hend ih =>
      simp only [tokens_eq_cons hend, List.getLast_cons (tokens_ne_nil scanner.next)]
      exact ih

end Scanner

/-- Where a reader stands between the tokens of a source, and what it has reported.  Only the
token at the end says that the source has ended. -/
structure Reader where
  taken : List Token
  ahead : List Token
  ending : Token
  diagnostics : List Diagnostic
  isInside : ∀ token ∈ ahead, token.kind ≠ .endOfInput
  isEnd : ending.kind = .endOfInput

namespace Reader

/-- A reader in front of a source. -/
def ofSource (source : String) : Reader where
  taken := []
  ahead := (Scanner.ofSource source).tokens.dropLast
  ending := (Scanner.ofSource source).tokens.getLast (Scanner.tokens_ne_nil _)
  diagnostics := []
  isInside := Scanner.kind_of_mem_dropLast _
  isEnd := Scanner.kind_getLast _

/-- The next token. -/
def current (reader : Reader) : Token :=
  reader.ahead.headD reader.ending

/-- The token behind the next one. -/
def peek (reader : Reader) : Token :=
  reader.ahead.tail.headD reader.ending

/-- The tokens that are left, with the one at the end. -/
def left (reader : Reader) : List Token :=
  reader.ahead ++ [reader.ending]

/-- Goes over the next token, unless it is the one at the end. -/
def advance (reader : Reader) : Reader :=
  { reader with
    taken := reader.taken ++ reader.ahead.take 1
    ahead := reader.ahead.tail
    isInside := fun token h => reader.isInside token (List.mem_of_mem_tail h) }

/-- Records a diagnostic. -/
def report (reader : Reader) (diagnostic : Diagnostic) : Reader :=
  { reader with diagnostics := reader.diagnostics ++ [diagnostic] }

theorem ne_end_of_kind {reader : Reader} {kind : TokenKind} (h : reader.current.kind = kind)
    (hkind : kind ≠ .endOfInput) : reader.current.kind ≠ .endOfInput := by
  rwa [h]

theorem ne_end_of_isWord {reader : Reader} (h : reader.current.kind.isWord = true) :
    reader.current.kind ≠ .endOfInput := by
  intro hend
  rw [hend] at h
  cases h

theorem ne_end_of_ofKind? {reader : Reader} {op : BinaryOp}
    (h : BinaryOp.ofKind? reader.current.kind = some op) : reader.current.kind ≠ .endOfInput := by
  intro hend
  rw [hend] at h
  cases h

theorem ahead_of_ended {reader : Reader} (h : reader.current.kind = .endOfInput) :
    reader.ahead = [] := by
  obtain ⟨taken, ahead, ending, diagnostics, hinside, hend⟩ := reader
  cases ahead with
  | nil => rfl
  | cons token ts => exact absurd h (hinside token List.mem_cons_self)

theorem ahead_eq_cons {reader : Reader} (h : reader.current.kind ≠ .endOfInput) :
    reader.ahead = reader.current :: reader.advance.ahead := by
  obtain ⟨taken, ahead, ending, diagnostics, hinside, hend⟩ := reader
  cases ahead with
  | nil => exact absurd hend h
  | cons token ts => rfl

theorem length_advance_lt {reader : Reader} (h : reader.current.kind ≠ .endOfInput) :
    reader.advance.ahead.length < reader.ahead.length := by
  rw [ahead_eq_cons h]
  exact Nat.lt_succ_self _

theorem left_eq_cons {reader : Reader} (h : reader.current.kind ≠ .endOfInput) :
    reader.left = reader.current :: reader.advance.left := by
  rw [left, ahead_eq_cons h]
  rfl

theorem left_of_ended {reader : Reader} (h : reader.current.kind = .endOfInput) :
    reader.left = [reader.current] := by
  have hahead := ahead_of_ended h
  rw [left, current, hahead]
  rfl

theorem left_eq_current (reader : Reader) : reader.left = reader.current :: reader.left.tail := by
  by_cases h : reader.current.kind = .endOfInput
  · rw [left_of_ended h]
    rfl
  · rw [left_eq_cons h]
    rfl

/-- Goes over a token of a kind, or reports that it is missing. -/
def expect (kind : TokenKind) (reader : Reader) : Bool × Reader :=
  if reader.current.kind = kind then (true, reader.advance)
  else (false, reader.report (.expected (.token kind) reader.current))

/-- Goes on behind the next brace that closes a tag, or to the end. -/
def skipTag (reader : Reader) : Reader :=
  if reader.current.kind = .closeTag then reader.advance
  else if _ : reader.current.kind = .endOfInput then reader
  else reader.advance.skipTag
termination_by reader.ahead.length
decreasing_by exact length_advance_lt ‹_›

/-- Goes over the brace that closes a tag, which keeps the result of the tag.  Without the brace
there is none, and what is left of the tag is passed over. -/
def closing {Result : Type} (result : Result) (reader : Reader) : Option Result × Reader :=
  match reader.expect .closeTag with
  | (true, behind) => (some result, behind)
  | (false, behind) => (none, behind.skipTag)

/-- Goes over the brace that closes a tag of a keyword alone. -/
def closeTag (reader : Reader) : Reader :=
  (reader.closing ()).2

/-- Goes over a word that stands for a name. -/
def word (what : Expectation) (reader : Reader) : Option String × Reader :=
  if reader.current.kind.isWord then (some reader.current.literal, reader.advance)
  else (none, reader.report (.expected what reader.current))

theorem expect_cases (kind : TokenKind) (reader : Reader) :
    reader.current.kind = kind ∧ reader.expect kind = (true, reader.advance) ∨
      reader.current.kind ≠ kind ∧
        reader.expect kind = (false, reader.report (.expected (.token kind) reader.current)) := by
  by_cases h : reader.current.kind = kind
  · exact .inl ⟨h, if_pos h⟩
  · exact .inr ⟨h, if_neg h⟩

theorem closing_cases {Result : Type} (result : Result) (reader : Reader) :
    reader.current.kind = .closeTag ∧ reader.closing result = (some result, reader.advance) ∨
      reader.current.kind ≠ .closeTag ∧ reader.closing result =
        (none, (reader.report (.expected (.token .closeTag) reader.current)).skipTag) := by
  rcases expect_cases .closeTag reader with ⟨hkind, hexpect⟩ | ⟨hkind, hexpect⟩
  · refine .inl ⟨hkind, ?_⟩
    rw [closing, hexpect]
  · refine .inr ⟨hkind, ?_⟩
    rw [closing, hexpect]

theorem word_cases (what : Expectation) (reader : Reader) :
    reader.current.kind.isWord = true ∧
        reader.word what = (some reader.current.literal, reader.advance) ∨
      reader.current.kind.isWord = false ∧
        reader.word what = (none, reader.report (.expected what reader.current)) := by
  cases h : reader.current.kind.isWord with
  | true => exact .inl ⟨rfl, if_pos h⟩
  | false => exact .inr ⟨rfl, if_neg (by rw [h]; exact Bool.false_ne_true)⟩

/-- Reads a variable, a number or a string. -/
def primary (reader : Reader) : Option Expr × Reader :=
  match reader.current.kind with
  | .dollar =>
      let (name, behind) := reader.advance.word .variableName
      (name.map .variable, behind)
  | .number => (some (.number (Number.ofDigits reader.current.literal.toList)), reader.advance)
  | .string => (some (.string reader.current.literal), reader.advance)
  | _ => (none, reader.report (.expected .expression reader.current))

/-- Reads the name of a loop variable, with or without a dollar. -/
def loopVariable (reader : Reader) : Option String × Reader :=
  if reader.current.kind = .dollar then reader.advance.word .loopVariable
  else reader.word .loopVariable

/-- Reads the label of a loop. -/
def loopLabel (reader : Reader) : Option String × Reader :=
  if reader.current.kind.isWord ∨ reader.current.kind = .string then
    (some reader.current.literal, reader.advance)
  else (none, reader.report (.expected .loopName reader.current))

/-- Reads the texts that stand in a row, behind a text that has been read. -/
def rawText (body : String) (reader : Reader) : String × Reader :=
  if reader.current.kind = .text then rawText (body ++ reader.current.literal) reader.advance
  else (body, reader)
termination_by reader.ahead.length
decreasing_by
  rename_i htext
  exact length_advance_lt (ne_end_of_kind htext (by decide))

/-- Reads a literal block. -/
def literal (reader : Reader) : Option Node × Reader :=
  let tag := reader.peek.position
  match reader.advance.advance.closing () with
  | (none, behind) => (none, behind)
  | (some _, behind) =>
      let (body, behind) := behind.rawText ""
      if behind.current.kind = .openTag ∧ behind.peek.kind = .endLiteralWord then
        (some (.text body), behind.advance.advance.closeTag)
      else (some (.text body), behind.report ⟨.unterminatedLiteral, tag⟩)

/-- Makes a header of the attributes of a loop. -/
def header (tag : Position) (attributes : LoopAttributes) (reader : Reader) :
    Option LoopHeader × Reader :=
  match attributes.source, attributes.item with
  | none, _ => (none, reader.report ⟨.missingSource, tag⟩)
  | some _, none => (none, reader.report ⟨.missingItem, tag⟩)
  | some source, some item => (some ⟨source, item, attributes.key, attributes.label⟩, reader)

/-- Goes over the tag that ends a loop, or reports that it is missing. -/
def endLoop (tag : Position) (terminator : Option TokenKind) (reader : Reader) : Reader :=
  if terminator = some .endForeachWord then reader.advance.advance.closeTag
  else reader.report ⟨.unterminatedForeach, tag⟩

end Reader

/-- What has been read of a condition. -/
structure Conditional where
  condition : Option Expr
  consequence : List Node
  elseIfs : List (Expr × List Node)
  alternative : Option (List Node)
  valid : Bool

namespace Conditional

/-- A condition whose first block has been read. -/
def begin (condition : Option Expr) (consequence : List Node) : Conditional :=
  ⟨condition, consequence, [], none, condition.isSome⟩

/-- A condition of which a further condition and its block have been read. -/
def elseIf (parts : Conditional) (condition : Option Expr) (block : List Node) : Conditional :=
  match condition with
  | some condition => { parts with elseIfs := parts.elseIfs ++ [(condition, block)] }
  | none => { parts with valid := false }

/-- The node of a condition with what follows its blocks, unless one of its tags could not be
read. -/
def nodeWith? (parts : Conditional) (otherwise : Alternative) : Option Node :=
  if parts.valid then
    parts.condition.map fun condition =>
      .conditional condition parts.consequence
        (parts.elseIfs.foldr (fun arm further => .elseIf arm.1 arm.2 further) otherwise)
  else none

/-- The node of a condition. -/
def node? (parts : Conditional) : Option Node :=
  parts.nodeWith? (parts.alternative.elim .nothing .block)

end Conditional

/-- What a round of a loop comes to: a state for the next round, or the result of the loop. -/
inductive LoopRound (State Result : Type)
  | goesOn (state : State)
  | ends (result : Result)

namespace LoopRound

/-- Goes on with further rounds, unless the loop has ended. -/
def andThen {State Result : Type} (further : State → Reader → Option (Result × Reader)) :
    LoopRound State Result × Reader → Option (Result × Reader)
  | (goesOn state, behind) => further state behind
  | (ends result, behind) => some (result, behind)

end LoopRound

/-- The functions of a reader that come back to themselves.  They have no result where they
cannot go as deep as they would have to. -/
structure Descent where
  expression : (minimum : ℕ) → Reader → Option (Option Expr × Reader)
  suffixes : Expr → Reader → Option (Option Expr × Reader)
  operators : (minimum : ℕ) → Expr → Reader → Option (Option Expr × Reader)
  modifiers : Expr → Reader → Option (Option Expr × Reader)
  attributes : LoopAttributes → Reader → Option (Option LoopAttributes × Reader)
  block : List TokenKind → List Node → Reader → Option ((List Node × Option TokenKind) × Reader)
  arms : Position → Conditional × Option TokenKind → Reader → Option (Conditional × Reader)

namespace Descent

/-- The lowest level at which operators bind. -/
def lowest : ℕ := 1

/-- The keywords that end the block of a condition. -/
def armTerminators : List TokenKind := [.elseIfWord, .elseWord, .endIfWord]

/-- The keywords that end the body of a loop. -/
def bodyTerminators : List TokenKind := [.foreachElseWord, .endForeachWord]

variable (calls : Descent)

/-! ## Expressions -/

/-- Reads an expression whose operators bind at least as tightly as a minimum. -/
def readExpression (minimum : ℕ) (reader : Reader) : Option (Option Expr × Reader) :=
  match reader.primary with
  | (none, behind) => some (none, behind)
  | (some first, behind) => do
      let (operand, behind) ← calls.suffixes first behind
      match operand with
      | none => some (none, behind)
      | some operand => calls.operators minimum operand behind

/-- Goes on with an operand by a property or a position. -/
def suffixRound (operand : Expr) (reader : Reader) :
    Option (LoopRound Expr (Option Expr) × Reader) :=
  match reader.current.kind with
  | .dot =>
      match reader.advance.word .propertyName with
      | (none, behind) => some (.ends none, behind)
      | (some name, behind) => some (.goesOn (.field operand name), behind)
  | .openBracket => do
      let (position, behind) ← calls.expression lowest reader.advance
      match position with
      | none => some (.ends none, behind)
      | some position =>
          match behind.expect .closeBracket with
          | (false, behind) => some (.ends none, behind)
          | (true, behind) => some (.goesOn (.index operand position), behind)
  | _ => some (.ends (some operand), reader)

/-- Goes on with a left operand by an operator and its right operand. -/
def operatorRound (minimum : ℕ) (left : Expr) (reader : Reader) :
    Option (LoopRound Expr (Option Expr) × Reader) :=
  match BinaryOp.ofKind? reader.current.kind with
  | none => some (.ends (some left), reader)
  | some op =>
      if op.precedence < minimum then some (.ends (some left), reader)
      else do
        let (right, behind) ← calls.expression (op.precedence + 1) reader.advance
        match right with
        | none => some (.ends none, behind)
        | some right => some (.goesOn (.binary left op right), behind)

/-! ## Tags -/

/-- Sends an expression through a further modifier. -/
def modifierRound (input : Expr) (reader : Reader) : LoopRound Expr (Option Expr) × Reader :=
  if reader.current.kind = .pipe then
    match reader.advance.word .modifierName with
    | (none, behind) => (.ends none, behind.skipTag)
    | (some name, behind) => (.goesOn (.pipe input name), behind)
  else (.ends (some input), reader)

/-- Reads an expression to put out, to behind its tag. -/
def action (reader : Reader) : Option (Option Node × Reader) := do
  let (expr, behind) ← calls.expression lowest reader
  match expr with
  | none => some (none, behind.skipTag)
  | some input => do
      let (expr, behind) ← calls.modifiers input behind
      match expr with
      | none => some (none, behind)
      | some expr => some (behind.closing (.action expr))

/-- Reads a condition, to behind its tag. -/
def tagExpression (reader : Reader) : Option (Option Expr × Reader) := do
  let (expr, behind) ← calls.expression lowest reader
  match expr with
  | none => some (none, behind.skipTag)
  | some expr => some (behind.closing expr)

/-- Reads the value of an attribute. -/
def attributeValue (attributes : LoopAttributes) (name : LoopAttribute) (reader : Reader) :
    Option (Option LoopAttributes × Reader) :=
  match name with
  | .source => do
      let (expr, behind) ← calls.expression lowest reader
      some (expr.map fun expr => { attributes with source := some expr }, behind)
  | .item =>
      let (name, behind) := reader.loopVariable
      some (name.map fun name => { attributes with item := some name }, behind)
  | .key =>
      let (name, behind) := reader.loopVariable
      some (name.map fun name => { attributes with key := some name }, behind)
  | .label =>
      let (name, behind) := reader.loopLabel
      some (name.map fun name => { attributes with label := some name }, behind)

/-- Reads a further attribute of a loop. -/
def attributeRound (attributes : LoopAttributes) (reader : Reader) :
    Option (LoopRound LoopAttributes (Option LoopAttributes) × Reader) :=
  if reader.current.kind = .closeTag then some (.ends (some attributes), reader)
  else if reader.current.kind = .endOfInput then
    some (.ends none, reader.report ⟨.unterminatedForeachTag, reader.current.position⟩)
  else if reader.current.kind ≠ .identifier then
    some (.ends none, (reader.report (.expected .attributeName reader.current)).skipTag)
  else
    match LoopAttribute.ofWord? reader.current.literal with
    | none =>
        some (.ends none, (reader.report
          ⟨.unsupportedAttribute reader.current.literal, reader.current.position⟩).skipTag)
    | some name =>
        if attributes.has name then
          some (.ends none, (reader.report
            ⟨.duplicateAttribute reader.current.literal, reader.current.position⟩).skipTag)
        else
          match reader.advance.expect .assign with
          | (false, behind) => some (.ends none, behind.skipTag)
          | (true, behind) => do
              let (further, behind) ← calls.attributeValue attributes name behind
              match further with
              | none => some (.ends none, behind.skipTag)
              | some further => some (.goesOn further, behind)

/-- Reads the attributes of a loop, to behind its tag. -/
def loopHeader (tag : Position) (reader : Reader) : Option (Option LoopHeader × Reader) := do
  let (attributes, behind) ← calls.attributes .empty reader
  match attributes with
  | none => some (none, behind)
  | some attributes => some (behind.advance.header tag attributes)

/-- Reads a condition with all its blocks. -/
def conditional (reader : Reader) : Option (Option Node × Reader) := do
  let (condition, behind) ← calls.tagExpression reader.advance.advance
  let ((consequence, terminator), behind) ← calls.block armTerminators [] behind
  let (parts, behind) ←
    calls.arms reader.peek.position (.begin condition consequence, terminator) behind
  some (parts.node?, behind)

/-- Reads a further block of a condition, or its end. -/
def armRound (tag : Position) (state : Conditional × Option TokenKind) (reader : Reader) :
    Option (LoopRound (Conditional × Option TokenKind) Conditional × Reader) :=
  match state with
  | (parts, some .elseIfWord) => do
      let (condition, behind) ← calls.tagExpression reader.advance.advance
      let ((block, terminator), behind) ← calls.block armTerminators [] behind
      some (.goesOn (parts.elseIf condition block, terminator), behind)
  | (parts, some .elseWord) => do
      let ((block, terminator), behind) ←
        calls.block [.endIfWord] [] reader.advance.advance.closeTag
      some (.goesOn ({ parts with alternative := some block }, terminator), behind)
  | (parts, some .endIfWord) => some (.ends parts, reader.advance.advance.closeTag)
  | (parts, _) => some (.ends parts, reader.report ⟨.unterminatedIf, tag⟩)

/-- Reads a loop with its blocks. -/
def loop (reader : Reader) : Option (Option Node × Reader) := do
  let (header, behind) ← calls.loopHeader reader.peek.position reader.advance.advance
  let ((body, terminator), behind) ← calls.block bodyTerminators [] behind
  if terminator = some .foreachElseWord then do
    let ((block, terminator), behind) ←
      calls.block [.endForeachWord] [] behind.advance.advance.closeTag
    some (header.map (.loop · body (some block)), behind.endLoop reader.peek.position terminator)
  else
    some (header.map (.loop · body none), behind.endLoop reader.peek.position terminator)

/-- Reads a tag from its opening brace on. -/
def tag (reader : Reader) : Option (Option Node × Reader) :=
  match reader.peek.kind with
  | .dollar => calls.action reader.advance
  | .ifWord => calls.conditional reader
  | .foreachWord => calls.loop reader
  | .literalWord => some reader.literal
  | .foreachElseWord =>
      some (none, (reader.advance.report ⟨.misplacedForeachElse, reader.peek.position⟩).skipTag)
  | _ => some (none, reader.advance.report ⟨.unknownTag reader.peek, reader.peek.position⟩)

/-! ## Blocks -/

/-- Adds what comes next to the nodes of a block, or ends the block in front of the tag of a
terminator or at the end of the source. -/
def blockRound (terminators : List TokenKind) (nodes : List Node) (reader : Reader) :
    Option (LoopRound (List Node) (List Node × Option TokenKind) × Reader) :=
  match reader.current.kind with
  | .endOfInput => some (.ends (nodes, none), reader)
  | .text => some (.goesOn (nodes ++ [.text reader.current.literal]), reader.advance)
  | .openTag =>
      if reader.peek.kind ∈ terminators then some (.ends (nodes, some reader.peek.kind), reader)
      else do
        let (node, behind) ← calls.tag reader
        some (.goesOn (nodes ++ node.toList), behind)
  | _ => some (.goesOn nodes, reader.advance)

/-- Reads a source. -/
def program (reader : Reader) : Option (List Node × Reader) := do
  let ((nodes, _), behind) ← calls.block [] [] reader
  some (nodes, behind)

/-! ## Depth -/

/-- A reader whose rounds and calls may nest one deeper than those that it is given. -/
def deeper : Descent where
  expression := calls.readExpression
  suffixes operand reader :=
    (calls.suffixRound operand reader).bind (LoopRound.andThen calls.suffixes)
  operators minimum left reader :=
    (calls.operatorRound minimum left reader).bind (LoopRound.andThen (calls.operators minimum))
  modifiers input reader := LoopRound.andThen calls.modifiers (modifierRound input reader)
  attributes attributes reader :=
    (calls.attributeRound attributes reader).bind (LoopRound.andThen calls.attributes)
  block terminators nodes reader :=
    (calls.blockRound terminators nodes reader).bind (LoopRound.andThen (calls.block terminators))
  arms tag state reader :=
    (calls.armRound tag state reader).bind (LoopRound.andThen (calls.arms tag))

/-- A reader whose rounds and calls may nest to a depth. -/
def within : ℕ → Descent
  | 0 => ⟨fun _ _ => none, fun _ _ => none, fun _ _ _ => none, fun _ _ => none, fun _ _ => none,
      fun _ _ _ => none, fun _ _ _ => none⟩
  | depth + 1 => (within depth).deeper

end Descent

end Stencil
