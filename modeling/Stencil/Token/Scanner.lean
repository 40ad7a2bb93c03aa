import Stencil.Text.Alphabetic
import Stencil.Text.Numeric
import Stencil.Token.Basic

/-!
# Scanning

A scanner cuts one token after the other off the front of a source.  It starts in text mode,
where all up to the next opening brace is one token.  Inside a tag it skips blanks and cuts
words, numbers, strings and punctuation, until a closing brace or a comment takes it back to
text.  The tag that opens a literal block leads to raw mode instead, where all up to the end
mark of the block is one token.

Every token but the last is cut with at least one character, so the tokens of a source are
finitely many; at the end of the source there is the token that says so, as often as it is asked
for.
-/

namespace Stencil

/-- What the next token is cut out of: text between tags, the inside of a tag, or the inside of
a literal block. -/
inductive ScanMode
  | text
  | tag
  | raw
  deriving DecidableEq

/-- One token's worth of source: its kind and literal, the characters that spell it, those that
follow it, and the mode for them. -/
structure Cut where
  kind : TokenKind
  literal : List Char
  spelling : List Char
  rest : List Char
  mode : ScanMode

namespace Cut

/-- A token that is spelled by its literal. -/
def plain (kind : TokenKind) (literal rest : List Char) (mode : ScanMode) : Cut :=
  ⟨kind, literal, literal, rest, mode⟩

/-- The end of a source. -/
def ending (mode : ScanMode) : Cut :=
  plain .endOfInput [] [] mode

/-- Splits a text in front of the first occurrence of a mark, or at the end if there is none. -/
def splitAt (mark : List Char) : List Char → List Char × List Char
  | [] => ([], [])
  | c :: rest =>
      if mark.isPrefixOf (c :: rest) then ([], c :: rest)
      else
        let parts := splitAt mark rest
        (c :: parts.1, parts.2)

/-- The blanks that part tokens inside a tag. -/
def isBlank (c : Char) : Bool :=
  c = ' ' || c = '\t' || c = '\r' || c = '\n'

/-- The characters that can begin a word. -/
def isWordStart (c : Char) : Bool :=
  Text.isAlphabetic c || c = '/'

/-- The characters that can go on with a word. -/
def isWordPart (c : Char) : Bool :=
  Text.isAlphabetic c || Text.isNumeric c || c = '_'

/-- The mark that ends a comment. -/
def commentEnd : List Char := ['*', '\x7d']

/-- The mark that ends a literal block. -/
def literalEnd : List Char := "\x7b/literal\x7d".toList

/-- Cuts a comment behind its opening mark.  One without an end takes all that is left. -/
def comment (text : List Char) : Cut :=
  let parts := splitAt commentEnd text
  ⟨.comment, parts.1, '\x7b' :: '*' :: parts.1 ++ parts.2.take 2, parts.2.drop 2, .text⟩

/-- Cuts a string behind its opening quote.  One without an end takes all that is left. -/
def string (quote : Char) (text : List Char) : Cut :=
  let body := text.takeWhile (· ≠ quote)
  let rest := text.dropWhile (· ≠ quote)
  ⟨.string, body, quote :: body ++ rest.take 1, rest.drop 1, .tag⟩

/-- Cuts a word at its first character. -/
def word (c : Char) (text : List Char) : Cut :=
  let literal := c :: text.takeWhile isWordPart
  plain (TokenKind.ofWord (String.ofList literal)) literal (text.dropWhile isWordPart) .tag

/-- Cuts a run of digits at its first character. -/
def number (c : Char) (text : List Char) : Cut :=
  plain .number (c :: text.takeWhile Char.isDigit) (text.dropWhile Char.isDigit) .tag

/-- Cuts punctuation that is longer if an equals sign follows. -/
def comparison (c : Char) (short long : TokenKind) : List Char → Cut
  | '=' :: rest => plain long [c, '='] rest .tag
  | rest => plain short [c] rest .tag

/-- The punctuation that is one character long. -/
def punctuation? : Char → Option TokenKind
  | '$' => some .dollar
  | '|' => some .pipe
  | '.' => some .dot
  | '[' => some .openBracket
  | ']' => some .closeBracket
  | _ => none

/-- The kinds of the comparisons with and without an equals sign behind them. -/
def comparison? : Char → Option (TokenKind × TokenKind)
  | '=' => some (.assign, .equal)
  | '!' => some (.illegal, .notEqual)
  | '<' => some (.less, .lessEqual)
  | '>' => some (.greater, .greaterEqual)
  | _ => none

/-- The mode behind a closing brace: raw if the tag was just the one that opens a literal block. -/
def modeAfterTag (recent : TokenKind × TokenKind) : ScanMode :=
  if recent = (.openTag, .literalWord) then .raw else .text

/-- Cuts the token that begins with a character inside a tag, other than a brace. -/
def insideTag (c : Char) (rest : List Char) : Cut :=
  match punctuation? c, comparison? c with
  | some kind, _ => plain kind [c] rest .tag
  | none, some (short, long) => comparison c short long rest
  | none, none =>
      if c = '\x22' ∨ c = '\x27' then string c rest
      else if isWordStart c then word c rest
      else if c.isDigit then number c rest
      else plain .illegal [c] rest .tag

/-- Cuts a token inside a tag, where no blanks are in front of it. -/
def ofTag (recent : TokenKind × TokenKind) : List Char → Cut
  | [] => ending .tag
  | '\x7b' :: '*' :: rest => comment rest
  | '\x7b' :: rest => plain .openTag ['\x7b'] rest .tag
  | '\x7d' :: rest => plain .closeTag ['\x7d'] rest (modeAfterTag recent)
  | c :: rest => insideTag c rest

/-- Cuts a token in text mode: all up to the next opening brace, or what that brace begins. -/
def ofText (recent : TokenKind × TokenKind) : List Char → Cut
  | [] => ending .text
  | c :: rest =>
      if c = '\x7b' then ofTag recent (c :: rest)
      else
        plain .text (c :: rest.takeWhile (· ≠ '\x7b')) (rest.dropWhile (· ≠ '\x7b')) .text

/-- Cuts a token in raw mode: all up to the end mark of the block, or what follows if that is
nothing. -/
def ofRaw (recent : TokenKind × TokenKind) (text : List Char) : Cut :=
  let parts := splitAt literalEnd text
  if parts.1.isEmpty then ofText recent text else plain .text parts.1 parts.2 .text

theorem splitAt_append (mark text : List Char) :
    (splitAt mark text).1 ++ (splitAt mark text).2 = text := by
  induction text with
  | nil => rfl
  | cons c rest ih =>
      rw [splitAt]
      split
      · rfl
      · simp [ih]

theorem length_splitAt_le (mark text : List Char) :
    (splitAt mark text).2.length ≤ text.length := by
  have h := congrArg List.length (splitAt_append mark text)
  rw [List.length_append] at h
  omega

theorem length_dropWhile_le (p : Char → Bool) (text : List Char) :
    (text.dropWhile p).length ≤ text.length :=
  (List.dropWhile_suffix p).length_le

theorem length_rest_insideTag (c : Char) (text : List Char) :
    (insideTag c text).rest.length ≤ text.length := by
  rw [insideTag]
  split
  · exact Nat.le_refl _
  · rw [comparison.eq_def]
    split
    · simp [plain]
    · exact Nat.le_refl _
  · split
    · have h := length_dropWhile_le (· ≠ c) text
      simp only [string, List.length_drop]
      omega
    · split
      · exact length_dropWhile_le isWordPart text
      · split
        · exact length_dropWhile_le Char.isDigit text
        · exact Nat.le_refl _

theorem length_rest_ofTag
    (recent : TokenKind × TokenKind) (text : List Char)
    (h : (ofTag recent text).kind ≠ .endOfInput) :
    (ofTag recent text).rest.length < text.length := by
  revert h
  rw [ofTag.eq_def]
  split
  · intro h
    exact absurd rfl h
  · rename_i rest
    have h := length_splitAt_le commentEnd rest
    intro _
    simp only [comment, List.length_drop, List.length_cons]
    omega
  · intro _
    simp [plain]
  · intro _
    simp [plain]
  · rename_i c rest _ _ _
    intro _
    exact Nat.lt_succ_of_le (length_rest_insideTag c rest)

theorem length_rest_ofText
    (recent : TokenKind × TokenKind) (text : List Char)
    (h : (ofText recent text).kind ≠ .endOfInput) :
    (ofText recent text).rest.length < text.length := by
  revert h
  rw [ofText.eq_def]
  split
  · intro h
    exact absurd rfl h
  · rename_i c rest
    split
    · exact length_rest_ofTag recent (c :: rest)
    · intro _
      exact Nat.lt_succ_of_le (length_dropWhile_le _ rest)

theorem length_rest_ofRaw
    (recent : TokenKind × TokenKind) (text : List Char)
    (h : (ofRaw recent text).kind ≠ .endOfInput) :
    (ofRaw recent text).rest.length < text.length := by
  revert h
  rw [ofRaw]
  split
  · exact length_rest_ofText recent text
  · rename_i hbody
    intro _
    have happend := congrArg List.length (splitAt_append literalEnd text)
    rw [List.length_append] at happend
    have hpos : 0 < (splitAt literalEnd text).1.length := by
      rw [List.length_pos_iff]
      simpa using hbody
    simp only [plain]
    omega

end Cut

/-- A scanner: what is left of the source, the place where that begins, the mode, and the kinds
of the last two tokens. -/
structure Scanner where
  rest : List Char
  position : Position
  mode : ScanMode
  recent : TokenKind × TokenKind

namespace Scanner

/-- The scanner of a source. -/
def ofSource (source : String) : Scanner :=
  ⟨source.toList, .start, .text, (.endOfInput, .endOfInput)⟩

/-- The blanks that are skipped in front of the next token. -/
def blanks (scanner : Scanner) : List Char :=
  match scanner.mode with
  | .tag => scanner.rest.takeWhile Cut.isBlank
  | _ => []

/-- The cut that makes the next token. -/
def cut (scanner : Scanner) : Cut :=
  match scanner.mode with
  | .text => Cut.ofText scanner.recent scanner.rest
  | .tag => Cut.ofTag scanner.recent (scanner.rest.dropWhile Cut.isBlank)
  | .raw => Cut.ofRaw scanner.recent scanner.rest

/-- The place of the next token. -/
def start (scanner : Scanner) : Position :=
  scanner.position.advance scanner.blanks

/-- The next token. -/
def token (scanner : Scanner) : Token :=
  ⟨scanner.cut.kind, String.ofList scanner.cut.literal, scanner.start⟩

/-- The scanner behind the next token. -/
def next (scanner : Scanner) : Scanner :=
  ⟨scanner.cut.rest, scanner.start.advance scanner.cut.spelling, scanner.cut.mode,
    (scanner.recent.2, scanner.cut.kind)⟩

theorem length_rest_next
    (scanner : Scanner) (h : scanner.token.kind ≠ .endOfInput) :
    scanner.next.rest.length < scanner.rest.length := by
  revert h
  simp only [token, next, cut]
  split
  · exact Cut.length_rest_ofText scanner.recent scanner.rest
  · intro h
    have hcut := Cut.length_rest_ofTag scanner.recent (scanner.rest.dropWhile Cut.isBlank) h
    exact Nat.lt_of_lt_of_le hcut (Cut.length_dropWhile_le Cut.isBlank scanner.rest)
  · exact Cut.length_rest_ofRaw scanner.recent scanner.rest

/-- The tokens to the end of the source, the one that says it has ended included. -/
def tokens (scanner : Scanner) : List Token :=
  if scanner.token.kind = .endOfInput then [scanner.token]
  else scanner.token :: scanner.next.tokens
termination_by scanner.rest.length
decreasing_by
  rename_i h
  exact length_rest_next scanner h

/-- The scanner at the end of the source. -/
def ended (scanner : Scanner) : Scanner :=
  if scanner.token.kind = .endOfInput then scanner.next
  else scanner.next.ended
termination_by scanner.rest.length
decreasing_by
  rename_i h
  exact length_rest_next scanner h

end Scanner

end Stencil
