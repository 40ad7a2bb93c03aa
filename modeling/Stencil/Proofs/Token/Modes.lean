import Stencil.Token.Scanner

/-!
# Kinds and modes

Which kinds of tokens a scanner cuts in which mode, and the mode that a token leaves behind.
Text comes only between tags and inside literal blocks, and two tokens of text never follow one
another; what stands between the braces of a tag is cut in tag mode only.
-/

namespace Stencil

namespace TokenKind

/-- The kinds of tokens that can stand between the braces of a tag. -/
def isInner : TokenKind → Bool
  | endOfInput | text | openTag | closeTag | comment => false
  | _ => true

/-- The kinds of tokens that can stand outside tags. -/
def isOuter : TokenKind → Bool
  | endOfInput | text | openTag | comment => true
  | _ => false

theorem ne_of_isInner {kind other : TokenKind} (h : kind.isInner = true)
    (hother : other.isInner = false) : kind ≠ other := by
  rintro rfl
  rw [h] at hother
  cases hother

theorem isInner_of_eq {kind other : TokenKind} (h : kind = other)
    (hother : other.isInner = true) : kind.isInner = true := by
  rw [h]
  exact hother

theorem eq_comment_of_isOuter {kind : TokenKind} (h : kind.isOuter = true) (htext : kind ≠ .text)
    (hbrace : kind ≠ .openTag) (hend : kind ≠ .endOfInput) : kind = .comment := by
  cases kind with
  | comment => rfl
  | text => exact (htext rfl).elim
  | openTag => exact (hbrace rfl).elim
  | endOfInput => exact (hend rfl).elim
  | _ => cases h

theorem isInner_of_isWord {kind : TokenKind} (h : kind.isWord = true) : kind.isInner = true := by
  cases kind with
  | _ => first | rfl | cases h

theorem isInner_ofWord (word : String) : (ofWord word).isInner = true := by
  rw [ofWord]
  cases hfind : keywords.find? fun kind => kind.name == word with
  | none => rfl
  | some kind =>
      have hmem : kind ∈ keywords := List.mem_of_find?_eq_some hfind
      have hall : ∀ kind ∈ keywords, kind.isInner = true := by decide
      exact hall kind hmem

end TokenKind

namespace Cut

/-- The mode behind a token, given the kinds of the two tokens in front of it. -/
def modeBehind (recent : TokenKind × TokenKind) : TokenKind → ScanMode
  | .closeTag => modeAfterTag recent
  | .text | .comment => .text
  | _ => .tag

theorem modeBehind_of_isInner
    (recent : TokenKind × TokenKind) {kind : TokenKind} (h : kind.isInner = true) :
    modeBehind recent kind = .tag := by
  cases kind with
  | _ => first | rfl | cases h

theorem isInner_punctuation?
    {c : Char} {kind : TokenKind} (h : punctuation? c = some kind) : kind.isInner = true := by
  rw [punctuation?.eq_def] at h
  split at h <;> cases h <;> rfl

theorem isInner_comparison?
    {c : Char} {short long : TokenKind} (h : comparison? c = some (short, long)) :
    short.isInner = true ∧ long.isInner = true := by
  rw [comparison?.eq_def] at h
  split at h <;> cases h <;> exact ⟨rfl, rfl⟩

theorem isInner_insideTag (c : Char) (text : List Char) :
    (insideTag c text).kind.isInner = true ∧ (insideTag c text).mode = .tag := by
  rw [insideTag]
  split
  · rename_i hkind
    exact ⟨isInner_punctuation? hkind, rfl⟩
  · rename_i short long _ hkinds
    obtain ⟨hshort, hlong⟩ := isInner_comparison? hkinds
    rw [comparison.eq_def]
    split
    · exact ⟨hlong, rfl⟩
    · exact ⟨hshort, rfl⟩
  · split
    · exact ⟨rfl, rfl⟩
    · split
      · exact ⟨TokenKind.isInner_ofWord _, rfl⟩
      · split
        · exact ⟨rfl, rfl⟩
        · exact ⟨rfl, rfl⟩

theorem kind_ofTag_ne_text (recent : TokenKind × TokenKind) (text : List Char) :
    (ofTag recent text).kind ≠ .text := by
  rw [ofTag.eq_def]
  split
  · rintro ⟨⟩
  · rintro ⟨⟩
  · rintro ⟨⟩
  · rintro ⟨⟩
  · rename_i c rest _ _ _
    intro hkind
    have hinner := (isInner_insideTag c rest).1
    rw [hkind] at hinner
    cases hinner

theorem mode_ofTag
    (recent : TokenKind × TokenKind) (text : List Char) :
    (ofTag recent text).mode = modeBehind recent (ofTag recent text).kind := by
  rw [ofTag.eq_def]
  split
  · rfl
  · rfl
  · rfl
  · rfl
  · rename_i c rest _ _ _
    obtain ⟨hinner, hmode⟩ := isInner_insideTag c rest
    rw [hmode, modeBehind_of_isInner recent hinner]

theorem isOuter_ofTag_brace (recent : TokenKind × TokenKind) (rest : List Char) :
    (ofTag recent ('\x7b' :: rest)).kind.isOuter = true := by
  rw [ofTag.eq_def]
  split
  · rfl
  · rfl
  · rfl
  · rename_i h
    cases h
  · rename_i hbrace _ h
    cases h
    exact (hbrace rfl).elim

theorem isOuter_ofText (recent : TokenKind × TokenKind) (text : List Char) :
    (ofText recent text).kind.isOuter = true := by
  rw [ofText.eq_def]
  split
  · rfl
  · split
    · rename_i hbrace
      subst hbrace
      exact isOuter_ofTag_brace recent _
    · rfl

theorem mode_ofText
    (recent : TokenKind × TokenKind) (text : List Char)
    (h : (ofText recent text).kind ≠ .endOfInput) :
    (ofText recent text).mode = modeBehind recent (ofText recent text).kind := by
  revert h
  rw [ofText.eq_def]
  split
  · exact fun h => absurd rfl h
  · split
    · exact fun _ => mode_ofTag recent _
    · exact fun _ => rfl

theorem isOuter_ofRaw (recent : TokenKind × TokenKind) (text : List Char) :
    (ofRaw recent text).kind.isOuter = true := by
  rw [ofRaw]
  split
  · exact isOuter_ofText recent text
  · rfl

theorem mode_ofRaw
    (recent : TokenKind × TokenKind) (text : List Char)
    (h : (ofRaw recent text).kind ≠ .endOfInput) :
    (ofRaw recent text).mode = modeBehind recent (ofRaw recent text).kind := by
  revert h
  rw [ofRaw]
  split
  · exact mode_ofText recent text
  · exact fun _ => rfl

/-- Characters that begin with an opening brace, or none. -/
def AtBrace (text : List Char) : Prop :=
  ∀ c ∈ text.head?, c = '\x7b'

theorem literalEnd_eq :
    literalEnd = ['\x7b', '/', 'l', 'i', 't', 'e', 'r', 'a', 'l', '\x7d'] := by
  decide

theorem atBrace_splitAt_literalEnd (text : List Char) : AtBrace (splitAt literalEnd text).2 := by
  induction text with
  | nil => exact nofun
  | cons c rest ih =>
      rw [splitAt]
      split
      · rename_i hmark
        intro first hfirst
        obtain ⟨tail, htail⟩ := List.isPrefixOf_iff_prefix.mp hmark
        have hc : '\x7b' = c := by
          have hhead := congrArg List.head? htail
          simpa [literalEnd_eq] using hhead
        have heq : c = first := by simpa using hfirst
        rw [← heq, hc]
      · exact ih

theorem atBrace_dropWhile (text : List Char) : AtBrace (text.dropWhile (· ≠ '\x7b')) := by
  intro c hc
  have hnot := List.head?_dropWhile_not (fun c => decide (c ≠ '\x7b')) text
  rw [Option.mem_def.mp hc] at hnot
  simpa using hnot

/-- A token of text ends in front of an opening brace. -/
theorem atBrace_ofText
    (recent : TokenKind × TokenKind) (text : List Char)
    (h : (ofText recent text).kind = .text) : AtBrace (ofText recent text).rest := by
  revert h
  rw [ofText.eq_def]
  split
  · rintro ⟨⟩
  · split
    · exact fun h => absurd h (kind_ofTag_ne_text recent _)
    · exact fun _ => atBrace_dropWhile _

theorem atBrace_ofRaw
    (recent : TokenKind × TokenKind) (text : List Char)
    (h : (ofRaw recent text).kind = .text) : AtBrace (ofRaw recent text).rest := by
  revert h
  rw [ofRaw]
  split
  · exact atBrace_ofText recent text
  · exact fun _ => atBrace_splitAt_literalEnd text

theorem kind_ofText_ne_text_of_atBrace
    (recent : TokenKind × TokenKind) {text : List Char} (h : AtBrace text) :
    (ofText recent text).kind ≠ .text := by
  cases text with
  | nil => exact nofun
  | cons c rest =>
      have hc : c = '\x7b' := h c rfl
      rw [ofText, if_pos hc]
      exact kind_ofTag_ne_text recent _

end Cut

namespace Scanner

/-- Outside tags, there are only tokens that can stand there. -/
theorem isOuter_token {scanner : Scanner} (h : scanner.mode ≠ .tag) :
    scanner.token.kind.isOuter = true := by
  obtain ⟨rest, position, mode, recent⟩ := scanner
  cases mode with
  | text => exact Cut.isOuter_ofText recent rest
  | tag => exact (h rfl).elim
  | raw => exact Cut.isOuter_ofRaw recent rest

theorem mode_next {scanner : Scanner} (h : scanner.token.kind ≠ .endOfInput) :
    scanner.next.mode = Cut.modeBehind scanner.recent scanner.token.kind := by
  obtain ⟨rest, position, mode, recent⟩ := scanner
  cases mode with
  | text => exact Cut.mode_ofText recent rest h
  | tag => exact Cut.mode_ofTag recent _
  | raw => exact Cut.mode_ofRaw recent rest h

theorem recent_next (scanner : Scanner) :
    scanner.next.recent = (scanner.recent.2, scanner.token.kind) :=
  rfl

/-- No token of text follows another one. -/
theorem kind_next_ne_text {scanner : Scanner} (h : scanner.token.kind = .text) :
    scanner.next.token.kind ≠ .text := by
  have hmode : scanner.next.mode = .text := by
    rw [mode_next (by rw [h]; exact nofun), h]
    rfl
  have hrest : Cut.AtBrace scanner.next.rest := by
    obtain ⟨rest, position, mode, recent⟩ := scanner
    cases mode with
    | text => exact Cut.atBrace_ofText recent rest h
    | tag => exact absurd h (Cut.kind_ofTag_ne_text recent _)
    | raw => exact Cut.atBrace_ofRaw recent rest h
  rw [token, cut, hmode]
  exact Cut.kind_ofText_ne_text_of_atBrace _ hrest

/-! ## Inside a tag -/

/-- A scanner inside a tag, behind at least one token that is not the opening brace, and not
behind the two that open a literal block. -/
structure InsideTag (scanner : Scanner) : Prop where
  mode : scanner.mode = .tag
  last : scanner.recent.2 ≠ .openTag
  notLiteral : scanner.recent ≠ (.openTag, .literalWord)

theorem mode_next_of_isInner
    {scanner : Scanner} (hinner : scanner.token.kind.isInner = true) :
    scanner.next.mode = .tag := by
  rw [mode_next (TokenKind.ne_of_isInner hinner rfl)]
  exact Cut.modeBehind_of_isInner _ hinner

theorem insideTag_next
    {scanner : Scanner} (h : scanner.InsideTag) (hinner : scanner.token.kind.isInner = true) :
    scanner.next.InsideTag := by
  refine ⟨mode_next_of_isInner hinner, TokenKind.ne_of_isInner hinner rfl, ?_⟩
  intro hrecent
  exact h.last (congrArg Prod.fst hrecent)

/-- Behind the opening brace, any word but the one that opens a literal block leads inside a tag. -/
theorem insideTag_next_of_brace
    {scanner : Scanner} (hinner : scanner.token.kind.isInner = true)
    (hliteral : scanner.token.kind ≠ .literalWord) : scanner.next.InsideTag := by
  refine ⟨mode_next_of_isInner hinner, TokenKind.ne_of_isInner hinner rfl, ?_⟩
  intro hrecent
  exact hliteral (congrArg Prod.snd hrecent)

theorem mode_next_of_closeTag
    {scanner : Scanner} (h : scanner.InsideTag) (hkind : scanner.token.kind = .closeTag) :
    scanner.next.mode = .text := by
  rw [mode_next (by rw [hkind]; exact nofun), hkind]
  exact if_neg h.notLiteral

end Scanner

end Stencil
