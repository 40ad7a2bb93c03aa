import Mathlib.Data.List.Permutation
import Mathlib.Data.List.TakeWhile
import Stencil.Proofs.Token.Lexemes

/-!
# The pieces of a source

A source is cut into pieces, one for each token: the characters that spell the token, behind the
blanks that are skipped in front of it.  Nothing else is passed over, and every token stands
where its spelling begins.

Each cut takes its spelling off the front of a text and leaves the rest; the scanner's place is
the one behind what it has taken.  Both are kept from one token to the next, so they hold of all
the pieces of a source.
-/

namespace Stencil

/-! ## Places -/

namespace Position

/-- The place behind the beginning of a source: its line is one more than the line feeds in it,
its column one more than the characters behind the last of them. -/
def behind (front : List Char) : Position :=
  ⟨1 + front.count '\n', 1 + (front.reverse.takeWhile (· ≠ '\n')).length⟩

theorem after_behind (front : List Char) (c : Char) :
    (behind front).after c = behind (front ++ [c]) := by
  by_cases hc : c = '\n'
  · simp [after, behind, hc, Nat.add_assoc]
  · simp [after, behind, hc, Nat.add_assoc]

theorem advance_behind (front text : List Char) :
    (behind front).advance text = behind (front ++ text) := by
  induction text generalizing front with
  | nil => rw [advance, List.foldl_nil, List.append_nil]
  | cons c rest ih =>
      calc
        (behind front).advance (c :: rest) = (behind (front ++ [c])).advance rest := by
          rw [← after_behind]
          rfl
        _ = behind (front ++ c :: rest) := by rw [ih, List.append_assoc, List.singleton_append]

end Position

/-! ## Spellings -/

/-- How a token is spelled in front of a text.  A string stands between quotes that are not in
it, and a comment between marks of which the second is not in it; these ends are missing only
where the source ends.  Every other token is spelled as it says. -/
inductive Spelled : TokenKind → List Char → List Char → List Char → Prop
  | plain {kind : TokenKind} {literal rest : List Char} (hstring : kind ≠ .string)
      (hcomment : kind ≠ .comment) : Spelled kind literal literal rest
  | string {quote : Char} {literal rest : List Char} (hquote : Cut.IsQuote quote)
      (hliteral : quote ∉ literal) : Spelled .string literal (quote :: literal ++ [quote]) rest
  | openString {quote : Char} {literal : List Char} (hquote : Cut.IsQuote quote)
      (hliteral : quote ∉ literal) : Spelled .string literal (quote :: literal) []
  | comment {literal rest : List Char} (hliteral : ¬ Cut.commentEnd <:+: literal) :
      Spelled .comment literal ('\x7b' :: '*' :: literal ++ Cut.commentEnd) rest
  | openComment {literal : List Char} (hliteral : ¬ Cut.commentEnd <:+: literal) :
      Spelled .comment literal ('\x7b' :: '*' :: literal) []

/-- A comment is spelled with its end mark or without it. -/
theorem Spelled.comment_cases {literal spelling rest : List Char}
    (h : Spelled .comment literal spelling rest) :
    spelling = '\x7b' :: '*' :: literal ++ Cut.commentEnd ∨
      spelling = '\x7b' :: '*' :: literal := by
  cases h with
  | plain _ hcomment => exact absurd rfl hcomment
  | comment _ => exact .inl rfl
  | openComment _ => exact .inr rfl

namespace TokenKind

theorem ofWord_ne_string (word : String) : ofWord word ≠ .string := by
  rw [ofWord]
  cases hfind : keywords.find? fun kind => kind.name == word with
  | none =>
      intro hstring
      cases hstring
  | some kind =>
      have hall : ∀ kind ∈ keywords, kind ≠ .string := by decide
      exact hall kind (List.mem_of_find?_eq_some hfind)

end TokenKind

namespace Cut

theorem ne_string_of_punctuation? {c : Char} {kind : TokenKind} (h : punctuation? c = some kind) :
    kind ≠ .string := by
  rw [punctuation?.eq_def] at h
  split at h <;> cases h <;> decide

theorem ne_string_of_comparison? {c : Char} {short long : TokenKind}
    (h : comparison? c = some (short, long)) : short ≠ .string ∧ long ≠ .string := by
  rw [comparison?.eq_def] at h
  split at h <;> cases h <;> decide

/-! ## Marks -/

/-- Where a text is split, the mark follows, unless the text ends. -/
theorem prefix_splitAt (mark text : List Char) :
    (splitAt mark text).2 = [] ∨ mark <+: (splitAt mark text).2 := by
  induction text with
  | nil => exact .inl rfl
  | cons c rest ih =>
      rw [splitAt]
      split
      · rename_i hmark
        exact .inr (List.isPrefixOf_iff_prefix.mp hmark)
      · exact ih

/-- The mark is not in front of where a text is split. -/
theorem not_infix_splitAt {mark : List Char} (hmark : mark ≠ []) (text : List Char) :
    ¬ mark <:+: (splitAt mark text).1 := by
  induction text with
  | nil => exact fun h => hmark (List.infix_nil.mp h)
  | cons c rest ih =>
      rw [splitAt]
      split
      · exact fun h => hmark (List.infix_nil.mp h)
      · rename_i hnot
        intro h
        rcases List.infix_cons_iff.mp h with hstarts | hinfix
        · have hwhole : c :: (splitAt mark rest).1 <+: c :: rest :=
            ⟨(splitAt mark rest).2, by rw [List.cons_append, splitAt_append]⟩
          exact hnot (List.isPrefixOf_iff_prefix.mpr (hstarts.trans hwhole))
        · exact ih hinfix

/-! ## Cuts -/

/-- A cut that takes a token off the front of a text. -/
structure Takes (cut : Cut) (source : List Char) : Prop where
  append : cut.spelling ++ cut.rest = source
  spelled : Spelled cut.kind cut.literal cut.spelling cut.rest
  filled : cut.kind = .text → cut.literal ≠ []
  ending : cut.kind = .endOfInput → source = []

/-- A token inside a tag is spelled as it says, unless it is a string. -/
theorem takes_plain {kind : TokenKind} (hinner : kind.isInner = true) (hstring : kind ≠ .string)
    {literal rest source : List Char} (h : literal ++ rest = source) (mode : ScanMode) :
    (plain kind literal rest mode).Takes source where
  append := h
  spelled := .plain hstring (TokenKind.ne_of_isInner hinner rfl)
  filled := fun hkind => absurd hkind (TokenKind.ne_of_isInner hinner rfl)
  ending := fun hkind => absurd hkind (TokenKind.ne_of_isInner hinner rfl)

theorem takes_comment (text : List Char) :
    (comment text).Takes ('\x7b' :: '*' :: text) where
  append := by
    simp only [comment, List.cons_append, List.append_assoc, List.take_append_drop, splitAt_append]
  spelled := by
    have hbody : ¬ commentEnd <:+: (splitAt commentEnd text).1 :=
      not_infix_splitAt (by decide) text
    simp only [comment]
    rcases prefix_splitAt commentEnd text with hnil | ⟨rest, hrest⟩
    · rw [hnil, List.take_nil, List.append_nil, List.drop_nil]
      exact .openComment hbody
    · have htake : (splitAt commentEnd text).2.take 2 = commentEnd := by
        rw [← hrest]
        rfl
      rw [htake]
      exact .comment hbody
  filled := nofun
  ending := nofun

theorem takes_string {quote : Char} (hquote : IsQuote quote) (text : List Char) :
    (string quote text).Takes (quote :: text) where
  append := by
    simp only [string, List.cons_append, List.append_assoc, List.take_append_drop,
      List.takeWhile_append_dropWhile]
  spelled := by
    have hbody : quote ∉ text.takeWhile (· ≠ quote) := by
      intro hmem
      simpa using List.mem_takeWhile_imp hmem
    simp only [string]
    cases hrest : text.dropWhile (· ≠ quote) with
    | nil =>
        rw [List.take_nil, List.append_nil, List.drop_nil]
        exact .openString hquote hbody
    | cons c rest =>
        have hc : c = quote := by
          have hnot := List.head?_dropWhile_not (fun c => decide (c ≠ quote)) text
          rw [hrest] at hnot
          simpa using hnot
        rw [hc]
        exact .string hquote hbody
  filled := nofun
  ending := nofun

theorem takes_word (c : Char) (text : List Char) : (word c text).Takes (c :: text) := by
  refine takes_plain (TokenKind.isInner_ofWord _) (TokenKind.ofWord_ne_string _) ?_ .tag
  rw [List.cons_append, List.takeWhile_append_dropWhile]

theorem takes_number (c : Char) (text : List Char) : (number c text).Takes (c :: text) := by
  refine takes_plain (by decide) (by decide) ?_ .tag
  rw [List.cons_append, List.takeWhile_append_dropWhile]

theorem takes_comparison {c : Char} {short long : TokenKind}
    (h : comparison? c = some (short, long)) (text : List Char) :
    (comparison c short long text).Takes (c :: text) := by
  obtain ⟨hshort, hlong⟩ := isInner_comparison? h
  obtain ⟨hshortString, hlongString⟩ := ne_string_of_comparison? h
  rw [comparison.eq_def]
  split
  · exact takes_plain hlong hlongString rfl .tag
  · exact takes_plain hshort hshortString rfl .tag

theorem takes_insideTag (c : Char) (text : List Char) : (insideTag c text).Takes (c :: text) := by
  rw [insideTag]
  split
  · rename_i hkind
    exact takes_plain (isInner_punctuation? hkind) (ne_string_of_punctuation? hkind) rfl .tag
  · rename_i hkinds
    exact takes_comparison hkinds text
  · split
    · exact takes_string ‹_› text
    · split
      · exact takes_word c text
      · split
        · exact takes_number c text
        · exact takes_plain (by decide) (by decide) rfl .tag

theorem takes_ending (mode : ScanMode) : (ending mode).Takes [] where
  append := rfl
  spelled := .plain nofun nofun
  filled := nofun
  ending := fun _ => rfl

/-- A brace that opens or closes a tag. -/
theorem takes_brace {kind : TokenKind} (hkind : kind = .openTag ∨ kind = .closeTag) (c : Char)
    (rest : List Char) (mode : ScanMode) : (plain kind [c] rest mode).Takes (c :: rest) := by
  rcases hkind with rfl | rfl
  · exact ⟨rfl, .plain nofun nofun, nofun, nofun⟩
  · exact ⟨rfl, .plain nofun nofun, nofun, nofun⟩

theorem takes_ofTag (recent : TokenKind × TokenKind) (text : List Char) :
    (ofTag recent text).Takes text := by
  rw [ofTag.eq_def]
  split
  · exact takes_ending .tag
  · exact takes_comment _
  · exact takes_brace (.inl rfl) _ _ _
  · exact takes_brace (.inr rfl) _ _ _
  · exact takes_insideTag _ _

theorem takes_text {literal rest source : List Char} (hne : literal ≠ [])
    (h : literal ++ rest = source) : (plain .text literal rest .text).Takes source where
  append := h
  spelled := .plain nofun nofun
  filled := fun _ => hne
  ending := nofun

theorem takes_ofText (recent : TokenKind × TokenKind) (text : List Char) :
    (ofText recent text).Takes text := by
  rw [ofText.eq_def]
  split
  · exact takes_ending .text
  · split
    · exact takes_ofTag recent _
    · refine takes_text (List.cons_ne_nil _ _) ?_
      rw [List.cons_append, List.takeWhile_append_dropWhile]

theorem takes_ofRaw (recent : TokenKind × TokenKind) (text : List Char) :
    (ofRaw recent text).Takes text := by
  rw [ofRaw]
  split
  · exact takes_ofText recent text
  · rename_i hbody
    exact takes_text (by simpa using hbody) (splitAt_append literalEnd text)

end Cut

/-! ## Pieces -/

/-- A piece of a source: the blanks that are skipped, and a token with the characters that spell
it. -/
structure Piece where
  blanks : List Char
  token : Token
  spelling : List Char

namespace Piece

/-- The characters of a piece. -/
def chars (piece : Piece) : List Char :=
  piece.blanks ++ piece.spelling

/-- A comment that runs to the end of the source, because its end mark is missing. -/
def IsOpenComment (piece : Piece) : Prop :=
  piece.token.kind = .comment ∧ piece.spelling = '\x7b' :: '*' :: piece.token.literal.toList

/-- A piece as it has to be between two parts of a source: only blanks are skipped, and none in
front of text, the token is spelled as its kind asks for and has the place of its spelling, and
there is text in every token of text.  The token that says that the source has ended comes last
and is spelled by nothing. -/
structure Fits (front back : List Char) (piece : Piece) : Prop where
  blanks : ∀ c ∈ piece.blanks, c = ' ' ∨ c = '\t' ∨ c = '\r' ∨ c = '\n'
  spelled : Spelled piece.token.kind piece.token.literal.toList piece.spelling back
  text : piece.token.kind = .text → piece.blanks = [] ∧ piece.token.literal ≠ ""
  ending : piece.token.kind = .endOfInput → piece.spelling = [] ∧ back = []
  position : piece.token.position = Position.behind (front ++ piece.blanks)

end Piece

namespace Scanner

/-- The piece that makes the next token. -/
def piece (scanner : Scanner) : Piece :=
  ⟨scanner.blanks, scanner.token, scanner.cut.spelling⟩

/-- The pieces to the end of the source, the one that says it has ended included. -/
def pieces (scanner : Scanner) : List Piece :=
  if scanner.token.kind = .endOfInput then [scanner.piece]
  else scanner.piece :: scanner.next.pieces
termination_by scanner.rest.length
decreasing_by
  rename_i h
  exact length_rest_next scanner h

theorem tokens_eq_singleton {scanner : Scanner} (h : scanner.token.kind = .endOfInput) :
    scanner.tokens = [scanner.token] := by
  rw [tokens, if_pos h]

theorem tokens_eq_cons {scanner : Scanner} (h : scanner.token.kind ≠ .endOfInput) :
    scanner.tokens = scanner.token :: scanner.next.tokens := by
  rw [tokens, if_neg h]

theorem map_token_pieces (scanner : Scanner) :
    scanner.pieces.map Piece.token = scanner.tokens := by
  induction scanner using tokens.induct with
  | case1 scanner hend =>
      rw [pieces, if_pos hend, tokens_eq_singleton hend]
      rfl
  | case2 scanner hend ih =>
      rw [pieces, if_neg hend, tokens_eq_cons hend, List.map_cons, ih]
      rfl

/-- The cut of a scanner takes its token off what is left behind the blanks. -/
theorem takes_cut (scanner : Scanner) :
    ∃ source, scanner.blanks ++ source = scanner.rest ∧ scanner.cut.Takes source := by
  obtain ⟨rest, position, mode, recent⟩ := scanner
  cases mode with
  | text => exact ⟨rest, rfl, Cut.takes_ofText recent rest⟩
  | tag =>
      exact ⟨rest.dropWhile Cut.isBlank, List.takeWhile_append_dropWhile,
        Cut.takes_ofTag recent _⟩
  | raw => exact ⟨rest, rfl, Cut.takes_ofRaw recent rest⟩

theorem chars_piece_append (scanner : Scanner) :
    scanner.piece.chars ++ scanner.next.rest = scanner.rest := by
  obtain ⟨source, hsource, htakes⟩ := takes_cut scanner
  rw [← hsource, ← htakes.append, ← List.append_assoc]
  rfl

theorem position_next {scanner : Scanner} {front : List Char}
    (h : scanner.position = Position.behind front) :
    scanner.next.position = Position.behind (front ++ scanner.piece.chars) := by
  rw [next, start, h, Position.advance_behind, Position.advance_behind, List.append_assoc]
  rfl

/-- Blanks are skipped inside tags only. -/
theorem blanks_of_kind_eq_text {scanner : Scanner} (h : scanner.token.kind = .text) :
    scanner.blanks = [] := by
  obtain ⟨rest, position, mode, recent⟩ := scanner
  cases mode with
  | text => rfl
  | tag => exact absurd h (Cut.kind_ofTag_ne_text recent _)
  | raw => rfl

theorem isBlank_of_mem_blanks {scanner : Scanner} {c : Char} (h : c ∈ scanner.blanks) :
    Cut.isBlank c = true := by
  obtain ⟨rest, position, mode, recent⟩ := scanner
  cases mode with
  | text => cases h
  | tag => exact List.mem_takeWhile_imp h
  | raw => cases h

theorem rest_next_of_ended {scanner : Scanner} (h : scanner.token.kind = .endOfInput) :
    scanner.piece.spelling = [] ∧ scanner.next.rest = [] := by
  obtain ⟨source, -, htakes⟩ := takes_cut scanner
  have happend := htakes.append
  rw [htakes.ending h] at happend
  exact List.append_eq_nil_iff.mp happend

/-- Each piece fits where it is cut. -/
theorem fits_piece {scanner : Scanner} {front : List Char}
    (h : scanner.position = Position.behind front) :
    scanner.piece.Fits front scanner.next.rest := by
  obtain ⟨source, -, htakes⟩ := takes_cut scanner
  have hliteral : scanner.token.literal.toList = scanner.cut.literal := String.toList_ofList
  refine ⟨?_, ?_, ?_, rest_next_of_ended, ?_⟩
  · intro c hc
    simpa [Cut.isBlank, or_assoc] using isBlank_of_mem_blanks hc
  · rw [piece, hliteral]
    exact htakes.spelled
  · intro hkind
    refine ⟨blanks_of_kind_eq_text hkind, ?_⟩
    intro hempty
    rw [piece] at hempty
    rw [hempty] at hliteral
    exact htakes.filled hkind hliteral.symm
  · rw [piece, token, start, h, Position.advance_behind]

theorem chars_pieces (scanner : Scanner) : scanner.pieces.flatMap Piece.chars = scanner.rest := by
  induction scanner using tokens.induct with
  | case1 scanner hend =>
      rw [pieces, if_pos hend, List.flatMap_singleton, ← chars_piece_append scanner,
        (rest_next_of_ended hend).2, List.append_nil]
  | case2 scanner hend ih =>
      rw [pieces, if_neg hend, List.flatMap_cons, ih, chars_piece_append]

/-- Every piece fits between the pieces in front of it and those behind it. -/
theorem fits_pieces {scanner : Scanner} {front : List Char}
    (hposition : scanner.position = Position.behind front) :
    ∀ before piece after, scanner.pieces = before ++ piece :: after →
      piece.Fits (front ++ before.flatMap Piece.chars) (after.flatMap Piece.chars) := by
  induction scanner using tokens.induct generalizing front with
  | case1 scanner hend =>
      intro before piece after hpieces
      rw [pieces, if_pos hend] at hpieces
      obtain ⟨rfl, hrest⟩ | ⟨_, hbefore, hrest⟩ := List.cons_eq_append_iff.mp hpieces
      · obtain ⟨rfl, rfl⟩ := List.cons.inj hrest
        have hfits := fits_piece hposition
        rw [(rest_next_of_ended hend).2] at hfits
        simpa using hfits
      · exact absurd hrest (by simp)
  | case2 scanner hend ih =>
      intro before piece after hpieces
      rw [pieces, if_neg hend] at hpieces
      obtain ⟨rfl, hrest⟩ | ⟨further, rfl, hrest⟩ := List.cons_eq_append_iff.mp hpieces
      · obtain ⟨rfl, rfl⟩ := List.cons.inj hrest
        rw [chars_pieces]
        simpa using fits_piece hposition
      · have hfits := ih (position_next hposition) further piece after hrest
        rw [List.append_assoc] at hfits
        exact hfits

/-- The tokens of a source account for all its characters: it is their spellings one after the
other, with nothing but blanks between them, and every token has the place at which its spelling
begins. -/
theorem pieces_ofSource (source : String) :
    (ofSource source).pieces.map Piece.token = (ofSource source).tokens ∧
      (ofSource source).pieces.flatMap Piece.chars = source.toList ∧
      ∀ before piece after, (ofSource source).pieces = before ++ piece :: after →
        piece.Fits (before.flatMap Piece.chars) (after.flatMap Piece.chars) := by
  refine ⟨map_token_pieces _, chars_pieces _, ?_⟩
  have hstart : (ofSource source).position = Position.behind [] := rfl
  intro before piece after hpieces
  exact fits_pieces hstart before piece after hpieces

/-- A tag behind a line of text, and a comment without its end. -/
theorem pieces_ofSource_comment :
    let source := "né\n\x7b $x\x7d\x7b* é"
    let before : List Piece :=
      [⟨[], ⟨.text, "né\n", ⟨1, 1⟩⟩, "né\n".toList⟩, ⟨[], ⟨.openTag, "\x7b", ⟨2, 1⟩⟩, ['\x7b']⟩,
        ⟨[' '], ⟨.dollar, "$", ⟨2, 3⟩⟩, ['$']⟩, ⟨[], ⟨.identifier, "x", ⟨2, 4⟩⟩, ['x']⟩,
        ⟨[], ⟨.closeTag, "\x7d", ⟨2, 5⟩⟩, ['\x7d']⟩]
    let piece : Piece := ⟨[], ⟨.comment, " é", ⟨2, 6⟩⟩, "\x7b* é".toList⟩
    let after : List Piece := [⟨[], ⟨.endOfInput, "", ⟨2, 10⟩⟩, []⟩]
    (ofSource source).pieces = before ++ piece :: after ∧
      piece.Fits (before.flatMap Piece.chars) (after.flatMap Piece.chars) := by
  intro source before piece after
  have hpieces : (ofSource source).pieces = before ++ piece :: after := by
    simp only [source, before, piece, after]
    cbv
  exact ⟨hpieces, (pieces_ofSource source).2.2 before piece after hpieces⟩

end Scanner

end Stencil
