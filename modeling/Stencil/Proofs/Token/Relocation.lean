import Mathlib.Data.List.Induction
import Stencil.Proofs.Token.Pieces
import Stencil.Proofs.Token.Yields

/-!
# A source in another place

The tokens of a source that is put behind another one are its own tokens, each at the place that
it has there.  A scanner that comes from elsewhere may remember other kinds of tokens, but what
it remembers decides only about the brace that closes a tag, and the two tokens in front of such
a brace are never both from elsewhere.
-/

namespace Stencil

namespace Position

/-- The place in a longer source of what has a place in one that begins at a base. -/
def movedTo (position base : Position) : Position :=
  if position.line = 1 then ⟨base.line, base.column + (position.column - 1)⟩
  else ⟨base.line + (position.line - 1), position.column⟩

theorem movedTo_after {position : Position} (hline : 1 ≤ position.line)
    (hcolumn : 1 ≤ position.column) (base : Position) (c : Char) :
    (position.after c).movedTo base = (position.movedTo base).after c := by
  by_cases hc : c = '\n'
  · by_cases hfirst : position.line = 1
    · simp [after, movedTo, hc, hfirst]
    · have hline : base.line + position.line = base.line + (position.line - 1) + 1 := by omega
      simp [after, movedTo, hc, hfirst, hline]
      omega
  · by_cases hfirst : position.line = 1
    · simp [after, movedTo, hc, hfirst]
      omega
    · simp [after, movedTo, hc, hfirst]

/-- Moving the place behind a text comes to the same as going through the text from the base. -/
theorem movedTo_behind (front : List Char) (base : Position) :
    (behind front).movedTo base = base.advance front := by
  induction front using List.reverseRecOn with
  | nil => rfl
  | append_singleton front c ih =>
      have hadvance : base.advance (front ++ [c]) = (base.advance front).after c := by
        rw [advance, List.foldl_append]
        rfl
      have hline : 1 ≤ (behind front).line := Nat.le_add_right 1 _
      have hcolumn : 1 ≤ (behind front).column := Nat.le_add_right 1 _
      rw [hadvance, ← ih, ← after_behind, movedTo_after hline hcolumn]

end Position

/-- A token in another place. -/
def Token.movedTo (base : Position) (token : Token) : Token :=
  { token with position := token.position.movedTo base }

@[simp] theorem Token.kind_movedTo (base : Position) (token : Token) :
    (token.movedTo base).kind = token.kind :=
  rfl

namespace Cut

/-- Between tags, what is remembered does not count. -/
theorem ofText_recent (recent other : TokenKind × TokenKind) (text : List Char) :
    ofText recent text = ofText other text := by
  cases text with
  | nil => rfl
  | cons c rest =>
      by_cases hc : c = '\x7b'
      · subst hc
        cases rest with
        | nil => rfl
        | cons d rest =>
            by_cases hd : d = '*'
            · subst hd
              rfl
            · rw [Scanner.cut_openTag recent hd, Scanner.cut_openTag other hd]
      · rw [ofText, ofText, if_neg hc, if_neg hc]

theorem ofRaw_recent (recent other : TokenKind × TokenKind) (text : List Char) :
    ofRaw recent text = ofRaw other text := by
  rw [ofRaw, ofRaw, ofText_recent recent other]

theorem ofTag_recent {recent other : TokenKind × TokenKind}
    (h : modeAfterTag recent = modeAfterTag other) (text : List Char) :
    ofTag recent text = ofTag other text := by
  rw [ofTag.eq_def, ofTag.eq_def, h]

end Cut

namespace Scanner

/-- A scanner and one that stands in front of the same text in a source that began at a base.
What they remember is the same as far as it can still count. -/
structure Relocated (base : Position) (scanner other : Scanner) : Prop where
  rest : other.rest = scanner.rest
  mode : other.mode = scanner.mode
  place : ∃ front, scanner.position = .behind front ∧ other.position = base.advance front
  recent : scanner.mode = .text ∨ other.recent = scanner.recent ∨
    other.recent.2 = scanner.recent.2 ∧ scanner.recent.2 ≠ .literalWord

theorem modeAfterTag_of_ne_literalWord {recent : TokenKind × TokenKind}
    (h : recent.2 ≠ .literalWord) : Cut.modeAfterTag recent = .text :=
  if_neg fun hrecent => h (congrArg Prod.snd hrecent)

section Relocated

variable {base : Position} {scanner other : Scanner} (h : Relocated base scanner other)

include h

theorem Relocated.cut_eq : other.cut = scanner.cut := by
  cases hmode : scanner.mode with
  | text =>
      simp only [cut, h.mode, h.rest, hmode]
      exact Cut.ofText_recent _ _ _
  | raw =>
      simp only [cut, h.mode, h.rest, hmode]
      exact Cut.ofRaw_recent _ _ _
  | tag =>
      simp only [cut, h.mode, h.rest, hmode]
      refine Cut.ofTag_recent ?_ _
      rcases h.recent with htext | hrecent | ⟨hlast, hliteral⟩
      · rw [hmode] at htext
        cases htext
      · rw [hrecent]
      · rw [modeAfterTag_of_ne_literalWord hliteral]
        rw [← hlast] at hliteral
        exact modeAfterTag_of_ne_literalWord hliteral

theorem Relocated.piece_eq :
    other.blanks = scanner.blanks ∧ other.token = scanner.token.movedTo base := by
  have hblanks : other.blanks = scanner.blanks := by
    simp only [blanks, h.mode, h.rest]
  obtain ⟨front, hposition, hother⟩ := h.place
  refine ⟨hblanks, ?_⟩
  have hstart : other.start = scanner.start.movedTo base := by
    rw [start, start, hblanks, hposition, hother, Position.advance_behind,
      Position.movedTo_behind, Position.advance, Position.advance, Position.advance,
      List.foldl_append]
  rw [token, h.cut_eq, hstart]
  rfl

/-- What counts of the memory is the same again behind the next token. -/
theorem Relocated.recent_next (hend : scanner.token.kind ≠ .endOfInput) :
    scanner.next.mode = .text ∨ other.next.recent = scanner.next.recent ∨
      other.next.recent.2 = scanner.next.recent.2 ∧ scanner.next.recent.2 ≠ .literalWord := by
  have hkind : other.token.kind = scanner.token.kind := by
    rw [h.piece_eq.2, Token.kind_movedTo]
  rw [Scanner.recent_next, Scanner.recent_next, hkind]
  by_cases hmode : scanner.mode = .text
  · have houter : scanner.token.kind.isOuter = true := isOuter_token (by rw [hmode]; exact nofun)
    by_cases hbrace : scanner.token.kind = .openTag
    · exact .inr (.inr ⟨rfl, by rw [hbrace]; exact nofun⟩)
    · refine .inl ?_
      rw [mode_next hend]
      by_cases htext : scanner.token.kind = .text
      · rw [htext]
        rfl
      · rw [TokenKind.eq_comment_of_isOuter houter htext hbrace hend]
        rfl
  · have hlast : other.recent.2 = scanner.recent.2 := by
      rcases h.recent with htext | hrecent | ⟨hlast, -⟩
      · exact absurd htext hmode
      · rw [hrecent]
      · exact hlast
    exact .inr (.inl (by rw [hlast]))

theorem Relocated.next (hend : scanner.token.kind ≠ .endOfInput) :
    Relocated base scanner.next other.next := by
  have hcut := h.cut_eq
  refine ⟨?_, ?_, ?_, h.recent_next hend⟩
  · rw [Scanner.next, hcut]
    rfl
  · rw [Scanner.next, hcut]
    rfl
  · obtain ⟨front, hposition, hother⟩ := h.place
    refine ⟨front ++ scanner.piece.chars, position_next hposition, ?_⟩
    rw [Scanner.next, start, h.piece_eq.1, hcut, hother]
    simp [Position.advance, piece, Piece.chars]

/-- The tokens are the same up to their places. -/
theorem Relocated.tokens_eq : other.tokens = scanner.tokens.map (Token.movedTo base) := by
  induction scanner using tokens.induct generalizing other with
  | case1 scanner hend =>
      have htoken := h.piece_eq.2
      have hother : other.token.kind = .endOfInput := by
        rw [htoken]
        exact hend
      rw [tokens_eq_singleton hother, tokens_eq_singleton hend, htoken]
      rfl
  | case2 scanner hend ih =>
      have htoken := h.piece_eq.2
      have hother : other.token.kind ≠ .endOfInput := by
        rw [htoken]
        exact hend
      rw [tokens_eq_cons hother, tokens_eq_cons hend, htoken, ih (h.next hend)]
      rfl

end Relocated

/-- Every token has a place in its source, so moving it to the beginning leaves it there. -/
theorem map_movedTo_tokens {scanner : Scanner} {front : List Char}
    (h : scanner.position = .behind front) :
    scanner.tokens.map (Token.movedTo (.behind [])) = scanner.tokens := by
  have hself : Relocated (.behind []) scanner scanner :=
    ⟨rfl, rfl, ⟨front, h, by rw [h, Position.advance_behind, List.nil_append]⟩, .inr (.inl rfl)⟩
  exact hself.tokens_eq.symm

end Scanner

end Stencil
