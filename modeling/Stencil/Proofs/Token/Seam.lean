import Stencil.Proofs.Token.Continuation
import Stencil.Proofs.Token.Relocation

/-!
# Two sources, one behind the other

A source that ends between tags leaves nothing over for the one behind it: the scanner reaches
the seam with nothing to remember, and goes on as it would at the beginning of the second
source.  So the tokens of the two together are those of the first, without its end, and those of
the second in their new places.  Only text at the end of the first and text at the beginning of
the second come to be one token.
-/

namespace Stencil

/-- A token of text that goes on with the text of another one. -/
def Token.joinedWith (token other : Token) : Token :=
  { token with literal := token.literal ++ other.literal }

namespace Scanner

theorem ofSource_append (first second : String) :
    ofSource (first ++ second) = (ofSource first).followedBy second.toList := by
  rw [ofSource, String.toList_append, followedBy, ofSource]

/-- Tokens that lead to a scanner have a last one, unless they lead nowhere. -/
theorem Yields.last_cases {scanner last : Scanner} {ts : List Token} (h : Yields scanner ts last) :
    ts = [] ∧ scanner = last ∨
      ∃ us middle, ts = us ++ [middle.token] ∧ Yields scanner us middle ∧
        middle.token.kind ≠ .endOfInput ∧ middle.next = last := by
  induction h with
  | nil => exact .inl ⟨rfl, rfl⟩
  | @cons scanner last ts hend hnext ih =>
      rcases ih with ⟨rfl, rfl⟩ | ⟨us, middle, rfl, hyields, hmiddle, hlast⟩
      · exact .inr ⟨[], scanner, rfl, .nil, hend, rfl⟩
      · exact .inr ⟨scanner.token :: us, middle, rfl, .cons hend hyields, hmiddle, hlast⟩

theorem Yields.piece_mem {scanner middle : Scanner} {ts : List Token}
    (h : Yields scanner ts middle) : middle.piece ∈ scanner.pieces := by
  induction h with
  | @nil scanner =>
      rw [pieces]
      split
      · exact List.mem_cons_self
      · exact List.mem_cons_self
  | cons hend _ ih =>
      rw [pieces, if_neg hend]
      exact List.mem_cons_of_mem _ ih

theorem exists_yields (scanner : Scanner) :
    ∃ ts last, Yields scanner ts last ∧ last.token.kind = .endOfInput := by
  induction scanner using tokens.induct with
  | case1 scanner hend => exact ⟨[], scanner, .nil, hend⟩
  | case2 scanner hend ih =>
      obtain ⟨ts, last, hyields, hlast⟩ := ih
      exact ⟨scanner.token :: ts, last, .cons hend hyields, hlast⟩

/-- Between tags, a source is over only where nothing is left of it. -/
theorem rest_of_ended {scanner : Scanner} (hmode : scanner.mode = .text)
    (hend : scanner.token.kind = .endOfInput) : scanner.rest = [] := by
  have hchars := chars_piece_append scanner
  obtain ⟨hspelling, hrest⟩ := rest_next_of_ended hend
  have hblanks : scanner.blanks = [] := by
    rw [blanks, hmode]
  rw [← hchars, hrest, Piece.chars, hspelling, piece, hblanks]
  rfl

theorem position_ofSource (source : String) : (ofSource source).position = .behind [] := rfl

/-- The place of a scanner is the one behind all that has been cut off. -/
theorem Yields.position_eq {scanner last : Scanner} {ts : List Token} {front : List Char}
    (h : Yields scanner ts last) (hposition : scanner.position = .behind front) :
    ∃ text, text ++ last.rest = scanner.rest ∧ last.position = .behind (front ++ text) := by
  induction h generalizing front with
  | nil => exact ⟨[], rfl, by rw [hposition, List.append_nil]⟩
  | @cons scanner last ts hend hnext ih =>
      obtain ⟨text, hrest, hlast⟩ := ih (position_next hposition)
      refine ⟨scanner.piece.chars ++ text, ?_, ?_⟩
      · rw [List.append_assoc, hrest, chars_piece_append]
      · rw [hlast, List.append_assoc]

/-! ## Text at the seam -/

/-- The text with which a source begins. -/
def lead (source : String) : List Char :=
  source.toList.takeWhile (· ≠ '\x7b')

theorem lead_eq_nil {source : String} (h : (ofSource source).token.kind ≠ .text) :
    lead source = [] := by
  replace h : (Cut.ofText (.endOfInput, .endOfInput) source.toList).kind ≠ .text := h
  rw [lead]
  cases htext : source.toList with
  | nil => rfl
  | cons c rest =>
      rw [htext] at h
      by_cases hc : c = '\x7b'
      · simp [hc]
      · rw [Cut.ofText, if_neg hc] at h
        exact absurd rfl h

theorem cut_ofSource_of_text {source : String} (h : (ofSource source).token.kind = .text) :
    (ofSource source).cut =
      .plain .text (lead source) (source.toList.dropWhile (· ≠ '\x7b')) .text := by
  have hcut : (ofSource source).cut = Cut.ofText (.endOfInput, .endOfInput) source.toList := rfl
  replace h : (ofSource source).cut.kind = .text := h
  rw [hcut] at h ⊢
  rw [lead]
  cases htext : source.toList with
  | nil =>
      rw [htext] at h
      cases h
  | cons c rest =>
      rw [htext] at h
      by_cases hc : c = '\x7b'
      · rw [Cut.ofText, if_pos hc] at h
        exact absurd h (Cut.kind_ofTag_ne_text _ _)
      · rw [Cut.ofText, if_neg hc]
        simp [hc]

/-- A scanner between tags whose next token is text up to the end of the source. -/
structure BeforeLastText (scanner : Scanner) : Prop where
  mode : scanner.mode = .text
  kind : scanner.token.kind = .text
  rest : scanner.next.rest = []

section BeforeLastText

variable {scanner : Scanner} (h : scanner.BeforeLastText)

include h

theorem BeforeLastText.cut_followedBy (second : String) :
    (scanner.followedBy second.toList).cut =
      .plain .text (scanner.cut.literal ++ lead second) (second.toList.dropWhile (· ≠ '\x7b'))
        .text :=
  cut_followedBy_of_text h.mode h.kind h.rest second.toList

theorem BeforeLastText.cut_eq : scanner.cut = .plain .text scanner.cut.literal [] .text := by
  have hcut := cut_followedBy_of_text h.mode h.kind h.rest []
  have hsame : scanner.followedBy [] = scanner := by
    rw [followedBy, List.append_nil]
  rw [hsame, List.takeWhile_nil, List.append_nil, List.dropWhile_nil] at hcut
  exact hcut

theorem BeforeLastText.start_followedBy (second : String) :
    (scanner.followedBy second.toList).start = scanner.start := by
  rw [start, start, blanks, blanks, followedBy, h.mode]

/-- If the second source begins with a brace or is empty, the text ends where it ended before. -/
theorem BeforeLastText.followedBy_of_not_text {second : String}
    (hsecond : (ofSource second).token.kind ≠ .text) :
    (scanner.followedBy second.toList).token = scanner.token ∧
      (scanner.followedBy second.toList).next = scanner.next.followedBy second.toList := by
  have hdrop : second.toList.dropWhile (· ≠ '\x7b') = second.toList := by
    have hsplit : lead second ++ _ = second.toList := List.takeWhile_append_dropWhile
    rw [lead_eq_nil hsecond] at hsplit
    exact hsplit
  have hcut := h.cut_followedBy second
  rw [lead_eq_nil hsecond, List.append_nil, hdrop] at hcut
  have hstart := h.start_followedBy second
  constructor
  · rw [token, token, hcut, hstart, h.cut_eq]
    rfl
  · rw [next, next, hcut, hstart, h.cut_eq, followedBy]
    rfl

/-- If the second source begins with text, that belongs to the token too. -/
theorem BeforeLastText.token_followedBy {second : String}
    (hsecond : (ofSource second).token.kind = .text) :
    (scanner.followedBy second.toList).token =
      scanner.token.joinedWith (ofSource second).token := by
  rw [token, h.cut_followedBy, h.start_followedBy, Token.joinedWith, token, token, h.cut_eq,
    cut_ofSource_of_text hsecond]
  simp only [Cut.plain, String.ofList_append]

/-- Behind the text that they share, the second source goes on as it does alone. -/
theorem BeforeLastText.relocated_next {second : String}
    (hsecond : (ofSource second).token.kind = .text) :
    Relocated scanner.next.position (ofSource second).next
      (scanner.followedBy second.toList).next := by
  have hsecondCut := cut_ofSource_of_text hsecond
  have hcut := h.cut_followedBy second
  refine ⟨?_, ?_, ⟨lead second, ?_, ?_⟩, .inl ?_⟩
  · rw [next, next, hcut, hsecondCut]
    rfl
  · rw [next, next, hcut, hsecondCut]
    rfl
  · rw [next, hsecondCut]
    exact Position.advance_behind [] (lead second)
  · rw [next, next, hcut, h.start_followedBy, h.cut_eq]
    simp [Cut.plain, Position.advance]
  · rw [next, hsecondCut]
    rfl

end BeforeLastText

/-! ## Tokens on both sides of the seam -/

/-- Behind a source that has ended, the second one goes on as it does alone. -/
theorem relocated_ended {last : Scanner} (hmode : last.mode = .text) (hrest : last.rest = [])
    (second : String) :
    Relocated last.position (ofSource second) (last.followedBy second.toList) where
  rest := by rw [followedBy, hrest]; rfl
  mode := hmode
  place := ⟨[], rfl, rfl⟩
  recent := .inl rfl

section Seam

variable {scanner last : Scanner} {ts : List Token} (second : String)

/-- Where the last token of the first source is decided, or is text in front of something else,
the tokens of the second follow those of the first. -/
theorem tokens_followedBy (h : Yields scanner ts last) (hmode : last.mode = .text)
    (hrest : last.rest = [])
    (hseam : ∀ us middle, Yields scanner us middle → middle.token.kind ≠ .endOfInput →
      middle.next = last →
        middle.cut.IsDecided ∨
          middle.BeforeLastText ∧ (ofSource second).token.kind ≠ .text) :
    (scanner.followedBy second.toList).tokens =
      ts ++ (ofSource second).tokens.map (Token.movedTo last.position) := by
  have hbehind := (relocated_ended hmode hrest second).tokens_eq
  rcases h.last_cases with ⟨rfl, rfl⟩ | ⟨us, middle, rfl, hyields, hmiddle, hlast⟩
  · exact hbehind
  · have hfollowed := hyields.followedBy hmiddle second.toList
    obtain ⟨htoken, hnext⟩ : (middle.followedBy second.toList).token = middle.token ∧
        (middle.followedBy second.toList).next = middle.next.followedBy second.toList := by
      rcases hseam us middle hyields hmiddle hlast with hdecided | ⟨htext, hsecond⟩
      · exact token_followedBy hdecided second.toList
      · exact htext.followedBy_of_not_text hsecond
    have hend : (middle.followedBy second.toList).token.kind ≠ .endOfInput := by
      rw [htoken]
      exact hmiddle
    rw [hfollowed.tokens_eq, tokens_eq_cons hend, htoken, hnext, hlast, hbehind]
    simp

/-- Where both have text at the seam, it is one token, and the others are as they are alone. -/
theorem tokens_followedBy_of_text {us : List Token} {middle : Scanner}
    (h : Yields scanner us middle) (htext : middle.BeforeLastText)
    (hsecond : (ofSource second).token.kind = .text) :
    (scanner.followedBy second.toList).tokens =
      us ++ middle.token.joinedWith (ofSource second).token ::
        (ofSource second).next.tokens.map (Token.movedTo middle.next.position) := by
  have hmiddle : middle.token.kind ≠ .endOfInput := by
    rw [htext.kind]
    exact nofun
  have htoken := htext.token_followedBy hsecond
  have hend : (middle.followedBy second.toList).token.kind ≠ .endOfInput := by
    rw [htoken]
    exact hmiddle
  rw [(h.followedBy hmiddle second.toList).tokens_eq, tokens_eq_cons hend, htoken,
    (htext.relocated_next hsecond).tokens_eq]

end Seam

end Scanner

end Stencil
