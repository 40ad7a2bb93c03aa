import Stencil.Proofs.Token.Pieces

/-!
# The places of tokens ascend

Going on in a source leads to a later line, or to a later column of the same line.  Every token
but the one at the end is spelled by something, so the next one begins behind the place where it
begins.  Hence the places of the tokens of a source ascend, and no two tokens stand at one
place.
-/

namespace Stencil

namespace Position

/-- A place in front of another: on an earlier line, or in an earlier column of the same line. -/
def Before (position other : Position) : Prop :=
  position.line < other.line ∨ position.line = other.line ∧ position.column < other.column

theorem Before.trans {position other further : Position} (h : position.Before other)
    (hother : other.Before further) : position.Before further := by
  unfold Before at *
  omega

theorem Before.ne {position other : Position} (h : position.Before other) : position ≠ other := by
  rintro rfl
  unfold Before at h
  omega

theorem before_after (position : Position) (c : Char) : position.Before (position.after c) := by
  rw [after]
  split
  · exact .inl (Nat.lt_succ_self _)
  · exact .inr ⟨rfl, Nat.lt_succ_self _⟩

theorem before_advance (position : Position) {text : List Char} (h : text ≠ []) :
    position.Before (position.advance text) := by
  induction text generalizing position with
  | nil => exact absurd rfl h
  | cons c rest ih =>
      have hafter := before_after position c
      cases rest with
      | nil => exact hafter
      | cons next rest => exact hafter.trans (ih (position.after c) (List.cons_ne_nil next rest))

end Position

namespace Scanner

/-- A token in front of the end of a source is spelled by something. -/
theorem spelling_ne_nil {scanner : Scanner} (hend : scanner.token.kind ≠ .endOfInput) :
    scanner.cut.spelling ≠ [] := by
  have hshorter {cut : Cut} {source : List Char} (htakes : cut.Takes source)
      (hlength : cut.rest.length < source.length) : cut.spelling ≠ [] := by
    intro hnil
    rw [← htakes.append, hnil] at hlength
    exact Nat.lt_irrefl _ hlength
  obtain ⟨rest, position, mode, recent⟩ := scanner
  cases mode with
  | text => exact hshorter (Cut.takes_ofText recent rest) (Cut.length_rest_ofText recent rest hend)
  | tag =>
      exact hshorter (Cut.takes_ofTag recent _) (Cut.length_rest_ofTag recent _ hend)
  | raw => exact hshorter (Cut.takes_ofRaw recent rest) (Cut.length_rest_ofRaw recent rest hend)

/-- The token that comes next stands where the scanner is or behind it. -/
theorem position_token_cases (scanner : Scanner) :
    scanner.token.position = scanner.position ∨
      scanner.position.Before scanner.token.position := by
  by_cases hblanks : scanner.blanks = []
  · refine .inl ?_
    rw [token, start, hblanks]
    rfl
  · exact .inr (Position.before_advance scanner.position hblanks)

theorem position_before_next {scanner : Scanner} (hend : scanner.token.kind ≠ .endOfInput) :
    scanner.token.position.Before scanner.next.position :=
  Position.before_advance scanner.start (spelling_ne_nil hend)

theorem position_cases_of_mem_tokens {scanner : Scanner} {token : Token}
    (h : token ∈ scanner.tokens) :
    token.position = scanner.position ∨ scanner.position.Before token.position := by
  induction scanner using tokens.induct with
  | case1 scanner hend =>
      rw [tokens_eq_singleton hend] at h
      rw [List.mem_singleton.mp h]
      exact position_token_cases scanner
  | case2 scanner hend ih =>
      rw [tokens_eq_cons hend] at h
      rcases List.mem_cons.mp h with rfl | hrest
      · exact position_token_cases scanner
      · have hnext : scanner.position.Before scanner.next.position := by
          have hbehind := position_before_next hend
          rcases position_token_cases scanner with heq | hbefore
          · exact heq ▸ hbehind
          · exact hbefore.trans hbehind
        rcases ih hrest with heq | hbefore
        · exact .inr (heq ▸ hnext)
        · exact .inr (hnext.trans hbefore)

/-- Each token stands in front of those that follow it. -/
theorem pairwise_before_tokens (scanner : Scanner) :
    (scanner.tokens.map Token.position).Pairwise Position.Before := by
  induction scanner using tokens.induct with
  | case1 scanner hend =>
      rw [tokens_eq_singleton hend]
      exact List.pairwise_singleton _ _
  | case2 scanner hend ih =>
      rw [tokens_eq_cons hend, List.map_cons, List.pairwise_cons]
      refine ⟨?_, ih⟩
      intro position hposition
      obtain ⟨token, htoken, rfl⟩ := List.mem_map.mp hposition
      have hnext := position_before_next hend
      rcases position_cases_of_mem_tokens htoken with heq | hbefore
      · exact heq ▸ hnext
      · exact hnext.trans hbefore

end Scanner

end Stencil
