import Mathlib.Logic.Function.Iterate
import Stencil.Proofs.Token.Ascending

/-!
# Scanning goes on to the end and stays there

Whatever the mode of a scanner and whatever tokens it has handed out, the next token is spelled
by at least one character, or it says that the source has ended.  The scanner takes these
characters off what is left, with the blanks in front of them, so it always stands between two
characters of the source, and there are no more tokens than characters.

A source has ended where nothing but blanks is left.  These are skipped once, and from then on
the scanner stands where it is: the token that says so comes again and again, at one place.
-/

namespace Stencil

namespace Scanner

/-- A scanner that stands in a source: what it has left is the end of the source. -/
def StandsIn (source : String) (scanner : Scanner) : Prop :=
  scanner.rest <:+ source.toList

/-- How far a scanner has come in a source, in bytes. -/
def cursor (source : String) (scanner : Scanner) : String.Pos.Raw :=
  ⟨source.utf8ByteSize - (String.ofList scanner.rest).utf8ByteSize⟩

theorem standsIn_ofSource (source : String) : (ofSource source).StandsIn source :=
  List.suffix_rfl

theorem StandsIn.next {source : String} {scanner : Scanner} (h : scanner.StandsIn source) :
    scanner.next.StandsIn source := by
  have hnext : scanner.next.rest <:+ scanner.rest :=
    ⟨scanner.piece.chars, chars_piece_append scanner⟩
  exact hnext.trans h

theorem StandsIn.iterate {source : String} {scanner : Scanner} (h : scanner.StandsIn source)
    (calls : ℕ) : (Scanner.next^[calls] scanner).StandsIn source := by
  induction calls generalizing scanner with
  | zero => exact h
  | succ calls ih =>
      rw [Function.iterate_succ_apply]
      exact ih h.next

theorem cursor_of_append {source front : String} {scanner : Scanner}
    (h : source = front ++ String.ofList scanner.rest) :
    scanner.cursor source = front.rawEndPos := by
  apply String.Pos.Raw.ext
  rw [cursor, h, String.utf8ByteSize_append, String.byteIdx_rawEndPos]
  exact Nat.add_sub_cancel _ _

theorem StandsIn.exists_append {source : String} {scanner : Scanner} (h : scanner.StandsIn source) :
    ∃ front : String, source = front ++ String.ofList scanner.rest := by
  obtain ⟨front, hfront⟩ := h
  refine ⟨String.ofList front, ?_⟩
  rw [← String.ofList_append, hfront, String.ofList_toList]

/-- A scanner stands between two characters of its source. -/
theorem StandsIn.isValid_cursor {source : String} {scanner : Scanner}
    (h : scanner.StandsIn source) :
    (scanner.cursor source).IsValid source := by
  obtain ⟨front, hfront⟩ := h.exists_append
  rw [String.Pos.Raw.isValid_iff_exists_append]
  exact ⟨front, _, hfront, cursor_of_append hfront⟩

/-- A token in front of the end takes the scanner over at least one character. -/
theorem StandsIn.exists_taken {source : String} {scanner : Scanner} (h : scanner.StandsIn source)
    (hend : scanner.token.kind ≠ .endOfInput) :
    ∃ front taken back : String, source = front ++ taken ++ back ∧ taken ≠ "" ∧
      scanner.cursor source = front.rawEndPos ∧
      scanner.next.cursor source = (front ++ taken).rawEndPos := by
  obtain ⟨front, hfront⟩ := h.exists_append
  have hrest := chars_piece_append scanner
  have hsource : source =
      front ++ String.ofList scanner.piece.chars ++ String.ofList scanner.next.rest := by
    rw [String.append_assoc, ← String.ofList_append, hrest]
    exact hfront
  refine ⟨front, _, _, hsource, ?_, cursor_of_append hfront, cursor_of_append hsource⟩
  intro hempty
  have hchars : scanner.blanks ++ scanner.cut.spelling = [] := by
    have hlist := congrArg String.toList hempty
    rwa [String.toList_ofList] at hlist
  exact spelling_ne_nil hend (List.append_eq_nil_iff.mp hchars).2

/-! ## The end of a source -/

theorem token_of_rest_eq_nil {scanner : Scanner} (h : scanner.rest = []) :
    scanner.token = ⟨.endOfInput, "", scanner.position⟩ := by
  obtain ⟨rest, position, mode, recent⟩ := scanner
  obtain rfl : rest = [] := h
  cases mode with
  | text => rfl
  | tag => rfl
  | raw => rfl

/-- The token at the end says nothing, whatever the mode in which the source has ended. -/
theorem token_of_ended {scanner : Scanner} (hend : scanner.token.kind = .endOfInput) :
    scanner.token = ⟨.endOfInput, "", scanner.start⟩ := by
  obtain ⟨source, -, htakes⟩ := takes_cut scanner
  have hkind : scanner.cut.kind = .endOfInput := hend
  have hspelling : scanner.cut.spelling = [] := (rest_next_of_ended hend).1
  have hliteral : scanner.cut.literal = [] := by
    have hspelled := htakes.spelled
    rw [hkind, hspelling] at hspelled
    generalize scanner.cut.literal = literal at hspelled
    cases hspelled
    rfl
  rw [token, hkind, hliteral]

theorem token_next_of_ended {scanner : Scanner} (hend : scanner.token.kind = .endOfInput) :
    scanner.next.token = scanner.token := by
  obtain ⟨hspelling, hrest⟩ := rest_next_of_ended hend
  have hplace : scanner.next.position = scanner.start := by
    change scanner.start.advance scanner.piece.spelling = scanner.start
    rw [hspelling]
    rfl
  rw [token_of_rest_eq_nil hrest, token_of_ended hend, hplace]

/-- Behind the end of a source every call gives the token of the first one again. -/
theorem token_iterate_of_ended {scanner : Scanner} (hend : scanner.token.kind = .endOfInput)
    (calls : ℕ) : (Scanner.next^[calls] scanner).token = scanner.token := by
  induction calls with
  | zero => rfl
  | succ calls ih =>
      rw [Function.iterate_succ_apply', token_next_of_ended (by rw [ih, hend]), ih]

/-- The tokens of a scanner are those of its calls up to the first that says that the source has
ended. -/
theorem exists_calls (scanner : Scanner) :
    ∃ count ≤ scanner.rest.length,
      scanner.tokens =
        (List.range (count + 1)).map (fun calls => (Scanner.next^[calls] scanner).token) ∧
      ∀ calls, (Scanner.next^[calls] scanner).token.kind = .endOfInput ↔ count ≤ calls := by
  induction scanner using tokens.induct with
  | case1 scanner hend =>
      refine ⟨0, Nat.zero_le _, tokens_eq_singleton hend, ?_⟩
      intro calls
      rw [token_iterate_of_ended hend calls]
      exact iff_of_true hend (Nat.zero_le calls)
  | case2 scanner hend ih =>
      obtain ⟨count, hcount, htokens, hkinds⟩ := ih
      refine ⟨count + 1, ?_, ?_, ?_⟩
      · exact Nat.lt_of_le_of_lt hcount (length_rest_next scanner hend)
      · rw [tokens_eq_cons hend, htokens, List.range_succ_eq_map (n := count + 1), List.map_cons,
          List.map_map]
        rfl
      · intro calls
        cases calls with
        | zero => simpa using hend
        | succ calls =>
            rw [Function.iterate_succ_apply, hkinds]
            exact Nat.succ_le_succ_iff.symm

/-- After any number of calls a scanner stands between two characters of its source, and the
next call goes over at least one of them or says that there is none, in which case all later
calls give the same token.  So there is a number of calls, at most that of the characters, after
which the source has ended, and the tokens are those of the calls up to there. -/
theorem progress_ofSource (source : String) :
    let behind := fun calls : ℕ => Scanner.next^[calls] (ofSource source)
    (∀ calls, ((behind calls).cursor source).IsValid source ∧
      ((behind calls).token.kind ≠ .endOfInput ∧
          (∃ front taken back : String, source = front ++ taken ++ back ∧ taken ≠ "" ∧
            (behind calls).cursor source = front.rawEndPos ∧
            (behind (calls + 1)).cursor source = (front ++ taken).rawEndPos) ∨
        (behind calls).token.kind = .endOfInput ∧
          ∀ further, (behind (calls + further)).token = (behind calls).token)) ∧
      ∃ count ≤ source.length,
        (ofSource source).tokens =
          (List.range (count + 1)).map (fun calls => (behind calls).token) ∧
        ∀ calls, (behind calls).token.kind = .endOfInput ↔ count ≤ calls := by
  intro behind
  refine ⟨?_, ?_⟩
  · intro calls
    have hstands : (behind calls).StandsIn source := (standsIn_ofSource source).iterate calls
    refine ⟨hstands.isValid_cursor, ?_⟩
    by_cases hend : (behind calls).token.kind = .endOfInput
    · refine .inr ⟨hend, ?_⟩
      intro further
      have hbehind : behind (calls + further) = Scanner.next^[further] (behind calls) := by
        rw [Nat.add_comm]
        exact Function.iterate_add_apply _ _ _ _
      rw [hbehind, token_iterate_of_ended hend]
    · refine .inl ⟨hend, ?_⟩
      have hbehind : behind (calls + 1) = (behind calls).next := Function.iterate_succ_apply' _ _ _
      rw [hbehind]
      exact hstands.exists_taken hend
  · exact exists_calls (ofSource source)

end Scanner

end Stencil
