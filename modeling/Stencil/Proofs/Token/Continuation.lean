import Stencil.Proofs.Token.Pieces
import Stencil.Proofs.Token.Yields

/-!
# More text behind a source

What a scanner cuts off depends on what follows only as far as it looks.  It looks one character
past a word, a number or a piece of punctuation, and to the end mark of a string, a comment or a
literal block.  So if a cut leaves something behind, or ends with a mark, the same token is cut
when the source goes on.
-/

namespace Stencil

namespace Cut

/-- A cut with more text behind it. -/
def followedBy (cut : Cut) (further : List Char) : Cut :=
  { cut with rest := cut.rest ++ further }

/-- A cut that what follows cannot change: something is left behind it, or it ends with a
closing brace or with the end mark of a comment. -/
def IsDecided (cut : Cut) : Prop :=
  cut.rest ≠ [] ∨ cut.kind = .closeTag ∨
    cut.kind = .comment ∧ cut.spelling = '\x7b' :: '*' :: cut.literal ++ commentEnd

theorem IsDecided.rest_ne_nil {cut : Cut} (h : cut.IsDecided) (hclose : cut.kind ≠ .closeTag)
    (hcomment : cut.kind ≠ .comment) : cut.rest ≠ [] := by
  rcases h with hrest | hkind | ⟨hkind, -⟩
  · exact hrest
  · exact absurd hkind hclose
  · exact absurd hkind hcomment

theorem IsDecided.rest_ne_nil_of_text {cut : Cut} (h : cut.IsDecided) (hkind : cut.kind = .text) :
    cut.rest ≠ [] := by
  apply h.rest_ne_nil
  · rw [hkind]
    decide
  · rw [hkind]
    decide

/-! ## Runs of characters and marks -/

theorem takeWhile_append_of_dropWhile {p : Char → Bool} {text : List Char}
    (h : text.dropWhile p ≠ []) (further : List Char) :
    (text ++ further).takeWhile p = text.takeWhile p := by
  rw [List.takeWhile_append, if_neg]
  intro hlength
  have hsplit := congrArg List.length (List.takeWhile_append_dropWhile (p := p) (l := text))
  rw [List.length_append] at hsplit
  have hpos := List.length_pos_iff.mpr h
  omega

theorem dropWhile_append_of_dropWhile {p : Char → Bool} {text : List Char}
    (h : text.dropWhile p ≠ []) (further : List Char) :
    (text ++ further).dropWhile p = text.dropWhile p ++ further := by
  rw [List.dropWhile_append, if_neg (by simpa using h)]

/-- A text in which there is a mark is split at the same place when it goes on. -/
theorem splitAt_append_of_split {mark text : List Char} (h : (splitAt mark text).2 ≠ [])
    (further : List Char) :
    splitAt mark (text ++ further) =
      ((splitAt mark text).1, (splitAt mark text).2 ++ further) := by
  induction text with
  | nil => exact absurd rfl h
  | cons c rest ih =>
      have hlong : c :: rest <+: c :: (rest ++ further) := List.prefix_append (c :: rest) further
      by_cases hmark : mark.isPrefixOf (c :: rest) = true
      · have hfurther : mark.isPrefixOf (c :: (rest ++ further)) = true :=
          List.isPrefixOf_iff_prefix.mpr ((List.isPrefixOf_iff_prefix.mp hmark).trans hlong)
        rw [List.cons_append, splitAt, splitAt, if_pos hmark, if_pos hfurther, List.cons_append]
      · rw [splitAt, if_neg hmark] at h
        -- The mark is found further on, so it is no longer than what is left here.
        have hlength : mark.length ≤ (c :: rest).length := by
          have hstarts := ((prefix_splitAt mark rest).resolve_left h).length_le
          have hrest := length_splitAt_le mark rest
          rw [List.length_cons]
          omega
        have hfurther : ¬ mark.isPrefixOf (c :: (rest ++ further)) = true := by
          intro hin
          have hstarts :=
            List.prefix_of_prefix_length_le (List.isPrefixOf_iff_prefix.mp hin) hlong hlength
          exact hmark (List.isPrefixOf_iff_prefix.mpr hstarts)
        rw [List.cons_append, splitAt, splitAt, if_neg hmark, if_neg hfurther, ih h]

/-! ## Cuts -/

theorem comment_append {text : List Char} (h : (comment text).IsDecided) (further : List Char) :
    comment (text ++ further) = (comment text).followedBy further := by
  have hsplit : (splitAt commentEnd text).2 ≠ [] := by
    intro hnil
    rcases h with hrest | hclose | ⟨-, hspelling⟩
    · exact hrest (by rw [comment, hnil, List.drop_nil])
    · cases hclose
    · rw [comment, hnil] at hspelling
      simp [commentEnd] at hspelling
  have hlength : 2 ≤ (splitAt commentEnd text).2.length :=
    ((prefix_splitAt commentEnd text).resolve_left hsplit).length_le
  rw [comment, splitAt_append_of_split hsplit, comment, followedBy]
  simp only [List.take_append_of_le_length hlength, List.drop_append_of_le_length hlength]

theorem string_append {quote : Char} {text : List Char} (h : (string quote text).rest ≠ [])
    (further : List Char) :
    string quote (text ++ further) = (string quote text).followedBy further := by
  have hrest : text.dropWhile (· ≠ quote) ≠ [] := by
    intro hnil
    exact h (by rw [string, hnil, List.drop_nil])
  have hlength : 1 ≤ (text.dropWhile (· ≠ quote)).length := List.length_pos_iff.mpr hrest
  rw [string, takeWhile_append_of_dropWhile hrest, dropWhile_append_of_dropWhile hrest, string,
    followedBy]
  simp only [List.take_append_of_le_length hlength, List.drop_append_of_le_length hlength]

theorem word_append {c : Char} {text : List Char} (h : (word c text).rest ≠ [])
    (further : List Char) : word c (text ++ further) = (word c text).followedBy further := by
  have hrest : text.dropWhile isWordPart ≠ [] := h
  rw [word, takeWhile_append_of_dropWhile hrest, dropWhile_append_of_dropWhile hrest]
  rfl

theorem number_append {c : Char} {text : List Char} (h : (number c text).rest ≠ [])
    (further : List Char) : number c (text ++ further) = (number c text).followedBy further := by
  have hrest : text.dropWhile Char.isDigit ≠ [] := h
  rw [number, takeWhile_append_of_dropWhile hrest, dropWhile_append_of_dropWhile hrest]
  rfl

theorem comparison_of_ne {d : Char} (hd : d ≠ '=') (c : Char) (short long : TokenKind)
    (rest : List Char) :
    comparison c short long (d :: rest) = plain short [c] (d :: rest) .tag := by
  rw [comparison.eq_def]
  split
  · rename_i heq
    cases heq
    exact absurd rfl hd
  · rfl

theorem comparison_append {c : Char} {short long : TokenKind} {text : List Char}
    (h : (comparison c short long text).rest ≠ []) (further : List Char) :
    comparison c short long (text ++ further) =
      (comparison c short long text).followedBy further := by
  cases text with
  | nil => exact absurd rfl h
  | cons d rest =>
      by_cases hd : d = '='
      · subst hd
        rfl
      · rw [List.cons_append, comparison_of_ne hd, comparison_of_ne hd]
        rfl

theorem insideTag_append {c : Char} {text : List Char} (h : (insideTag c text).rest ≠ [])
    (further : List Char) :
    insideTag c (text ++ further) = (insideTag c text).followedBy further := by
  revert h
  rw [insideTag, insideTag]
  split
  · intro _
    rfl
  · intro h
    exact comparison_append h further
  · split
    · intro h
      exact string_append h further
    · split
      · intro h
        exact word_append h further
      · split
        · intro h
          exact number_append h further
        · intro _
          rfl

theorem not_isDecided_ending (mode : ScanMode) : ¬ (ending mode).IsDecided :=
  fun h => h.rest_ne_nil nofun nofun rfl

theorem ofTag_openTag (recent : TokenKind × TokenKind) {c : Char} (h : c ≠ '*') (rest : List Char) :
    ofTag recent ('\x7b' :: c :: rest) = plain .openTag ['\x7b'] (c :: rest) .tag := by
  rw [← Scanner.cut_openTag recent h rest, ofText, if_pos rfl]

/-- An opening brace that has something behind it. -/
theorem ofTag_brace_append {recent : TokenKind × TokenKind} {text : List Char}
    (h : (ofTag recent ('\x7b' :: text)).IsDecided) (further : List Char) :
    ofTag recent ('\x7b' :: text ++ further) =
      (ofTag recent ('\x7b' :: text)).followedBy further := by
  cases text with
  | nil =>
      exact absurd rfl (h.rest_ne_nil nofun nofun)
  | cons c rest =>
      by_cases hc : c = '*'
      · subst hc
        exact comment_append h further
      · rw [List.cons_append, List.cons_append, ofTag_openTag recent hc, ofTag_openTag recent hc]
        rfl

theorem ofTag_append {recent : TokenKind × TokenKind} {text : List Char}
    (h : (ofTag recent text).IsDecided) (further : List Char) :
    ofTag recent (text ++ further) = (ofTag recent text).followedBy further := by
  cases text with
  | nil => exact absurd h (not_isDecided_ending .tag)
  | cons c rest =>
      by_cases hopen : c = '\x7b'
      · subst hopen
        exact ofTag_brace_append h further
      · by_cases hclose : c = '\x7d'
        · subst hclose
          rfl
        · rw [ofTag_of_ne_brace recent hopen hclose] at h ⊢
          rw [List.cons_append, ofTag_of_ne_brace recent hopen hclose]
          have hinner := (isInner_insideTag c rest).1
          exact insideTag_append (h.rest_ne_nil (TokenKind.ne_of_isInner hinner rfl)
            (TokenKind.ne_of_isInner hinner rfl)) further

theorem ofText_append {recent : TokenKind × TokenKind} {text : List Char}
    (h : (ofText recent text).IsDecided) (further : List Char) :
    ofText recent (text ++ further) = (ofText recent text).followedBy further := by
  cases text with
  | nil => exact absurd h (not_isDecided_ending .text)
  | cons c rest =>
      by_cases hc : c = '\x7b'
      · rw [ofText, if_pos hc] at h ⊢
        rw [List.cons_append, ofText, if_pos hc]
        exact ofTag_append h further
      · rw [ofText, if_neg hc] at h ⊢
        have hrest : rest.dropWhile (· ≠ '\x7b') ≠ [] := h.rest_ne_nil_of_text rfl
        rw [List.cons_append, ofText, if_neg hc, takeWhile_append_of_dropWhile hrest,
          dropWhile_append_of_dropWhile hrest]
        rfl

theorem ofRaw_append {recent : TokenKind × TokenKind} {text : List Char}
    (h : (ofRaw recent text).IsDecided) (further : List Char) :
    ofRaw recent (text ++ further) = (ofRaw recent text).followedBy further := by
  have hsplit : (splitAt literalEnd text).2 ≠ [] := by
    intro hnil
    have htext := splitAt_append literalEnd text
    rw [hnil, List.append_nil] at htext
    rw [ofRaw, htext, hnil] at h
    cases text with
    | nil => exact not_isDecided_ending .text h
    | cons c rest => exact h.rest_ne_nil_of_text rfl rfl
  rw [ofRaw] at h ⊢
  rw [ofRaw, splitAt_append_of_split hsplit]
  dsimp only
  split at h
  · rename_i hempty
    rw [if_pos hempty, if_pos hempty]
    exact ofText_append h further
  · rename_i hbody
    rw [if_neg hbody, if_neg hbody]
    rfl

end Cut

/-! ## Scanners -/

namespace Scanner

/-- A scanner of a source that goes on. -/
def followedBy (scanner : Scanner) (further : List Char) : Scanner :=
  { scanner with rest := scanner.rest ++ further }

/-- Inside a tag, blanks only are skipped in front of a token that is there. -/
theorem dropWhile_isBlank_ne_nil {scanner : Scanner} (hmode : scanner.mode = .tag)
    (h : scanner.cut.IsDecided) : scanner.rest.dropWhile Cut.isBlank ≠ [] := by
  intro hnil
  rw [cut, hmode] at h
  simp only [hnil] at h
  exact Cut.not_isDecided_ending .tag h

theorem blanks_followedBy {scanner : Scanner} (h : scanner.cut.IsDecided) (further : List Char) :
    (scanner.followedBy further).blanks = scanner.blanks := by
  cases hmode : scanner.mode with
  | text => simp only [blanks, followedBy, hmode]
  | tag =>
      simp only [blanks, followedBy, hmode]
      exact Cut.takeWhile_append_of_dropWhile (dropWhile_isBlank_ne_nil hmode h) further
  | raw => simp only [blanks, followedBy, hmode]

theorem cut_followedBy {scanner : Scanner} (h : scanner.cut.IsDecided) (further : List Char) :
    (scanner.followedBy further).cut = scanner.cut.followedBy further := by
  cases hmode : scanner.mode with
  | text =>
      simp only [cut, hmode] at h
      simp only [cut, followedBy, hmode]
      exact Cut.ofText_append h further
  | tag =>
      have hrest := dropWhile_isBlank_ne_nil hmode h
      simp only [cut, hmode] at h
      simp only [cut, followedBy, hmode]
      rw [Cut.dropWhile_append_of_dropWhile hrest]
      exact Cut.ofTag_append h further
  | raw =>
      simp only [cut, hmode] at h
      simp only [cut, followedBy, hmode]
      exact Cut.ofRaw_append h further

/-- The same token is handed out, and the source goes on behind it. -/
theorem token_followedBy {scanner : Scanner} (h : scanner.cut.IsDecided) (further : List Char) :
    (scanner.followedBy further).token = scanner.token ∧
      (scanner.followedBy further).next = scanner.next.followedBy further := by
  have hstart : (scanner.followedBy further).start = scanner.start := by
    rw [start, blanks_followedBy h]
    rfl
  constructor
  · rw [token, cut_followedBy h, hstart]
    rfl
  · rw [next, cut_followedBy h, hstart]
    rfl

/-! ## Runs of tokens -/

theorem kind_of_rest_eq_nil {scanner : Scanner} (h : scanner.rest = []) :
    scanner.token.kind = .endOfInput := by
  obtain ⟨rest, position, mode, recent⟩ := scanner
  obtain rfl : rest = [] := h
  cases mode <;> rfl

/-- Every token but the last is decided: there is something behind it. -/
theorem isDecided_of_next {scanner : Scanner} (h : scanner.next.token.kind ≠ .endOfInput) :
    scanner.cut.IsDecided :=
  .inl fun hrest => h (kind_of_rest_eq_nil hrest)

theorem Yields.kind_ne_endOfInput {scanner last : Scanner} {ts : List Token}
    (h : Yields scanner ts last) (hlast : last.token.kind ≠ .endOfInput) :
    scanner.token.kind ≠ .endOfInput := by
  cases h with
  | nil => exact hlast
  | cons hend _ => exact hend

theorem Yields.cons_followedBy {scanner last : Scanner} {ts : List Token}
    (hend : scanner.token.kind ≠ .endOfInput) (hdecided : scanner.cut.IsDecided)
    {further : List Char} (hnext : Yields (scanner.next.followedBy further) ts last) :
    Yields (scanner.followedBy further) (scanner.token :: ts) last := by
  obtain ⟨htoken, hbehind⟩ := token_followedBy hdecided further
  rw [← htoken] at hend ⊢
  rw [← hbehind] at hnext
  exact .cons hend hnext

/-- The tokens in front of a place where the source has not ended are the same when it goes on. -/
theorem Yields.followedBy {scanner last : Scanner} {ts : List Token} (h : Yields scanner ts last)
    (hlast : last.token.kind ≠ .endOfInput) (further : List Char) :
    Yields (scanner.followedBy further) ts (last.followedBy further) := by
  induction h with
  | nil => exact .nil
  | cons hend hnext ih =>
      exact .cons_followedBy hend (isDecided_of_next (hnext.kind_ne_endOfInput hlast)) (ih hlast)

/-- A token that leads out of a tag, and a comment with its end, are decided even at the end. -/
theorem isDecided_of_mode_next {scanner : Scanner} (hend : scanner.token.kind ≠ .endOfInput)
    (hmode : scanner.next.mode = .text) (htext : scanner.token.kind ≠ .text)
    (hcomment : ¬ scanner.piece.IsOpenComment) : scanner.cut.IsDecided := by
  rw [mode_next hend] at hmode
  have hkinds : scanner.token.kind = .closeTag ∨ scanner.token.kind = .comment := by
    cases hkind : scanner.token.kind with
    | closeTag => exact .inl rfl
    | comment => exact .inr rfl
    | text => exact absurd hkind htext
    | _ =>
        rw [hkind] at hmode
        cases hmode
  rcases hkinds with hclose | hkind
  · exact .inr (.inl hclose)
  · obtain ⟨source, -, htakes⟩ := takes_cut scanner
    have hspelled := htakes.spelled
    have hcut : scanner.cut.kind = .comment := hkind
    rw [hcut] at hspelled
    rcases hspelled.comment_cases with hclosed | hopen
    · exact .inr (.inr ⟨hkind, hclosed⟩)
    · have hliteral : scanner.token.literal.toList = scanner.cut.literal := String.toList_ofList
      exact absurd ⟨hkind, by rw [piece, hliteral]; exact hopen⟩ hcomment

/-- Text between tags at the end of a source takes in the text with which another one begins. -/
theorem cut_followedBy_of_text {scanner : Scanner} (hmode : scanner.mode = .text)
    (hkind : scanner.token.kind = .text) (hrest : scanner.next.rest = []) (further : List Char) :
    (scanner.followedBy further).cut =
      .plain .text (scanner.cut.literal ++ further.takeWhile (· ≠ '\x7b'))
        (further.dropWhile (· ≠ '\x7b')) .text := by
  have hcut : scanner.cut = Cut.ofText scanner.recent scanner.rest := by
    rw [cut, hmode]
  have hfollowed : (scanner.followedBy further).cut =
      Cut.ofText scanner.recent (scanner.rest ++ further) := by
    rw [cut, followedBy, hmode]
  replace hkind : scanner.cut.kind = .text := hkind
  replace hrest : scanner.cut.rest = [] := hrest
  rw [hfollowed, hcut]
  rw [hcut] at hkind hrest
  cases htext : scanner.rest with
  | nil =>
      rw [htext] at hkind
      cases hkind
  | cons c text =>
      rw [htext] at hkind hrest
      by_cases hc : c = '\x7b'
      · rw [Cut.ofText, if_pos hc] at hkind
        exact absurd hkind (Cut.kind_ofTag_ne_text _ _)
      · rw [Cut.ofText, if_neg hc] at hrest
        have hall : ∀ d ∈ text, decide (d ≠ '\x7b') = true := List.dropWhile_eq_nil_iff.mp hrest
        have hwhole : text.takeWhile (· ≠ '\x7b') = text := List.takeWhile_eq_self_iff.mpr hall
        rw [List.cons_append, Cut.ofText, Cut.ofText, if_neg hc, if_neg hc,
          List.takeWhile_append_of_pos hall, List.dropWhile_append_of_pos hall, hwhole]
        rfl

end Scanner

end Stencil
