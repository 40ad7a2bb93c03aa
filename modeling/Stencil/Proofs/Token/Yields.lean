import Stencil.Proofs.Token.Lexemes

/-!
# The tokens on the way through a text

A scanner yields tokens until it is another scanner.  The ways into a tag and out of it are
single tokens: a brace and the word or dollar behind it lead inside, and a brace leads out, to
the text behind the tag or, if the tag was the one that opens a literal block, to the inside of
that block.
-/

namespace Stencil

namespace Scanner

/-- The tokens that a scanner hands out before it is another one; the source does not end among
them. -/
inductive Yields : Scanner → List Token → Scanner → Prop
  | nil {scanner : Scanner} : Yields scanner [] scanner
  | cons {scanner last : Scanner} {ts : List Token}
      (hend : scanner.token.kind ≠ .endOfInput) (hnext : Yields scanner.next ts last) :
      Yields scanner (scanner.token :: ts) last

theorem Yields.append {scanner middle last : Scanner} {ts us : List Token}
    (hfirst : Yields scanner ts middle) (hsecond : Yields middle us last) :
    Yields scanner (ts ++ us) last := by
  induction hfirst with
  | nil => exact hsecond
  | cons hend hnext ih => exact .cons hend (ih hsecond)

theorem Yields.of_cons {scanner last : Scanner} {token : Token} {ts : List Token}
    (h : Yields scanner (token :: ts) last) :
    scanner.token = token ∧ scanner.token.kind ≠ .endOfInput ∧ Yields scanner.next ts last := by
  cases h with
  | cons hend hnext => exact ⟨rfl, hend, hnext⟩

theorem Yields.of_append {scanner last : Scanner} {ts us : List Token}
    (h : Yields scanner (ts ++ us) last) :
    ∃ middle, Yields scanner ts middle ∧ Yields middle us last := by
  induction ts generalizing scanner with
  | nil => exact ⟨scanner, .nil, h⟩
  | cons token ts ih =>
      obtain ⟨rfl, hend, hnext⟩ := h.of_cons
      obtain ⟨middle, hts, hus⟩ := ih hnext
      exact ⟨middle, .cons hend hts, hus⟩

theorem Yields.single {scanner : Scanner} (hend : scanner.token.kind ≠ .endOfInput) :
    Yields scanner [scanner.token] scanner.next :=
  .cons hend .nil

theorem Yields.tokens_eq {scanner last : Scanner} {ts : List Token} (h : Yields scanner ts last) :
    scanner.tokens = ts ++ last.tokens := by
  induction h with
  | nil => rfl
  | cons hend hnext ih =>
      rw [tokens, if_neg hend, ih]
      rfl

theorem tokens_of_ended {scanner : Scanner} (h : scanner.AtText []) :
    ∃ ending, scanner.tokens = [ending] ∧ ending.kind = .endOfInput := by
  have hend : scanner.token.kind = .endOfInput := by
    rw [token, cut, h.mode]
    simp only [h.rest]
    rfl
  refine ⟨scanner.token, ?_, hend⟩
  rw [tokens, if_pos hend]

theorem atText_ofSource (source : String) : (ofSource source).AtText source.toList :=
  ⟨rfl, rfl⟩

/-! ## Into a tag -/

/-- The brace that opens a tag, and does not open a comment. -/
theorem cut_openTag (recent : TokenKind × TokenKind) {c : Char} (h : c ≠ '*') (rest : List Char) :
    Cut.ofText recent ('\x7b' :: c :: rest) = Cut.plain .openTag ['\x7b'] (c :: rest) .tag := by
  rw [Cut.ofText, if_pos rfl, Cut.ofTag.eq_def]
  split
  · rename_i heq
    cases heq
  · rename_i heq
    cases heq
    exact (h rfl).elim
  · rename_i heq
    cases heq
    rfl
  · rename_i heq
    cases heq
  · rename_i hbrace _ heq
    cases heq
    exact (hbrace rfl).elim

theorem atBrace_of_cut {scanner : Scanner} {text : List Char}
    (h : scanner.cut = Cut.plain .openTag ['\x7b'] text .tag) :
    scanner.token.kind = .openTag ∧ scanner.next.AtBrace text := by
  have hkind : scanner.token.kind = .openTag := by
    rw [token, h]
    rfl
  refine ⟨hkind, ?_, ?_, ?_⟩
  · rw [next, h]
    rfl
  · rw [next, h]
    rfl
  · rw [recent_next, hkind]

theorem AtText.openTag {scanner : Scanner} {c : Char} {text : List Char}
    (h : scanner.AtText ('\x7b' :: c :: text)) (hc : c ≠ '*') :
    scanner.token.kind = .openTag ∧ scanner.next.AtBrace (c :: text) := by
  apply atBrace_of_cut
  rw [cut, h.mode]
  simp only [h.rest]
  exact cut_openTag scanner.recent hc text

/-- The first token of a tag leads inside it, unless it is the word that opens a literal block. -/
theorem AtBrace.cuts {scanner : Scanner} {c : Char} {text : List Char} {made : Cut}
    (h : scanner.AtBrace (c :: text)) (hblank : Cut.isBlank c = false)
    (hmade : Cut.ofTag scanner.recent (c :: text) = made) (hinner : made.kind.isInner = true)
    (hliteral : made.kind ≠ .literalWord) : scanner.Cuts made.kind made.literal made.rest := by
  have hcut : scanner.cut = made := (cut_eq_ofTag h.mode h.rest hblank).trans hmade
  refine cuts_of_cut hcut (insideTag_next_of_brace ?_ ?_)
  · rw [token, hcut]
    exact hinner
  · rw [token, hcut]
    exact hliteral

theorem AtBrace.cuts_dollar {scanner : Scanner} {text : List Char}
    (h : scanner.AtBrace ('$' :: text)) : scanner.Cuts .dollar ['$'] text :=
  h.cuts rfl (Cut.ofTag_punctuation scanner.recent rfl text) rfl nofun

theorem AtBrace.cut_word {scanner : Scanner} {word text : List Char}
    (h : scanner.AtBrace (word ++ text)) (hword : IsWord word) (hstop : Cut.Stops text) :
    scanner.cut = Cut.plain (TokenKind.ofWord (String.ofList word)) word text .tag := by
  have hmade := Cut.ofTag_word scanner.recent hword hstop
  obtain ⟨c, cs, rfl, hstart, -⟩ := hword
  rw [← hmade]
  exact cut_eq_ofTag h.mode h.rest (Cut.not_isBlank_of_isPlain (Or.inl hstart))

theorem AtBrace.cuts_word {scanner : Scanner} {word text : List Char}
    (h : scanner.AtBrace (word ++ text)) (hword : IsWord word) (hstop : Cut.Stops text)
    (hliteral : TokenKind.ofWord (String.ofList word) ≠ .literalWord) :
    scanner.Cuts (TokenKind.ofWord (String.ofList word)) word text := by
  have hmade := Cut.ofTag_word scanner.recent hword hstop
  obtain ⟨c, cs, rfl, hstart, -⟩ := hword
  exact h.cuts (Cut.not_isBlank_of_isPlain (Or.inl hstart)) hmade (TokenKind.isInner_ofWord _)
    hliteral

/-! ## Out of a tag -/

theorem cut_closeTag (recent : TokenKind × TokenKind) (rest : List Char) :
    Cut.ofTag recent ('\x7d' :: rest) =
      Cut.plain .closeTag ['\x7d'] rest (Cut.modeAfterTag recent) :=
  rfl

theorem InTag.closeTag {scanner : Scanner} {text : List Char} (h : scanner.InTag ('\x7d' :: text)) :
    scanner.token.kind = .closeTag ∧ scanner.next.AtText text := by
  have hcut : scanner.cut = Cut.plain .closeTag ['\x7d'] text .text := by
    rw [cut_eq_ofTag h.mode h.rest rfl, cut_closeTag, Cut.modeAfterTag, if_neg h.notLiteral]
  refine ⟨?_, ?_, ?_⟩
  · rw [token, hcut]
    rfl
  · rw [next, hcut]
    rfl
  · rw [next, hcut]
    rfl

/-! ## Literal blocks -/

/-- Inside a literal block, in front of a text. -/
structure AtRaw (scanner : Scanner) (text : List Char) : Prop where
  mode : scanner.mode = .raw
  rest : scanner.rest = text

/-- The tag that opens a literal block leads inside the block. -/
theorem AtBrace.literal {scanner : Scanner} {text : List Char}
    (h : scanner.AtBrace ("literal".toList ++ '\x7d' :: text)) :
    scanner.token.kind = .literalWord ∧ scanner.next.token.kind = .closeTag ∧
      scanner.next.next.AtRaw text := by
  have hword : IsWord "literal".toList := by decide
  have hcut := h.cut_word hword (Cut.stops_cons '\x7d' (by decide) text)
  have hkind : scanner.token.kind = .literalWord := by
    have hliteral : TokenKind.ofWord (String.ofList "literal".toList) = .literalWord := by decide
    rw [token, hcut]
    exact hliteral
  have hbehind : scanner.next.recent = (.openTag, .literalWord) := by
    rw [recent_next, h.brace, hkind]
  have hnext : scanner.next.cut = Cut.plain .closeTag ['\x7d'] text .raw := by
    have hmode : scanner.next.mode = .tag := by
      rw [next, hcut]
      rfl
    have hrest : scanner.next.rest = '\x7d' :: text := by
      rw [next, hcut]
      rfl
    rw [cut, hmode]
    simp only [hrest, hbehind]
    rfl
  refine ⟨hkind, ?_, ?_, ?_⟩
  · rw [token, hnext]
    rfl
  · rw [next, hnext]
    rfl
  · rw [next, hnext]
    rfl

theorem literalEnd_append (rest : List Char) :
    Cut.literalEnd ++ rest = '\x7b' :: ("/literal".toList ++ '\x7d' :: rest) := by
  have hmark : Cut.literalEnd = '\x7b' :: ("/literal".toList ++ ['\x7d']) := by decide
  rw [hmark, List.cons_append, List.append_assoc]
  rfl

theorem splitAt_literalEnd {text : List Char} (h : ¬ Cut.literalEnd <:+: text)
    (rest : List Char) :
    Cut.splitAt Cut.literalEnd (text ++ (Cut.literalEnd ++ rest)) =
      (text, Cut.literalEnd ++ rest) := by
  rw [Cut.literalEnd_eq] at h ⊢
  exact Cut.splitAt_of_not_infix (by decide) h rest

/-- The inside of a literal block is one token of text, up to the end mark. -/
theorem AtRaw.text {scanner : Scanner} {text rest : List Char}
    (h : scanner.AtRaw (text ++ (Cut.literalEnd ++ rest))) (hne : text ≠ [])
    (htext : ¬ Cut.literalEnd <:+: text) :
    scanner.token.kind = .text ∧ scanner.token.literal = String.ofList text ∧
      scanner.next.AtText (Cut.literalEnd ++ rest) := by
  have hcut : scanner.cut = Cut.plain .text text (Cut.literalEnd ++ rest) .text := by
    rw [cut, h.mode]
    simp only [h.rest, Cut.ofRaw, splitAt_literalEnd htext]
    rw [if_neg]
    simpa using hne
  refine ⟨?_, ?_, ?_, ?_⟩
  · rw [token, hcut]
    rfl
  · rw [token, hcut]
    rfl
  · rw [next, hcut]
    rfl
  · rw [next, hcut]
    rfl

/-- An empty literal block has no text: its end mark follows at once. -/
theorem AtRaw.openTag {scanner : Scanner} {rest : List Char}
    (h : scanner.AtRaw (Cut.literalEnd ++ rest)) :
    scanner.token.kind = .openTag ∧
      scanner.next.AtBrace ("/literal".toList ++ '\x7d' :: rest) := by
  have hnothing : ¬ Cut.literalEnd <:+: [] := by decide
  have hsplit := splitAt_literalEnd hnothing rest
  rw [List.nil_append] at hsplit
  have hslash : "/literal".toList = '/' :: "literal".toList := by decide
  apply atBrace_of_cut
  rw [cut, h.mode]
  simp only [h.rest, Cut.ofRaw, hsplit]
  rw [List.isEmpty_nil, if_pos rfl, literalEnd_append, hslash]
  exact cut_openTag scanner.recent (by decide) _

end Scanner

end Stencil
