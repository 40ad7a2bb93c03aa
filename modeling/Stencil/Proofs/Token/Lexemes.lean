import Stencil.Proofs.Number.Digits
import Stencil.Proofs.Token.Modes

/-!
# How tokens are spelled

What is cut off the front of a text that begins with the spelling of a token.  A word and a
number end in front of any character that is no part of a word, a string behind its quote, and
punctuation where it ends.  Behind each token of a tag the scanner is inside the tag again, in
front of what follows the spelling.
-/

namespace Stencil

namespace Text

theorem containsCode_of_lt {first last code : Nat} {rest : Ranges} (h : code < first) :
    Ranges.containsCode ((first, last) :: rest) code = false := by
  rw [Ranges.containsCode, if_pos h]

theorem isAlphabetic_of_isDigit {c : Char} (h : c.isDigit = true) : isAlphabetic c = false := by
  have hdigit : '0'.toNat ≤ c.toNat ∧ c.toNat ≤ '9'.toNat := by
    simpa [Char.isDigit, UInt32.le_iff_toNat_le] using h
  have hlt : c.toNat < 0x41 := Nat.lt_of_le_of_lt hdigit.2 (by decide)
  rw [isAlphabetic, alphabeticRanges]
  exact containsCode_of_lt hlt

theorem isNumeric_of_isDigit {c : Char} (h : c.isDigit = true) : isNumeric c = true := by
  have hdigit : '0'.toNat ≤ c.toNat ∧ c.toNat ≤ '9'.toNat := by
    simpa [Char.isDigit, UInt32.le_iff_toNat_le] using h
  have hlow : ¬ c.toNat < 0x30 := Nat.not_lt.mpr hdigit.1
  have hhigh : c.toNat ≤ 0x39 := hdigit.2
  rw [isNumeric, numericRanges, Ranges.containsCode, if_neg hlow, if_pos hhigh]

end Text

/-- A text that is one word: a letter or a slash, then letters, numerals and underscores. -/
def IsWord (word : List Char) : Prop :=
  ∃ c rest, word = c :: rest ∧ Cut.isWordStart c = true ∧ ∀ d ∈ rest, Cut.isWordPart d = true

theorem isWord_cons {c : Char} {rest : List Char} :
    IsWord (c :: rest) ↔ Cut.isWordStart c = true ∧ rest.all Cut.isWordPart = true := by
  rw [List.all_eq_true]
  constructor
  · rintro ⟨_, _, ⟨⟩, hword⟩
    exact hword
  · intro hword
    exact ⟨c, rest, rfl, hword⟩

instance decidableIsWord : (word : List Char) → Decidable (IsWord word)
  | [] => isFalse nofun
  | _ :: _ => decidable_of_iff _ isWord_cons.symm

namespace Cut

/-- A text that goes on with no word and no number in front of it. -/
def Stops (text : List Char) : Prop :=
  ∀ c ∈ text.head?, isWordPart c = false

theorem stops_cons (c : Char) (h : isWordPart c = false) (text : List Char) :
    Stops (c :: text) := by
  rintro _ ⟨⟩
  exact h

theorem takeWhile_append {p : Char → Bool} {text rest : List Char}
    (htext : ∀ c ∈ text, p c = true) (hrest : ∀ c ∈ rest.head?, p c = false) :
    (text ++ rest).takeWhile p = text := by
  have hnone : rest.takeWhile p = [] := by
    cases rest with
    | nil => rfl
    | cons c rest => simp [hrest c rfl]
  rw [List.takeWhile_append_of_pos htext, hnone, List.append_nil]

theorem dropWhile_append {p : Char → Bool} {text rest : List Char}
    (htext : ∀ c ∈ text, p c = true) (hrest : ∀ c ∈ rest.head?, p c = false) :
    (text ++ rest).dropWhile p = rest := by
  have hrest : rest.dropWhile p = rest := by
    cases rest with
    | nil => rfl
    | cons c rest => simp [hrest c rfl]
  rw [List.dropWhile_append_of_pos htext, hrest]

/-! ## Marks -/

/-- A mark that does not begin with an end of itself begins nowhere in a text that it is not in,
even if the mark follows the text. -/
theorem not_prefix_of_not_infix {first : Char} {mark text : List Char} (hborder : first ∉ mark)
    (hne : text ≠ []) (h : ¬ first :: mark <:+: text) (rest : List Char) :
    ¬ first :: mark <+: text ++ (first :: mark ++ rest) := by
  intro hprefix
  rcases List.prefix_or_prefix_of_prefix hprefix (List.prefix_append _ _) with hin | ⟨back, hback⟩
  · exact h hin.isInfix
  · rw [← hback, List.prefix_append_right_inj] at hprefix
    cases back with
    | nil =>
        rw [List.append_nil] at hback
        exact h (hback ▸ List.infix_refl text)
    | cons b back =>
        obtain ⟨c, tail, rfl⟩ := List.exists_cons_of_ne_nil hne
        obtain ⟨hfirst, hmark⟩ := List.cons.inj hback
        obtain ⟨further, hfurther⟩ := hprefix
        have hb : b = first := (List.cons.inj hfurther).1.trans hfirst
        exact hborder (by rw [← hmark, hb]; simp)

/-- A text is split in front of a mark that is not in it. -/
theorem splitAt_of_not_infix {first : Char} {mark text : List Char} (hborder : first ∉ mark)
    (h : ¬ first :: mark <:+: text) (rest : List Char) :
    splitAt (first :: mark) (text ++ (first :: mark ++ rest)) = (text, first :: mark ++ rest) := by
  induction text with
  | nil =>
      have hpos : (first :: mark).isPrefixOf (first :: mark ++ rest) = true :=
        List.isPrefixOf_iff_prefix.mpr (List.prefix_append _ _)
      exact if_pos hpos
  | cons c text ih =>
      have hnot := not_prefix_of_not_infix hborder (List.cons_ne_nil c text) h rest
      have htail : ¬ first :: mark <:+: text :=
        fun hin => h (hin.trans (List.suffix_cons c text).isInfix)
      rw [List.cons_append, splitAt, if_neg (by rwa [List.isPrefixOf_iff_prefix]), ih htail]

/-! ## Tokens inside a tag -/

theorem not_isWordStart_of_punctuation? {c : Char} {kind : TokenKind}
    (h : punctuation? c = some kind) : isWordStart c = false ∧ c.isDigit = false := by
  rw [punctuation?.eq_def] at h
  split at h <;> cases h <;> decide

theorem not_isWordStart_of_comparison? {c : Char} {kinds : TokenKind × TokenKind}
    (h : comparison? c = some kinds) : isWordStart c = false ∧ c.isDigit = false := by
  rw [comparison?.eq_def] at h
  split at h <;> cases h <;> decide

theorem isWordPart_of_isDigit {c : Char} (h : c.isDigit = true) : isWordPart c = true := by
  simp [isWordPart, Text.isNumeric_of_isDigit h]

/-- Inside a tag, everything but braces is cut in one way. -/
theorem ofTag_of_ne_brace (recent : TokenKind × TokenKind) {c : Char} (hopen : c ≠ '\x7b')
    (hclose : c ≠ '\x7d') (rest : List Char) : ofTag recent (c :: rest) = insideTag c rest := by
  rw [ofTag.eq_def]
  split
  · rename_i h
    cases h
  · rename_i h
    cases h
    exact (hopen rfl).elim
  · rename_i h
    cases h
    exact (hopen rfl).elim
  · rename_i h
    cases h
    exact (hclose rfl).elim
  · rename_i h
    cases h
    rfl

/-- The characters that begin a word or a number. -/
def IsPlain (c : Char) : Prop :=
  isWordStart c = true ∨ c.isDigit = true

theorem not_isWordStart_of_isDigit {c : Char} (h : c.isDigit = true) : isWordStart c = false := by
  have hslash : c ≠ '/' := by
    rintro rfl
    cases h
  simp [isWordStart, Text.isAlphabetic_of_isDigit h, hslash]

theorem not_isPlain {c : Char} (h : isWordStart c = false ∧ c.isDigit = false) : ¬ IsPlain c := by
  rintro (hstart | hdigit)
  · exact ne_true_of_eq_false h.1 hstart
  · exact ne_true_of_eq_false h.2 hdigit

theorem IsPlain.ne {c d : Char} (h : IsPlain c)
    (hd : isWordStart d = false ∧ d.isDigit = false) : c ≠ d := by
  rintro rfl
  exact not_isPlain hd h

theorem not_isBlank_of_isPlain {c : Char} (h : IsPlain c) : isBlank c = false := by
  have hspace : c ≠ ' ' := h.ne (by decide)
  have htab : c ≠ '\t' := h.ne (by decide)
  have hreturn : c ≠ '\r' := h.ne (by decide)
  have hline : c ≠ '\n' := h.ne (by decide)
  simp [isBlank, hspace, htab, hreturn, hline]

/-- Only words and numbers are cut off by what their first character is a part of. -/
theorem ofTag_of_isPlain (recent : TokenKind × TokenKind) {c : Char} (h : IsPlain c)
    (rest : List Char) :
    ofTag recent (c :: rest) = if isWordStart c then word c rest else number c rest := by
  have hpunctuation : punctuation? c = none := by
    cases hkind : punctuation? c with
    | none => rfl
    | some kind => exact (not_isPlain (not_isWordStart_of_punctuation? hkind) h).elim
  have hcomparison : comparison? c = none := by
    cases hkinds : comparison? c with
    | none => rfl
    | some kinds => exact (not_isPlain (not_isWordStart_of_comparison? hkinds) h).elim
  have hquote : ¬ (c = '\x22' ∨ c = '\x27') := by
    rintro (hdouble | hsingle)
    · exact h.ne (by decide) hdouble
    · exact h.ne (by decide) hsingle
  rw [ofTag_of_ne_brace recent (h.ne (by decide)) (h.ne (by decide)), insideTag, hpunctuation,
    hcomparison]
  simp only [if_neg hquote]
  by_cases hstart : isWordStart c = true
  · rw [if_pos hstart, if_pos hstart]
  · rw [if_neg hstart, if_neg hstart, if_pos (h.resolve_left hstart)]

theorem ofTag_word (recent : TokenKind × TokenKind) {word rest : List Char} (hword : IsWord word)
    (hstop : Stops rest) :
    ofTag recent (word ++ rest) =
      plain (TokenKind.ofWord (String.ofList word)) word rest .tag := by
  obtain ⟨c, cs, rfl, hstart, hparts⟩ := hword
  rw [List.cons_append, ofTag_of_isPlain recent (Or.inl hstart), if_pos hstart]
  simp only [Cut.word, takeWhile_append hparts hstop, dropWhile_append hparts hstop]

theorem ofTag_number (recent : TokenKind × TokenKind) {digits rest : List Char}
    (hdigits : Number.IsDigitRun digits) (hstop : Stops rest) :
    ofTag recent (digits ++ rest) = plain .number digits rest .tag := by
  obtain ⟨hne, hall⟩ := hdigits
  obtain ⟨c, cs, rfl⟩ := List.exists_cons_of_ne_nil hne
  have hc : c.isDigit = true := hall c List.mem_cons_self
  have hcs : ∀ d ∈ cs, d.isDigit = true := fun d hd => hall d (List.mem_cons_of_mem c hd)
  have hrest : ∀ d ∈ rest.head?, d.isDigit = false := by
    intro d hd
    cases hdigit : d.isDigit with
    | false => rfl
    | true =>
        have hpart := hstop d hd
        rw [isWordPart_of_isDigit hdigit] at hpart
        cases hpart
  have hstart : ¬ isWordStart c = true := ne_true_of_eq_false (not_isWordStart_of_isDigit hc)
  rw [List.cons_append, ofTag_of_isPlain recent (Or.inr hc), if_neg hstart]
  simp only [Cut.number, takeWhile_append hcs hrest, dropWhile_append hcs hrest]

/-- The characters that can stand around a string. -/
def IsQuote (c : Char) : Prop :=
  c = '\x22' ∨ c = '\x27'

theorem ofTag_string (recent : TokenKind × TokenKind) {quote : Char} (hquote : IsQuote quote)
    {text : List Char} (htext : quote ∉ text) (rest : List Char) :
    ofTag recent (quote :: (text ++ quote :: rest)) =
      ⟨.string, text, quote :: text ++ [quote], rest, .tag⟩ := by
  have hall : ∀ c ∈ text, decide (c ≠ quote) = true := by
    intro c hc
    have hne : c ≠ quote := by
      rintro rfl
      exact htext hc
    simpa using hne
  have hhead : ∀ c ∈ (quote :: rest).head?, decide (c ≠ quote) = false := by
    rintro _ ⟨⟩
    simp
  have hstring : string quote (text ++ quote :: rest) =
      ⟨.string, text, quote :: text ++ [quote], rest, .tag⟩ := by
    simp only [string, takeWhile_append hall hhead, dropWhile_append hall hhead]
    rfl
  have hinside : insideTag quote (text ++ quote :: rest) =
      string quote (text ++ quote :: rest) := by
    rcases hquote with rfl | rfl <;> rfl
  rw [← hstring, ← hinside]
  rcases hquote with rfl | rfl
  · exact ofTag_of_ne_brace recent (by decide) (by decide) _
  · exact ofTag_of_ne_brace recent (by decide) (by decide) _

theorem ofTag_punctuation (recent : TokenKind × TokenKind) {c : Char} {kind : TokenKind}
    (h : punctuation? c = some kind) (rest : List Char) :
    ofTag recent (c :: rest) = plain kind [c] rest .tag := by
  have hopen : c ≠ '\x7b' := by
    rintro rfl
    cases h
  have hclose : c ≠ '\x7d' := by
    rintro rfl
    cases h
  rw [ofTag_of_ne_brace recent hopen hclose, insideTag, h]

theorem ofTag_comparison (recent : TokenKind × TokenKind) {c : Char} {short long : TokenKind}
    (h : comparison? c = some (short, long)) (rest : List Char) :
    ofTag recent (c :: rest) = comparison c short long rest := by
  have hopen : c ≠ '\x7b' := by
    rintro rfl
    cases h
  have hclose : c ≠ '\x7d' := by
    rintro rfl
    cases h
  have hpunctuation : punctuation? c = none := by
    rw [comparison?.eq_def] at h
    split at h <;> cases h <;> rfl
  rw [ofTag_of_ne_brace recent hopen hclose, insideTag, hpunctuation, h]

end Cut

/-! ## Scanners in front of a text -/

namespace Scanner

/-- Between tags, in front of a text. -/
structure AtText (scanner : Scanner) (text : List Char) : Prop where
  mode : scanner.mode = .text
  rest : scanner.rest = text

/-- Behind the opening brace of a tag, in front of a text. -/
structure AtBrace (scanner : Scanner) (text : List Char) : Prop where
  mode : scanner.mode = .tag
  rest : scanner.rest.dropWhile Cut.isBlank = text.dropWhile Cut.isBlank
  brace : scanner.recent.2 = .openTag

/-- Inside a tag, in front of a text. -/
structure InTag (scanner : Scanner) (text : List Char) : Prop extends InsideTag scanner where
  rest : scanner.rest.dropWhile Cut.isBlank = text.dropWhile Cut.isBlank

/-- Blanks in front of a token do not count. -/
theorem InTag.skip {scanner : Scanner} {c : Char} {text : List Char}
    (h : scanner.InTag (c :: text)) (hblank : Cut.isBlank c = true) : scanner.InTag text where
  toInsideTag := h.toInsideTag
  rest := by rw [h.rest, List.dropWhile_cons_of_pos hblank]

/-- A token that is cut inside a tag: the tag goes on behind it. -/
structure Cuts (scanner : Scanner) (kind : TokenKind) (literal rest : List Char) : Prop where
  kind : scanner.token.kind = kind
  literal : scanner.token.literal = String.ofList literal
  next : scanner.next.InTag rest

theorem cuts_of_cut {scanner : Scanner} {made : Cut} (hcut : scanner.cut = made)
    (hnext : scanner.next.InsideTag) : scanner.Cuts made.kind made.literal made.rest where
  kind := by rw [token, hcut]
  literal := by rw [token, hcut]
  next := ⟨hnext, by rw [next, hcut]⟩

theorem cut_eq_ofTag {scanner : Scanner} {c : Char} {text : List Char}
    (hmode : scanner.mode = .tag)
    (hrest : scanner.rest.dropWhile Cut.isBlank = (c :: text).dropWhile Cut.isBlank)
    (hblank : Cut.isBlank c = false) : scanner.cut = Cut.ofTag scanner.recent (c :: text) := by
  rw [cut, hmode]
  simp only [hrest]
  rw [List.dropWhile_cons_of_neg (ne_true_of_eq_false hblank)]

theorem InTag.cuts {scanner : Scanner} {c : Char} {text : List Char} {made : Cut}
    (h : scanner.InTag (c :: text)) (hblank : Cut.isBlank c = false)
    (hmade : Cut.ofTag scanner.recent (c :: text) = made) (hinner : made.kind.isInner = true) :
    scanner.Cuts made.kind made.literal made.rest := by
  have hcut : scanner.cut = made := (cut_eq_ofTag h.mode h.rest hblank).trans hmade
  refine cuts_of_cut hcut (insideTag_next h.toInsideTag ?_)
  rw [token, hcut]
  exact hinner

theorem InTag.cuts_word {scanner : Scanner} {word rest : List Char}
    (h : scanner.InTag (word ++ rest)) (hword : IsWord word) (hstop : Cut.Stops rest) :
    scanner.Cuts (TokenKind.ofWord (String.ofList word)) word rest := by
  have hmade := Cut.ofTag_word scanner.recent hword hstop
  obtain ⟨c, cs, rfl, hstart, -⟩ := hword
  exact h.cuts (Cut.not_isBlank_of_isPlain (Or.inl hstart)) hmade (TokenKind.isInner_ofWord _)

theorem InTag.cuts_number {scanner : Scanner} {digits rest : List Char}
    (h : scanner.InTag (digits ++ rest)) (hdigits : Number.IsDigitRun digits)
    (hstop : Cut.Stops rest) :
    scanner.Cuts .number digits rest := by
  have hmade := Cut.ofTag_number scanner.recent hdigits hstop
  obtain ⟨hne, hall⟩ := hdigits
  obtain ⟨c, cs, rfl⟩ := List.exists_cons_of_ne_nil hne
  exact h.cuts (Cut.not_isBlank_of_isPlain (Or.inr (hall c List.mem_cons_self))) hmade rfl

theorem InTag.cuts_string {scanner : Scanner} {quote : Char} {text rest : List Char}
    (h : scanner.InTag (quote :: (text ++ quote :: rest))) (hquote : Cut.IsQuote quote)
    (htext : quote ∉ text) : scanner.Cuts .string text rest := by
  have hblank : Cut.isBlank quote = false := by
    rcases hquote with rfl | rfl <;> rfl
  exact h.cuts hblank (Cut.ofTag_string scanner.recent hquote htext rest) rfl

theorem InTag.cuts_punctuation {scanner : Scanner} {c : Char} {rest : List Char}
    {kind : TokenKind} (h : scanner.InTag (c :: rest)) (hkind : Cut.punctuation? c = some kind) :
    scanner.Cuts kind [c] rest := by
  have hblank : Cut.isBlank c = false := by
    rw [Cut.punctuation?.eq_def] at hkind
    split at hkind <;> cases hkind <;> rfl
  exact h.cuts hblank (Cut.ofTag_punctuation scanner.recent hkind rest)
    (Cut.isInner_punctuation? hkind)

theorem InTag.cuts_comparison {scanner : Scanner} {c : Char} {rest : List Char}
    {short long : TokenKind} {made : Cut} (h : scanner.InTag (c :: rest))
    (hkinds : Cut.comparison? c = some (short, long))
    (hmade : Cut.comparison c short long rest = made) :
    scanner.Cuts made.kind made.literal made.rest := by
  have hblank : Cut.isBlank c = false := by
    rw [Cut.comparison?.eq_def] at hkinds
    split at hkinds <;> cases hkinds <;> rfl
  have hinner : made.kind.isInner = true := by
    obtain ⟨hshort, hlong⟩ := Cut.isInner_comparison? hkinds
    rw [← hmade, Cut.comparison.eq_def]
    split
    · exact hlong
    · exact hshort
  exact h.cuts hblank ((Cut.ofTag_comparison scanner.recent hkinds rest).trans hmade) hinner

end Scanner

end Stencil
