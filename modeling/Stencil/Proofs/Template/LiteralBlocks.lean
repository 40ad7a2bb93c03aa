import Stencil.Proofs.Template.Composition
import Stencil.Proofs.Template.RoundTrip

/-!
# Literal blocks

The scanner decides by the last two tokens whether a closing brace opens a literal block, and
the reader by where it is in the grammar.  As long as nothing is recorded they come to the same:
the reader expects that brace exactly if the last two tokens are an opening brace and the
keyword, wherever else the word may stand.  So raw mode is where the reader has just opened a
literal block, and what is cut there becomes the text of that block.

The texts of a tree, in the order in which they stand, are the texts that the scanner cuts
between tags and the insides of literal blocks.  The induction is on the derivation of the tree:
a tag leads from text to text without any text inside it, and a literal block gives one text,
which is empty if nothing is cut.
-/

namespace Stencil

/-! ## The texts of a tree -/

mutual

/-- The texts of a node, in the order in which they stand. -/
def Node.texts : Node → List String
  | .text content => [content]
  | .action _ => []
  | .conditional _ block otherwise => Node.textsOfAll block ++ otherwise.texts
  | .loop _ body none => Node.textsOfAll body
  | .loop _ body (some block) => Node.textsOfAll body ++ Node.textsOfAll block

/-- The texts of a block. -/
def Node.textsOfAll : List Node → List String
  | [] => []
  | node :: rest => node.texts ++ Node.textsOfAll rest

/-- The texts of what a condition goes on to. -/
def Alternative.texts : Alternative → List String
  | .nothing => []
  | .block nodes => Node.textsOfAll nodes
  | .elseIf _ block otherwise => Node.textsOfAll block ++ otherwise.texts

end

theorem Node.textsOfAll_append (nodes further : List Node) :
    textsOfAll (nodes ++ further) = textsOfAll nodes ++ textsOfAll further := by
  induction nodes with
  | nil => rfl
  | cons node nodes ih => rw [List.cons_append, textsOfAll, textsOfAll, ih, List.append_assoc]

/-- The texts of a phrase. -/
def Phrase.texts : Phrase → List String
  | .node tree => tree.texts
  | .block nodes => Node.textsOfAll nodes
  | .ending otherwise => otherwise.texts

/-! ## The texts of a source -/

namespace Scanner

/-- What raw mode takes: all up to the end mark of the block. -/
def rawBody (scanner : Scanner) : String :=
  String.ofList (Cut.splitAt Cut.literalEnd scanner.rest).1

/-- The texts of a source: the insides of its literal blocks, empty ones included, and its other
tokens of text. -/
def texts (scanner : Scanner) : List String :=
  if scanner.token.kind = .endOfInput then []
  else if scanner.mode = .raw then scanner.rawBody :: scanner.next.texts
  else if scanner.token.kind = .text then scanner.token.literal :: scanner.next.texts
  else scanner.next.texts
termination_by scanner.rest.length
decreasing_by
  · exact length_rest_next scanner (by assumption)
  · exact length_rest_next scanner (by assumption)
  · exact length_rest_next scanner (by assumption)

variable {scanner : Scanner}

theorem texts_of_raw (hmode : scanner.mode = .raw) (hend : scanner.token.kind ≠ .endOfInput) :
    scanner.texts = scanner.rawBody :: scanner.next.texts := by
  rw [texts, if_neg hend, if_pos hmode]

theorem texts_of_text (hmode : scanner.mode ≠ .raw) (hkind : scanner.token.kind = .text) :
    scanner.texts = scanner.token.literal :: scanner.next.texts := by
  have hend : scanner.token.kind ≠ .endOfInput := by
    rw [hkind]
    exact nofun
  rw [texts, if_neg hend, if_neg hmode, if_pos hkind]

theorem texts_of_other (hmode : scanner.mode ≠ .raw) (hend : scanner.token.kind ≠ .endOfInput)
    (hkind : scanner.token.kind ≠ .text) : scanner.texts = scanner.next.texts := by
  rw [texts, if_neg hend, if_neg hmode, if_neg hkind]

/-! ## Raw mode -/

/-- In raw mode everything up to the end mark is one token of text, unless there is nothing. -/
theorem raw_cases (hmode : scanner.mode = .raw) :
    scanner.token.kind = .text ∧ scanner.token.literal = scanner.rawBody ∧
        scanner.next.rest = (Cut.splitAt Cut.literalEnd scanner.rest).2 ∨
      scanner.token.kind ≠ .text ∧ scanner.rawBody = "" := by
  by_cases hempty : (Cut.splitAt Cut.literalEnd scanner.rest).1 = []
  · -- The end mark comes at once, or the source is over: in text mode neither is cut as text.
    have hbrace : Cut.AtBrace scanner.rest := by
      have hsplit := Cut.splitAt_append Cut.literalEnd scanner.rest
      rw [hempty, List.nil_append] at hsplit
      rw [← hsplit]
      exact Cut.atBrace_splitAt_literalEnd scanner.rest
    have hcut : scanner.cut = Cut.ofText scanner.recent scanner.rest := by
      rw [cut, hmode]
      simp only [Cut.ofRaw]
      exact if_pos (by rw [hempty]; rfl)
    refine Or.inr ⟨?_, ?_⟩
    · rw [token, hcut]
      exact Cut.kind_ofText_ne_text_of_atBrace _ hbrace
    · rw [rawBody, hempty]
  · have hcut : scanner.cut = Cut.plain .text (Cut.splitAt Cut.literalEnd scanner.rest).1
        (Cut.splitAt Cut.literalEnd scanner.rest).2 .text := by
      rw [cut, hmode]
      simp only [Cut.ofRaw]
      exact if_neg (by simpa using hempty)
    refine Or.inl ⟨?_, ?_, ?_⟩
    · rw [token, hcut]
      rfl
    · rw [token, hcut]
      rfl
    · rw [next, hcut]
      rfl

/-- Only in raw mode can a text hold an opening brace. -/
theorem mode_of_brace_mem (hkind : scanner.token.kind = .text)
    (hbrace : '\x7b' ∈ scanner.token.literal.toList) : scanner.mode = .raw := by
  obtain ⟨rest, position, mode, recent⟩ := scanner
  cases mode with
  | raw => rfl
  | tag => exact absurd hkind (Cut.kind_ofTag_ne_text recent _)
  | text =>
      change '\x7b' ∈ (String.ofList (Cut.ofText recent rest).literal).toList at hbrace
      change (Cut.ofText recent rest).kind = .text at hkind
      rw [String.toList_ofList] at hbrace
      rw [Cut.ofText.eq_def] at hbrace hkind
      split at hkind
      · cases hkind
      · split at hkind
        · exact absurd hkind (Cut.kind_ofTag_ne_text recent _)
        · rename_i c text hc
          have hmem : '\x7b' ∈ c :: text.takeWhile (· ≠ '\x7b') := by
            dsimp only at hbrace
            rw [if_neg hc] at hbrace
            exact hbrace
          rcases List.mem_cons.mp hmem with heq | hmem
          · exact absurd heq.symm hc
          · have hne : decide ('\x7b' ≠ '\x7b') = true :=
              List.mem_takeWhile_imp (p := fun c => decide (c ≠ '\x7b')) hmem
            exact absurd rfl (of_decide_eq_true hne)

/-! ## Tags have no texts -/

theorem texts_of_yields_inner {last : Scanner} {ts : List Token} (h : Yields scanner ts last)
    (hts : AllInner ts) (hscanner : scanner.InsideTag) :
    last.InsideTag ∧ scanner.texts = last.texts := by
  induction h with
  | nil => exact ⟨hscanner, rfl⟩
  | @cons scanner last ts hend hnext ih =>
      have hinner := hts scanner.token List.mem_cons_self
      have hrest : AllInner ts := fun token htoken => hts token (List.mem_cons_of_mem _ htoken)
      have hmode : scanner.mode ≠ .raw := by
        rw [hscanner.mode]
        exact nofun
      obtain ⟨hlast, htexts⟩ := ih hrest (insideTag_next hscanner hinner)
      refine ⟨hlast, ?_⟩
      rw [texts_of_other hmode hend (TokenKind.ne_of_isInner hinner rfl), htexts]

/-- Behind its brace a tag has no texts, and it leads to text unless it opens a literal block. -/
theorem texts_next_of_tag {last : Scanner} {keyword : TokenKind} {content ts : List Token}
    (h : Yields scanner ts last) (htag : IsTag keyword content ts)
    (hkeyword : keyword.isInner = true) (hliteral : keyword ≠ .literalWord)
    (hcontent : AllInner content) :
    scanner.token.kind = .openTag ∧ last.mode = .text ∧ scanner.next.texts = last.texts := by
  obtain @⟨left, word, right, hleft, hword, hright⟩ := htag
  obtain ⟨middle, hfront, hback⟩ := h.of_append
  obtain ⟨rfl, hend, hfront⟩ := hfront.of_cons
  obtain ⟨rfl, hendWord, hinside⟩ := hfront.of_cons
  obtain ⟨rfl, hendClose, hlast⟩ := hback.of_cons
  cases hlast
  have hbrace : scanner.next.mode = .tag := by
    rw [mode_next hend, hleft]
    rfl
  have hinner : scanner.next.token.kind.isInner = true := TokenKind.isInner_of_eq hword hkeyword
  have hnotLiteral : scanner.next.token.kind ≠ .literalWord := by
    rw [hword]
    exact hliteral
  obtain ⟨hmiddle, htexts⟩ :=
    texts_of_yields_inner hinside hcontent (insideTag_next_of_brace hinner hnotLiteral)
  refine ⟨hleft, mode_next_of_closeTag hmiddle hright, ?_⟩
  rw [texts_of_other (by rw [hbrace]; exact nofun) hendWord (TokenKind.ne_of_isInner hinner rfl),
    htexts,
    texts_of_other (by rw [hmiddle.mode]; exact nofun) hendClose (by rw [hright]; exact nofun)]

/-- In front of a brace between tags, the texts are those behind the brace. -/
theorem texts_of_openTag (hmode : scanner.mode = .text) (hkind : scanner.token.kind = .openTag) :
    scanner.texts = scanner.next.texts := by
  apply texts_of_other
  · rw [hmode]
    exact nofun
  · rw [hkind]
    exact nofun
  · rw [hkind]
    exact nofun

/-- Tokens that lead from one place between tags to another, through the given texts. -/
def LeadThrough (written : List String) (ts : List Token) : Prop :=
  ∀ ⦃scanner last : Scanner⦄, Yields scanner ts last → scanner.mode = .text →
    last.mode = .text ∧ scanner.texts = written ++ last.texts

theorem leadThrough_nil : LeadThrough [] [] := by
  intro scanner last hyields hmode
  cases hyields
  exact ⟨hmode, rfl⟩

theorem LeadThrough.append {written further : List String} {ts us : List Token}
    (hfirst : LeadThrough written ts) (hsecond : LeadThrough further us) :
    LeadThrough (written ++ further) (ts ++ us) := by
  intro scanner last hyields hmode
  obtain ⟨middle, hts, hus⟩ := hyields.of_append
  obtain ⟨hmiddle, hwritten⟩ := hfirst hts hmode
  obtain ⟨hlast, hfurther⟩ := hsecond hus hmiddle
  refine ⟨hlast, ?_⟩
  rw [hwritten, hfurther, List.append_assoc]

theorem leadThrough_text {token : Token} (h : token.kind = .text) :
    LeadThrough [token.literal] [token] := by
  intro scanner last hyields hmode
  obtain ⟨rfl, hend, hnext⟩ := hyields.of_cons
  cases hnext
  refine ⟨?_, texts_of_text (by rw [hmode]; exact nofun) h⟩
  rw [mode_next hend, h]
  rfl

theorem leadThrough_comment {token : Token} (h : token.kind = .comment) :
    LeadThrough [] [token] := by
  intro scanner last hyields hmode
  obtain ⟨rfl, hend, hnext⟩ := hyields.of_cons
  cases hnext
  refine ⟨?_, texts_of_other (by rw [hmode]; exact nofun) hend (by rw [h]; exact nofun)⟩
  rw [mode_next hend, h]
  rfl

/-- A tag other than the one that opens a literal block leads from text to text, without any
text inside. -/
theorem leadThrough_tag {keyword : TokenKind} {content ts : List Token}
    (htag : IsTag keyword content ts) (hkeyword : keyword.isInner = true)
    (hliteral : keyword ≠ .literalWord) (hcontent : AllInner content) : LeadThrough [] ts := by
  intro scanner last hyields hmode
  obtain ⟨hbrace, hlast, htexts⟩ := texts_next_of_tag hyields htag hkeyword hliteral hcontent
  exact ⟨hlast, (texts_of_openTag hmode hbrace).trans htexts⟩

/-! ## A literal block has one text -/

/-- The tag that opens a literal block leads to raw mode. -/
theorem raw_of_literalTag {last : Scanner} {ts : List Token} (h : Yields scanner ts last)
    (hmode : scanner.mode = .text) (htag : IsTag .literalWord [] ts) :
    last.mode = .raw ∧ scanner.texts = last.texts := by
  obtain @⟨left, word, right, hleft, hword, hright⟩ := htag
  obtain ⟨rfl, hend, hfront⟩ := h.of_cons
  obtain ⟨rfl, hendWord, hback⟩ := hfront.of_cons
  obtain ⟨rfl, hendClose, hlast⟩ := hback.of_cons
  cases hlast
  have hbrace : scanner.next.mode = .tag := by
    rw [mode_next hend, hleft]
    rfl
  have hinside : scanner.next.next.mode = .tag := by
    rw [mode_next hendWord, hword]
    rfl
  have hrecent : scanner.next.next.recent = (.openTag, .literalWord) := by
    rw [recent_next, recent_next, hleft, hword]
  constructor
  · rw [mode_next hendClose, hright, hrecent]
    rfl
  · rw [texts_of_openTag hmode hleft,
      texts_of_other (by rw [hbrace]; exact nofun) hendWord (by rw [hword]; exact nofun),
      texts_of_other (by rw [hinside]; exact nofun) hendClose (by rw [hright]; exact nofun)]

/-- Behind the tag that opens it, a literal block has its body for a text, and nothing else. -/
theorem texts_of_endsLiteral {last : Scanner} {body : String} {ts : List Token}
    (h : Yields scanner ts last) (hmode : scanner.mode = .raw) (hends : EndsLiteral body ts) :
    last.mode = .text ∧ scanner.texts = body :: last.texts := by
  obtain ⟨us, vs, rfl, hbody, htag⟩ := hends
  obtain ⟨middle, hus, hvs⟩ := h.of_append
  obtain ⟨hbrace, hlast, htexts⟩ := texts_next_of_tag hvs htag rfl nofun allInner_nil
  refine ⟨hlast, ?_⟩
  cases hbody with
  | empty =>
      cases hus
      have hnone : scanner.rawBody = "" := by
        rcases raw_cases hmode with ⟨hkind, -⟩ | ⟨-, hnone⟩
        · rw [hbrace] at hkind
          cases hkind
        · exact hnone
      rw [texts_of_raw hmode (by rw [hbrace]; exact nofun), hnone, htexts]
  | text hkind =>
      obtain ⟨rfl, hend, hnext⟩ := hus.of_cons
      cases hnext
      have hliteral : scanner.token.literal = scanner.rawBody := by
        rcases raw_cases hmode with ⟨-, hliteral, -⟩ | ⟨hother, -⟩
        · exact hliteral
        · exact absurd hkind hother
      have htext : scanner.next.mode = .text := by
        rw [mode_next hend, hkind]
        rfl
      rw [texts_of_raw hmode hend, hliteral, texts_of_openTag htext hbrace, htexts]

/-- A literal block leads through one text, its body. -/
theorem leadThrough_literal {body : String} {ts us : List Token}
    (hopening : IsTag .literalWord [] ts)
    (hends : EndsLiteral body us) : LeadThrough [body] (ts ++ us) := by
  intro scanner last hyields hmode
  obtain ⟨inside, htag, hback⟩ := hyields.of_append
  obtain ⟨hraw, htexts⟩ := raw_of_literalTag htag hmode hopening
  rw [htexts]
  exact texts_of_endsLiteral hback hraw hends

/-! ## The texts of a derivation -/

/-- What is derived leads through the texts of its tree. -/
theorem leadThrough_of_derives {phrase : Phrase} {ts : List Token} (h : phrase.Commented ts) :
    LeadThrough phrase.texts ts := by
  induction h with
  | text htext => exact leadThrough_text htext
  | literal hopening hbody hend =>
      rw [List.append_assoc]
      exact leadThrough_literal hopening ⟨_, _, rfl, hbody, hend⟩
  | @action expr us left dollar right hleft hdollar hexpr hright =>
      have htag : IsTag .dollar us (left :: dollar :: us ++ [right]) := ⟨hleft, hdollar, hright⟩
      have hinner := Expr.allInner_of_derivesPipeline hexpr
      refine leadThrough_tag htag rfl (by decide) ?_
      intro token htoken
      exact hinner token (List.mem_cons_of_mem dollar htoken)
  | conditional htag hcondition hblock hotherwise ihBlock ihOtherwise =>
      have hopening := leadThrough_tag htag rfl (by decide) (Expr.allInner_of_derives hcondition)
      exact (hopening.append ihBlock).append ihOtherwise
  | loop htag hheader hbody hend ihBody =>
      have hopening :=
        leadThrough_tag htag rfl (by decide) (LoopAttributes.allInner_of_derives hheader)
      have hclosing := leadThrough_tag hend rfl (by decide) allInner_nil
      have hwhole := (hopening.append ihBody).append hclosing
      rw [List.append_nil] at hwhole
      exact hwhole
  | loopOrEmpty htag hheader hbody helse hifEmpty hend ihBody ihEmpty =>
      have hopening :=
        leadThrough_tag htag rfl (by decide) (LoopAttributes.allInner_of_derives hheader)
      have hbetween := leadThrough_tag helse rfl (by decide) allInner_nil
      have hclosing := leadThrough_tag hend rfl (by decide) allInner_nil
      have hwhole := (((hopening.append ihBody).append hbetween).append ihEmpty).append hclosing
      rw [List.append_nil, List.append_nil] at hwhole
      exact hwhole
  | nil => exact leadThrough_nil
  | add hnodes hnode ihNodes ihNode =>
      have hwhole := ihNodes.append ihNode
      rw [Phrase.texts, Phrase.texts] at hwhole
      rw [Phrase.texts, Node.textsOfAll_append, Node.textsOfAll, Node.textsOfAll, List.append_nil]
      exact hwhole
  | skip hnodes htoken ihNodes =>
      have hwhole := ihNodes.append (leadThrough_comment htoken)
      rw [List.append_nil] at hwhole
      exact hwhole
  | nothing hend => exact leadThrough_tag hend rfl (by decide) allInner_nil
  | block helse hnodes hend ihNodes =>
      have hopening := leadThrough_tag helse rfl (by decide) allInner_nil
      have hclosing := leadThrough_tag hend rfl (by decide) allInner_nil
      have hwhole := (hopening.append ihNodes).append hclosing
      rw [List.append_nil] at hwhole
      exact hwhole
  | elseIf htag hcondition hblock hotherwise ihBlock ihOtherwise =>
      have hopening := leadThrough_tag htag rfl (by decide) (Expr.allInner_of_derives hcondition)
      exact (hopening.append ihBlock).append ihOtherwise

end Scanner

/-- The texts of the tree that a source is read as are the texts that it is cut into. -/
theorem texts_of_readSource {source : String} {nodes : List Node}
    (h : readSource source = (nodes, [])) :
    Node.textsOfAll nodes = (Scanner.ofSource source).texts := by
  obtain ⟨hnodes, hdiagnostics⟩ := Prod.mk.inj h
  obtain ⟨ts, ending, htokens, -, hderives⟩ :=
    OpenTemplate.derives_of_settled (OpenTemplate.settled_start source) hdiagnostics
  rw [hnodes, List.nil_append] at hderives
  obtain ⟨us, last, hyields, hend⟩ := Scanner.exists_yields (.ofSource source)
  have hus : us = ts := by
    rw [hyields.tokens_eq, Scanner.tokens_eq_singleton hend] at htokens
    exact (List.append_inj' htokens rfl).1
  rw [hus] at hyields
  obtain ⟨-, htexts⟩ := Scanner.leadThrough_of_derives hderives hyields rfl
  have hnone : last.texts = [] := by
    rw [Scanner.texts, if_pos hend]
  rw [htexts, hnone, List.append_nil]
  rfl

/-! ## The reader in front of a literal block -/

/-- Only the closing brace behind the two tokens that open a literal block leads to raw mode. -/
theorem Scanner.closeTag_of_raw_next {scanner : Scanner} (hend : scanner.token.kind ≠ .endOfInput)
    (hraw : scanner.next.mode = .raw) :
    scanner.token.kind = .closeTag ∧ scanner.recent = (.openTag, .literalWord) := by
  rw [mode_next hend] at hraw
  cases hkind : scanner.token.kind with
  | closeTag =>
      rw [hkind, Cut.modeBehind, Cut.modeAfterTag] at hraw
      refine ⟨rfl, ?_⟩
      by_contra hrecent
      rw [if_neg hrecent] at hraw
      cases hraw
  | _ =>
      rw [hkind] at hraw
      cases hraw

namespace OpenTemplate

/-- In a source without diagnostics, reader and scanner agree at every place, and the next step
is clean. -/
theorem clean_of_yields {source : String} (h : (readSource source).2 = []) {us : List Token}
    {scanner : Scanner} (hyields : Scanner.Yields (.ofSource source) us scanner) :
    (start.read us).mode.Aligned scanner ∧
      CleanStep (start.read us) scanner.token ((start.read us).step scanner.token) := by
  obtain ⟨hread, -, -⟩ := closeAll_of_diagnostics_eq_nil h
  obtain ⟨further, hfurther⟩ : ∃ further, scanner.tokens = scanner.token :: further := by
    rw [Scanner.tokens]
    split
    · exact ⟨[], rfl⟩
    · exact ⟨scanner.next.tokens, rfl⟩
  rw [hyields.tokens_eq, hfurther, read_append, read_cons] at hread
  obtain ⟨hbefore, hstep⟩ := diagnostics_eq_nil_of_step (diagnostics_eq_nil_of_read hread)
  exact ⟨aligned_of_yields hyields (aligned_start source) hbefore, hstep⟩

/-- A reader that agrees with a scanner leaves it in raw mode with no other token than the brace
of the tag that opens a literal block. -/
theorem raw_next_iff {mode : ReadingMode} {scanner : Scanner} (haligned : mode.Aligned scanner)
    (hend : scanner.token.kind ≠ .endOfInput) :
    scanner.next.mode = .raw ↔
      scanner.token.kind = .closeTag ∧ ∃ tag, mode = .keyword (.literal tag) := by
  constructor
  · intro hraw
    obtain ⟨hkind, hrecent⟩ := Scanner.closeTag_of_raw_next hend hraw
    refine ⟨hkind, ?_⟩
    have htag : scanner.mode = .tag := by
      by_contra houtside
      have houter := Scanner.isOuter_token houtside
      rw [hkind] at houter
      cases houter
    -- In most modes the reader is inside a tag, which the two tokens that open a literal block
    -- do not lead to.
    have hinside : ¬ scanner.InsideTag := fun h => h.notLiteral hrecent
    cases mode with
    | text => cases htag.symm.trans haligned
    | literal tag body => exact (haligned htag).elim
    | brace | literalBrace =>
        rw [ReadingMode.Aligned, hrecent] at haligned
        cases haligned.2
    | skipping => exact haligned.elim
    | keyword effect =>
        cases effect with
        | literal tag => exact ⟨tag, rfl⟩
        | _ => exact (hinside haligned).elim
    | action | ifTag | elseIfTag | foreachTag => exact (hinside haligned).elim
  · rintro ⟨hkind, tag, rfl⟩
    rw [Scanner.mode_next hend, hkind, haligned.2]
    rfl

/-- In a source without diagnostics, raw mode is where the brace of a tag that opens a literal
block has just been read. -/
theorem raw_iff_literalTag {source : String} (h : (readSource source).2 = []) {us : List Token}
    {scanner : Scanner} (hyields : Scanner.Yields (.ofSource source) us scanner) :
    scanner.mode = .raw ↔
      ∃ front brace tag, us = front ++ [brace] ∧ brace.kind = .closeTag ∧
        (start.read front).mode = .keyword (.literal tag) := by
  constructor
  · intro hraw
    rcases hyields.last_cases with ⟨-, rfl⟩ | ⟨front, middle, rfl, hfront, hend, rfl⟩
    · cases hraw
    · obtain ⟨hkind, tag, hmode⟩ := (raw_next_iff (clean_of_yields h hfront).1 hend).mp hraw
      exact ⟨front, middle.token, tag, rfl, hkind, hmode⟩
  · rintro ⟨front, brace, tag, rfl, hkind, hmode⟩
    obtain ⟨middle, hfront, hbrace⟩ := hyields.of_append
    obtain ⟨rfl, hend, hnext⟩ := hbrace.of_cons
    cases hnext
    exact (raw_next_iff (clean_of_yields h hfront).1 hend).mpr ⟨hkind, tag, hmode⟩

/-! ## The reader inside a literal block -/

theorem read_endsLiteral {tag : Position} {body : String} {ts : List Token}
    (h : EndsLiteral body ts) {template : OpenTemplate} (hmode : template.mode = .literal tag "") :
    template.read ts = (template.push (.text body)).goOn .text := by
  obtain ⟨mode, nodes, frames, diagnostics⟩ := template
  obtain rfl : mode = .literal tag "" := hmode
  obtain ⟨us, vs, rfl, hbody, htag⟩ := h
  rw [read_append, read_literalBody hbody, read_endLiteralTag htag]
  rfl

/-- What raw mode takes is the inside of a literal block. -/
theorem yields_rawBody {scanner : Scanner} (hmode : scanner.mode = .raw) :
    ∃ us middle, Scanner.Yields scanner us middle ∧ IsLiteralBody scanner.rawBody us ∧
      middle.rest = (Cut.splitAt Cut.literalEnd scanner.rest).2 := by
  rcases Scanner.raw_cases hmode with ⟨hkind, hliteral, hrest⟩ | ⟨-, hbody⟩
  · refine ⟨[scanner.token], scanner.next, .single (by rw [hkind]; exact nofun), ?_, hrest⟩
    rw [← hliteral]
    exact .text hkind
  · refine ⟨[], scanner, .nil, ?_, ?_⟩
    · rw [hbody]
      exact .empty
    · have hnone : (Cut.splitAt Cut.literalEnd scanner.rest).1 = [] :=
        String.ofList_eq_empty_iff.mp hbody
      have hsplit := Cut.splitAt_append Cut.literalEnd scanner.rest
      rw [hnone, List.nil_append] at hsplit
      exact hsplit.symm

/-- In a source without diagnostics a literal block has an end, and what is in front of that end
becomes one text of the block around it. -/
theorem read_rawBody {source : String} (h : (readSource source).2 = []) {us : List Token}
    {scanner : Scanner} (hyields : Scanner.Yields (.ofSource source) us scanner)
    (hraw : scanner.mode = .raw) :
    ∃ ts last, Scanner.Yields scanner ts last ∧ EndsLiteral scanner.rawBody ts ∧
      scanner.rest = scanner.rawBody.toList ++ Cut.literalEnd ++ last.rest ∧
      start.read (us ++ ts) = ((start.read us).push (.text scanner.rawBody)).goOn .text := by
  obtain ⟨front, brace, tag, rfl, hkind, hmode⟩ := (raw_iff_literalTag h hyields).mp hraw
  have hopened : (start.read (front ++ [brace])).mode = .literal tag "" := by
    rw [read_append, read_cons]
    generalize start.read front = template at hmode ⊢
    obtain ⟨mode, nodes, frames, diagnostics⟩ := template
    obtain rfl : mode = .keyword (.literal tag) := hmode
    rw [step_keyword _ hkind]
    rfl
  obtain ⟨further, hfurther⟩ : Cut.literalEnd <+: (Cut.splitAt Cut.literalEnd scanner.rest).2 := by
    refine (Cut.prefix_splitAt Cut.literalEnd scanner.rest).resolve_left ?_
    intro hnil
    -- Without an end the source would be over inside the block, and the reader records that.
    obtain ⟨vs, middle, hbody, hliteral, hrest⟩ := yields_rawBody hraw
    have hend := Scanner.kind_of_rest_eq_nil (hrest.trans hnil)
    obtain ⟨haligned, hstep⟩ := clean_of_yields h (hyields.append hbody)
    obtain ⟨htext, -⟩ := goOn_of_cleanStep_end hstep haligned hend
    rw [read_append] at htext
    generalize start.read (front ++ [brace]) = template at hopened htext
    obtain ⟨mode, nodes, frames, diagnostics⟩ := template
    obtain rfl : mode = .literal tag "" := hopened
    rw [read_literalBody hliteral] at htext
    cases htext
  have hwhole : scanner.rawBody.toList ++ Cut.literalEnd ++ further = scanner.rest := by
    rw [Scanner.rawBody, String.toList_ofList, List.append_assoc, hfurther, Cut.splitAt_append]
  have hnotInside : ¬ Cut.literalEnd <:+: scanner.rawBody.toList := by
    rw [Scanner.rawBody, String.toList_ofList]
    exact Cut.not_infix_splitAt (by decide) scanner.rest
  obtain ⟨ts, last, hts, hends, hlast⟩ :=
    scans_endLiteral hnotInside further scanner ⟨hraw, hwhole.symm⟩
  refine ⟨ts, last, hts, hends, ?_, ?_⟩
  · rw [hlast.rest, hwhole]
  · rw [read_append]
    exact read_endsLiteral hends hopened

end OpenTemplate

/-- In a source without diagnostics, reader and scanner agree on what a literal block is.  The
scanner is in raw mode exactly behind the brace with which the reader opens such a block.  All
up to the end of the block becomes one text there, the texts of the tree are the texts that the
source is cut into, and no token of text has an opening brace but those that are cut in raw
mode. -/
theorem literalBlocks_of_readSource {source : String} {nodes : List Node}
    (h : readSource source = (nodes, [])) :
    (∀ us scanner, Scanner.Yields (.ofSource source) us scanner →
      (scanner.mode = .raw ↔
        ∃ front brace tag, us = front ++ [brace] ∧ brace.kind = .closeTag ∧
          (OpenTemplate.start.read front).mode = .keyword (.literal tag))) ∧
    (∀ us scanner, Scanner.Yields (.ofSource source) us scanner → scanner.mode = .raw →
      ∃ ts last, Scanner.Yields scanner ts last ∧ EndsLiteral scanner.rawBody ts ∧
        scanner.rest = scanner.rawBody.toList ++ Cut.literalEnd ++ last.rest ∧
        OpenTemplate.start.read (us ++ ts) =
          ((OpenTemplate.start.read us).push (.text scanner.rawBody)).goOn .text) ∧
    Node.textsOfAll nodes = (Scanner.ofSource source).texts ∧
    (∀ us scanner, Scanner.Yields (.ofSource source) us scanner → scanner.token.kind = .text →
      '\x7b' ∈ scanner.token.literal.toList →
        scanner.mode = .raw ∧ scanner.token.literal = scanner.rawBody) := by
  have hdiagnostics : (readSource source).2 = [] := by
    rw [h]
  refine ⟨?_, ?_, texts_of_readSource h, ?_⟩
  · intro us scanner hyields
    exact OpenTemplate.raw_iff_literalTag hdiagnostics hyields
  · intro us scanner hyields hraw
    exact OpenTemplate.read_rawBody hdiagnostics hyields hraw
  · intro us scanner hyields hkind hbrace
    have hraw := Scanner.mode_of_brace_mem hkind hbrace
    refine ⟨hraw, ?_⟩
    rcases Scanner.raw_cases hraw with ⟨-, hliteral, -⟩ | ⟨hother, -⟩
    · exact hliteral
    · exact absurd hkind hother

/-- The keyword as a variable, a property, a modifier, a loop variable and the name of a loop,
and a block with a tag in it. -/
theorem literalBlocks_of_readSource_names :
    let header : LoopHeader := ⟨.variable "literal", "literal", none, some "literal"⟩
    let nodes :=
      [Node.loop header [.action (.pipe (.field (.variable "literal") "literal") "literal")] none,
        .text "\x7b$x\x7d"]
    let source := "\x7bforeach from=$literal item=literal name=\x22literal\x22\x7d" ++
      "\x7b$literal.literal|literal\x7d\x7b/foreach\x7d" ++
      "\x7bliteral\x7d\x7b$x\x7d\x7b/literal\x7d"
    readSource source = (nodes, []) ∧
      (∀ us scanner, Scanner.Yields (.ofSource source) us scanner →
        (scanner.mode = .raw ↔
          ∃ front brace tag, us = front ++ [brace] ∧ brace.kind = .closeTag ∧
            (OpenTemplate.start.read front).mode = .keyword (.literal tag))) ∧
      (Scanner.ofSource source).texts = ["\x7b$x\x7d"] := by
  intro header nodes source
  have hliteral : IsName "literal" := by decide
  have hheader : header.Canonical := ⟨hliteral, hliteral, nofun, by rintro _ ⟨⟩; decide⟩
  have htext : (Node.text "\x7b$x\x7d").Canonical := by
    rw [Node.Canonical]
    decide
  have haction :
      (Node.action (.pipe (.field (.variable "literal") "literal") "literal")).Canonical :=
    ⟨⟨⟨hliteral, rfl, by decide⟩, by decide⟩, trivial⟩
  have hcanonical : Node.CanonicalAll nodes :=
    ⟨⟨hheader, haction, trivial⟩, htext, trivial⟩
  have hsource : source.toList = Node.printAll nodes := by
    decide +kernel
  have hscans := Node.scansAll hcanonical []
  rw [← hsource] at hscans
  obtain ⟨ts, ending, htokens, hending, hderives⟩ := Scanner.tokens_of_scans hscans
  have hread : readSource source = (nodes, []) :=
    readSource_of_derives (fun _ hpassed => hpassed.elim) htokens hending hderives
  obtain ⟨hraw, -, htexts, -⟩ := literalBlocks_of_readSource hread
  exact ⟨hread, hraw, htexts.symm⟩

end Stencil
