import Stencil.Proofs.Template.Accepted
import Stencil.Proofs.Template.Printing
import Stencil.Proofs.Token.Pieces

/-!
# The shape of accepted trees

What a source without diagnostics is read as can be written: its trees are canonical.  Operators
of one level group to the left, nothing with an operator has fields or items, modifiers stand at
the outermost level of an action only, and every name, number, string and text in a tree is one
that a token of its kind can carry.

Two facts meet here.  The scanner gives a token of each kind a literal of that kind, and the
grammar puts the literals in places where they are asked for.  That the reader keeps to the
grammar is taken from what is known of readings without diagnostics, so the induction here is on
a derivation.
-/

namespace Stencil

/-! ## Literals of tokens -/

/-- What a token of a kind can carry: a word is a name, a number a run of digits, a string lacks
one of the quotes, and a text has no end of a literal block in it.  Other kinds carry what they
like. -/
structure TokenKind.Carries (kind : TokenKind) (literal : String) : Prop where
  word : kind.isWord = true → IsName literal
  number : kind = .number → Number.IsDigitRun literal.toList
  string : kind = .string → IsQuotable literal
  text : kind = .text → ¬ Cut.literalEnd <:+: literal.toList

namespace TokenKind

/-- A kind that asks nothing of what it carries. -/
theorem carries_of_plain (kind : TokenKind)
    (h : kind.isWord = false ∧ kind ≠ .number ∧ kind ≠ .string ∧ kind ≠ .text) (literal : String) :
    kind.Carries literal := by
  obtain ⟨hword, hnumber, hstring, htext⟩ := h
  refine ⟨?_, fun hkind => absurd hkind hnumber, fun hkind => absurd hkind hstring,
    fun hkind => absurd hkind htext⟩
  intro hkind
  exact absurd (hword.symm.trans hkind) Bool.false_ne_true

theorem carries_of_punctuation? {c : Char} {kind : TokenKind}
    (h : Cut.punctuation? c = some kind) (literal : String) : kind.Carries literal := by
  rw [Cut.punctuation?.eq_def] at h
  split at h <;> cases h <;> exact carries_of_plain _ (by decide) literal

theorem carries_of_comparison? {c : Char} {short long : TokenKind}
    (h : Cut.comparison? c = some (short, long)) (literal : String) :
    short.Carries literal ∧ long.Carries literal := by
  rw [Cut.comparison?.eq_def] at h
  split at h <;> cases h <;>
    exact ⟨carries_of_plain _ (by decide) literal, carries_of_plain _ (by decide) literal⟩

theorem ofWord_mem (word : String) : ofWord word ∈ identifier :: keywords := by
  rw [ofWord]
  cases hfind : keywords.find? fun kind => kind.name == word with
  | none => exact List.mem_cons_self
  | some kind => exact List.mem_cons_of_mem _ (List.mem_of_find?_eq_some hfind)

/-- The ends of conditions, loops and literal blocks are keywords that cannot stand for names. -/
theorem carries_ofWord {word : String} (h : IsWord word.toList) : (ofWord word).Carries word := by
  have hkinds : ∀ kind ∈ identifier :: keywords, kind ≠ .number ∧ kind ≠ .string ∧
      kind ≠ .text := by
    decide
  obtain ⟨hnumber, hstring, htext⟩ := hkinds _ (ofWord_mem word)
  refine ⟨?_, fun hkind => absurd hkind hnumber, fun hkind => absurd hkind hstring,
    fun hkind => absurd hkind htext⟩
  intro hword
  have hne (other : String) (hother : (ofWord other).isWord = false) : word ≠ other := by
    rintro rfl
    rw [hother] at hword
    cases hword
  exact ⟨h, hne "/if" (by decide), hne "/foreach" (by decide), hne "/literal" (by decide)⟩

end TokenKind

namespace Cut

/-- A cut whose token carries what its kind can carry. -/
def Carries (cut : Cut) : Prop :=
  cut.kind.Carries (String.ofList cut.literal)

theorem carries_string {quote : Char} (h : IsQuote quote) (text : List Char) :
    (string quote text).Carries := by
  refine ⟨nofun, nofun, ?_, nofun⟩
  intro _
  have hbody : quote ∉ (String.ofList (text.takeWhile (· ≠ quote))).toList := by
    rw [String.toList_ofList]
    intro hmem
    simpa using List.mem_takeWhile_imp hmem
  rcases h with rfl | rfl
  · exact Or.inl hbody
  · exact Or.inr hbody

theorem carries_word {c : Char} (h : isWordStart c = true) (text : List Char) :
    (word c text).Carries := by
  apply TokenKind.carries_ofWord
  rw [String.toList_ofList]
  exact ⟨c, _, rfl, h, fun d hd => List.mem_takeWhile_imp hd⟩

theorem carries_number {c : Char} (h : c.isDigit = true) (text : List Char) :
    (number c text).Carries := by
  refine ⟨nofun, ?_, nofun, nofun⟩
  intro _
  rw [String.toList_ofList]
  refine ⟨List.cons_ne_nil _ _, List.forall_mem_cons.mpr ⟨h, ?_⟩⟩
  exact fun d hd => List.mem_takeWhile_imp hd

theorem carries_comparison {c : Char} {short long : TokenKind}
    (h : comparison? c = some (short, long)) (text : List Char) :
    (comparison c short long text).Carries := by
  rw [comparison.eq_def]
  split
  · exact (TokenKind.carries_of_comparison? h _).2
  · exact (TokenKind.carries_of_comparison? h _).1

theorem carries_insideTag (c : Char) (text : List Char) : (insideTag c text).Carries := by
  rw [insideTag]
  split
  · rename_i hkind
    exact TokenKind.carries_of_punctuation? hkind _
  · rename_i hkinds
    exact carries_comparison hkinds text
  · split
    · exact carries_string ‹_› text
    · split
      · exact carries_word ‹_› text
      · split
        · exact carries_number ‹_› text
        · exact TokenKind.carries_of_plain .illegal (by decide) _

theorem carries_ofTag (recent : TokenKind × TokenKind) (text : List Char) :
    (ofTag recent text).Carries := by
  rw [ofTag.eq_def]
  split
  · exact TokenKind.carries_of_plain .endOfInput (by decide) _
  · exact TokenKind.carries_of_plain .comment (by decide) _
  · exact TokenKind.carries_of_plain .openTag (by decide) _
  · exact TokenKind.carries_of_plain .closeTag (by decide) _
  · exact carries_insideTag _ _

theorem carries_text {literal : List Char} (h : ¬ literalEnd <:+: literal) (rest : List Char) :
    (plain .text literal rest .text).Carries := by
  refine ⟨nofun, nofun, nofun, ?_⟩
  intro _
  rw [plain, String.toList_ofList]
  exact h

/-- The end of a literal block begins with a brace, and there is none in a text outside one. -/
theorem carries_ofText (recent : TokenKind × TokenKind) (text : List Char) :
    (ofText recent text).Carries := by
  rw [ofText.eq_def]
  split
  · exact TokenKind.carries_of_plain .endOfInput (by decide) _
  · rename_i c rest
    split
    · exact carries_ofTag recent _
    · rename_i hc
      apply carries_text
      intro hinfix
      have hbrace : '\x7b' ∈ c :: rest.takeWhile (· ≠ '\x7b') :=
        hinfix.subset List.mem_cons_self
      rcases List.mem_cons.mp hbrace with heq | hmem
      · exact hc heq.symm
      · simpa using List.mem_takeWhile_imp hmem

theorem carries_ofRaw (recent : TokenKind × TokenKind) (text : List Char) :
    (ofRaw recent text).Carries := by
  rw [ofRaw]
  split
  · exact carries_ofText recent text
  · exact carries_text (not_infix_splitAt (by decide) text) _

end Cut

/-- A token that carries what its kind can carry. -/
def Token.IsProper (token : Token) : Prop :=
  token.kind.Carries token.literal

namespace Scanner

theorem isProper_token (scanner : Scanner) : scanner.token.IsProper := by
  obtain ⟨rest, position, mode, recent⟩ := scanner
  cases mode with
  | text => exact Cut.carries_ofText recent rest
  | tag => exact Cut.carries_ofTag recent _
  | raw => exact Cut.carries_ofRaw recent rest

theorem isProper_of_mem_tokens (scanner : Scanner) :
    ∀ token ∈ scanner.tokens, token.IsProper := by
  induction scanner using tokens.induct with
  | case1 scanner hend =>
      rw [tokens_eq_singleton hend]
      exact List.forall_mem_singleton.mpr (isProper_token scanner)
  | case2 scanner hend ih =>
      rw [tokens_eq_cons hend]
      exact List.forall_mem_cons.mpr ⟨isProper_token scanner, ih⟩

end Scanner

/-! ## Expressions -/

theorem IsName.isQuotable {name : String} (h : IsName name) : IsQuotable name := by
  obtain ⟨c, rest, hname, hstart, hrest⟩ := h.word
  refine Or.inl ?_
  rw [hname]
  intro hmem
  rcases List.mem_cons.mp hmem with rfl | hmem
  · exact absurd hstart (by decide)
  · exact absurd (hrest _ hmem) (by decide)

namespace Expr

/-- An expression that proper tokens write can be written. -/
theorem canonical_of_derives {expr : Expr} {ts : List Token} (h : expr.Derives ts)
    (hproper : ∀ token ∈ ts, token.IsProper) : expr.Canonical := by
  induction h with
  | @«variable» dollar name hdollar hname =>
      exact (hproper name (by simp)).word hname
  | @number digits hdigits =>
      exact ⟨_, (hproper digits (by simp)).number hdigits, rfl⟩
  | @string text htext =>
      exact (hproper text (by simp)).string htext
  | @field base ts dot name hbase htight hdot hname ih =>
      obtain ⟨hts, hname'⟩ := List.forall_mem_append.mp hproper
      exact ⟨ih hts, htight, (hname' name (by simp)).word hname⟩
  | index hbase htight hleft hposition hright ihBase ihPosition =>
      obtain ⟨hfront, -⟩ := List.forall_mem_append.mp hproper
      obtain ⟨hts, hinner⟩ := List.forall_mem_append.mp hfront
      exact ⟨ihBase hts, htight, ihPosition (List.forall_mem_cons.mp hinner).2⟩
  | binary hleft hlevel hsign hright htighter ihLeft ihRight =>
      obtain ⟨hts, hback⟩ := List.forall_mem_append.mp hproper
      exact ⟨ihLeft hts, hlevel, ihRight (List.forall_mem_cons.mp hback).2, htighter⟩

theorem canonicalPipeline_of_canonical {expr : Expr} (h : expr.Canonical) :
    expr.CanonicalPipeline := by
  cases expr with
  | pipe input modifier => exact h.elim
  | _ => exact h

theorem canonicalPipeline_of_derives {expr : Expr} {ts : List Token} (h : expr.DerivesPipeline ts)
    (hproper : ∀ token ∈ ts, token.IsProper) : expr.CanonicalPipeline := by
  induction h with
  | expr hinput => exact canonicalPipeline_of_canonical (canonical_of_derives hinput hproper)
  | @pipe input ts bar name hinput hbar hname ih =>
      obtain ⟨hts, hback⟩ := List.forall_mem_append.mp hproper
      exact ⟨ih hts, (hback name (by simp)).word hname⟩

/-- What an expression begins with decides what its first operand is. -/
theorem beginsWithVariable_of_derives {expr : Expr} {ts : List Token} (h : expr.Derives ts) :
    ∃ first rest, ts = first :: rest ∧ (first.kind = .dollar → expr.BeginsWithVariable) := by
  induction h with
  | «variable» hdollar hname => exact ⟨_, _, rfl, fun _ => trivial⟩
  | number hdigits =>
      refine ⟨_, _, rfl, ?_⟩
      intro hdollar
      rw [hdigits] at hdollar
      cases hdollar
  | string htext =>
      refine ⟨_, _, rfl, ?_⟩
      intro hdollar
      rw [htext] at hdollar
      cases hdollar
  | field hbase htight hdot hname ih =>
      obtain ⟨first, rest, rfl, hfirst⟩ := ih
      exact ⟨first, _, rfl, hfirst⟩
  | index hbase htight hleft hposition hright ihBase ihPosition =>
      obtain ⟨first, rest, rfl, hfirst⟩ := ihBase
      exact ⟨first, _, rfl, hfirst⟩
  | binary hleft hlevel hsign hright htighter ihLeft ihRight =>
      obtain ⟨first, rest, rfl, hfirst⟩ := ihLeft
      exact ⟨first, _, rfl, hfirst⟩

theorem beginsWithVariable_of_derivesPipeline {expr : Expr} {ts : List Token}
    (h : expr.DerivesPipeline ts) :
    ∃ first rest, ts = first :: rest ∧ (first.kind = .dollar → expr.BeginsWithVariable) := by
  induction h with
  | expr hinput => exact beginsWithVariable_of_derives hinput
  | pipe hinput hbar hname ih =>
      obtain ⟨first, rest, rfl, hfirst⟩ := ih
      exact ⟨first, _, rfl, hfirst⟩

end Expr

/-! ## Headers of loops -/

namespace LoopAttributes

/-- Attributes that can be written, as far as they are there. -/
structure Canonical (attributes : LoopAttributes) : Prop where
  source : ∀ source ∈ attributes.source, source.Canonical
  item : ∀ item ∈ attributes.item, Stencil.IsName item
  key : ∀ key ∈ attributes.key, Stencil.IsName key
  label : ∀ label ∈ attributes.label, IsQuotable label

theorem canonical_bind {attributes : LoopAttributes} (h : attributes.Canonical) {name : String}
    (hname : Stencil.IsName name) (target : LoopVariable) :
    (OpenLoop.bind attributes name target).Canonical := by
  cases target with
  | item => exact { h with item := by rintro _ ⟨⟩; exact hname }
  | key => exact { h with key := by rintro _ ⟨⟩; exact hname }

theorem canonical_of_adds {attributes further : LoopAttributes} {which : LoopAttribute}
    {ts : List Token} (hattributes : attributes.Canonical) (h : attributes.Adds which ts further)
    (hproper : ∀ token ∈ ts, token.IsProper) : further.Canonical := by
  cases h with
  | source hexpr =>
      refine { hattributes with source := ?_ }
      rintro _ ⟨⟩
      exact Expr.canonical_of_derives hexpr hproper
  | @«variable» target name hname =>
      exact canonical_bind hattributes ((hproper name (by simp)).word hname) target
  | @dollarVariable target dollar name hdollar hname =>
      exact canonical_bind hattributes ((hproper name (by simp)).word hname) target
  | @label name hname =>
      refine { hattributes with label := ?_ }
      rintro _ ⟨⟩
      rcases hname with hword | hstring
      · exact ((hproper name (by simp)).word hword).isQuotable
      · exact (hproper name (by simp)).string hstring

theorem canonical_of_derives {attributes : LoopAttributes} {ts : List Token}
    (h : attributes.Derives ts) (hproper : ∀ token ∈ ts, token.IsProper) :
    attributes.Canonical := by
  induction h with
  | empty => exact ⟨nofun, nofun, nofun, nofun⟩
  | add hattributes hnew hname hvalue ih =>
      obtain ⟨hts, hback⟩ := List.forall_mem_append.mp hproper
      have hus := (List.forall_mem_cons.mp (List.forall_mem_cons.mp hback).2).2
      exact canonical_of_adds (ih hts) hvalue hus

end LoopAttributes

theorem LoopHeader.canonical_of_derives {header : LoopHeader} {ts : List Token}
    (h : header.Derives ts) (hproper : ∀ token ∈ ts, token.IsProper) : header.Canonical := by
  have hattributes := LoopAttributes.canonical_of_derives h hproper
  exact ⟨hattributes.source _ rfl, hattributes.item _ rfl, hattributes.key, hattributes.label⟩

/-! ## Nodes and blocks -/

theorem IsTag.forall_content {P : Token → Prop} {keyword : TokenKind} {content ts : List Token}
    (h : IsTag keyword content ts) (hts : ∀ token ∈ ts, P token) :
    ∀ token ∈ content, P token := by
  obtain @⟨left, word, right, -, -, -⟩ := h
  intro token htoken
  exact hts token (by simp [htoken])

theorem Node.canonicalAll_append {front back : List Node} (hfront : Node.CanonicalAll front)
    (hback : Node.CanonicalAll back) : Node.CanonicalAll (front ++ back) := by
  induction front with
  | nil => exact hback
  | cons node front ih => exact ⟨hfront.1, ih hfront.2⟩

namespace Phrase

/-- A phrase whose nodes can all be written. -/
def Canonical : Phrase → Prop
  | .node tree => tree.Canonical
  | .block trees => Node.CanonicalAll trees
  | .ending alternative => alternative.Canonical

/-- A phrase that proper tokens write can be written, whatever is passed over between its nodes. -/
theorem canonical_of_derives {passedOver : TokenKind → Prop} {phrase : Phrase} {ts : List Token}
    (h : phrase.Derives passedOver ts) (hproper : ∀ token ∈ ts, token.IsProper) :
    phrase.Canonical := by
  induction h with
  | @text text htext => exact (hproper text (by simp)).text htext
  | literal hopening hbody hend =>
      obtain ⟨hfront, -⟩ := List.forall_mem_append.mp hproper
      obtain ⟨-, hus⟩ := List.forall_mem_append.mp hfront
      cases hbody with
      | empty =>
          intro hinfix
          exact absurd (List.infix_nil.mp hinfix) (by decide)
      | @text body hbody => exact (hus body (by simp)).text hbody
  | @action expr us left dollar right hleft hdollar hexpr hright =>
      obtain ⟨hfront, -⟩ := List.forall_mem_append.mp hproper
      -- The dollar is the first token of the whole pipeline, so it begins the leftmost operand.
      have hexpression := (List.forall_mem_cons.mp hfront).2
      obtain ⟨first, rest, heq, hfirst⟩ := Expr.beginsWithVariable_of_derivesPipeline hexpr
      obtain ⟨rfl, rfl⟩ := List.cons.inj heq
      exact ⟨Expr.canonicalPipeline_of_derives hexpr hexpression, hfirst hdollar⟩
  | conditional htag hcondition hblock hotherwise ihBlock ihOtherwise =>
      obtain ⟨hfront, hvs⟩ := List.forall_mem_append.mp hproper
      obtain ⟨hts, hus⟩ := List.forall_mem_append.mp hfront
      exact ⟨Expr.canonical_of_derives hcondition (htag.forall_content hts), ihBlock hus,
        ihOtherwise hvs⟩
  | loop htag hheader hbody hend ihBody =>
      obtain ⟨hfront, -⟩ := List.forall_mem_append.mp hproper
      obtain ⟨hts, hus⟩ := List.forall_mem_append.mp hfront
      exact ⟨LoopHeader.canonical_of_derives hheader (htag.forall_content hts), ihBody hus⟩
  | loopOrEmpty htag hheader hbody helse hifEmpty hend ihBody ihEmpty =>
      obtain ⟨hfront, -⟩ := List.forall_mem_append.mp hproper
      obtain ⟨hfront, hws⟩ := List.forall_mem_append.mp hfront
      obtain ⟨hfront, -⟩ := List.forall_mem_append.mp hfront
      obtain ⟨hts, hus⟩ := List.forall_mem_append.mp hfront
      exact ⟨LoopHeader.canonical_of_derives hheader (htag.forall_content hts), ihBody hus,
        ihEmpty hws⟩
  | nil => trivial
  | add hnodes hnode ihNodes ihNode =>
      obtain ⟨hts, hus⟩ := List.forall_mem_append.mp hproper
      exact Node.canonicalAll_append (ihNodes hts) ⟨ihNode hus, trivial⟩
  | skip hnodes htoken ihNodes => exact ihNodes (List.forall_mem_append.mp hproper).1
  | nothing hend => trivial
  | block helse hnodes hend ihNodes =>
      obtain ⟨hfront, -⟩ := List.forall_mem_append.mp hproper
      exact ihNodes (List.forall_mem_append.mp hfront).2
  | elseIf htag hcondition hblock hotherwise ihBlock ihOtherwise =>
      obtain ⟨hfront, hvs⟩ := List.forall_mem_append.mp hproper
      obtain ⟨hts, hus⟩ := List.forall_mem_append.mp hfront
      exact ⟨Expr.canonical_of_derives hcondition (htag.forall_content hts), ihBlock hus,
        ihOtherwise hvs⟩

end Phrase

/-! ## Sources -/

/-- What a source without diagnostics is read as is canonical.  Its numbers are values of digit
runs, and such values have no sign. -/
theorem canonicalAll_of_readSource {source : String} {nodes : List Node}
    (h : readSource source = (nodes, [])) :
    Node.CanonicalAll nodes ∧
      ∀ digits, Number.IsDigitRun digits → (Number.ofDigits digits).IsUnsigned := by
  obtain ⟨hnodes, hdiagnostics⟩ := Prod.mk.inj h
  obtain ⟨ts, ending, htokens, -, hderives⟩ :=
    OpenTemplate.derives_of_settled (OpenTemplate.settled_start source) hdiagnostics
  have hproper := Scanner.isProper_of_mem_tokens (Scanner.ofSource source)
  rw [htokens] at hproper
  refine ⟨?_, fun digits _ => Number.isUnsigned_ofDigits digits⟩
  rw [← hnodes]
  exact Phrase.canonical_of_derives hderives (List.forall_mem_append.mp hproper).1

/-- Two operators of one level in front of one that binds less tightly, and an index with one of
its own. -/
theorem canonicalAll_of_readSource_operators :
    let source := "\x7b$a == $b == $c or $d[$e < $f].g|upper\x7d"
    let equal : Expr :=
      .binary (.binary (.variable "a") .equal (.variable "b")) .equal (.variable "c")
    let place : Expr :=
      .field (.index (.variable "d") (.binary (.variable "e") .less (.variable "f"))) "g"
    let nodes := [Node.action (.pipe (.binary equal .or place) "upper")]
    readSource source = (nodes, []) ∧ Number.IsDigitRun ['0', '7'] ∧ Node.CanonicalAll nodes ∧
      (Number.ofDigits ['0', '7']).IsUnsigned := by
  intro source equal place nodes
  have hread : readSource source = (nodes, []) := by
    simp only [source, nodes, equal, place, readSource]
    cbv
  have hdigits : Number.IsDigitRun ['0', '7'] := ⟨by decide, by simp⟩
  obtain ⟨hnodes, hunsigned⟩ := canonicalAll_of_readSource hread
  exact ⟨hread, hdigits, hnodes, hunsigned _ hdigits⟩

/-- The label of a loop may be put in quotes, and then it need not be a word. -/
theorem readSource_quoted_label :
    readSource "\x7bforeach from=$a item=x name=\x22a b\x22\x7d\x7b/foreach\x7d" =
        ([Node.loop ⟨.variable "a", "x", none, some "a b"⟩ [] none], []) ∧
      ¬ IsName "a b" := by
  constructor
  · simp only [readSource]
    cbv
  · decide

end Stencil
