import Stencil.Proofs.Template.Printing
import Stencil.Proofs.Token.Yields

/-!
# Printed expressions are scanned

The text that is printed for a canonical expression is scanned into tokens that derive the
expression, up to whatever follows it.  What follows must not go on with a word, which no blank,
bracket, bar or brace does.
-/

namespace Stencil

/-! ## Texts inside tags -/

namespace Scanner

/-- Between two kinds of places, a text is scanned into tokens with a property, up to what
follows it. -/
def ScansBetween (start finish : Scanner → List Char → Prop) (P : List Token → Prop)
    (text rest : List Char) : Prop :=
  ∀ scanner : Scanner, start scanner (text ++ rest) →
    ∃ ts last, scanner.Yields ts last ∧ P ts ∧ finish last rest

/-- Inside a tag, a text is scanned into tokens with a property. -/
abbrev Scans (P : List Token → Prop) (text rest : List Char) : Prop :=
  ScansBetween InTag InTag P text rest

section Between

variable {start middle finish : Scanner → List Char → Prop} {P Q : List Token → Prop}
  {text further rest : List Char}

theorem scans_nil (rest : List Char) : ScansBetween start start (· = []) [] rest :=
  fun scanner h => ⟨[], scanner, .nil, rfl, h⟩

theorem ScansBetween.imp (h : ScansBetween start finish P text rest) (hPQ : ∀ ts, P ts → Q ts) :
    ScansBetween start finish Q text rest := by
  intro scanner hscanner
  obtain ⟨ts, last, hyields, hts, hlast⟩ := h scanner hscanner
  exact ⟨ts, last, hyields, hPQ ts hts, hlast⟩

/-- Blanks in front of a text are passed over. -/
theorem ScansBetween.blanks {blanks : List Char} (hblanks : ∀ c ∈ blanks, Cut.isBlank c = true)
    (h : ScansBetween InTag finish P text rest) :
    ScansBetween InTag finish P (blanks ++ text) rest := by
  induction blanks with
  | nil => exact h
  | cons c blanks ih =>
      obtain ⟨hc, hrest⟩ := List.forall_mem_cons.mp hblanks
      intro scanner hscanner
      exact ih hrest scanner (hscanner.skip hc)

theorem ScansBetween.blank (h : ScansBetween InTag finish P text rest) :
    ScansBetween InTag finish P (' ' :: text) rest := by
  have hblank : ∀ c ∈ [' '], Cut.isBlank c = true := List.forall_mem_singleton.mpr rfl
  exact h.blanks hblank

/-- Tokens in two parts, each of them with a property of its own. -/
def Joined (P Q : List Token → Prop) (ts : List Token) : Prop :=
  ∃ us vs, ts = us ++ vs ∧ P us ∧ Q vs

theorem ScansBetween.append (hfirst : ScansBetween start middle P text (further ++ rest))
    (hsecond : ScansBetween middle finish Q further rest) :
    ScansBetween start finish (Joined P Q) (text ++ further) rest := by
  intro scanner hscanner
  rw [List.append_assoc] at hscanner
  obtain ⟨us, between, hus, hP, hbetween⟩ := hfirst scanner hscanner
  obtain ⟨vs, last, hvs, hQ, hlast⟩ := hsecond between hbetween
  exact ⟨us ++ vs, last, hus.append hvs, ⟨us, vs, rfl, hP, hQ⟩, hlast⟩

/-- A source that is scanned from its beginning to its end has these tokens, and one that says
it has ended. -/
theorem tokens_of_scans {source : String} (h : ScansBetween AtText AtText P source.toList []) :
    ∃ ts ending, (ofSource source).tokens = ts ++ [ending] ∧ ending.kind = .endOfInput ∧ P ts := by
  have hstart : (ofSource source).AtText (source.toList ++ []) := by
    rw [List.append_nil]
    exact atText_ofSource source
  obtain ⟨ts, last, hyields, hts, hlast⟩ := h _ hstart
  obtain ⟨ending, hending, hkind⟩ := tokens_of_ended hlast
  exact ⟨ts, ending, by rw [hyields.tokens_eq, hending], hkind, hts⟩

end Between

/-- One token of a kind with a literal. -/
def IsToken (kind : TokenKind) (literal : String) (ts : List Token) : Prop :=
  ∃ token, ts = [token] ∧ token.kind = kind ∧ token.literal = literal

theorem scans_token {start : Scanner → List Char → Prop} {kind : TokenKind}
    {literal text rest : List Char} (hinner : kind.isInner = true)
    (h : ∀ scanner : Scanner, start scanner (text ++ rest) → scanner.Cuts kind literal rest) :
    ScansBetween start InTag (IsToken kind (String.ofList literal)) text rest := by
  intro scanner hscanner
  obtain ⟨htoken, hliteral, hnext⟩ := h scanner hscanner
  have hend : scanner.token.kind ≠ .endOfInput := by
    rw [htoken]
    exact TokenKind.ne_of_isInner hinner rfl
  exact ⟨[scanner.token], scanner.next, .single hend,
    ⟨scanner.token, rfl, htoken, hliteral⟩, hnext⟩

theorem scans_punctuation {c : Char} {kind : TokenKind} (h : Cut.punctuation? c = some kind)
    (rest : List Char) : Scans (IsToken kind (String.ofList [c])) [c] rest :=
  scans_token (Cut.isInner_punctuation? h) fun _ hscanner => hscanner.cuts_punctuation h

theorem scans_word {word : List Char} (hword : IsWord word) {rest : List Char}
    (hstop : Cut.Stops rest) :
    Scans (IsToken (TokenKind.ofWord (String.ofList word)) (String.ofList word)) word rest :=
  scans_token (TokenKind.isInner_ofWord _) fun _ hscanner =>
    hscanner.cuts_word hword hstop

theorem isQuote_quoteFor (text : String) : Cut.IsQuote (quoteFor text) := by
  rw [quoteFor]
  split
  · exact Or.inr rfl
  · exact Or.inl rfl

theorem quoteFor_not_mem {text : String} (h : IsQuotable text) : quoteFor text ∉ text.toList := by
  rw [quoteFor]
  by_cases hdouble : '\x22' ∈ text.toList
  · rw [if_pos hdouble]
    exact h.resolve_left (not_not_intro hdouble)
  · rw [if_neg hdouble]
    exact hdouble

theorem scans_quoted {text : String} (h : IsQuotable text) (rest : List Char) :
    Scans (IsToken .string text) (printQuoted text) rest := by
  have hscans : Scans (IsToken .string (String.ofList text.toList)) (printQuoted text) rest := by
    refine scans_token rfl ?_
    intro scanner hscanner
    rw [printQuoted, List.cons_append, List.append_assoc] at hscanner
    exact hscanner.cuts_string (isQuote_quoteFor text) (quoteFor_not_mem h)
  rwa [String.ofList_toList] at hscans

end Scanner

open Scanner

theorem IsName.isWord {name : String} (h : IsName name) :
    (TokenKind.ofWord name).isWord = true := by
  have hall : ∀ kind ∈ TokenKind.keywords, kind.isWord = true ∨
      kind.name = "/if" ∨ kind.name = "/foreach" ∨ kind.name = "/literal" := by
    decide
  rw [TokenKind.ofWord]
  cases hfind : TokenKind.keywords.find? fun kind => kind.name == name with
  | none => rfl
  | some kind =>
      have hname : kind.name = name := by simpa using List.find?_some hfind
      have hkind := hall kind (List.mem_of_find?_eq_some hfind)
      rw [hname] at hkind
      exact hkind.resolve_right fun hends =>
        hends.elim h.not_endIf fun hends => hends.elim h.not_endForeach h.not_endLiteral

namespace Scanner

/-- One token that names something. -/
def IsNameToken (name : String) (ts : List Token) : Prop :=
  ∃ token, ts = [token] ∧ token.kind.isWord = true ∧ token.literal = name

theorem scans_name {name : String} (h : IsName name) {rest : List Char} (hstop : Cut.Stops rest) :
    Scans (IsNameToken name) name.toList rest := by
  have hscans := scans_word h.word hstop
  rw [String.ofList_toList] at hscans
  refine hscans.imp ?_
  rintro _ ⟨token, rfl, hkind, hliteral⟩
  exact ⟨token, rfl, by rw [hkind]; exact h.isWord, hliteral⟩

theorem scans_comparison {c : Char} {short long : TokenKind}
    (h : Cut.comparison? c = some (short, long)) {rest : List Char}
    (hhead : ∀ d ∈ rest.head?, d ≠ '=') : Scans (IsToken short (String.ofList [c])) [c] rest := by
  have hmade : Cut.comparison c short long rest = Cut.plain short [c] rest .tag := by
    rw [Cut.comparison.eq_def]
    split
    · exact (hhead '=' rfl rfl).elim
    · rfl
  exact scans_token (Cut.isInner_comparison? h).1 fun _ hscanner =>
    hscanner.cuts_comparison h hmade

theorem scans_comparisonOrEqual {c : Char} {short long : TokenKind}
    (h : Cut.comparison? c = some (short, long)) (rest : List Char) :
    Scans (IsToken long (String.ofList [c, '='])) [c, '='] rest :=
  scans_token (Cut.isInner_comparison? h).2 fun _ hscanner =>
    hscanner.cuts_comparison h rfl

/-- One token that stands for an operator. -/
def IsSign (op : BinaryOp) (ts : List Token) : Prop :=
  ∃ sign, ts = [sign] ∧ BinaryOp.ofKind? sign.kind = some op

theorem isSign_of_isToken {op : BinaryOp} {kind : TokenKind} {literal : String}
    (h : BinaryOp.ofKind? kind = some op) (ts : List Token) (hts : IsToken kind literal ts) :
    IsSign op ts := by
  obtain ⟨sign, rfl, hkind, -⟩ := hts
  exact ⟨sign, rfl, by rw [hkind]; exact h⟩

theorem scans_operator (op : BinaryOp) (text : List Char) :
    Scans (IsSign op) op.text.toList (' ' :: text) := by
  have hblank : ∀ d ∈ (' ' :: text).head?, d ≠ '=' := by
    rintro _ ⟨⟩
    decide
  have hstop : Cut.Stops (' ' :: text) := Cut.stops_cons ' ' (by decide) text
  cases op with
  | or =>
      have hword : IsWord "or".toList := by decide
      exact (scans_word hword hstop).imp (isSign_of_isToken (by decide))
  | and =>
      have hword : IsWord "and".toList := by decide
      exact (scans_word hword hstop).imp (isSign_of_isToken (by decide))
  | equal =>
      have hkinds : Cut.comparison? '=' = some (.assign, .equal) := rfl
      exact (scans_comparisonOrEqual hkinds _).imp (isSign_of_isToken rfl)
  | notEqual =>
      have hkinds : Cut.comparison? '!' = some (.illegal, .notEqual) := rfl
      exact (scans_comparisonOrEqual hkinds _).imp (isSign_of_isToken rfl)
  | less =>
      have hkinds : Cut.comparison? '<' = some (.less, .lessEqual) := rfl
      exact (scans_comparison hkinds hblank).imp (isSign_of_isToken rfl)
  | lessEqual =>
      have hkinds : Cut.comparison? '<' = some (.less, .lessEqual) := rfl
      exact (scans_comparisonOrEqual hkinds _).imp (isSign_of_isToken rfl)
  | greater =>
      have hkinds : Cut.comparison? '>' = some (.greater, .greaterEqual) := rfl
      exact (scans_comparison hkinds hblank).imp (isSign_of_isToken rfl)
  | greaterEqual =>
      have hkinds : Cut.comparison? '>' = some (.greater, .greaterEqual) := rfl
      exact (scans_comparisonOrEqual hkinds _).imp (isSign_of_isToken rfl)

/-! ## Expressions -/

theorem scans_number {value : Number}
    (h : ∃ digits, Number.IsDigitRun digits ∧ Number.ofDigits digits = value) {rest : List Char}
    (hstop : Cut.Stops rest) :
    Scans (Expr.Derives (.number value)) value.digitRun rest := by
  obtain ⟨digits, -, rfl⟩ := h
  have hrun := Number.isDigitRun_digitRun (Number.ofDigits digits)
  have hscans : Scans (IsToken .number (String.ofList (Number.ofDigits digits).digitRun))
      (Number.ofDigits digits).digitRun rest :=
    scans_token rfl fun _ hscanner => hscanner.cuts_number hrun hstop
  refine hscans.imp ?_
  rintro _ ⟨token, rfl, hkind, hliteral⟩
  have hvalue : Number.ofDigits token.literal.toList = Number.ofDigits digits := by
    rw [hliteral, String.toList_ofList]
    exact Number.ofDigits_digitRun digits
  rw [← hvalue]
  exact .number hkind

end Scanner

namespace Expr

/-- The places where an expression may stand: inside a tag, and if it begins with a variable,
right behind the brace of a tag too. -/
def MayStandAt (expr : Expr) (start : Scanner → List Char → Prop) : Prop :=
  start = InTag ∨ start = AtBrace ∧ expr.BeginsWithVariable

theorem MayStandAt.scans_dollar {name : String} {start : Scanner → List Char → Prop}
    (h : (Expr.variable name).MayStandAt start) (rest : List Char) :
    ScansBetween start InTag (IsToken .dollar "$") ['$'] rest := by
  rcases h with rfl | ⟨rfl, -⟩
  · exact scans_punctuation rfl rest
  · exact scans_token rfl fun _ hscanner => hscanner.cuts_dollar

theorem scans {expr : Expr} (h : expr.Canonical) {start : Scanner → List Char → Prop}
    (hstart : expr.MayStandAt start) {rest : List Char} (hstop : Cut.Stops rest) :
    ScansBetween start InTag expr.Derives expr.print rest := by
  have hdot : Cut.punctuation? '.' = some .dot := rfl
  have hopen : Cut.punctuation? '[' = some .openBracket := rfl
  have hclose : Cut.punctuation? ']' = some .closeBracket := rfl
  induction expr generalizing start rest with
  | «variable» name =>
      refine ((hstart.scans_dollar _).append (scans_name h hstop)).imp ?_
      rintro _ ⟨_, _, rfl, ⟨dollar, rfl, hkind, -⟩, token, rfl, htoken, rfl⟩
      exact .variable hkind htoken
  | number value =>
      rcases hstart with rfl | ⟨-, hnever⟩
      · exact scans_number h hstop
      · exact hnever.elim
  | string text =>
      rcases hstart with rfl | ⟨-, hnever⟩
      · refine (scans_quoted h rest).imp ?_
        rintro _ ⟨token, rfl, hkind, rfl⟩
        exact .string hkind
      · exact hnever.elim
  | field base name ih =>
      obtain ⟨hbase, htight, hname⟩ := h
      have hsuffix := (scans_punctuation hdot _).append (scans_name hname hstop)
      have hfront := ih hbase hstart (Cut.stops_cons '.' (by decide) (name.toList ++ rest))
      refine (hfront.append hsuffix).imp ?_
      rintro _ ⟨ts, _, rfl, hts, _, _, rfl, ⟨dot, rfl, hkind, -⟩, token, rfl, htoken, rfl⟩
      exact .field hts htight hkind htoken
  | index base position ihBase ihPosition =>
      obtain ⟨hbase, htight, hposition⟩ := h
      have hinside := ihPosition hposition (Or.inl rfl) (Cut.stops_cons ']' (by decide) rest)
      have hsuffix := (scans_punctuation hopen _).append
        (hinside.append (scans_punctuation hclose rest))
      have hfront := ihBase hbase hstart
        (Cut.stops_cons '[' (by decide) (position.print ++ [']'] ++ rest))
      refine (hfront.append hsuffix).imp ?_
      rintro _ ⟨ts, _, rfl, hts, _, _, rfl, ⟨left, rfl, hleft, -⟩, us, _, rfl, hus,
        right, rfl, hright, -⟩
      have hindex := Expr.Derives.index hts htight hleft hus hright
      simpa using hindex
  | binary left op right ihLeft ihRight =>
      obtain ⟨hleft, hlevel, hright, htighter⟩ := h
      have hback := (ihRight hright (Or.inl rfl) hstop).blank
      have hsuffix := ((scans_operator op (right.print ++ rest)).append hback).blank
      have hfront := ihLeft hleft hstart
        (Cut.stops_cons ' ' (by decide) (op.text.toList ++ ' ' :: right.print ++ rest))
      refine (hfront.append hsuffix).imp ?_
      rintro _ ⟨ts, _, rfl, hts, _, us, rfl, ⟨sign, rfl, hsign⟩, hus⟩
      exact .binary hts hlevel hsign hus htighter
  | pipe input modifier ih => exact h.elim

theorem scansPipeline {expr : Expr} (h : expr.CanonicalPipeline)
    {start : Scanner → List Char → Prop} (hstart : expr.MayStandAt start) {rest : List Char}
    (hstop : Cut.Stops rest) : ScansBetween start InTag expr.DerivesPipeline expr.print rest := by
  have hbar : Cut.punctuation? '|' = some .pipe := rfl
  induction expr generalizing rest with
  | pipe input modifier ih =>
      obtain ⟨hinput, hmodifier⟩ := h
      have hsuffix := (scans_punctuation hbar _).append (scans_name hmodifier hstop)
      have hfront := ih hinput hstart (Cut.stops_cons '|' (by decide) (modifier.toList ++ rest))
      refine (hfront.append hsuffix).imp ?_
      rintro _ ⟨ts, _, rfl, hts, _, _, rfl, ⟨bar, rfl, hkind, -⟩, token, rfl, htoken, rfl⟩
      exact .pipe hts hkind htoken
  | «variable» | number | string | field | index | binary =>
      exact (scans h hstart hstop).imp fun ts hts => .expr hts

end Expr

end Stencil
