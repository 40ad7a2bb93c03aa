import Stencil.Proofs.Template.ParseTemplate
import Stencil.Proofs.Template.ScanExpr

/-!
# Printing and reading

The source that is printed for a canonical tree is scanned into tokens that derive the tree, so
reading it gives the tree back and no diagnostics.  The induction is on the tree and goes
through for any text behind it: a printed node begins with a brace and ends with one, and
between tags the scanner remembers nothing of what it has scanned.
-/

namespace Stencil

open Scanner

/-! ## Attributes of loops -/

theorem Expr.exists_print_eq_cons (expr : Expr) :
    ∃ c rest, expr.print = c :: rest ∧ c ≠ '=' := by
  have happend {text : List Char} (h : ∃ c rest, text = c :: rest ∧ c ≠ '=')
      (further : List Char) : ∃ c rest, text ++ further = c :: rest ∧ c ≠ '=' := by
    obtain ⟨c, rest, rfl, hc⟩ := h
    exact ⟨c, rest ++ further, rfl, hc⟩
  induction expr with
  | «variable» name => exact ⟨'$', name.toList, rfl, by decide⟩
  | number value =>
      obtain ⟨hne, hall⟩ := Number.isDigitRun_digitRun value
      obtain ⟨c, rest, hdigits⟩ := List.exists_cons_of_ne_nil hne
      refine ⟨c, rest, hdigits, ?_⟩
      rintro rfl
      have hdigit := hall '=' (by rw [hdigits]; exact List.mem_cons_self)
      cases hdigit
  | string text =>
      refine ⟨quoteFor text, text.toList ++ [quoteFor text], rfl, ?_⟩
      rcases isQuote_quoteFor text with hquote | hquote <;> rw [hquote] <;> decide
  | field base name ih => exact happend ih _
  | index base position ihBase ihPosition => exact happend ihBase _
  | binary left op right ihLeft ihRight => exact happend ihLeft _
  | pipe input modifier ih => exact happend ih _

/-- The names of the attributes are words, and no keywords. -/
theorem LoopAttribute.isWord_word (which : LoopAttribute) :
    IsWord which.word.toList ∧ TokenKind.ofWord which.word = .identifier ∧
      ofWord? which.word = some which := by
  cases which <;> exact ⟨by decide, by decide, rfl⟩

namespace LoopAttributes

/-- Tokens that lead from attributes to further ones. -/
def Extends (attributes further : LoopAttributes) (us : List Token) : Prop :=
  ∀ ts, attributes.Derives ts → further.Derives (ts ++ us)

theorem scans_extends_self (attributes : LoopAttributes) (rest : List Char) :
    Scans (attributes.Extends attributes) [] rest := by
  refine (scans_nil rest).imp ?_
  rintro _ rfl ts hts
  rwa [List.append_nil]

theorem scans_extends {attributes further last : LoopAttributes} {text behind rest : List Char}
    (hfirst : Scans (attributes.Extends further) text (behind ++ rest))
    (hsecond : Scans (further.Extends last) behind rest) :
    Scans (attributes.Extends last) (text ++ behind) rest := by
  refine (hfirst.append hsecond).imp ?_
  rintro _ ⟨us, vs, rfl, hus, hvs⟩ ts hts
  rw [← List.append_assoc]
  exact hvs _ (hus ts hts)

end LoopAttributes

/-- An attribute that is not there yet is added to those in front of it. -/
theorem scans_attribute {attributes further : LoopAttributes} {which : LoopAttribute}
    {value rest : List Char} (hnew : attributes.has which = false)
    (hvalue : Scans (fun ts => attributes.Adds which ts further) value rest)
    (hhead : ∃ c text, value = c :: text ∧ c ≠ '=') :
    Scans (attributes.Extends further) (printAttribute which value) rest := by
  obtain ⟨hword, hidentifier, hnamed⟩ := which.isWord_word
  have hassign : Cut.comparison? '=' = some (.assign, .equal) := rfl
  have hbehind : ∀ d ∈ (value ++ rest).head?, d ≠ '=' := by
    obtain ⟨c, text, rfl, hc⟩ := hhead
    rintro _ ⟨⟩
    exact hc
  have hname := scans_word hword (Cut.stops_cons '=' (by decide) (value ++ rest))
  rw [String.ofList_toList] at hname
  have hscans := (hname.append ((scans_comparison hassign hbehind).append hvalue)).blank
  refine hscans.imp ?_
  rintro _ ⟨_, _, rfl, ⟨token, rfl, hkind, hliteral⟩, _, us, rfl, ⟨assign, rfl, hsign, -⟩, hus⟩
    ts hts
  refine .add hts hnew ⟨hkind.trans hidentifier, ?_, hsign⟩ hus
  rw [hliteral]
  exact hnamed

theorem scans_variableAttribute {attributes : LoopAttributes} (target : LoopVariable)
    {name : String} {rest : List Char} (hnew : attributes.has target.toAttribute = false)
    (hname : IsName name) (hstop : Cut.Stops rest) :
    Scans (attributes.Extends (OpenLoop.bind attributes name target))
      (printAttribute target.toAttribute name.toList) rest := by
  refine scans_attribute hnew ?_ ?_
  · refine (scans_name hname hstop).imp ?_
    rintro _ ⟨token, rfl, hword, rfl⟩
    exact .variable hword
  · obtain ⟨c, text, hword, hstart, -⟩ := hname.word
    refine ⟨c, text, hword, ?_⟩
    rintro rfl
    cases hstart

theorem scans_labelAttribute {attributes : LoopAttributes} {label : String}
    (hnew : attributes.has .label = false) (hlabel : IsQuotable label) (rest : List Char) :
    Scans (attributes.Extends { attributes with label := some label })
      (printAttribute .label (printQuoted label)) rest := by
  refine scans_attribute hnew ?_ ?_
  · refine (scans_quoted hlabel rest).imp ?_
    rintro _ ⟨token, rfl, hkind, rfl⟩
    exact .label (Or.inr hkind)
  · refine ⟨quoteFor label, label.toList ++ [quoteFor label], rfl, ?_⟩
    rcases isQuote_quoteFor label with hquote | hquote <;> rw [hquote] <;> decide

theorem stops_optional {part : Option String} (print : String → List Char) {rest : List Char}
    (hstop : Cut.Stops rest) :
    Cut.Stops ((part.elim [] fun value => ' ' :: print value) ++ rest) := by
  cases part with
  | none => exact hstop
  | some value => exact Cut.stops_cons ' ' (by decide) _

theorem LoopHeader.scans {header : LoopHeader} (h : header.Canonical) {rest : List Char}
    (hstop : Cut.Stops rest) : Scans header.Derives header.print rest := by
  obtain ⟨source, item, key, label⟩ := header
  -- The attributes are gone through from the last one: each needs to know what stands behind it.
  have hlast : Scans
      (LoopAttributes.Extends ⟨some source, some item, key, none⟩
        ⟨some source, some item, key, label⟩)
      (label.elim [] fun label => printAttribute .label (printQuoted label)) rest := by
    cases label with
    | none => exact LoopAttributes.scans_extends_self _ rest
    | some label => exact scans_labelAttribute rfl (h.label label rfl) rest
  have hmiddle : Scans
      (LoopAttributes.Extends ⟨some source, some item, none, none⟩
        ⟨some source, some item, key, none⟩)
      (key.elim [] fun key => printAttribute .key key.toList)
      ((label.elim [] fun label => printAttribute .label (printQuoted label)) ++ rest) := by
    cases key with
    | none => exact LoopAttributes.scans_extends_self _ _
    | some key =>
        exact scans_variableAttribute .key rfl (h.key key rfl) (stops_optional _ hstop)
  have hstops : Cut.Stops
      (((key.elim [] fun key => printAttribute .key key.toList) ++
        label.elim [] fun label => printAttribute .label (printQuoted label)) ++ rest) := by
    rw [List.append_assoc]
    exact stops_optional _ (stops_optional _ hstop)
  have hitem : Scans
      (LoopAttributes.Extends ⟨some source, none, none, none⟩
        ⟨some source, some item, none, none⟩)
      (printAttribute .item item.toList)
      (((key.elim [] fun key => printAttribute .key key.toList) ++
        label.elim [] fun label => printAttribute .label (printQuoted label)) ++ rest) :=
    scans_variableAttribute .item rfl h.item hstops
  have hexpr {text : List Char} := Expr.scans h.source (Or.inl rfl)
    (Cut.stops_cons ' ' (by decide) text)
  have hsource {text : List Char} : Scans
      (LoopAttributes.Extends .empty ⟨some source, none, none, none⟩)
      (printAttribute .source source.print) (' ' :: text) :=
    scans_attribute rfl (hexpr.imp fun ts hts => .source hts) source.exists_print_eq_cons
  have hback := LoopAttributes.scans_extends hitem (LoopAttributes.scans_extends hmiddle hlast)
  refine (LoopAttributes.scans_extends hsource hback).imp ?_
  intro ts hts
  exact hts [] .empty

/-! ## Tags -/

/-- One token of a kind. -/
def IsOne (kind : TokenKind) (ts : List Token) : Prop :=
  ∃ token, ts = [token] ∧ token.kind = kind

theorem scans_openTag {c : Char} (hc : c ≠ '*') (text : List Char) :
    ScansBetween AtText AtBrace (IsOne .openTag) ['\x7b'] (c :: text) := by
  intro scanner hscanner
  obtain ⟨hkind, hnext⟩ := AtText.openTag hscanner hc
  exact ⟨[scanner.token], scanner.next, .single (by rw [hkind]; exact nofun),
    ⟨scanner.token, rfl, hkind⟩, hnext⟩

theorem scans_closeTag (rest : List Char) :
    ScansBetween InTag AtText (IsOne .closeTag) ['\x7d'] rest := by
  intro scanner hscanner
  obtain ⟨hkind, hnext⟩ := InTag.closeTag hscanner
  exact ⟨[scanner.token], scanner.next, .single (by rw [hkind]; exact nofun),
    ⟨scanner.token, rfl, hkind⟩, hnext⟩

/-- The keywords are words, and different ones. -/
theorem isWord_keyword {keyword : TokenKind} (h : keyword ∈ TokenKind.keywords) :
    IsWord keyword.name.toList ∧ TokenKind.ofWord keyword.name = keyword := by
  have hall : ∀ kind ∈ TokenKind.keywords,
      IsWord kind.name.toList ∧ TokenKind.ofWord kind.name = kind := by
    decide
  exact hall keyword h

theorem ne_star_of_isWord {c : Char} {word : List Char} (h : IsWord (c :: word)) : c ≠ '*' := by
  obtain ⟨d, rest, heq, hstart, -⟩ := h
  obtain ⟨rfl, -⟩ := List.cons.inj heq
  rintro rfl
  cases hstart

section Tags

variable {keyword : TokenKind} {P : List Token → Prop} {content rest : List Char}

/-- The keyword of a tag and what stands behind it, up to the closing brace. -/
theorem scans_behindBrace (hkeyword : keyword ∈ TokenKind.keywords)
    (hliteral : keyword ≠ .literalWord) (hcontent : Scans P content ('\x7d' :: rest))
    (hstop : Cut.Stops (content ++ ['\x7d'] ++ rest)) :
    ScansBetween AtBrace AtText
      (fun us => ∀ left : Token, left.kind = .openTag →
        ∃ cs, P cs ∧ IsTag keyword cs (left :: us))
      (keyword.name.toList ++ (content ++ ['\x7d'])) rest := by
  obtain ⟨hword, hkind⟩ := isWord_keyword hkeyword
  have hfirst : ScansBetween AtBrace InTag
      (IsToken (TokenKind.ofWord (String.ofList keyword.name.toList))
        (String.ofList keyword.name.toList))
      keyword.name.toList (content ++ ['\x7d'] ++ rest) := by
    refine scans_token (TokenKind.isInner_ofWord _) fun _ hscanner =>
      hscanner.cuts_word hword hstop ?_
    rw [String.ofList_toList, hkind]
    exact hliteral
  rw [String.ofList_toList, hkind] at hfirst
  refine (hfirst.append (hcontent.append (scans_closeTag rest))).imp ?_
  rintro _ ⟨_, _, rfl, ⟨word, rfl, hword, -⟩, cs, _, rfl, hcs, right, rfl, hright⟩ left hleft
  exact ⟨cs, hcs, hleft, hword, hright⟩

theorem scans_tag (hkeyword : keyword ∈ TokenKind.keywords) (hliteral : keyword ≠ .literalWord)
    (hcontent : Scans P content ('\x7d' :: rest))
    (hstop : Cut.Stops (content ++ ['\x7d'] ++ rest)) :
    ScansBetween AtText AtText (fun ts => ∃ cs, P cs ∧ IsTag keyword cs ts)
      (printTag keyword content) rest := by
  obtain ⟨hword, -⟩ := isWord_keyword hkeyword
  have hinside := scans_behindBrace hkeyword hliteral hcontent hstop
  rw [printTag]
  obtain ⟨c, word, hname, hrest⟩ := hword
  rw [hname] at hinside ⊢
  have hopening := scans_openTag (ne_star_of_isWord ⟨c, word, rfl, hrest⟩)
    (word ++ (content ++ ['\x7d']) ++ rest)
  refine (hopening.append hinside).imp ?_
  rintro _ ⟨_, us, rfl, ⟨left, rfl, hleft⟩, hus⟩
  exact hus left hleft

theorem scans_bareTag (hkeyword : keyword ∈ TokenKind.keywords) (hliteral : keyword ≠ .literalWord)
    (rest : List Char) :
    ScansBetween AtText AtText (IsTag keyword []) (printTag keyword []) rest := by
  refine (scans_tag hkeyword hliteral (scans_nil _) (Cut.stops_cons '\x7d' (by decide) rest)).imp ?_
  rintro ts ⟨_, rfl, hts⟩
  exact hts

end Tags

/-! ## Nodes -/

theorem scans_openLiteral (rest : List Char) :
    ScansBetween AtText AtRaw (IsTag .literalWord []) (printTag .literalWord []) rest := by
  intro scanner hscanner
  have hname : TokenKind.literalWord.name.toList = 'l' :: "iteral".toList := by decide
  have htext : scanner.AtText ('\x7b' :: 'l' :: ("iteral".toList ++ '\x7d' :: rest)) := hscanner
  obtain ⟨hopen, hbrace⟩ := htext.openTag (by decide)
  obtain ⟨hword, hclose, hraw⟩ := hbrace.literal
  refine ⟨[scanner.token, scanner.next.token, scanner.next.next.token], _, ?_,
    ⟨hopen, hword, hclose⟩, hraw⟩
  exact .cons (by rw [hopen]; exact nofun)
    (.cons (by rw [hword]; exact nofun) (.single (by rw [hclose]; exact nofun)))

/-- The inside of a literal block, and the brace of the tag that ends it. -/
theorem scans_literalBody {body : String} (h : ¬ Cut.literalEnd <:+: body.toList)
    (rest : List Char) :
    ScansBetween AtRaw AtBrace (Joined (IsLiteralBody body) (IsOne .openTag))
      (body.toList ++ ['\x7b']) ("/literal".toList ++ ['\x7d'] ++ rest) := by
  intro scanner hscanner
  have hend : '\x7b' :: ("/literal".toList ++ ['\x7d'] ++ rest) = Cut.literalEnd ++ rest := by
    rw [literalEnd_append, List.append_assoc]
    rfl
  have hraw : scanner.AtRaw (body.toList ++ (Cut.literalEnd ++ rest)) := by
    rw [← hend]
    rw [List.append_assoc] at hscanner
    exact hscanner
  by_cases hempty : body.toList = []
  · rw [hempty, List.nil_append] at hraw
    obtain ⟨hopen, hbrace⟩ := hraw.openTag
    obtain rfl : body = "" := String.toList_eq_nil_iff.mp hempty
    exact ⟨[scanner.token], scanner.next, .single (by rw [hopen]; exact nofun),
      ⟨[], [scanner.token], rfl, .empty, scanner.token, rfl, hopen⟩, hbrace⟩
  · obtain ⟨htext, hliteral, hnext⟩ := hraw.text hempty h
    rw [← hend] at hnext
    have hslash : "/literal".toList = '/' :: "literal".toList := by decide
    rw [hslash] at hnext ⊢
    obtain ⟨hopen, hbrace⟩ := AtText.openTag hnext (by decide)
    refine ⟨[scanner.token, scanner.next.token], scanner.next.next, ?_, ?_, hbrace⟩
    · exact .cons (by rw [htext]; exact nofun) (.single (by rw [hopen]; exact nofun))
    · refine ⟨[scanner.token], [scanner.next.token], rfl, ?_, scanner.next.token, rfl, hopen⟩
      rw [String.ofList_toList] at hliteral
      rw [← hliteral]
      exact .text htext

/-- A phrase is written by whatever tokens a text between tags is scanned into. -/
abbrev ScansPhrase (phrase : Phrase) (text rest : List Char) : Prop :=
  ScansBetween AtText AtText phrase.Exact text rest

/-- The tokens behind the tag that opens a literal block, up to the end of the block. -/
def EndsLiteral (body : String) (ts : List Token) : Prop :=
  ∃ us vs, ts = us ++ vs ∧ IsLiteralBody body us ∧ IsTag .endLiteralWord [] vs

theorem scans_endLiteral {body : String} (h : ¬ Cut.literalEnd <:+: body.toList)
    (rest : List Char) :
    ScansBetween AtRaw AtText (EndsLiteral body) (body.toList ++ Cut.literalEnd) rest := by
  have hmark : Cut.literalEnd = ['\x7b'] ++ ("/literal".toList ++ ['\x7d']) := by decide
  rw [hmark, ← List.append_assoc]
  have hkeyword : TokenKind.endLiteralWord ∈ TokenKind.keywords := by decide
  have hend := scans_behindBrace hkeyword nofun (scans_nil _)
    (Cut.stops_cons '\x7d' (by decide) rest)
  rw [List.nil_append] at hend
  refine ((scans_literalBody h rest).append hend).imp ?_
  rintro _ ⟨_, vs, rfl, ⟨us, _, rfl, hus, left, rfl, hleft⟩, hvs⟩
  obtain ⟨_, rfl, htag⟩ := hvs left hleft
  exact ⟨us, left :: vs, List.append_assoc us [left] vs, hus, htag⟩

theorem scans_literal {body : String} (h : ¬ Cut.literalEnd <:+: body.toList) (rest : List Char) :
    ScansPhrase (.node (.text body)) (Node.text body).print rest := by
  have hend : printTag .endLiteralWord [] = Cut.literalEnd := by decide
  rw [Node.print, hend]
  refine ((scans_openLiteral _).append (scans_endLiteral h rest)).imp ?_
  rintro _ ⟨ts, _, rfl, hts, us, vs, rfl, hus, hvs⟩
  rw [← List.append_assoc]
  exact .literal hts hus hvs

namespace Expr

theorem BeginsWithVariable.print_eq {expr : Expr} (h : expr.BeginsWithVariable) :
    ∃ text, expr.print = '$' :: text := by
  have happend {text : List Char} (htext : ∃ rest, text = '$' :: rest) (further : List Char) :
      ∃ rest, text ++ further = '$' :: rest := by
    obtain ⟨rest, rfl⟩ := htext
    exact ⟨rest ++ further, rfl⟩
  induction expr with
  | «variable» name => exact ⟨name.toList, rfl⟩
  | number value => exact h.elim
  | string text => exact h.elim
  | field base name ih => exact happend (ih h) _
  | index base position ihBase ihPosition => exact happend (ihBase h) _
  | binary left op right ihLeft ihRight => exact happend (ihLeft h) _
  | pipe input modifier ih => exact happend (ih h) _

/-- Tokens that begin with a dollar. -/
def LeadsWithDollar (ts : List Token) : Prop :=
  ∃ dollar us, ts = dollar :: us ∧ dollar.kind = .dollar

theorem LeadsWithDollar.append {ts : List Token} (h : LeadsWithDollar ts) (us : List Token) :
    LeadsWithDollar (ts ++ us) := by
  obtain ⟨dollar, vs, rfl, hdollar⟩ := h
  exact ⟨dollar, vs ++ us, rfl, hdollar⟩

theorem Derives.leadsWithDollar {expr : Expr} {ts : List Token} (h : expr.Derives ts)
    (hbegins : expr.BeginsWithVariable) : LeadsWithDollar ts := by
  induction h with
  | «variable» hdollar hname => exact ⟨_, _, rfl, hdollar⟩
  | number hdigits => exact hbegins.elim
  | string htext => exact hbegins.elim
  | field hbase htight hdot hname ih => exact (ih hbegins).append _
  | index hbase htight hleft hposition hright ihBase ihPosition =>
      exact ((ihBase hbegins).append _).append _
  | binary hleft hlevel hsign hright htighter ihLeft ihRight => exact (ihLeft hbegins).append _

theorem DerivesPipeline.leadsWithDollar {expr : Expr} {ts : List Token}
    (h : expr.DerivesPipeline ts) (hbegins : expr.BeginsWithVariable) : LeadsWithDollar ts := by
  induction h with
  | expr hinput => exact hinput.leadsWithDollar hbegins
  | pipe hinput hbar hname ih => exact (ih hbegins).append _

end Expr

/-- An expression that begins with a variable, between the braces of a tag. -/
theorem scans_actionTag {expr : Expr} {text rest : List Char} (hbegins : expr.BeginsWithVariable)
    (h : ScansBetween AtBrace InTag expr.DerivesPipeline ('$' :: text) ('\x7d' :: rest)) :
    ScansPhrase (.node (.action expr)) ('\x7b' :: ('$' :: text ++ ['\x7d'])) rest := by
  have hopening := scans_openTag (by decide : '$' ≠ '*') (text ++ ['\x7d'] ++ rest)
  refine (hopening.append (h.append (scans_closeTag rest))).imp ?_
  rintro _ ⟨_, _, rfl, ⟨left, rfl, hleft⟩, us, _, rfl, hus, right, rfl, hright⟩
  obtain ⟨dollar, us, rfl, hdollar⟩ := hus.leadsWithDollar hbegins
  exact .action hleft hdollar hus hright

theorem scans_action {expr : Expr} (h : expr.CanonicalPipeline)
    (hbegins : expr.BeginsWithVariable) (rest : List Char) :
    ScansPhrase (.node (.action expr)) (Node.action expr).print rest := by
  have hinside := Expr.scansPipeline h (Or.inr ⟨rfl, hbegins⟩)
    (Cut.stops_cons '\x7d' (by decide) rest)
  obtain ⟨text, htext⟩ := hbegins.print_eq
  rw [Node.print, htext]
  rw [htext] at hinside
  exact scans_actionTag hbegins hinside

/-! ## Blocks -/

theorem Phrase.Derives.append {passedOver : TokenKind → Prop} {nodes further : List Node}
    {ts us : List Token} (hfirst : Derives passedOver (.block nodes) ts)
    (hsecond : Derives passedOver (.block further) us) :
    Derives passedOver (.block (nodes ++ further)) (ts ++ us) := by
  generalize hphrase : Phrase.block further = phrase at hsecond
  induction hsecond generalizing further with
  | nil =>
      cases hphrase
      rwa [List.append_nil, List.append_nil]
  | add hnodes hnode ihNodes ihNode =>
      cases hphrase
      rw [← List.append_assoc, ← List.append_assoc]
      exact .add (ihNodes rfl) hnode
  | skip hnodes htoken ihNodes =>
      cases hphrase
      rw [← List.append_assoc]
      exact .skip (ihNodes rfl) htoken
  | text | literal | action | conditional | loop | loopOrEmpty | nothing | block | elseIf =>
      cases hphrase

theorem scans_conditionTag {keyword : TokenKind} (hkeyword : keyword ∈ TokenKind.keywords)
    (hliteral : keyword ≠ .literalWord) {condition : Expr} (h : condition.Canonical)
    (rest : List Char) :
    ScansBetween AtText AtText (fun ts => ∃ cs, condition.Derives cs ∧ IsTag keyword cs ts)
      (printTag keyword (' ' :: condition.print)) rest :=
  scans_tag hkeyword hliteral
    (Expr.scans h (Or.inl rfl) (Cut.stops_cons '\x7d' (by decide) rest)).blank
    (Cut.stops_cons ' ' (by decide) _)

theorem scans_loopTag {header : LoopHeader} (h : header.Canonical) (rest : List Char) :
    ScansBetween AtText AtText (fun ts => ∃ hs, header.Derives hs ∧ IsTag .foreachWord hs ts)
      (printTag .foreachWord header.print) rest :=
  scans_tag (by decide) nofun (header.scans h (Cut.stops_cons '\x7d' (by decide) rest))
    (Cut.stops_cons ' ' (by decide) _)

mutual

theorem Node.scans {node : Node} (h : node.Canonical) (rest : List Char) :
    ScansPhrase (.node node) node.print rest := by
  match node, h with
  | .text content, h => exact scans_literal h rest
  | .action expr, ⟨h, hbegins⟩ => exact scans_action h hbegins rest
  | .conditional condition block otherwise, ⟨hcondition, hblock, hotherwise⟩ =>
      have htag := scans_conditionTag (by decide : TokenKind.ifWord ∈ TokenKind.keywords) nofun
        hcondition (Node.printAll block ++ otherwise.print ++ rest)
      have hback := (Node.scansAll hblock _).append (Alternative.scans hotherwise rest)
      refine (htag.append hback).imp ?_
      rintro _ ⟨ts, _, rfl, ⟨cs, hcs, hts⟩, us, vs, rfl, hus, hvs⟩
      rw [← List.append_assoc]
      exact .conditional hts hcs hus hvs
  | .loop header body none, ⟨hheader, hbody⟩ =>
      have hend := scans_bareTag (by decide : TokenKind.endForeachWord ∈ TokenKind.keywords)
        nofun rest
      have hback := (Node.scansAll hbody _).append hend
      refine ((scans_loopTag hheader _).append hback).imp ?_
      rintro _ ⟨ts, _, rfl, ⟨hs, hhs, hts⟩, us, vs, rfl, hus, hvs⟩
      rw [← List.append_assoc]
      exact .loop hts hhs hus hvs
  | .loop header body (some block), ⟨hheader, hbody, hblock⟩ =>
      have hend := scans_bareTag (by decide : TokenKind.endForeachWord ∈ TokenKind.keywords)
        nofun rest
      have helse := (scans_bareTag (by decide : TokenKind.foreachElseWord ∈ TokenKind.keywords)
        nofun _).append ((Node.scansAll hblock _).append hend)
      have hback := (Node.scansAll hbody _).append helse
      refine ((scans_loopTag hheader _).append hback).imp ?_
      rintro _ ⟨ts, _, rfl, ⟨hs, hhs, hts⟩, us, _, rfl, hus, vs, _, rfl, hvs, ws, xs, rfl,
        hws, hxs⟩
      have hloop := Phrase.Derives.loopOrEmpty hts hhs hus hvs hws hxs
      simpa only [List.append_assoc] using hloop

theorem Node.scansAll {nodes : List Node} (h : Node.CanonicalAll nodes) (rest : List Char) :
    ScansPhrase (.block nodes) (Node.printAll nodes) rest := by
  match nodes, h with
  | [], _ =>
      refine (scans_nil rest).imp ?_
      rintro _ rfl
      exact .nil
  | node :: nodes, ⟨hnode, hnodes⟩ =>
      refine ((Node.scans hnode _).append (Node.scansAll hnodes rest)).imp ?_
      rintro _ ⟨ts, us, rfl, hts, hus⟩
      exact (Phrase.Derives.add .nil hts).append hus

theorem Alternative.scans {otherwise : Alternative} (h : otherwise.Canonical)
    (rest : List Char) : ScansPhrase (.ending otherwise) otherwise.print rest := by
  match otherwise, h with
  | .nothing, _ =>
      have hend := scans_bareTag (by decide : TokenKind.endIfWord ∈ TokenKind.keywords)
        nofun rest
      refine hend.imp ?_
      intro ts hts
      exact .nothing hts
  | .block nodes, h =>
      have hend := scans_bareTag (by decide : TokenKind.endIfWord ∈ TokenKind.keywords)
        nofun rest
      have htag := scans_bareTag (by decide : TokenKind.elseWord ∈ TokenKind.keywords) nofun
        (Node.printAll nodes ++ printTag .endIfWord [] ++ rest)
      refine (htag.append ((Node.scansAll h _).append hend)).imp ?_
      rintro _ ⟨ts, _, rfl, hts, us, vs, rfl, hus, hvs⟩
      rw [← List.append_assoc]
      exact .block hts hus hvs
  | .elseIf condition block otherwise, ⟨hcondition, hblock, hotherwise⟩ =>
      have htag := scans_conditionTag (by decide : TokenKind.elseIfWord ∈ TokenKind.keywords)
        nofun hcondition (Node.printAll block ++ otherwise.print ++ rest)
      have hback := (Node.scansAll hblock _).append (Alternative.scans hotherwise rest)
      refine (htag.append hback).imp ?_
      rintro _ ⟨ts, _, rfl, ⟨cs, hcs, hts⟩, us, vs, rfl, hus, hvs⟩
      rw [← List.append_assoc]
      exact .elseIf hts hcs hus hvs

end

/-! ## Sources -/

/-- A canonical tree is read back from its source, without diagnostics. -/
theorem readSource_printSource {nodes : List Node} (h : Node.CanonicalAll nodes) :
    readSource (printSource nodes) = (nodes, []) := by
  have hsource : (printSource nodes).toList = Node.printAll nodes := String.toList_ofList
  have hstart : (ofSource (printSource nodes)).AtText (Node.printAll nodes ++ []) := by
    rw [List.append_nil, ← hsource]
    exact atText_ofSource (printSource nodes)
  obtain ⟨ts, last, hyields, hderives, hlast⟩ := Node.scansAll h [] _ hstart
  obtain ⟨ending, hending, hkind⟩ := tokens_of_ended hlast
  refine readSource_of_derives ?_ ?_ hkind hderives
  · rintro kind ⟨⟩
  · rw [hyields.tokens_eq, hending]

/-- A loop with all its parts, a condition in it whose first block is empty, and modifiers. -/
theorem readSource_printSource_loop :
    let header : LoopHeader :=
      ⟨.index (.variable "rows") (.number (Number.ofDigits ['7'])), "row", some "key",
        some "it\x27s"⟩
    let condition : Expr :=
      .binary (.binary (.field (.variable "row") "n") .less (.string "")) .and (.variable "a")
    let nodes :=
      [Node.text "\x7bx\x7d",
        .loop header [.conditional condition [] (.elseIf (.variable "row") [.text ""] (.block []))]
          (some [.action (.pipe (.pipe (.variable "rows") "trim") "upper")])]
    Node.CanonicalAll nodes ∧ readSource (printSource nodes) = (nodes, []) := by
  intro header condition nodes
  have hnumber : (Expr.number (Number.ofDigits ['7'])).Canonical :=
    ⟨['7'], ⟨by decide, by simp⟩, rfl⟩
  have hrows : IsName "rows" := by decide
  have hrow : IsName "row" := by decide
  have ha : IsName "a" := by decide
  have hempty : IsQuotable "" := by decide
  have hheader : header.Canonical := by
    refine ⟨⟨hrows, rfl, hnumber⟩, hrow, ?_, ?_⟩
    · rintro _ ⟨⟩
      decide
    · rintro _ ⟨⟩
      decide
  have hcondition : condition.Canonical :=
    ⟨⟨⟨hrow, rfl, by decide⟩, by decide, hempty, by decide⟩, by decide, ha, by decide⟩
  have htext : (Node.text "\x7bx\x7d").Canonical ∧ (Node.text "").Canonical := by
    constructor
    · rw [Node.Canonical]
      decide
    · rw [Node.Canonical]
      decide
  have haction : (Node.action (.pipe (.pipe (.variable "rows") "trim") "upper")).Canonical :=
    ⟨⟨⟨hrows, by decide⟩, by decide⟩, trivial⟩
  have hcanonical : Node.CanonicalAll nodes :=
    ⟨htext.1, ⟨hheader, ⟨⟨hcondition, trivial, hrow, ⟨htext.2, trivial⟩, trivial⟩, trivial⟩,
      haction, trivial⟩, trivial⟩
  exact ⟨hcanonical, readSource_printSource hcanonical⟩

end Stencil
