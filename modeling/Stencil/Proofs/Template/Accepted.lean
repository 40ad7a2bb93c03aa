import Mathlib.Data.List.Permutation
import Stencil.Proofs.Template.ReadTemplate
import Stencil.Template.Basic

/-!
# Sources without diagnostics

The steps of a reading put together.  A source that is read without diagnostics is a derivation
of its tree in the grammar of templates, with comments between nodes and nothing else passed
over; without the comments it is a derivation in the grammar that passes over nothing.
-/

namespace Stencil

namespace OpenTemplate

/-! ## The end of a source -/

theorem diagnostics_foldl_abandonFrame (frames : List Frame) (template : OpenTemplate) :
    (frames.foldl abandonFrame template).diagnostics =
      template.diagnostics ++ frames.map Frame.unterminated := by
  induction frames generalizing template with
  | nil => simp
  | cons frame outer ih =>
      rw [List.foldl_cons, ih]
      simp [abandonFrame]

/-- At the end of a source, each condition or loop that still waits costs a diagnostic. -/
theorem diagnostics_closeAll (template : OpenTemplate) :
    template.closeAll.diagnostics =
      template.diagnostics ++ template.frames.map Frame.unterminated :=
  diagnostics_foldl_abandonFrame template.frames template

theorem closeAll_of_diagnostics_eq_nil
    {template : OpenTemplate} (h : template.closeAll.diagnostics = []) :
    template.diagnostics = [] ∧ template.frames = [] ∧ template.closeAll = template := by
  rw [diagnostics_closeAll] at h
  obtain ⟨hdiagnostics, hframes⟩ := List.append_eq_nil_iff.mp h
  have hnil : template.frames = [] := List.map_eq_nil_iff.mp hframes
  refine ⟨hdiagnostics, hnil, ?_⟩
  rw [closeAll, hnil]
  rfl

theorem diagnostics_eq_nil_of_read
    {template : OpenTemplate} {ts : List Token} (h : (template.read ts).diagnostics = []) :
    template.diagnostics = [] := by
  induction ts generalizing template with
  | nil => exact h
  | cons token ts ih => exact (diagnostics_eq_nil_of_step (ih h)).1

/-- Nothing but text between tags can stand in front of the end of a source. -/
theorem goOn_of_cleanStep_end
    {template next : OpenTemplate} {scanner : Scanner}
    (hstep : CleanStep template scanner.token next) (haligned : template.mode.Aligned scanner)
    (hend : scanner.token.kind = .endOfInput) :
    template.mode = .text ∧ next = template.goOn .text := by
  have hinner : scanner.token.kind.isInner ≠ true := by
    rw [hend]
    exact nofun
  have hclose : scanner.token.kind ≠ .closeTag := by
    rw [hend]
    exact nofun
  cases hstep with
  | stray hmode htext hbrace => exact ⟨hmode, rfl⟩
  | continuation hmode hframes hcontinuation =>
      exact (hinner (Frame.continuation?_cases hcontinuation).1).elim
  | action hmode hstep => exact (hinner (OpenAction.isInner_of_step_more hstep)).elim
  | ifTag hmode hstep => exact (hinner (OpenCondition.isInner_of_step_more hstep)).elim
  | elseIfTag hmode hstep => exact (hinner (OpenCondition.isInner_of_step_more hstep)).elim
  | foreachTag hmode hstep => exact (hinner (OpenLoop.isInner_of_step_more hstep)).elim
  | actionEnd hmode hstep => exact (hclose (OpenAction.kind_of_step_done hstep)).elim
  | ifTagEnd hmode hstep => exact (hclose (OpenCondition.kind_of_step_done hstep)).elim
  | elseIfTagEnd hmode hstep => exact (hclose (OpenCondition.kind_of_step_done hstep)).elim
  | foreachTagEnd hmode hstep => exact (hclose (OpenLoop.kind_of_step_done hstep)).elim
  | skipping hmode hkind =>
      rw [hmode] at haligned
      exact haligned.elim
  | skippingEnd hmode hkind => exact (hclose hkind).elim
  | text hmode hkind | brace hmode hkind | dollar hmode hkind | ifWord hmode hkind
  | foreachWord hmode hkind | literalWord hmode hkind | keyword hmode hkind
  | literal hmode hkind | literalBrace hmode hkind | endLiteral hmode hkind =>
      rw [hend] at hkind
      cases hkind

/-! ## Whole readings -/

/-- What holds between two tokens of a reading that has recorded nothing so far. -/
structure Settled (template : OpenTemplate) (scanner : Scanner) (ts : List Token) : Prop where
  read : template.Read ts
  aligned : template.mode.Aligned scanner
  last : ∀ last ∈ ts.getLast?, last.kind = .text → scanner.token.kind ≠ .text

theorem settled_start (source : String) : Settled start (Scanner.ofSource source) [] :=
  ⟨read_start, rfl, nofun⟩

theorem settled_step
    {template next : OpenTemplate} {scanner : Scanner} {ts : List Token}
    (h : Settled template scanner ts) (hend : scanner.token.kind ≠ .endOfInput)
    (hstep : CleanStep template scanner.token next) :
    Settled next scanner.next (ts ++ [scanner.token]) := by
  have houter (hmode : template.mode = .text) : scanner.token.kind.isOuter = true := by
    have haligned := h.aligned
    rw [hmode] at haligned
    exact Scanner.isOuter_token (by rw [haligned]; exact nofun)
  refine ⟨read_of_cleanStep h.read hstep houter hend h.last,
    aligned_of_cleanStep h.aligned hend hstep, ?_⟩
  intro last hlast hkind
  have heq : scanner.token = last := by simpa using hlast
  rw [← heq] at hkind
  exact Scanner.kind_next_ne_text hkind

/-- A reading that records nothing to its end has derived all tokens but the one that says so. -/
theorem derives_of_settled
    {template : OpenTemplate} {scanner : Scanner} {ts : List Token}
    (h : Settled template scanner ts)
    (hdiagnostics : (template.read scanner.tokens).closeAll.diagnostics = []) :
    ∃ us ending, scanner.tokens = us ++ [ending] ∧ ending.kind = .endOfInput ∧
      (Phrase.block (template.read scanner.tokens).closeAll.nodes).Commented (ts ++ us) := by
  induction scanner using Scanner.tokens.induct generalizing template ts with
  | case1 scanner hend =>
      rw [Scanner.tokens, if_pos hend] at hdiagnostics ⊢
      obtain ⟨hnil, hframes, hclosed⟩ := closeAll_of_diagnostics_eq_nil hdiagnostics
      obtain ⟨-, hstep⟩ := diagnostics_eq_nil_of_step hnil
      obtain ⟨hmode, hnext⟩ := goOn_of_cleanStep_end hstep h.aligned hend
      refine ⟨[], scanner.token, rfl, hend, ?_⟩
      rw [hclosed]
      obtain ⟨us, vs, ws, hread, hnodes, htag, rfl⟩ := h.read
      have hlast : template.read [scanner.token] = template.goOn .text := hnext
      rw [hlast] at hframes ⊢
      have houter : template.frames = [] := hframes
      rw [houter] at hread
      rw [hmode] at htag
      cases hread
      cases htag
      change (Phrase.block template.nodes).Commented _
      simpa using hnodes
  | case2 scanner hend ih =>
      rw [Scanner.tokens, if_neg hend] at hdiagnostics ⊢
      have hnil := (closeAll_of_diagnostics_eq_nil hdiagnostics).1
      have hfirst : (template.step scanner.token).diagnostics = [] :=
        diagnostics_eq_nil_of_read hnil
      have hstep := (diagnostics_eq_nil_of_step hfirst).2
      obtain ⟨us, ending, htokens, hending, hderives⟩ :=
        ih (settled_step h hend hstep) hdiagnostics
      refine ⟨scanner.token :: us, ending, by simp [htokens], hending, ?_⟩
      rw [List.append_assoc] at hderives
      exact hderives

end OpenTemplate

/-! ## Leaving comments out -/

/-- Tokens that can all stand between the braces of a tag. -/
def AllInner (ts : List Token) : Prop :=
  ∀ token ∈ ts, token.kind.isInner = true

theorem allInner_append {ts us : List Token} (hts : AllInner ts) (hus : AllInner us) :
    AllInner (ts ++ us) := by
  intro token htoken
  rcases List.mem_append.mp htoken with h | h
  · exact hts token h
  · exact hus token h

theorem allInner_cons {token : Token} {ts : List Token} (htoken : token.kind.isInner = true)
    (hts : AllInner ts) : AllInner (token :: ts) := by
  intro other hother
  rcases List.mem_cons.mp hother with rfl | h
  · exact htoken
  · exact hts other h

theorem allInner_nil : AllInner [] := nofun

theorem Expr.allInner_of_derives {expr : Expr} {ts : List Token} (h : expr.Derives ts) :
    AllInner ts := by
  induction h with
  | «variable» hdollar hname =>
      exact allInner_cons (TokenKind.isInner_of_eq hdollar rfl)
        (allInner_cons (TokenKind.isInner_of_isWord hname) allInner_nil)
  | number hdigits => exact allInner_cons (TokenKind.isInner_of_eq hdigits rfl) allInner_nil
  | string htext => exact allInner_cons (TokenKind.isInner_of_eq htext rfl) allInner_nil
  | field hbase htight hdot hname ih =>
      exact allInner_append ih (allInner_cons (TokenKind.isInner_of_eq hdot rfl)
        (allInner_cons (TokenKind.isInner_of_isWord hname) allInner_nil))
  | index hbase htight hleft hposition hright ihBase ihPosition =>
      exact allInner_append
        (allInner_append ihBase (allInner_cons (TokenKind.isInner_of_eq hleft rfl) ihPosition))
        (allInner_cons (TokenKind.isInner_of_eq hright rfl) allInner_nil)
  | binary hleft hlevel hsign hright htighter ihLeft ihRight =>
      exact allInner_append ihLeft
        (allInner_cons (BinaryOp.isInner_of_ofKind? hsign) ihRight)

theorem Expr.allInner_of_derivesPipeline {expr : Expr} {ts : List Token}
    (h : expr.DerivesPipeline ts) : AllInner ts := by
  induction h with
  | expr hinput => exact Expr.allInner_of_derives hinput
  | pipe hinput hbar hname ih =>
      exact allInner_append ih (allInner_cons (TokenKind.isInner_of_eq hbar rfl)
        (allInner_cons (TokenKind.isInner_of_isWord hname) allInner_nil))

theorem LoopAttributes.allInner_of_adds {attributes further : LoopAttributes}
    {which : LoopAttribute} {ts : List Token} (h : attributes.Adds which ts further) :
    AllInner ts := by
  cases h with
  | source hexpr => exact Expr.allInner_of_derives hexpr
  | «variable» hname => exact allInner_cons (TokenKind.isInner_of_isWord hname) allInner_nil
  | dollarVariable hdollar hname =>
      exact allInner_cons (TokenKind.isInner_of_eq hdollar rfl)
        (allInner_cons (TokenKind.isInner_of_isWord hname) allInner_nil)
  | label hname =>
      rcases hname with hword | hstring
      · exact allInner_cons (TokenKind.isInner_of_isWord hword) allInner_nil
      · exact allInner_cons (TokenKind.isInner_of_eq hstring rfl) allInner_nil

theorem LoopAttributes.allInner_of_derives {attributes : LoopAttributes} {ts : List Token}
    (h : attributes.Derives ts) : AllInner ts := by
  induction h with
  | empty => exact allInner_nil
  | add hattributes hnew hname hvalue ih =>
      exact allInner_append ih (allInner_cons (TokenKind.isInner_of_eq hname.kind rfl)
        (allInner_cons (TokenKind.isInner_of_eq hname.assign rfl)
          (LoopAttributes.allInner_of_adds hvalue)))

/-- The tokens that are not comments. -/
def withoutComments (ts : List Token) : List Token :=
  ts.filter (·.kind != .comment)

theorem withoutComments_append (ts us : List Token) :
    withoutComments (ts ++ us) = withoutComments ts ++ withoutComments us :=
  List.filter_append ts us

theorem withoutComments_of_forall {ts : List Token} (h : ∀ token ∈ ts, token.kind ≠ .comment) :
    withoutComments ts = ts :=
  List.filter_eq_self.mpr fun token htoken => bne_iff_ne.mpr (h token htoken)

/-- There are no comments between the braces of a tag. -/
theorem withoutComments_of_allInner {ts : List Token} (h : AllInner ts) :
    withoutComments ts = ts := by
  refine withoutComments_of_forall ?_
  intro token htoken
  exact TokenKind.ne_of_isInner (h token htoken) rfl

theorem IsTag.withoutComments_eq {keyword : TokenKind} {content ts : List Token}
    (h : IsTag keyword content ts) (hkeyword : keyword ≠ .comment) (hcontent : AllInner content) :
    withoutComments ts = ts := by
  obtain @⟨left, word, right, hleft, hword, hright⟩ := h
  have houtside : withoutComments [left, word] = [left, word] ∧
      withoutComments [right] = [right] := by
    constructor
    · exact withoutComments_of_forall (by simp [hleft, hword, hkeyword])
    · exact withoutComments_of_forall (by simp [hright])
  have hsplit : left :: word :: content ++ [right] = [left, word] ++ content ++ [right] := rfl
  rw [hsplit, withoutComments_append, withoutComments_append, houtside.1, houtside.2,
    withoutComments_of_allInner hcontent]

theorem IsLiteralBody.withoutComments_eq {body : String} {ts : List Token}
    (h : IsLiteralBody body ts) : withoutComments ts = ts := by
  cases h with
  | empty => rfl
  | text hbody => exact withoutComments_of_forall (by simp [hbody])

namespace Phrase

/-- Comments stand between nodes only, so a derivation without them passes over nothing. -/
theorem exact_of_commented {phrase : Phrase} {ts : List Token} (h : phrase.Commented ts) :
    phrase.Exact (withoutComments ts) := by
  induction h with
  | text htext =>
      rw [withoutComments_of_forall (by simp [htext])]
      exact .text htext
  | literal hopening hbody hend =>
      rw [withoutComments_append, withoutComments_append,
        hopening.withoutComments_eq nofun allInner_nil, hbody.withoutComments_eq,
        hend.withoutComments_eq nofun allInner_nil]
      exact .literal hopening hbody hend
  | @action expr us left dollar right hleft hdollar hexpr hright =>
      have htag : IsTag .dollar us (left :: dollar :: us ++ [right]) := ⟨hleft, hdollar, hright⟩
      have hinner := Expr.allInner_of_derivesPipeline hexpr
      rw [htag.withoutComments_eq nofun fun token htoken =>
        hinner token (List.mem_cons_of_mem dollar htoken)]
      exact .action hleft hdollar hexpr hright
  | conditional htag hcondition hblock hotherwise ihBlock ihOtherwise =>
      rw [withoutComments_append, withoutComments_append,
        htag.withoutComments_eq nofun (Expr.allInner_of_derives hcondition)]
      exact .conditional htag hcondition ihBlock ihOtherwise
  | loop htag hheader hbody hend ihBody =>
      rw [withoutComments_append, withoutComments_append,
        htag.withoutComments_eq nofun (LoopAttributes.allInner_of_derives hheader),
        hend.withoutComments_eq nofun allInner_nil]
      exact .loop htag hheader ihBody hend
  | loopOrEmpty htag hheader hbody helse hifEmpty hend ihBody ihEmpty =>
      simp only [withoutComments_append]
      rw [htag.withoutComments_eq nofun (LoopAttributes.allInner_of_derives hheader),
        helse.withoutComments_eq nofun allInner_nil, hend.withoutComments_eq nofun allInner_nil]
      exact .loopOrEmpty htag hheader ihBody helse ihEmpty hend
  | nil => exact .nil
  | add hnodes hnode ihNodes ihNode =>
      rw [withoutComments_append]
      exact .add ihNodes ihNode
  | @skip nodes ts token hnodes htoken ihNodes =>
      have hnone : withoutComments [token] = [] := by
        simp [withoutComments, htoken]
      rw [withoutComments_append, hnone, List.append_nil]
      exact ihNodes
  | nothing hend =>
      rw [hend.withoutComments_eq nofun allInner_nil]
      exact .nothing hend
  | block helse hnodes hend ihNodes =>
      rw [withoutComments_append, withoutComments_append,
        helse.withoutComments_eq nofun allInner_nil, hend.withoutComments_eq nofun allInner_nil]
      exact .block helse ihNodes hend
  | elseIf htag hcondition hblock hotherwise ihBlock ihOtherwise =>
      rw [withoutComments_append, withoutComments_append,
        htag.withoutComments_eq nofun (Expr.allInner_of_derives hcondition)]
      exact .elseIf htag hcondition ihBlock ihOtherwise

end Phrase

/-- A source that is read without diagnostics is a derivation of its tree.  Comments stand
between nodes and nowhere else, and without them every token of the source is a token of the
tree. -/
theorem derives_of_readSource
    {source : String} {nodes : List Node} (h : readSource source = (nodes, [])) :
    ∃ ts ending, (Scanner.ofSource source).tokens = ts ++ [ending] ∧
      ending.kind = .endOfInput ∧ (Phrase.block nodes).Commented ts ∧
      (Phrase.block nodes).Exact (withoutComments ts) := by
  obtain ⟨hnodes, hdiagnostics⟩ := Prod.mk.inj h
  obtain ⟨ts, ending, htokens, hending, hderives⟩ :=
    OpenTemplate.derives_of_settled (OpenTemplate.settled_start source) hdiagnostics
  have hcommented : (Phrase.block nodes).Commented ts := by
    rw [← hnodes]
    exact hderives
  exact ⟨ts, ending, htokens, hending, hcommented, Phrase.exact_of_commented hcommented⟩

/-- A comment, and a loop with its attributes out of order and a block for no items. -/
theorem derives_of_readSource_loop :
    let source := "\x7b* rows *\x7d\x7bforeach key=k from=$a.b item=$v\x7d" ++
      "\x7b$v|upper\x7d\x7bforeachelse\x7d-\x7b/foreach\x7d"
    let nodes :=
      [Node.loop ⟨.field (.variable "a") "b", "v", some "k", none⟩
        [.action (.pipe (.variable "v") "upper")] (some [.text "-"])]
    readSource source = (nodes, []) ∧
      ∃ ts ending, (Scanner.ofSource source).tokens = ts ++ [ending] ∧
        ending.kind = .endOfInput ∧ (Phrase.block nodes).Commented ts ∧
        (Phrase.block nodes).Exact (withoutComments ts) := by
  intro source nodes
  have hread : readSource source = (nodes, []) := by
    simp only [source, nodes, readSource]
    cbv
  exact ⟨hread, derives_of_readSource hread⟩

end Stencil
