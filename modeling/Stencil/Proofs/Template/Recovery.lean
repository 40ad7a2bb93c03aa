import Stencil.Proofs.Template.Composition
import Stencil.Proofs.Template.Diagnostics
import Stencil.Proofs.Template.ParseTemplate

/-!
# A malformed tag costs one diagnostic

Whatever is wrong with a tag that puts out an expression, reading goes on behind the first
closing brace, with the expression as a node or with one diagnostic, and nothing else has
changed.  The invariant is on the template inside the tag: it is the one in front of the tag
with part of the expression, or with a diagnostic and what is left of the tag to be skipped.  A
tag of no kind is reported at once, and what is left of it is passed over between tags.

So a source that is one such tag can stand between two others, and each of these is read as it
is alone.
-/

namespace Stencil

/-- A diagnostic with the place of one of some tokens. -/
def Diagnostic.IsAt (diagnostic : Diagnostic) (ts : List Token) : Prop :=
  ∃ token ∈ ts, diagnostic.position = token.position

theorem Diagnostic.IsAt.append {diagnostic : Diagnostic} {ts : List Token}
    (h : diagnostic.IsAt ts) (us : List Token) : diagnostic.IsAt (ts ++ us) := by
  obtain ⟨token, htoken, hposition⟩ := h
  exact ⟨token, List.mem_append_left us htoken, hposition⟩

theorem Diagnostic.isAt_concat {diagnostic : Diagnostic} {token : Token}
    (h : diagnostic.position = token.position) (ts : List Token) :
    diagnostic.IsAt (ts ++ [token]) :=
  ⟨token, List.mem_concat_self, h⟩

/-! ## What a step that fails reports -/

theorem expected_of_closeWith_failed {State Result : Type} {result : Result} {token : Token}
    {diagnostic : Diagnostic}
    (h : (closeWith result token : Progress State Result) = .failed diagnostic) :
    ∃ what, diagnostic = .expected what token := by
  rw [closeWith] at h
  split at h
  · cases h
  · cases h
    exact ⟨_, rfl⟩

namespace OpenExpr

/-- An expression that cannot be read is reported at the token that cannot stand there. -/
theorem expected_of_step_failed {expr : OpenExpr} {token : Token} {diagnostic : Diagnostic}
    (h : expr.step token = .failed diagnostic) : ∃ what, diagnostic = .expected what token := by
  have hname {pending : List Pending} {what : Expectation} {named : String → Expr}
      (h : stepName pending what named token = .failed diagnostic) :
      ∃ what, diagnostic = .expected what token := by
    rw [stepName] at h
    split at h
    · cases h
    · cases h
      exact ⟨_, rfl⟩
  rw [step] at h
  cases hpoint : expr.point with
  | operand =>
      simp only [hpoint, stepOperand] at h
      split at h <;> cases h
      exact ⟨_, rfl⟩
  | variableName =>
      rw [hpoint] at h
      exact hname h
  | suffix operand =>
      simp only [hpoint, stepSuffix] at h
      split at h
      · cases h
      · cases h
      · split at h
        · cases h
        · rw [close] at h
          split at h
          · split at h <;> cases h
            exact ⟨_, rfl⟩
          · cases h
  | propertyName base =>
      rw [hpoint] at h
      exact hname h

end OpenExpr

theorem OpenAction.expected_of_step_failed {action : OpenAction} {token : Token}
    {diagnostic : Diagnostic} (h : action.step token = .failed diagnostic) :
    ∃ what, diagnostic = .expected what token := by
  have hpipeline {input : Expr} (h : stepPipeline input token = .failed diagnostic) :
      ∃ what, diagnostic = .expected what token := by
    rw [stepPipeline] at h
    split at h
    · cases h
    · exact expected_of_closeWith_failed h
  cases action with
  | expr part =>
      simp only [step] at h
      split at h
      · cases h
      · exact hpipeline h
      · rename_i hpart
        cases h
        exact OpenExpr.expected_of_step_failed hpart
  | pipeline input => exact hpipeline h
  | modifier input =>
      simp only [step] at h
      split at h
      · cases h
      · cases h
        exact ⟨_, rfl⟩

namespace OpenTemplate

/-! ## Tags that put out an expression -/

/-- Where reading stands inside a tag that puts out an expression, between its braces: the tag
has cost nothing so far, or it has cost a diagnostic and what is left of it is skipped. -/
inductive InAction (base : OpenTemplate) (ts : List Token) : OpenTemplate → Prop
  | part (part : OpenAction) : InAction base ts (base.goOn (.action part))
  | skipping {diagnostic : Diagnostic} (h : diagnostic.IsAt ts) :
      InAction base ts ((base.report diagnostic).goOn .skipping)

section InAction

variable {base template : OpenTemplate} {ts us : List Token} {token : Token}

theorem step_goOn_action (base : OpenTemplate) (part : OpenAction) (token : Token) :
    (base.goOn (.action part)).step token = (base.goOn (.action part)).stepAction part token :=
  rfl

theorem mode_of_inAction (h : InAction base ts template) : template.mode ≠ .text := by
  cases h with
  | part => exact nofun
  | skipping => exact nofun

/-- A token that does not close the tag leaves the reader inside it. -/
theorem inAction_step (h : InAction base ts template) (hkind : token.kind ≠ .closeTag) :
    InAction base (ts ++ [token]) (template.step token) := by
  cases h with
  | part part =>
      rw [step_goOn_action, stepAction]
      split
      · exact .part _
      · rename_i hdone
        exact absurd (OpenAction.kind_of_step_done hdone) hkind
      · rename_i hfailed
        obtain ⟨what, rfl⟩ := OpenAction.expected_of_step_failed hfailed
        rw [goOnBehind, if_neg hkind]
        exact .skipping (Diagnostic.isAt_concat rfl ts)
  | @skipping diagnostic h =>
      have hstep : ((base.report diagnostic).goOn .skipping).step token =
          (base.report diagnostic).goOn .skipping := if_neg hkind
      rw [hstep]
      exact .skipping (h.append [token])

theorem inAction_read (h : InAction base ts template)
    (hus : ∀ token ∈ us, token.kind ≠ .closeTag) :
    InAction base (ts ++ us) (template.read us) := by
  induction us generalizing ts template with
  | nil =>
      rw [List.append_nil]
      exact h
  | cons token us ih =>
      obtain ⟨htoken, hus⟩ := List.forall_mem_cons.mp hus
      have hread := ih (inAction_step h htoken) hus
      rw [List.append_assoc] at hread
      exact hread

/-- The closing brace leads out of the tag, with a node or with one diagnostic. -/
theorem step_closeTag_of_inAction (h : InAction base ts template) (hkind : token.kind = .closeTag) :
    (∃ expr, template.step token = (base.push (.action expr)).goOn .text) ∨
      ∃ diagnostic : Diagnostic, diagnostic.IsAt (ts ++ [token]) ∧
        template.step token = (base.report diagnostic).goOn .text := by
  cases h with
  | part part =>
      rw [step_goOn_action, stepAction]
      split
      · rename_i hmore
        have hinner := OpenAction.isInner_of_step_more hmore
        rw [hkind] at hinner
        cases hinner
      · exact .inl ⟨_, rfl⟩
      · rename_i hfailed
        obtain ⟨what, rfl⟩ := OpenAction.expected_of_step_failed hfailed
        rw [goOnBehind, if_pos hkind]
        exact .inr ⟨_, Diagnostic.isAt_concat rfl ts, rfl⟩
  | skipping h => exact .inr ⟨_, h.append [token], if_pos hkind⟩

end InAction

theorem goOn_text_of_mode {template : OpenTemplate} (h : template.mode = .text) :
    template.goOn .text = template := by
  rw [goOn, ← h]

/-- Tokens that lead from between two tags to between two tags again, and not before they have
all been read. -/
structure Consumes (template : OpenTemplate) (ts : List Token) (next : OpenTemplate) : Prop where
  read : template.read ts = next
  mode : next.mode = .text
  inside : ∀ front back, ts = front ++ back → front ≠ [] → back ≠ [] →
    (template.read front).mode ≠ .text

section Action

variable {template : OpenTemplate} {left dollar right : Token} {us : List Token}
  (hmode : template.mode = .text) (hleft : left.kind = .openTag)

include hmode hleft

theorem step_left : template.step left = template.goOn .brace := by
  obtain ⟨mode, nodes, frames, diagnostics⟩ := template
  cases hmode
  exact step_openTag hleft

theorem inAction_start (hdollar : dollar.kind = .dollar) :
    InAction template [left, dollar] (template.read [left, dollar]) := by
  have hread : template.read [left, dollar] = template.goOn (.action .start) := by
    obtain ⟨mode, nodes, frames, diagnostics⟩ := template
    cases hmode
    rw [read_cons, step_openTag hleft]
    exact step_dollar hdollar
  rw [hread]
  exact .part .start

/-- In front of the last brace of such a tag the reader is inside it. -/
theorem mode_read_of_prefix (hdollar : dollar.kind = .dollar)
    (hus : ∀ token ∈ us, token.kind ≠ .closeTag) {front back : List Token}
    (hsplit : left :: dollar :: us = front ++ back) (hfront : front ≠ []) :
    (template.read front).mode ≠ .text := by
  obtain ⟨first, front, rfl⟩ := List.exists_cons_of_ne_nil hfront
  obtain ⟨rfl, hrest⟩ := List.cons.inj hsplit
  cases front with
  | nil =>
      change (template.step left).mode ≠ .text
      rw [step_left hmode hleft]
      exact nofun
  | cons second front =>
      obtain ⟨rfl, rfl⟩ := List.cons.inj hrest
      have hread := inAction_read (inAction_start hmode hleft hdollar)
        fun token htoken => hus token (List.mem_append_left back htoken)
      exact mode_of_inAction hread

/-- A tag that begins with a dollar is consumed up to its first closing brace, for a node or one
diagnostic. -/
theorem consumes_action (hdollar : dollar.kind = .dollar)
    (hus : ∀ token ∈ us, token.kind ≠ .closeTag) (hright : right.kind = .closeTag) :
    ∃ next, template.Consumes (left :: dollar :: us ++ [right]) next ∧
      ((∃ expr, next = template.push (.action expr)) ∨
        ∃ diagnostic : Diagnostic, diagnostic.IsAt (left :: dollar :: us ++ [right]) ∧
          next = template.report diagnostic) := by
  have hread := inAction_read (inAction_start hmode hleft hdollar) hus
  have hlast : template.read (left :: dollar :: us ++ [right]) =
      ((template.read [left, dollar]).read us).step right := by
    rw [read_append]
    rfl
  have hinside (front back : List Token)
      (hsplit : left :: dollar :: us ++ [right] = front ++ back) (hfront : front ≠ [])
      (hback : back ≠ []) : (template.read front).mode ≠ .text := by
    obtain hnil | ⟨back, last, rfl⟩ := List.eq_nil_or_concat' back
    · exact absurd hnil hback
    · rw [← List.append_assoc] at hsplit
      exact mode_read_of_prefix hmode hleft hdollar hus (List.append_inj' hsplit rfl).1 hfront
  rcases step_closeTag_of_inAction hread hright with ⟨expr, hstep⟩ | ⟨diagnostic, hat, hstep⟩
  · refine ⟨template.push (.action expr), ⟨?_, hmode, hinside⟩, .inl ⟨expr, rfl⟩⟩
    rw [hlast, hstep]
    exact goOn_text_of_mode hmode
  · refine ⟨template.report diagnostic, ⟨?_, hmode, hinside⟩, .inr ⟨diagnostic, hat, rfl⟩⟩
    rw [hlast, hstep]
    exact goOn_text_of_mode hmode

end Action

/-! ## Tags of no kind -/

/-- The tokens that begin a tag wherever there may be one. -/
def tagKinds : List TokenKind :=
  [.dollar, .ifWord, .foreachWord, .literalWord, .foreachElseWord]

/-- A token that begins no tag here: neither one that there may be anywhere, nor one that goes
on with the innermost condition or loop or ends it. -/
structure BeginsNoTag (template : OpenTemplate) (kind : TokenKind) : Prop where
  tag : kind ∉ tagKinds
  continuation : (template.frames.head?.bind fun frame => frame.continuation? kind) = none

section Unknown

variable {template : OpenTemplate} {left next right : Token} {us : List Token}

/-- A token that is passed over between tags: it is neither text nor the brace that opens a tag. -/
def IsPassedOver (token : Token) : Prop :=
  token.kind ≠ .text ∧ token.kind ≠ .openTag

theorem stepText_of_isPassedOver (h : IsPassedOver next) (template : OpenTemplate) :
    template.stepText next = template.goOn .text := by
  rw [stepText]
  split
  · rename_i hkind
    exact absurd hkind h.1
  · rename_i hkind
    exact absurd hkind h.2
  · rfl

theorem read_of_isPassedOver (hmode : template.mode = .text)
    (hus : ∀ token ∈ us, IsPassedOver token) :
    template.read us = template := by
  induction us with
  | nil => rfl
  | cons token us ih =>
      obtain ⟨htoken, hus⟩ := List.forall_mem_cons.mp hus
      have hstep : template.step token = template := by
        rw [step, hmode]
        exact (stepText_of_isPassedOver htoken template).trans (goOn_text_of_mode hmode)
      rw [read_cons, hstep]
      exact ih hus

theorem stepBrace_of_beginsNoTag (h : template.BeginsNoTag next.kind) :
    template.stepBrace next =
      (template.report ⟨.unknownTag next, next.position⟩).stepText next := by
  have hne {kind : TokenKind} (hkind : kind ∈ tagKinds) : next.kind ≠ kind := by
    rintro rfl
    exact h.tag hkind
  rw [stepBrace, h.continuation]
  dsimp only
  split
  · exact absurd ‹_› (hne (by decide))
  · exact absurd ‹_› (hne (by decide))
  · exact absurd ‹_› (hne (by decide))
  · exact absurd ‹_› (hne (by decide))
  · exact absurd ‹_› (hne (by decide))
  · rfl

/-- A tag of no kind costs one diagnostic, and the rest of it is passed over. -/
theorem read_unknownTag (hmode : template.mode = .text) (hleft : left.kind = .openTag)
    (hus : ∀ token ∈ us, token.kind.isInner = true) (hright : right.kind = .closeTag)
    (hnext : next ∈ (us ++ [right]).head?) (h : template.BeginsNoTag next.kind) :
    template.read (left :: us ++ [right]) =
      template.report ⟨.unknownTag next, next.position⟩ := by
  have hpassed : ∀ token ∈ us ++ [right], IsPassedOver token := by
    intro token htoken
    rcases List.mem_append.mp htoken with hmem | hmem
    · have hinner := hus token hmem
      exact ⟨TokenKind.ne_of_isInner hinner rfl, TokenKind.ne_of_isInner hinner rfl⟩
    · rw [IsPassedOver, List.mem_singleton.mp hmem, hright]
      decide
  obtain ⟨rest, hrest⟩ := List.head?_eq_some_iff.mp hnext
  rw [hrest] at hpassed
  obtain ⟨hfirst, hpassed⟩ := List.forall_mem_cons.mp hpassed
  have hbrace : (template.goOn .brace).stepBrace next =
      template.report ⟨.unknownTag next, next.position⟩ := by
    have hnone : (template.goOn .brace).BeginsNoTag next.kind := ⟨h.tag, h.continuation⟩
    have hreport : (template.report ⟨.unknownTag next, next.position⟩).mode = .text := hmode
    rw [stepBrace_of_beginsNoTag hnone, stepText_of_isPassedOver hfirst]
    exact goOn_text_of_mode hreport
  rw [List.cons_append, hrest, read_cons, step_left hmode hleft, read_cons]
  change ((template.goOn .brace).stepBrace next).read rest = _
  rw [hbrace]
  exact read_of_isPassedOver hmode hpassed

end Unknown

/-- The last token of a source changes nothing between tags, and where nothing is open there is
nothing to close. -/
theorem closeAll_read_ending {template : OpenTemplate} {ending : Token}
    (hmode : template.mode = .text) (hframes : template.frames = [])
    (hending : ending.kind = .endOfInput) :
    (template.read [ending]).closeAll = template := by
  have hpassed : IsPassedOver ending := by
    rw [IsPassedOver, hending]
    decide
  rw [read_of_isPassedOver hmode (List.forall_mem_singleton.mpr hpassed), closeAll, hframes]
  rfl

end OpenTemplate

/-! ## Sources that are one tag -/

namespace Scanner

theorem Yields.split {scanner last : Scanner} {ts us : List Token}
    (h : Yields scanner (ts ++ us) last) :
    ∃ middle, Yields scanner ts middle ∧ Yields middle us last := by
  induction ts generalizing scanner with
  | nil => exact ⟨scanner, .nil, h⟩
  | cons token ts ih =>
      cases h with
      | cons hend hnext =>
          obtain ⟨middle, hts, hus⟩ := ih hnext
          exact ⟨middle, .cons hend hts, hus⟩

/-- A token that is neither a brace nor a comment. -/
def IsContent (token : Token) : Prop :=
  token.kind ≠ .openTag ∧ token.kind ≠ .closeTag ∧ token.kind ≠ .comment

/-- There is no text inside a tag. -/
theorem isInner_of_isContent {scanner : Scanner} (hmode : scanner.mode = .tag)
    (hend : scanner.token.kind ≠ .endOfInput) (hcontent : IsContent scanner.token) :
    scanner.token.kind.isInner = true := by
  obtain ⟨hopen, hclose, hcomment⟩ := hcontent
  have htext : scanner.token.kind ≠ .text := by
    rw [token, cut, hmode]
    exact Cut.kind_ofTag_ne_text _ _
  cases hkind : scanner.token.kind with
  | endOfInput => exact absurd hkind hend
  | text => exact absurd hkind htext
  | openTag => exact absurd hkind hopen
  | closeTag => exact absurd hkind hclose
  | comment => exact absurd hkind hcomment
  | _ => rfl

theorem Yields.insideTag {scanner last : Scanner} {us : List Token} (h : Yields scanner us last)
    (hinside : scanner.InsideTag) (hus : ∀ token ∈ us, IsContent token) :
    last.InsideTag ∧ ∀ token ∈ us, token.kind.isInner = true := by
  induction h with
  | nil => exact ⟨hinside, nofun⟩
  | cons hend _ ih =>
      obtain ⟨htoken, hus⟩ := List.forall_mem_cons.mp hus
      have hinner := isInner_of_isContent hinside.mode hend htoken
      obtain ⟨hlast, hrest⟩ := ih (insideTag_next hinside hinner) hus
      exact ⟨hlast, List.forall_mem_cons.mpr ⟨hinner, hrest⟩⟩

/-- From the opening brace of a tag to its closing one, and not behind a brace that opens a
literal block. -/
theorem Yields.mode_behind_tag {scanner last : Scanner} {left next right : Token} {us : List Token}
    (h : Yields scanner (left :: us ++ [right]) last) (hleft : left.kind = .openTag)
    (hus : ∀ token ∈ us, IsContent token) (hright : right.kind = .closeTag)
    (hnext : next ∈ (us ++ [right]).head?) (hliteral : next.kind ≠ .literalWord) :
    last.mode = .text ∧ ∀ token ∈ us, token.kind.isInner = true := by
  cases h with
  | cons hend hbehind =>
      have hmode : scanner.next.mode = .tag := by
        rw [mode_next hend, hleft]
        rfl
      cases us with
      | nil =>
          cases hbehind with
          | cons hend hlast =>
              cases hlast with
              | nil =>
                  refine ⟨?_, nofun⟩
                  have hrecent : scanner.next.recent ≠ (.openTag, .literalWord) := by
                    rw [recent_next, hleft]
                    intro hrecent
                    cases congrArg Prod.snd hrecent
                  rw [mode_next hend, hright]
                  exact if_neg hrecent
      | cons first us =>
          obtain ⟨hfirst, hothers⟩ := List.forall_mem_cons.mp hus
          cases hbehind with
          | cons hend hrest =>
              obtain rfl := Option.some.inj hnext
              have hinner := isInner_of_isContent hmode hend hfirst
              obtain ⟨middle, hinside, hlast⟩ := hrest.split
              obtain ⟨hmiddle, hall⟩ :=
                hinside.insideTag (insideTag_next_of_brace hinner hliteral) hothers
              refine ⟨?_, List.forall_mem_cons.mpr ⟨hinner, hall⟩⟩
              cases hlast with
              | cons hend hlast =>
                  cases hlast with
                  | nil => exact mode_next_of_closeTag hmiddle hright

end Scanner

/-- A source that is one tag: an opening brace, tokens that are neither braces nor comments, and
a closing brace.  The token behind the opening brace, which may be the closing one, says what
kind of tag it is. -/
inductive IsOneTag (source : String) (next : Token) : Prop
  | mk {left right ending : Token} {us : List Token}
      (htokens : (Scanner.ofSource source).tokens = left :: us ++ [right] ++ [ending])
      (hleft : left.kind = .openTag) (hus : ∀ token ∈ us, Scanner.IsContent token)
      (hright : right.kind = .closeTag) (hnext : next ∈ (us ++ [right]).head?)

/-- A tag that cannot be read: one that puts out an expression in which something is wrong, or
one of no kind. -/
def IsRejected (source : String) (next : Token) : Prop :=
  next.kind = .dollar ∧ (readSource source).2 ≠ [] ∨ next.kind ∉ OpenTemplate.tagKinds

/-- A source that has been read from an opening brace to a closing one, for a diagnostic and
nothing else. -/
structure Rejected (source : String) (diagnostic : Diagnostic) (ts : List Token) (last : Scanner) :
    Prop where
  yields : Scanner.Yields (.ofSource source) ts last
  read : OpenTemplate.start.read ts = OpenTemplate.start.report diagnostic
  opening : ∃ left us, ts = left :: us ∧ left.kind = .openTag
  closing : ∃ us right, ts = us ++ [right] ∧ right.kind = .closeTag
  mode : last.mode = .text
  ending : last.token.kind = .endOfInput

theorem readSource_of_yields {source : String} {ts : List Token} {last : Scanner}
    (hyields : Scanner.Yields (.ofSource source) ts last) (hlast : last.token.kind = .endOfInput)
    (hmode : (OpenTemplate.start.read ts).mode = .text)
    (hframes : (OpenTemplate.start.read ts).frames = []) :
    readSource source =
      ((OpenTemplate.start.read ts).nodes, (OpenTemplate.start.read ts).diagnostics) := by
  rw [readSource, hyields.tokens_eq, Scanner.tokens_eq_singleton hlast, OpenTemplate.read_append,
    OpenTemplate.closeAll_read_ending hmode hframes hlast]

/-- A tag that cannot be read costs one diagnostic. -/
theorem exists_rejected {source : String} {next : Token} (htag : IsOneTag source next)
    (hrejected : IsRejected source next) :
    ∃ diagnostic ts last, Rejected source diagnostic ts last := by
  obtain @⟨left, right, ending, us, htokens, hleft, hus, hright, hnext⟩ := htag
  obtain ⟨ts, last, hyields, hlast⟩ := Scanner.exists_yields (.ofSource source)
  rw [hyields.tokens_eq, Scanner.tokens_eq_singleton hlast] at htokens
  obtain ⟨rfl, -⟩ := List.append_inj' htokens rfl
  -- Behind the tag that opens a literal block the scanner would not be between tags.
  have hliteral : next.kind ≠ .literalWord := by
    intro hkind
    rcases hrejected with ⟨hdollar, -⟩ | hnone
    · rw [hkind] at hdollar
      cases hdollar
    · exact hnone (by rw [hkind]; decide)
  obtain ⟨hmode, hinner⟩ := hyields.mode_behind_tag hleft hus hright hnext hliteral
  have hstart : OpenTemplate.start.mode = .text := rfl
  have hread : ∃ diagnostic, OpenTemplate.start.read (left :: us ++ [right]) =
      OpenTemplate.start.report diagnostic := by
    rcases hrejected with ⟨hdollar, hwrong⟩ | hnone
    · cases us with
      | nil =>
          obtain rfl := Option.some.inj hnext
          rw [hright] at hdollar
          cases hdollar
      | cons dollar us =>
          obtain rfl := Option.some.inj hnext
          have hothers : ∀ token ∈ us, token.kind ≠ .closeTag := fun token htoken =>
            (hus token (List.mem_cons_of_mem _ htoken)).2.1
          obtain ⟨template, hconsumes, houtcome⟩ :=
            OpenTemplate.consumes_action hstart hleft hdollar hothers hright
          rcases houtcome with ⟨expr, rfl⟩ | ⟨diagnostic, -, rfl⟩
          -- A tag that has become a node has no diagnostics, so nothing would be wrong with it.
          · have hsource := readSource_of_yields hyields hlast (by rw [hconsumes.read]; rfl)
              (by rw [hconsumes.read]; rfl)
            rw [hsource, hconsumes.read] at hwrong
            exact absurd rfl hwrong
          · exact ⟨diagnostic, hconsumes.read⟩
    · exact ⟨_, OpenTemplate.read_unknownTag hstart hleft hinner hright hnext ⟨hnone, rfl⟩⟩
  obtain ⟨diagnostic, hread⟩ := hread
  exact ⟨diagnostic, _, last, hyields, hread, ⟨left, _, rfl, hleft⟩, ⟨_, right, rfl, hright⟩, hmode,
    hlast⟩

namespace Rejected

variable {source : String} {diagnostic : Diagnostic} {ts : List Token} {last : Scanner}
  (h : Rejected source diagnostic ts last)

include h

theorem readSource_eq : readSource source = ([], [diagnostic]) := by
  rw [readSource_of_yields h.yields h.ending (by rw [h.read]; rfl) (by rw [h.read]; rfl), h.read]
  rfl

theorem position_last : last.position = .behind source.toList := by
  obtain ⟨text, happend, hposition⟩ := h.yields.position_eq (Scanner.position_ofSource source)
  rw [Scanner.rest_of_ended h.mode h.ending, List.append_nil] at happend
  rw [hposition, happend]
  rfl

/-- The tokens of a source behind the tag follow those of the tag. -/
theorem tokens_followedBy (second : String) :
    (Scanner.ofSource (source ++ second)).tokens =
      ts ++ (Scanner.ofSource second).tokens.map (Token.movedTo (.behind source.toList)) := by
  rw [Scanner.ofSource_append, ← h.position_last]
  refine Scanner.tokens_followedBy second h.yields h.mode
    (Scanner.rest_of_ended h.mode h.ending) ?_
  intro us middle hyields hmiddle hnext
  refine .inl (.inr (.inl ?_))
  have hwhole := (hyields.append (.single hmiddle)).tokens_eq
  rw [hnext, h.yields.tokens_eq] at hwhole
  obtain ⟨vs, right, rfl, hright⟩ := h.closing
  obtain ⟨-, heq⟩ := List.append_inj' (List.append_cancel_right hwhole) rfl
  obtain rfl := (List.cons.inj heq).1
  exact hright

/-- What stands behind the tag is read as it is alone. -/
theorem readSource_followedBy (second : String) :
    readSource (source ++ second) =
      ((readSource second).1,
        diagnostic :: (readSource second).2.map (Diagnostic.movedTo (.behind source.toList))) := by
  have hnoted : OpenTemplate.start.report diagnostic =
      (OpenTemplate.ofNodes []).noted [diagnostic] := rfl
  have hnodes := OpenTemplate.nodes_behind_closeAll [] (.behind source.toList)
    (OpenTemplate.start.read (Scanner.ofSource second).tokens)
  rw [readSource, h.tokens_followedBy, OpenTemplate.read_append, h.read, hnoted,
    ← OpenTemplate.noted_read, ← OpenTemplate.noted_closeAll, OpenTemplate.closeAll_read_movedTo]
  exact Prod.ext hnodes rfl

theorem not_beginsInText (second : String) : ¬ BeginsInText (source ++ second) := by
  obtain ⟨left, us, rfl, hleft⟩ := h.opening
  rintro ⟨token, htoken, hkind⟩
  rw [h.tokens_followedBy] at htoken
  obtain rfl := Option.some.inj htoken
  rw [hleft] at hkind
  cases hkind

end Rejected

/-- A malformed tag costs one diagnostic and nothing else.  Behind a dollar, all up to the first
closing brace is consumed, for a node or for a diagnostic at one of the tokens.  A tag of no
kind is passed over for a diagnostic, if it is closed before anything else begins.  So a source
that is such a tag costs its one diagnostic wherever it stands between two others, and both are
read as they are alone. -/
theorem malformed_tag_costs_one_diagnostic :
    (∀ (template : OpenTemplate) (left dollar right : Token) (us : List Token),
      template.mode = .text → left.kind = .openTag → dollar.kind = .dollar →
      (∀ token ∈ us, token.kind ≠ .closeTag) → right.kind = .closeTag →
      ∃ next, template.Consumes (left :: dollar :: us ++ [right]) next ∧
        ((∃ expr, next = template.push (.action expr)) ∨
          ∃ diagnostic : Diagnostic, diagnostic.IsAt (left :: dollar :: us ++ [right]) ∧
            next = template.report diagnostic)) ∧
      (∀ (template : OpenTemplate) (left next right : Token) (us : List Token),
        template.mode = .text → left.kind = .openTag →
        (∀ token ∈ us, token.kind.isInner = true) → right.kind = .closeTag →
        next ∈ (us ++ [right]).head? → template.BeginsNoTag next.kind →
        template.read (left :: us ++ [right]) =
          template.report ⟨.unknownTag next, next.position⟩) ∧
      ∀ (first tag second : String) (nodes : List Node) (next : Token),
        readSource first = (nodes, []) →
        (∀ piece ∈ (Scanner.ofSource first).pieces, ¬ piece.IsOpenComment) →
        IsOneTag tag next → IsRejected tag next →
        ∃ diagnostic, readSource tag = ([], [diagnostic]) ∧
          readSource (first ++ tag ++ second) =
            (nodes ++ (readSource second).1,
              (diagnostic :: (readSource second).2.map
                (Diagnostic.movedTo (.behind tag.toList))).map
                  (Diagnostic.movedTo (.behind first.toList))) := by
  refine ⟨?_, ?_, ?_⟩
  · intro template left dollar right us hmode hleft hdollar hus hright
    exact OpenTemplate.consumes_action hmode hleft hdollar hus hright
  · intro template left next right us hmode hleft hus hright hnext hnone
    exact OpenTemplate.read_unknownTag hmode hleft hus hright hnext hnone
  · intro first tag second nodes next hfirst hcomments htag hrejected
    obtain ⟨diagnostic, ts, last, h⟩ := exists_rejected htag hrejected
    obtain ⟨us, behind, hfinished⟩ := exists_finished hfirst
    have hseam : ¬ (EndsInText first ∧ BeginsInText (tag ++ second)) :=
      fun hboth => h.not_beginsInText second hboth.2
    refine ⟨diagnostic, h.readSource_eq, ?_⟩
    rw [String.append_assoc, hfinished.readSource_followedBy hcomments hseam,
      h.readSource_followedBy]

/-- A field without its name, a keyword that ends no block, and the first of them between two
texts. -/
theorem malformed_tag_costs_one_diagnostic_field :
    let left : Token := ⟨.openTag, "\x7b", ⟨1, 1⟩⟩
    let dollar : Token := ⟨.dollar, "$", ⟨1, 2⟩⟩
    let inside : List Token := [⟨.identifier, "a", ⟨1, 3⟩⟩, ⟨.dot, ".", ⟨1, 4⟩⟩]
    let word : Token := ⟨.elseWord, "else", ⟨1, 2⟩⟩
    let right : Token := ⟨.closeTag, "\x7d", ⟨1, 5⟩⟩
    (∃ next, OpenTemplate.start.Consumes (left :: dollar :: inside ++ [right]) next ∧
        next.nodes.length + next.diagnostics.length = 1) ∧
      OpenTemplate.start.read [left, word, right] =
        OpenTemplate.start.report ⟨.unknownTag word, ⟨1, 2⟩⟩ ∧
      readSource "x" = ([.text "x"], []) ∧
      (∀ piece ∈ (Scanner.ofSource "x").pieces, ¬ piece.IsOpenComment) ∧
      IsOneTag "\x7b$a.\x7d" dollar ∧ IsRejected "\x7b$a.\x7d" dollar ∧
      ∃ diagnostic, readSource "\x7b$a.\x7d" = ([], [diagnostic]) ∧
        readSource ("x" ++ "\x7b$a.\x7d" ++ "y") =
          ([.text "x"] ++ (readSource "y").1,
            (diagnostic :: (readSource "y").2.map
              (Diagnostic.movedTo (.behind "\x7b$a.\x7d".toList))).map
                (Diagnostic.movedTo (.behind "x".toList))) := by
  intro left dollar inside word right
  obtain ⟨haction, hunknown, hsource⟩ := malformed_tag_costs_one_diagnostic
  have hfirst : readSource "x" = ([.text "x"], []) := by
    simp only [readSource]
    cbv
  have hpieces : (Scanner.ofSource "x").pieces =
      [⟨[], ⟨.text, "x", ⟨1, 1⟩⟩, ['x']⟩, ⟨[], ⟨.endOfInput, "", ⟨1, 2⟩⟩, []⟩] := by
    cbv
  have hcomments : ∀ piece ∈ (Scanner.ofSource "x").pieces, ¬ piece.IsOpenComment := by
    rw [hpieces]
    simp [Piece.IsOpenComment]
  have htokens : (Scanner.ofSource "\x7b$a.\x7d").tokens =
      left :: (dollar :: inside) ++ [right] ++ [⟨.endOfInput, "", ⟨1, 6⟩⟩] := by
    simp only [left, dollar, inside, right]
    cbv
  have htag : IsOneTag "\x7b$a.\x7d" dollar :=
    .mk htokens rfl (by simp only [dollar, inside, Scanner.IsContent]; decide) rfl rfl
  have hrejected : IsRejected "\x7b$a.\x7d" dollar := by
    refine .inl ⟨rfl, ?_⟩
    simp only [readSource, htokens]
    exact List.cons_ne_nil _ _
  refine ⟨?_, ?_, hfirst, hcomments, htag, hrejected,
    hsource "x" _ "y" _ dollar hfirst hcomments htag hrejected⟩
  · obtain ⟨next, hconsumes, houtcome⟩ :=
      haction .start left dollar right inside rfl rfl rfl (by decide) rfl
    refine ⟨next, hconsumes, ?_⟩
    rcases houtcome with ⟨expr, rfl⟩ | ⟨diagnostic, -, rfl⟩ <;> rfl
  · exact hunknown .start left word right [word] rfl rfl (by decide) rfl rfl ⟨by decide, rfl⟩

end Stencil
