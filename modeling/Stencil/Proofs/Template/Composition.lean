import Stencil.Proofs.Template.Accepted
import Stencil.Proofs.Template.Relocation
import Stencil.Proofs.Token.Seam

/-!
# Sources one behind the other

Where a source without diagnostics ends, nothing is open: the reader and the scanner are both
between tags, and all that is left of the source are its nodes.  So the source behind it is read
as it is alone, behind these nodes.  Only a text at the end of the first is no longer complete
if the second begins with text.
-/

namespace Stencil

/-- A source whose last token in front of its end is text. -/
def EndsInText (source : String) : Prop :=
  ∃ token ∈ (Scanner.ofSource source).tokens.dropLast.getLast?, token.kind = .text

/-- A source whose first token is text. -/
def BeginsInText (source : String) : Prop :=
  ∃ token ∈ (Scanner.ofSource source).tokens.head?, token.kind = .text

theorem beginsInText_iff (source : String) :
    BeginsInText source ↔ (Scanner.ofSource source).token.kind = .text := by
  rw [BeginsInText, Scanner.tokens]
  split <;> simp

namespace OpenTemplate

/-- A template with some nodes in which nothing is open. -/
def ofNodes (nodes : List Node) : OpenTemplate := ⟨.text, nodes, [], []⟩

theorem step_ofNodes_text (nodes : List Node) {token : Token} (h : token.kind = .text) :
    (ofNodes nodes).step token = ofNodes (nodes ++ [.text token.literal]) := by
  simp only [ofNodes, step, stepText, h]
  rfl

theorem frames_closeAll (template : OpenTemplate) : template.closeAll.frames = [] := by
  have hfold (frames : List Frame) (template : OpenTemplate) (h : template.frames = frames) :
      (frames.foldl abandonFrame template).frames = [] := by
    induction frames generalizing template with
    | nil => exact h
    | cons frame outer ih =>
        refine ih (template.abandonFrame frame) ?_
        have hreport : (template.report frame.unterminated).frames = frame :: outer := h
        rw [abandonFrame, closeFrame_eq hreport]
  exact hfold template.frames template rfl

/-- The nodes of a template that is read behind others are those and its own. -/
theorem nodes_behind_closeAll (front : List Node) (base : Position) (template : OpenTemplate) :
    (template.closeAll.behind front base).nodes = front ++ template.closeAll.nodes := by
  simp only [behind, frames_closeAll, Frame.lead]

theorem closeAll_read_movedTo (front : List Node) (base : Position) (ts : List Token) :
    ((ofNodes front).read (ts.map (Token.movedTo base))).closeAll =
      (start.read ts).closeAll.behind front base := by
  have hstart : start.behind front base = ofNodes front := by
    simp [behind, start, ofNodes, Frame.lead, Frame.allBehind, ReadingMode.movedTo]
  rw [behind_closeAll, behind_read, hstart]

end OpenTemplate

/-- A source that begins with text is read as its text and what is behind it. -/
theorem readSource_of_text {source : String} (h : (Scanner.ofSource source).token.kind = .text) :
    let alone := (OpenTemplate.start.read (Scanner.ofSource source).next.tokens).closeAll
    readSource source =
      (.text (Scanner.ofSource source).token.literal :: alone.nodes, alone.diagnostics) := by
  intro alone
  have hrest := Scanner.map_movedTo_tokens
    (Scanner.position_next (Scanner.position_ofSource source))
  have hbehind (front : List Node) :
      ((OpenTemplate.ofNodes front).read (Scanner.ofSource source).next.tokens).closeAll =
        alone.behind front (.behind []) := by
    rw [← OpenTemplate.closeAll_read_movedTo, hrest]
  have hdiagnostics : alone.diagnostics = alone.diagnostics.map (Diagnostic.movedTo (.behind [])) :=
    congrArg OpenTemplate.diagnostics (hbehind [])
  have hstart : OpenTemplate.start = .ofNodes [] := rfl
  have hend : (Scanner.ofSource source).token.kind ≠ .endOfInput := by
    rw [h]
    decide
  rw [readSource, Scanner.tokens_eq_cons hend, OpenTemplate.read_cons, hstart,
    OpenTemplate.step_ofNodes_text [] h, hbehind, OpenTemplate.nodes_behind_closeAll, hdiagnostics]
  rfl

namespace OpenTemplate

/-! ## Where a clean reading ends -/

theorem aligned_of_yields {template : OpenTemplate} {scanner middle : Scanner} {us : List Token}
    (h : Scanner.Yields scanner us middle) (haligned : template.mode.Aligned scanner)
    (hdiagnostics : (template.read us).diagnostics = []) :
    (template.read us).mode.Aligned middle := by
  induction h generalizing template with
  | nil => exact haligned
  | cons hend _ ih =>
      have hstep := (diagnostics_eq_nil_of_step (diagnostics_eq_nil_of_read hdiagnostics)).2
      exact ih (aligned_of_cleanStep haligned hend hstep) hdiagnostics

theorem aligned_start (source : String) : start.mode.Aligned (.ofSource source) := rfl

/-- Text that leads between tags has been between tags itself. -/
theorem push_of_cleanStep_text {template next : OpenTemplate} {scanner : Scanner}
    (hstep : CleanStep template scanner.token next) (haligned : template.mode.Aligned scanner)
    (hkind : scanner.token.kind = .text) (hmode : next.mode = .text) :
    template.mode = .text ∧ next = (template.push (.text scanner.token.literal)).goOn .text := by
  have hinner : scanner.token.kind.isInner ≠ true := by
    rw [hkind]
    exact nofun
  cases hstep with
  | text htext hkind => exact ⟨htext, rfl⟩
  | stray _ htext _ => exact absurd hkind htext
  | skipping hskipping _ =>
      rw [hskipping] at haligned
      exact haligned.elim
  | continuation _ _ hcontinuation =>
      exact (hinner (Frame.continuation?_cases hcontinuation).1).elim
  | actionEnd _ hdone =>
      rw [OpenAction.kind_of_step_done hdone] at hkind
      cases hkind
  | ifTagEnd _ hdone =>
      rw [OpenCondition.kind_of_step_done hdone] at hkind
      cases hkind
  | elseIfTagEnd _ hdone =>
      rw [OpenCondition.kind_of_step_done hdone] at hkind
      cases hkind
  | foreachTagEnd _ hdone =>
      rw [OpenLoop.kind_of_step_done hdone] at hkind
      cases hkind
  | keyword _ hother | skippingEnd _ hother =>
      rw [hkind] at hother
      cases hother
  | brace | dollar | ifWord | foreachWord | literalWord | action | ifTag | elseIfTag | foreachTag
  | literal | literalBrace | endLiteral => cases hmode

end OpenTemplate

/-- A source that has been read to its end without diagnostics. -/
structure Finished (source : String) (nodes : List Node) (ts : List Token) (last : Scanner) :
    Prop where
  yields : Scanner.Yields (.ofSource source) ts last
  read : OpenTemplate.start.read ts = .ofNodes nodes
  mode : last.mode = .text
  rest : last.rest = []
  position : last.position = .behind source.toList

theorem exists_finished {source : String} {nodes : List Node}
    (h : readSource source = (nodes, [])) :
    ∃ ts last, Finished source nodes ts last := by
  obtain ⟨ts, last, hyields, hend⟩ := Scanner.exists_yields (.ofSource source)
  have htokens : (Scanner.ofSource source).tokens = ts ++ [last.token] := by
    rw [hyields.tokens_eq, Scanner.tokens_eq_singleton hend]
  obtain ⟨hnodes, hdiagnostics⟩ := Prod.mk.inj h
  rw [htokens, OpenTemplate.read_append] at hnodes hdiagnostics
  obtain ⟨hnil, hframes, hclosed⟩ := OpenTemplate.closeAll_of_diagnostics_eq_nil hdiagnostics
  obtain ⟨hbefore, hstep⟩ := OpenTemplate.diagnostics_eq_nil_of_step hnil
  have haligned := OpenTemplate.aligned_of_yields hyields (OpenTemplate.aligned_start _) hbefore
  obtain ⟨hmode, hnext⟩ := OpenTemplate.goOn_of_cleanStep_end hstep haligned hend
  have hlast : (OpenTemplate.start.read ts).read [last.token] =
      (OpenTemplate.start.read ts).goOn .text := hnext
  rw [hclosed, hlast] at hnodes
  rw [hlast] at hframes
  have htext : last.mode = .text := by
    rw [hmode] at haligned
    exact haligned
  have hrest := Scanner.rest_of_ended htext hend
  refine ⟨ts, last, hyields, ?_, htext, hrest, ?_⟩
  · generalize OpenTemplate.start.read ts = template at *
    obtain ⟨mode, inner, frames, diagnostics⟩ := template
    cases hmode
    cases hnodes
    cases hframes
    cases hbefore
    rfl
  · obtain ⟨text, happend, hposition⟩ := hyields.position_eq (Scanner.position_ofSource source)
    rw [hrest, List.append_nil] at happend
    rw [hposition, happend]
    rfl

namespace Finished

variable {first : String} {nodes : List Node} {ts : List Token} {last : Scanner}
  (h : Finished first nodes ts last)

include h

section LastToken

variable {us : List Token} {middle : Scanner} (hyields : Scanner.Yields (.ofSource first) us middle)
  (hnext : middle.next = last) (hmiddle : middle.token.kind ≠ .endOfInput)

include hyields hnext hmiddle

theorem tokens_eq : ts = us ++ [middle.token] := by
  have hwhole := (hyields.append (.single hmiddle)).tokens_eq
  rw [hnext, h.yields.tokens_eq] at hwhole
  exact List.append_cancel_right hwhole

theorem endsInText_iff : EndsInText first ↔ middle.token.kind = .text := by
  have hend := Scanner.kind_of_rest_eq_nil h.rest
  rw [EndsInText, h.yields.tokens_eq, Scanner.tokens_eq_singleton hend, List.dropLast_concat,
    h.tokens_eq hyields hnext hmiddle]
  simp

end LastToken

/-- The last text of a source stands between tags, and has become its last node. -/
theorem beforeLastText {us : List Token} {middle : Scanner}
    (hyields : Scanner.Yields (.ofSource first) us middle) (hnext : middle.next = last)
    (hkind : middle.token.kind = .text) :
    middle.BeforeLastText ∧ ∃ front, OpenTemplate.start.read us = .ofNodes front ∧
      nodes = front ++ [.text middle.token.literal] := by
  have hmiddle : middle.token.kind ≠ .endOfInput := by
    rw [hkind]
    exact nofun
  have hread : (OpenTemplate.start.read us).step middle.token = .ofNodes nodes := by
    rw [← h.read, h.tokens_eq hyields hnext hmiddle, OpenTemplate.read_append]
    rfl
  have hnil : ((OpenTemplate.start.read us).step middle.token).diagnostics = [] := by
    rw [hread]
    rfl
  obtain ⟨hbefore, hstep⟩ := OpenTemplate.diagnostics_eq_nil_of_step hnil
  have haligned := OpenTemplate.aligned_of_yields hyields (OpenTemplate.aligned_start _) hbefore
  rw [hread] at hstep
  obtain ⟨hmode, hpush⟩ := OpenTemplate.push_of_cleanStep_text hstep haligned hkind rfl
  rw [hmode] at haligned
  refine ⟨⟨haligned, hkind, by rw [hnext]; exact h.rest⟩, ?_⟩
  generalize OpenTemplate.start.read us = template at *
  obtain ⟨mode, front, frames, diagnostics⟩ := template
  cases hmode
  cases hpush
  exact ⟨front, rfl, rfl⟩

/-! ## Two sources -/

/-- The second source is read behind the nodes of the first. -/
theorem readSource_followedBy
    (hcomments : ∀ piece ∈ (Scanner.ofSource first).pieces, ¬ piece.IsOpenComment)
    {second : String} (hseam : ¬ (EndsInText first ∧ BeginsInText second)) :
    readSource (first ++ second) =
      (nodes ++ (readSource second).1,
        (readSource second).2.map (Diagnostic.movedTo (.behind first.toList))) := by
  have htokens : (Scanner.ofSource (first ++ second)).tokens =
      ts ++ (Scanner.ofSource second).tokens.map (Token.movedTo (.behind first.toList)) := by
    rw [Scanner.ofSource_append, ← h.position]
    refine Scanner.tokens_followedBy second h.yields h.mode h.rest ?_
    intro us middle hyields hmiddle hnext
    by_cases hkind : middle.token.kind = .text
    · refine .inr ⟨(h.beforeLastText hyields hnext hkind).1, ?_⟩
      intro hsecond
      exact hseam ⟨(h.endsInText_iff hyields hnext hmiddle).mpr hkind,
        (beginsInText_iff second).mpr hsecond⟩
    · have hmode : middle.next.mode = .text := by
        rw [hnext]
        exact h.mode
      exact .inl (Scanner.isDecided_of_mode_next hmiddle hmode hkind
        (hcomments middle.piece hyields.piece_mem))
  rw [readSource, htokens, OpenTemplate.read_append, h.read, OpenTemplate.closeAll_read_movedTo,
    OpenTemplate.nodes_behind_closeAll]
  rfl

/-- Where both sources have text at the seam, this is one text, and everything else is as before. -/
theorem readSource_followedBy_of_text {second : String} (hfirst : EndsInText first)
    (hsecond : BeginsInText second) :
    ∃ front back one other, nodes = front ++ [.text one] ∧
      (readSource second).1 = .text other :: back ∧
      readSource (first ++ second) =
        (front ++ .text (one ++ other) :: back,
          (readSource second).2.map (Diagnostic.movedTo (.behind first.toList))) := by
  rw [beginsInText_iff] at hsecond
  obtain ⟨us, middle, hyields, hmiddle, hnext⟩ : ∃ us middle,
      Scanner.Yields (.ofSource first) us middle ∧ middle.token.kind ≠ .endOfInput ∧
        middle.next = last := by
    rcases h.yields.last_cases with ⟨hnil, hlast⟩ | ⟨us, middle, -, hyields, hmiddle, hnext⟩
    · obtain ⟨token, htoken, -⟩ := hfirst
      have hend := Scanner.kind_of_rest_eq_nil h.rest
      rw [hlast, Scanner.tokens_eq_singleton hend] at htoken
      cases htoken
    · exact ⟨us, middle, hyields, hmiddle, hnext⟩
  have hkind := (h.endsInText_iff hyields hnext hmiddle).mp hfirst
  obtain ⟨htext, front, hread, hnodes⟩ := h.beforeLastText hyields hnext hkind
  refine ⟨front, _, _, _, hnodes, congrArg Prod.fst (readSource_of_text hsecond), ?_⟩
  have htokens := Scanner.tokens_followedBy_of_text second hyields htext hsecond
  have hjoined : (middle.token.joinedWith (Scanner.ofSource second).token).kind = .text := hkind
  rw [hnext, h.position] at htokens
  rw [readSource, Scanner.ofSource_append, htokens, OpenTemplate.read_append, hread,
    OpenTemplate.read_cons, OpenTemplate.step_ofNodes_text front hjoined,
    OpenTemplate.closeAll_read_movedTo, OpenTemplate.nodes_behind_closeAll,
    readSource_of_text hsecond, List.append_assoc]
  rfl

/-- The second source keeps its diagnostics, each in its new place. -/
theorem diagnostics_followedBy
    (hcomments : ∀ piece ∈ (Scanner.ofSource first).pieces, ¬ piece.IsOpenComment)
    (second : String) :
    (readSource (first ++ second)).2 =
      (readSource second).2.map (Diagnostic.movedTo (.behind first.toList)) := by
  by_cases hseam : EndsInText first ∧ BeginsInText second
  · obtain ⟨front, back, one, other, -, -, hwhole⟩ :=
      h.readSource_followedBy_of_text hseam.1 hseam.2
    exact congrArg Prod.snd hwhole
  · exact congrArg Prod.snd (h.readSource_followedBy hcomments hseam)

end Finished

end Stencil
