import Stencil.Proofs.Template.DescentExpr

/-!
# Tags by descent are read the same

What a source comes to is decided by what has been read of it and by the tokens that are left.
So a reader by descent and the machine for templates agree on a tag if the machine comes to the
same end over the tokens that the reader has in front of the tag, with what has been read so
far, and over those that it has behind the tag, with what the tag makes of it.

A tag that has failed is the case to look at: the machine passes over tokens up to the brace one
by one, the reader all at once, and at the end of the source both stay where they are.
-/

namespace Stencil

open Progress Reader

namespace OpenTemplate

/-- What a template comes to over the tokens that are left. -/
def comesTo (template : OpenTemplate) (ts : List Token) : List Node × List Diagnostic :=
  ((template.read ts).closeAll.nodes, (template.read ts).closeAll.diagnostics)

theorem goOn_abandonFrame (template : OpenTemplate) (mode : ReadingMode) (frame : Frame) :
    (template.goOn mode).abandonFrame frame = (template.abandonFrame frame).goOn mode := by
  obtain ⟨_, nodes, frames, diagnostics⟩ := template
  cases frames with
  | nil => rfl
  | cons first outer => rfl

/-- How the conditions and loops that still wait are closed does not depend on the mode. -/
theorem goOn_closeAll (template : OpenTemplate) (mode : ReadingMode) :
    (template.goOn mode).closeAll = template.closeAll.goOn mode := by
  change template.frames.foldl abandonFrame (template.goOn mode) =
    (template.frames.foldl abandonFrame template).goOn mode
  generalize template.frames = frames
  induction frames generalizing template with
  | nil => rfl
  | cons frame outer ih =>
      rw [List.foldl_cons, List.foldl_cons, goOn_abandonFrame]
      exact ih (template.abandonFrame frame)

theorem comesTo_nil_goOn (template : OpenTemplate) (mode : ReadingMode) :
    (template.goOn mode).comesTo [] = template.comesTo [] := by
  change ((template.goOn mode).closeAll.nodes, (template.goOn mode).closeAll.diagnostics) = _
  rw [goOn_closeAll]
  rfl

theorem comesTo_cons (template : OpenTemplate) (token : Token) (ts : List Token) :
    template.comesTo (token :: ts) = (template.step token).comesTo ts :=
  rfl

end OpenTemplate

open OpenTemplate

namespace Reader

variable {reader behind : Reader} {mode : ReadingMode} {nodes further : List Node}
  {frames others : List Frame}

/-- What the machine for templates comes to, in a mode and with blocks that have been read so
far, over the tokens that a reader has left. -/
def outcome (reader : Reader) (mode : ReadingMode) (nodes : List Node) (frames : List Frame) :
    List Node × List Diagnostic :=
  comesTo ⟨mode, nodes, frames, reader.diagnostics⟩ reader.left

theorem outcome_eq_step (reader : Reader) (mode : ReadingMode) (nodes : List Node)
    (frames : List Frame) :
    reader.outcome mode nodes frames =
      (step ⟨mode, nodes, frames, reader.diagnostics⟩ reader.current).comesTo reader.left.tail := by
  rw [outcome, left_eq_current]
  rfl

/-- A token that is not the last one and is not reported. -/
theorem outcome_of_step {next : ReadingMode} (hend : reader.current.kind ≠ .endOfInput)
    (hstep : step ⟨mode, nodes, frames, reader.diagnostics⟩ reader.current =
      ⟨next, further, others, reader.diagnostics⟩) :
    reader.outcome mode nodes frames = reader.advance.outcome next further others := by
  rw [outcome_eq_step, hstep, left_eq_cons hend]
  rfl

/-- What is left of a tag is passed over. -/
theorem outcome_skipping (reader : Reader) (nodes : List Node) (frames : List Frame) :
    reader.outcome .skipping nodes frames = reader.skipTag.outcome .text nodes frames := by
  induction reader using skipTag.induct with
  | case1 reader hclose =>
      rw [skipTag, if_pos hclose]
      refine outcome_of_step (ne_end_of_kind hclose (by decide)) ?_
      simp only [step, hclose, if_true]
      rfl
  | case2 reader hclose hend =>
      rw [skipTag, if_neg hclose, dif_pos hend, outcome_eq_step, outcome_eq_step,
        left_of_ended hend]
      simp only [step, stepText, hend]
      exact comesTo_nil_goOn ⟨.text, nodes, frames, reader.diagnostics⟩ .skipping
  | case3 reader hclose hend ih =>
      rw [skipTag, if_neg hclose, dif_neg hend, ← ih]
      refine outcome_of_step hend ?_
      simp only [step, if_neg hclose]

theorem skipTag_of_ended {reader : Reader} (h : reader.current.kind = .endOfInput) :
    reader.skipTag = reader := by
  rw [skipTag, if_neg (by rw [h]; decide), dif_pos h]

/-- Behind a token on which a tag has failed both go on behind the tag. -/
theorem comesTo_goOnBehind (reader : Reader) (mode : ReadingMode) (nodes : List Node)
    (frames : List Frame) :
    (goOnBehind ⟨mode, nodes, frames, reader.diagnostics⟩ reader.current).comesTo reader.left.tail =
      reader.skipTag.outcome .text nodes frames := by
  rw [← outcome_skipping, outcome_eq_step, goOnBehind]
  by_cases hclose : reader.current.kind = .closeTag
  · simp only [step, hclose, if_true]
    rfl
  · simp only [step, if_neg hclose]
    rfl

theorem outcome_of_failed {diagnostic : Diagnostic}
    (hstep : step ⟨mode, nodes, frames, reader.diagnostics⟩ reader.current =
      goOnBehind ⟨.text, further, others, reader.diagnostics ++ [diagnostic]⟩ reader.current) :
    reader.outcome mode nodes frames =
      (reader.report diagnostic).skipTag.outcome .text further others := by
  rw [outcome_eq_step, hstep]
  exact comesTo_goOnBehind (reader.report diagnostic) .text further others

/-! ## Expressions inside tags -/

/-- A mode in which an expression is read: what a token does is said by what it does to the
expression, and when the expression fails so does the tag around it. -/
def Hosts (mode : OpenExpr → ReadingMode) (nodes : List Node) (frames : List Frame)
    (complete : Expr → List Diagnostic → Token → OpenTemplate) (further : List Node)
    (others : List Frame) : Prop :=
  ∀ part diagnostics token, step ⟨mode part, nodes, frames, diagnostics⟩ token =
    match part.step token with
    | .more next => ⟨mode next, nodes, frames, diagnostics⟩
    | .done expr => complete expr diagnostics token
    | .failed diagnostic => goOnBehind ⟨.text, further, others, diagnostics ++ [diagnostic]⟩ token

namespace Hosts

variable {mode : OpenExpr → ReadingMode} {complete : Expr → List Diagnostic → Token → OpenTemplate}
  {point : ReadingPoint}

/-- What a template comes to behind an expression inside it. -/
def resume (mode : OpenExpr → ReadingMode) (nodes : List Node) (frames : List Frame)
    (complete : Expr → List Diagnostic → Token → OpenTemplate) (further : List Node)
    (others : List Frame) (diagnostics : List Diagnostic) :
    Progress OpenExpr Expr × List Token → List Node × List Diagnostic
  | (.more last, ts) => comesTo ⟨mode last, nodes, frames, diagnostics⟩ ts
  | (.done expr, token :: ts) => (complete expr diagnostics token).comesTo ts
  | (.failed diagnostic, token :: ts) =>
      (goOnBehind ⟨.text, further, others, diagnostics ++ [diagnostic]⟩ token).comesTo ts
  | (_, []) => ([], [])

theorem comesTo_eq_resume (h : Hosts mode nodes frames complete further others) (part : OpenExpr)
    (diagnostics : List Diagnostic) (ts : List Token) :
    comesTo ⟨mode part, nodes, frames, diagnostics⟩ ts =
      resume mode nodes frames complete further others diagnostics
        (settle OpenExpr.step part ts) := by
  induction ts generalizing part with
  | nil => rfl
  | cons token ts ih =>
      rw [comesTo_cons, h, settle]
      cases part.step token with
      | more next => exact ih next
      | done expr => rfl
      | failed diagnostic => rfl

/-- An expression is complete in front of the first token that does not go on with it. -/
theorem outcome_of_expr (h : Hosts mode nodes frames complete further others) {expr : Expr}
    (hdiagnostics : behind.diagnostics = reader.diagnostics)
    (hfollows : behind.current.kind.EndsLevel Descent.lowest)
    (hsettle : settle OpenExpr.step ⟨[], point⟩ reader.left =
      settle OpenExpr.step ⟨[], .suffix expr⟩ behind.left) :
    reader.outcome (mode ⟨[], point⟩) nodes frames =
      (complete expr behind.diagnostics behind.current).comesTo behind.left.tail := by
  have hdone : OpenExpr.step ⟨[], .suffix expr⟩ behind.current = .done expr :=
    OpenExpr.stepSuffix_of_endsExpr hfollows.endsExpr
  rw [outcome, h.comesTo_eq_resume, hsettle, left_eq_current, settle, hdone, hdiagnostics]
  rfl

theorem outcome_of_failed (h : Hosts mode nodes frames complete further others)
    {diagnostic : Diagnostic}
    (hdiagnostics : behind.diagnostics = reader.diagnostics ++ [diagnostic])
    (hsettle : settle OpenExpr.step ⟨[], point⟩ reader.left = (.failed diagnostic, behind.left)) :
    reader.outcome (mode ⟨[], point⟩) nodes frames =
      behind.skipTag.outcome .text further others := by
  rw [outcome, h.comesTo_eq_resume, hsettle, left_eq_current, ← comesTo_goOnBehind behind .text,
    hdiagnostics]
  rfl

end Hosts

end Reader

namespace Descent

variable {calls : Descent} {reader : Reader}

/-! ## Expressions to put out -/

theorem hosts_action (nodes : List Node) (frames : List Frame) :
    Hosts (fun part => .action (.expr part)) nodes frames
      (fun expr diagnostics => step ⟨.action (.pipeline expr), nodes, frames, diagnostics⟩)
      nodes frames := by
  intro part diagnostics token
  simp only [step, stepAction, OpenAction.step]
  cases part.step token with
  | more next => rfl
  | done expr => rfl
  | failed diagnostic => rfl

/-- What a loop over modifiers reads behind an expression. -/
def ModifiersRead (reader : Reader) (input : Expr) : Option Expr → Reader → Prop
  | some expr, behind => behind.current.kind ≠ .pipe ∧ ∀ nodes frames,
      reader.outcome (.action (.pipeline input)) nodes frames =
        behind.outcome (.action (.pipeline expr)) nodes frames
  | none, behind => ∀ nodes frames,
      reader.outcome (.action (.pipeline input)) nodes frames = behind.outcome .text nodes frames

theorem modifiersRead_deeper
    (hmodifiers : ∀ input reader,
      Ensures (calls.modifiers input reader) (ModifiersRead reader input))
    (input : Expr) (reader : Reader) :
    Ensures (calls.deeper.modifiers input reader) (ModifiersRead reader input) := by
  change Ensures (LoopRound.andThen calls.modifiers (modifierRound input reader)) _
  rw [modifierRound]
  split
  · rename_i hbar
    have hinside (nodes : List Node) (frames : List Frame) :
        reader.outcome (.action (.pipeline input)) nodes frames =
          reader.advance.outcome (.action (.modifier input)) nodes frames := by
      refine outcome_of_step (ne_end_of_kind hbar (by decide)) ?_
      simp only [step, stepAction, OpenAction.step, OpenAction.stepPipeline, hbar, if_true]
      rfl
    rcases word_cases .modifierName reader.advance with ⟨hkind, hword⟩ | ⟨hkind, hword⟩
    · rw [hword]
      have hname (nodes : List Node) (frames : List Frame) :
          reader.advance.outcome (.action (.modifier input)) nodes frames =
            reader.advance.advance.outcome
              (.action (.pipeline (.pipe input reader.advance.current.literal))) nodes frames := by
        refine outcome_of_step (ne_end_of_isWord hkind) ?_
        simp only [step, stepAction, OpenAction.step, if_pos hkind]
        rfl
      refine (hmodifiers _ _).mono ?_
      rintro (_ | expr) behind hread
      · intro nodes frames
        rw [hinside, hname, hread]
      · refine ⟨hread.1, ?_⟩
        intro nodes frames
        rw [hinside, hname, hread.2]
    · rw [hword]
      refine .result ?_
      intro nodes frames
      rw [hinside]
      refine outcome_of_failed ?_
      simp only [step, stepAction, OpenAction.step, hkind]
      rfl
  · rename_i hbar
    exact .result ⟨hbar, fun _ _ => rfl⟩

/-- The tag of an expression to put out adds a node, unless it fails. -/
theorem outcome_action (hexpr : calls.ReadsExpr)
    (hmodifiers : ∀ input reader,
      Ensures (calls.modifiers input reader) (ModifiersRead reader input)) :
    Ensures (calls.action reader) fun node behind => ∀ nodes frames,
      reader.outcome (.action (.expr .start)) nodes frames =
        behind.outcome .text (nodes ++ node.toList) frames := by
  refine (hexpr.expression lowest reader).bind ?_
  intro expr middle hreads
  cases hreads with
  | failed hdiagnostics hsettle =>
      refine .result ?_
      intro nodes frames
      rw [Option.toList_none, List.append_nil]
      exact (hosts_action nodes frames).outcome_of_failed hdiagnostics (hsettle [] Nat.one_pos)
  | @expr input _ hdiagnostics hfollows hsettle =>
      have hinput (nodes : List Node) (frames : List Frame) :
          reader.outcome (.action (.expr .start)) nodes frames =
            middle.outcome (.action (.pipeline input)) nodes frames := by
        rw [outcome_eq_step middle]
        exact (hosts_action nodes frames).outcome_of_expr hdiagnostics hfollows
          (hsettle [] Nat.one_pos)
      refine (hmodifiers input middle).bind ?_
      rintro (_ | expr) behind hread
      · refine .result ?_
        intro nodes frames
        rw [hinput, hread, Option.toList_none, List.append_nil]
      · obtain ⟨hbar, hread⟩ := hread
        dsimp only
        rcases closing_cases (Node.action expr) behind with ⟨hkind, hbrace⟩ | ⟨hkind, hbrace⟩
        · rw [hbrace]
          refine .result ?_
          intro nodes frames
          rw [hinput, hread]
          refine outcome_of_step (ne_end_of_kind hkind (by decide)) ?_
          simp only [step, stepAction, OpenAction.step, OpenAction.stepPipeline, closeWith,
            if_neg hbar, if_pos hkind]
          rfl
        · rw [hbrace]
          refine .result ?_
          intro nodes frames
          rw [hinput, hread, Option.toList_none, List.append_nil]
          refine outcome_of_failed ?_
          simp only [step, stepAction, OpenAction.step, OpenAction.stepPipeline, closeWith,
            if_neg hbar, if_neg hkind]
          rfl

/-! ## Conditions -/

/-- A mode in which the tag of a condition is read, behind which its block is opened. -/
def OpensBlock (mode : OpenCondition → ReadingMode) (nodes : List Node) (frames : List Frame)
    (opened : Option Expr → List Frame) : Prop :=
  ∀ part diagnostics token, step ⟨mode part, nodes, frames, diagnostics⟩ token =
    match part.step token with
    | .more next => ⟨mode next, nodes, frames, diagnostics⟩
    | .done condition => ⟨.text, [], opened (some condition), diagnostics⟩
    | .failed diagnostic => goOnBehind ⟨.text, [], opened none, diagnostics ++ [diagnostic]⟩ token

theorem opensBlock_ifTag (tag : Position) (nodes : List Node) (frames : List Frame) :
    OpensBlock (.ifTag tag) nodes frames fun condition =>
      .arm tag nodes [] condition :: frames := by
  intro part diagnostics token
  simp only [step, stepCondition]
  cases part.step token with
  | more next => rfl
  | done condition => rfl
  | failed diagnostic => rfl

theorem opensBlock_elseIfTag (tag : Position) (above : List Node) (arms : List Arm)
    (previous : Option Expr) (nodes : List Node) (frames : List Frame) :
    OpensBlock .elseIfTag nodes (.arm tag above arms previous :: frames) fun condition =>
      .arm tag above (arms ++ [(previous, nodes)]) condition :: frames := by
  intro part diagnostics token
  simp only [step, stepCondition]
  cases part.step token with
  | more next => rfl
  | done condition => rfl
  | failed diagnostic => rfl

theorem OpensBlock.hosts {mode : OpenCondition → ReadingMode} {nodes : List Node}
    {frames : List Frame} {opened : Option Expr → List Frame}
    (h : OpensBlock mode nodes frames opened) :
    Hosts (fun part => mode ⟨part⟩) nodes frames
      (fun expr diagnostics token =>
        if token.kind = .closeTag then ⟨.text, [], opened (some expr), diagnostics⟩
        else goOnBehind ⟨.text, [], opened none,
          diagnostics ++ [.expected (.token .closeTag) token]⟩ token)
      [] (opened none) := by
  intro part diagnostics token
  rw [h ⟨part⟩, OpenCondition.step]
  cases part.step token with
  | more next => rfl
  | failed diagnostic => rfl
  | done expr =>
      by_cases hclose : token.kind = .closeTag
      · simp only [closeWith, if_pos hclose]
      · simp only [closeWith, if_neg hclose]

/-- The tag of a condition opens its block, without a condition if it fails. -/
theorem outcome_tagExpression (hexpr : calls.ReadsExpr) :
    Ensures (calls.tagExpression reader) fun condition behind => ∀ mode nodes frames opened,
      OpensBlock mode nodes frames opened →
        reader.outcome (mode .start) nodes frames = behind.outcome .text [] (opened condition) := by
  refine (hexpr.expression lowest reader).bind ?_
  intro expr middle hreads
  cases hreads with
  | failed hdiagnostics hsettle =>
      refine .result ?_
      intro mode nodes frames opened hopens
      exact hopens.hosts.outcome_of_failed hdiagnostics (hsettle [] Nat.one_pos)
  | @expr condition _ hdiagnostics hfollows hsettle =>
      dsimp only
      rcases closing_cases condition middle with ⟨hkind, hbrace⟩ | ⟨hkind, hbrace⟩
      · rw [hbrace]
        refine .result ?_
        intro mode nodes frames opened hopens
        have hcomplete :=
          hopens.hosts.outcome_of_expr hdiagnostics hfollows (hsettle [] Nat.one_pos)
        rw [if_pos hkind, left_eq_cons (ne_end_of_kind hkind (by decide))] at hcomplete
        exact hcomplete
      · rw [hbrace]
        refine .result ?_
        intro mode nodes frames opened hopens
        have hcomplete :=
          hopens.hosts.outcome_of_expr hdiagnostics hfollows (hsettle [] Nat.one_pos)
        rw [if_neg hkind] at hcomplete
        exact hcomplete.trans (comesTo_goOnBehind (middle.report _) .text [] (opened none))

/-! ## Attributes of loops -/

/-- A reader goes over part of the attributes of a loop. -/
def LoopReads (reader : Reader) (loop : OpenLoop) (further : LoopAttributes)
    (behind : Reader) : Prop :=
  ∀ tag nodes frames, reader.outcome (.foreachTag tag loop) nodes frames =
    behind.outcome (.foreachTag tag (.between further)) nodes frames

/-- A reader goes behind the tag of a loop of which no header can be made. -/
def LoopFails (reader : Reader) (loop : OpenLoop) (behind : Reader) : Prop :=
  ∀ tag nodes frames, reader.outcome (.foreachTag tag loop) nodes frames =
    behind.outcome .text [] (.body tag nodes none :: frames)

section Attributes

variable {loop next : OpenLoop}

theorem outcome_foreachTag (hend : reader.current.kind ≠ .endOfInput)
    (hstep : ∀ tag, loop.step tag reader.current = .more next) (tag : Position) (nodes : List Node)
    (frames : List Frame) :
    reader.outcome (.foreachTag tag loop) nodes frames =
      reader.advance.outcome (.foreachTag tag next) nodes frames := by
  refine outcome_of_step hend ?_
  simp only [step, stepForeach, hstep]
  rfl

theorem loopFails_of_failed {diagnostic : Diagnostic}
    (hstep : ∀ tag, loop.step tag reader.current = .failed diagnostic) :
    LoopFails reader loop (reader.report diagnostic).skipTag := by
  intro tag nodes frames
  refine outcome_of_failed ?_
  simp only [step, stepForeach, hstep]
  rfl

theorem hosts_source (attributes : LoopAttributes) (tag : Position) (nodes : List Node)
    (frames : List Frame) :
    Hosts (fun part => .foreachTag tag (.source attributes part)) nodes frames
      (fun expr diagnostics => step
        ⟨.foreachTag tag (.between { attributes with source := some expr }), nodes, frames,
          diagnostics⟩)
      [] (.body tag nodes none :: frames) := by
  intro part diagnostics token
  simp only [step, stepForeach, OpenLoop.step]
  cases part.step token with
  | more next => rfl
  | done expr => rfl
  | failed diagnostic => rfl

/-- What the value of an attribute reads: it is put to the attributes, or the tag fails. -/
def ValueReads (reader : Reader) (loop : OpenLoop) : Option LoopAttributes → Reader → Prop
  | some further, behind => LoopReads reader loop further behind
  | none, behind => LoopFails reader loop behind.skipTag

/-- A word that completes an attribute. -/
theorem valueReads_word {what : Expectation} {named : String → LoopAttributes}
    (hstep : ∀ tag, loop.step tag reader.current =
      if reader.current.kind.isWord then .more (.between (named reader.current.literal))
      else .failed (.expected what reader.current)) :
    ValueReads reader loop ((reader.word what).1.map named) (reader.word what).2 := by
  rcases word_cases what reader with ⟨hkind, hword⟩ | ⟨hkind, hword⟩
  · rw [hword]
    refine outcome_foreachTag (ne_end_of_isWord hkind) ?_
    intro tag
    rw [hstep, if_pos hkind]
  · rw [hword]
    refine loopFails_of_failed ?_
    intro tag
    rw [hstep, if_neg (by rw [hkind]; exact Bool.false_ne_true)]

theorem ValueReads.of_advance {result : Option LoopAttributes} {behind : Reader}
    (hend : reader.current.kind ≠ .endOfInput)
    (hstep : ∀ tag, loop.step tag reader.current = .more next)
    (h : ValueReads reader.advance next result behind) : ValueReads reader loop result behind := by
  cases result with
  | none =>
      intro tag nodes frames
      rw [outcome_foreachTag hend hstep]
      exact h tag nodes frames
  | some further =>
      intro tag nodes frames
      rw [outcome_foreachTag hend hstep]
      exact h tag nodes frames

theorem valueReads_variable (attributes : LoopAttributes) (target : LoopVariable)
    (reader : Reader) :
    ValueReads reader (.variableOrDollar attributes target)
      (reader.loopVariable.1.map fun name => OpenLoop.bind attributes name target)
      reader.loopVariable.2 := by
  rw [loopVariable]
  by_cases hdollar : reader.current.kind = .dollar
  · rw [if_pos hdollar]
    have hname : ∀ tag, OpenLoop.step tag (.variableOrDollar attributes target) reader.current =
        .more (.variableName attributes target) := by
      intro tag
      simp only [OpenLoop.step, if_pos hdollar]
    exact .of_advance (ne_end_of_kind hdollar (by decide)) hname (valueReads_word fun _ => rfl)
  · rw [if_neg hdollar]
    refine valueReads_word ?_
    intro tag
    simp only [OpenLoop.step, if_neg hdollar, OpenLoop.stepVariable]

theorem valueReads_label (attributes : LoopAttributes) (reader : Reader) :
    ValueReads reader (.label attributes)
      (reader.loopLabel.1.map fun name => { attributes with label := some name })
      reader.loopLabel.2 := by
  rw [loopLabel]
  by_cases hname : reader.current.kind.isWord ∨ reader.current.kind = .string
  · rw [if_pos hname]
    have hend : reader.current.kind ≠ .endOfInput := by
      rcases hname with hword | hstring
      · exact ne_end_of_isWord hword
      · exact ne_end_of_kind hstring (by decide)
    refine outcome_foreachTag hend ?_
    intro tag
    simp only [OpenLoop.step, if_pos hname]
  · rw [if_neg hname]
    refine loopFails_of_failed ?_
    intro tag
    simp only [OpenLoop.step, if_neg hname]

theorem valueReads_attributeValue (hexpr : calls.ReadsExpr) (attributes : LoopAttributes)
    (name : LoopAttribute) (reader : Reader) :
    Ensures (calls.attributeValue attributes name reader)
      (ValueReads reader (OpenLoop.valueOf attributes name)) := by
  cases name with
  | source =>
      refine (hexpr.expression lowest reader).bind ?_
      intro expr behind hreads
      cases hreads with
      | failed hdiagnostics hsettle =>
          refine .result ?_
          intro tag nodes frames
          exact (hosts_source attributes tag nodes frames).outcome_of_failed hdiagnostics
            (hsettle [] Nat.one_pos)
      | expr hdiagnostics hfollows hsettle =>
          refine .result ?_
          intro tag nodes frames
          rw [outcome_eq_step behind]
          exact (hosts_source attributes tag nodes frames).outcome_of_expr hdiagnostics hfollows
            (hsettle [] Nat.one_pos)
  | item => exact .result (valueReads_variable attributes .item reader)
  | key => exact .result (valueReads_variable attributes .key reader)
  | label => exact .result (valueReads_label attributes reader)

/-- What a loop over attributes reads: all of them up to the brace that closes the tag, or the
tag fails. -/
def AttributesRead (reader : Reader) (attributes : LoopAttributes) :
    Option LoopAttributes → Reader → Prop
  | some further, behind =>
      behind.current.kind = .closeTag ∧ LoopReads reader (.between attributes) further behind
  | none, behind => LoopFails reader (.between attributes) behind

/-- What a round of this loop reads: one more attribute, or the end of the tag. -/
def AttributeRead (reader : Reader) (attributes : LoopAttributes) :
    LoopRound LoopAttributes (Option LoopAttributes) → Reader → Prop
  | .goesOn further, behind => LoopReads reader (.between attributes) further behind
  | .ends result, behind => AttributesRead reader attributes result behind

theorem attributeRead_attributeRound (hexpr : calls.ReadsExpr) (attributes : LoopAttributes)
    (reader : Reader) :
    Ensures (calls.attributeRound attributes reader) (AttributeRead reader attributes) := by
  rw [attributeRound]
  by_cases hclose : reader.current.kind = .closeTag
  · rw [if_pos hclose]
    exact .result ⟨hclose, fun _ _ _ => rfl⟩
  rw [if_neg hclose]
  by_cases hend : reader.current.kind = .endOfInput
  · rw [if_pos hend]
    have hfails : LoopFails reader (.between attributes)
        (reader.report ⟨.unterminatedForeachTag, reader.current.position⟩).skipTag := by
      refine loopFails_of_failed ?_
      intro tag
      simp only [OpenLoop.step, OpenLoop.stepBetween, if_neg hclose, if_pos hend]
    have hstays : (reader.report ⟨.unterminatedForeachTag, reader.current.position⟩).skipTag =
        reader.report ⟨.unterminatedForeachTag, reader.current.position⟩ := skipTag_of_ended hend
    rw [hstays] at hfails
    exact .result hfails
  rw [if_neg hend]
  by_cases hkind : reader.current.kind = .identifier
  swap
  · rw [if_pos hkind]
    refine .result (loopFails_of_failed ?_)
    intro tag
    simp only [OpenLoop.step, OpenLoop.stepBetween, if_neg hclose, if_neg hend, if_neg hkind]
  rw [if_neg (not_not.mpr hkind)]
  have hbetween (tag : Position) : OpenLoop.step tag (.between attributes) reader.current =
      OpenLoop.stepName attributes reader.current := by
    simp only [OpenLoop.step, OpenLoop.stepBetween, if_neg hclose, if_neg hend, if_pos hkind]
  cases hword : LoopAttribute.ofWord? reader.current.literal with
  | none =>
      refine .result (loopFails_of_failed ?_)
      intro tag
      rw [hbetween, OpenLoop.stepName, hword]
  | some name =>
      dsimp only
      by_cases hhas : attributes.has name = true
      · rw [if_pos hhas]
        refine .result (loopFails_of_failed ?_)
        intro tag
        rw [hbetween, OpenLoop.stepName, hword]
        exact if_pos hhas
      rw [if_neg hhas]
      have hnamed (tag : Position) : OpenLoop.step tag (.between attributes) reader.current =
          .more (.assign attributes name) := by
        rw [hbetween, OpenLoop.stepName, hword]
        exact if_neg hhas
      rcases expect_cases .assign reader.advance with ⟨hassign, hexpect⟩ | ⟨hassign, hexpect⟩
      · rw [hexpect]
        have hvalue (tag : Position) :
            OpenLoop.step tag (.assign attributes name) reader.advance.current =
              .more (OpenLoop.valueOf attributes name) := by
          simp only [OpenLoop.step, if_pos hassign]
        refine (valueReads_attributeValue hexpr attributes name _).bind ?_
        intro result behind hresult
        have hread :=
          (hresult.of_advance (ne_end_of_kind hassign (by decide)) hvalue).of_advance hend hnamed
        cases result with
        | none => exact .result hread
        | some further => exact .result hread
      · rw [hexpect]
        have hfails : ValueReads reader.advance (.assign attributes name) none
            (reader.advance.report (.expected (.token .assign) reader.advance.current)) := by
          refine loopFails_of_failed ?_
          intro tag
          simp only [OpenLoop.step, if_neg hassign]
        exact .result (hfails.of_advance hend hnamed)

theorem attributesRead_deeper (hexpr : calls.ReadsExpr)
    (hattributes : ∀ attributes reader,
      Ensures (calls.attributes attributes reader) (AttributesRead reader attributes))
    (attributes : LoopAttributes) (reader : Reader) :
    Ensures (calls.deeper.attributes attributes reader) (AttributesRead reader attributes) := by
  refine (attributeRead_attributeRound hexpr attributes reader).bind ?_
  rintro (further | result) behind hread
  · refine (hattributes further behind).mono ?_
    rintro (_ | whole) last hlast
    · intro tag nodes frames
      rw [hread, hlast]
    · refine ⟨hlast.1, ?_⟩
      intro tag nodes frames
      rw [hread, hlast.2]
  · exact .result hread

/-- The tag of a loop opens its body, without a header if none can be made. -/
theorem outcome_loopHeader
    (hattributes : ∀ attributes reader,
      Ensures (calls.attributes attributes reader) (AttributesRead reader attributes))
    (tag : Position) :
    Ensures (calls.loopHeader tag reader) fun header behind => ∀ nodes frames,
      reader.outcome (.foreachTag tag .start) nodes frames =
        behind.outcome .text [] (.body tag nodes header :: frames) := by
  refine (hattributes .empty reader).bind ?_
  rintro (_ | attributes) behind hread
  · exact .result (hread tag)
  · refine .result ?_
    obtain ⟨hclose, hread⟩ := hread
    intro nodes frames
    have hbehind (template : OpenTemplate) :
        template.goOnBehind behind.current = template.goOn .text := by
      rw [goOnBehind, if_pos hclose]
    have hread := hread tag nodes frames
    rw [outcome_eq_step behind, left_eq_cons (ne_end_of_kind hclose (by decide))] at hread
    simp only [step, stepForeach, OpenLoop.step, OpenLoop.stepBetween, if_pos hclose] at hread
    refine hread.trans ?_
    obtain ⟨source, item, key, label⟩ := attributes
    cases source with
    | none =>
        simp only [LoopAttributes.header, hbehind]
        rfl
    | some source =>
        cases item with
        | none =>
            simp only [LoopAttributes.header, hbehind]
            rfl
        | some item => rfl

end Attributes

end Descent

end Stencil
