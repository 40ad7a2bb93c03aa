import Stencil.Proofs.Token.Relocation
import Stencil.Template.Basic

/-!
# Reading behind other nodes

A reader that has nothing open but the nodes in front of it reads on as it would at the
beginning of a source: the nodes in front stay where they are, and all that it remembers or
reports has its place in the longer source.  One step keeps this, so a whole reading does, and
so does the end of a source, where what is still open is closed.
-/

namespace Stencil

/-! ## Places in what is reported -/

namespace Problem

/-- A problem with what was found in another place. -/
def movedTo (base : Position) : Problem → Problem
  | expected what found => expected what (found.movedTo base)
  | unknownTag found => unknownTag (found.movedTo base)
  | other => other

/-- No wording tells a place. -/
theorem message_movedTo (base : Position) (problem : Problem) :
    (problem.movedTo base).message = problem.message := by
  cases problem <;> rfl

end Problem

/-- A diagnostic in another place. -/
def Diagnostic.movedTo (base : Position) (diagnostic : Diagnostic) : Diagnostic :=
  ⟨diagnostic.problem.movedTo base, diagnostic.position.movedTo base⟩

/-- What a step leads to, with its diagnostic in another place. -/
def Progress.movedTo {State Result : Type} (base : Position) :
    Progress State Result → Progress State Result
  | .more next => .more next
  | .done result => .done result
  | .failed diagnostic => .failed (diagnostic.movedTo base)

/-! ## Steps inside tags -/

section Tags

variable (base : Position) (token : Token)

theorem closeWith_movedTo {State Result : Type} (result : Result) :
    (closeWith result (token.movedTo base) : Progress State Result) =
      (closeWith result token).movedTo base := by
  rw [closeWith, closeWith, apply_ite (Progress.movedTo base)]
  rfl

namespace OpenExpr

theorem close_movedTo (pending : List Pending) (operand : Expr) :
    close pending operand (token.movedTo base) = (close pending operand token).movedTo base := by
  rw [close, close]
  split
  · rw [apply_ite (Progress.movedTo base)]
    rfl
  · rfl

theorem stepSuffix_movedTo (pending : List Pending) (operand : Expr) :
    stepSuffix pending operand (token.movedTo base) =
      (stepSuffix pending operand token).movedTo base := by
  rw [stepSuffix, stepSuffix, Token.kind_movedTo]
  split
  · rfl
  · rfl
  · split
    · rfl
    · exact close_movedTo base token pending operand

theorem stepOperand_movedTo (pending : List Pending) :
    stepOperand pending (token.movedTo base) = (stepOperand pending token).movedTo base := by
  rw [stepOperand, stepOperand, Token.kind_movedTo]
  split <;> rfl

theorem stepName_movedTo (pending : List Pending) (what : Expectation) (named : String → Expr) :
    stepName pending what named (token.movedTo base) =
      (stepName pending what named token).movedTo base := by
  rw [stepName, stepName, apply_ite (Progress.movedTo base)]
  rfl

theorem step_movedTo (expr : OpenExpr) :
    expr.step (token.movedTo base) = (expr.step token).movedTo base := by
  rw [step, step]
  cases expr.point with
  | operand => exact stepOperand_movedTo base token expr.pending
  | variableName => exact stepName_movedTo base token expr.pending _ _
  | suffix operand => exact stepSuffix_movedTo base token expr.pending operand
  | propertyName inner => exact stepName_movedTo base token expr.pending _ _

end OpenExpr

theorem OpenCondition.step_movedTo (condition : OpenCondition) :
    condition.step (token.movedTo base) = (condition.step token).movedTo base := by
  rw [step, step, OpenExpr.step_movedTo]
  cases condition.expr.step token with
  | more next => rfl
  | done whole => exact closeWith_movedTo base token whole
  | failed diagnostic => rfl

namespace OpenAction

theorem stepPipeline_movedTo (input : Expr) :
    stepPipeline input (token.movedTo base) = (stepPipeline input token).movedTo base := by
  rw [stepPipeline, stepPipeline, Token.kind_movedTo]
  split
  · rfl
  · exact closeWith_movedTo base token input

theorem step_movedTo (action : OpenAction) :
    action.step (token.movedTo base) = (action.step token).movedTo base := by
  cases action with
  | expr part =>
      rw [step, step, OpenExpr.step_movedTo]
      cases part.step token with
      | more next => rfl
      | done input => exact stepPipeline_movedTo base token input
      | failed diagnostic => rfl
  | pipeline input => exact stepPipeline_movedTo base token input
  | modifier input =>
      rw [step, step, apply_ite (Progress.movedTo base)]
      rfl

end OpenAction

theorem LoopAttributes.header_movedTo {State : Type} (attributes : LoopAttributes)
    (tag : Position) :
    (attributes.header (tag.movedTo base) : Progress State LoopHeader) =
      (attributes.header tag).movedTo base := by
  simp only [header]
  split <;> rfl

namespace OpenLoop

theorem stepName_movedTo (attributes : LoopAttributes) :
    stepName attributes (token.movedTo base) = (stepName attributes token).movedTo base := by
  simp only [stepName, Token.movedTo]
  split
  · rfl
  · split <;> rfl

theorem stepBetween_movedTo (tag : Position) (attributes : LoopAttributes) :
    stepBetween (tag.movedTo base) attributes (token.movedTo base) =
      (stepBetween tag attributes token).movedTo base := by
  rw [stepBetween, stepBetween, Token.kind_movedTo]
  split
  · exact LoopAttributes.header_movedTo base attributes tag
  · split
    · rfl
    · split
      · exact stepName_movedTo base token attributes
      · rfl

theorem stepVariable_movedTo (attributes : LoopAttributes) (target : LoopVariable) :
    stepVariable attributes target (token.movedTo base) =
      (stepVariable attributes target token).movedTo base := by
  rw [stepVariable, stepVariable, apply_ite (Progress.movedTo base)]
  rfl

theorem step_movedTo (tag : Position) (loop : OpenLoop) :
    loop.step (tag.movedTo base) (token.movedTo base) = (loop.step tag token).movedTo base := by
  cases loop with
  | between attributes => exact stepBetween_movedTo base token tag attributes
  | assign attributes name =>
      rw [step, step, apply_ite (Progress.movedTo base)]
      rfl
  | source attributes part =>
      rw [step, step, OpenExpr.step_movedTo]
      cases part.step token with
      | more next => rfl
      | done whole => exact stepBetween_movedTo base token tag _
      | failed diagnostic => rfl
  | variableOrDollar attributes target =>
      rw [step, step, Token.kind_movedTo]
      split
      · rfl
      · exact stepVariable_movedTo base token attributes target
  | variableName attributes target => exact stepVariable_movedTo base token attributes target
  | label attributes =>
      rw [step, step, apply_ite (Progress.movedTo base)]
      rfl

end OpenLoop

end Tags

/-! ## Templates behind other nodes -/

namespace TagEffect

/-- What a tag does, with the place of the tag moved. -/
def movedTo (base : Position) : TagEffect → TagEffect
  | literal tag => literal (tag.movedTo base)
  | other => other

end TagEffect

namespace ReadingMode

/-- A mode with the place of its tag moved. -/
def movedTo (base : Position) : ReadingMode → ReadingMode
  | ifTag tag part => ifTag (tag.movedTo base) part
  | foreachTag tag part => foreachTag (tag.movedTo base) part
  | keyword effect => keyword (effect.movedTo base)
  | literal tag body => literal (tag.movedTo base) body
  | literalBrace tag body => literalBrace (tag.movedTo base) body
  | other => other

end ReadingMode

namespace Frame

/-- A condition or loop behind some nodes, with the place of its tag moved. -/
def behind (front : List Node) (base : Position) : Frame → Frame
  | arm tag above arms condition => arm (tag.movedTo base) (front ++ above) arms condition
  | otherwise tag above arms => otherwise (tag.movedTo base) (front ++ above) arms
  | body tag above header => body (tag.movedTo base) (front ++ above) header
  | ifEmpty tag above header inner => ifEmpty (tag.movedTo base) (front ++ above) header inner

/-- The nodes that stand in front of a block: only the outermost block has any. -/
def lead (front : List Node) : List Frame → List Node
  | [] => front
  | _ :: _ => []

/-- Conditions and loops behind some nodes. -/
def allBehind (front : List Node) (base : Position) : List Frame → List Frame
  | [] => []
  | frame :: outer => frame.behind (lead front outer) base :: allBehind front base outer

theorem above_behind (front : List Node) (base : Position) (frame : Frame) :
    (frame.behind front base).above = front ++ frame.above := by
  cases frame <;> rfl

theorem node?_behind (front : List Node) (base : Position) (block : List Node) (frame : Frame) :
    (frame.behind front base).node? block = frame.node? block := by
  cases frame <;> rfl

theorem unterminated_behind (front : List Node) (base : Position) (frame : Frame) :
    (frame.behind front base).unterminated = frame.unterminated.movedTo base := by
  cases frame <;> rfl

theorem continuation?_behind (front : List Node) (base : Position) (frame : Frame)
    (kind : TokenKind) :
    (frame.behind front base).continuation? kind =
      (frame.continuation? kind).map (ReadingMode.movedTo base) := by
  cases frame <;> cases kind <;> rfl

end Frame

namespace OpenTemplate

/-- What has been read of a template that stands behind some nodes and begins at a base. -/
def behind (front : List Node) (base : Position) (template : OpenTemplate) : OpenTemplate where
  mode := template.mode.movedTo base
  nodes := Frame.lead front template.frames ++ template.nodes
  frames := Frame.allBehind front base template.frames
  diagnostics := template.diagnostics.map (Diagnostic.movedTo base)

section Behind

variable (front : List Node) (base : Position) (template : OpenTemplate)

@[simp] theorem behind_goOn (mode : ReadingMode) :
    (template.goOn mode).behind front base =
      (template.behind front base).goOn (mode.movedTo base) :=
  rfl

@[simp] theorem behind_push (node : Node) :
    (template.push node).behind front base = (template.behind front base).push node := by
  simp [behind, push]

@[simp] theorem behind_report (diagnostic : Diagnostic) :
    (template.report diagnostic).behind front base =
      (template.behind front base).report (diagnostic.movedTo base) := by
  simp [behind, report]

@[simp] theorem behind_goOnBehind (token : Token) :
    (template.goOnBehind token).behind front base =
      (template.behind front base).goOnBehind (token.movedTo base) := by
  rw [goOnBehind, goOnBehind, behind_goOn, apply_ite (ReadingMode.movedTo base)]
  rfl

theorem behind_openFrame (frame : Frame) :
    (template.openFrame frame).behind front base =
      (template.behind front base).openFrame
        (frame.behind (Frame.lead front template.frames) base) :=
  rfl

@[simp] theorem behind_closeFrame :
    template.closeFrame.behind front base = (template.behind front base).closeFrame := by
  obtain ⟨mode, nodes, frames, diagnostics⟩ := template
  cases frames with
  | nil => rfl
  | cons frame outer =>
      simp only [closeFrame, behind, Frame.allBehind, Frame.lead, Frame.above_behind,
        Frame.node?_behind, List.nil_append, List.append_assoc]

@[simp] theorem behind_nextArm (condition : Option Expr) :
    (template.nextArm condition).behind front base =
      (template.behind front base).nextArm condition := by
  obtain ⟨mode, nodes, frames, diagnostics⟩ := template
  cases frames with
  | nil => rfl
  | cons frame outer => cases frame <;> rfl

@[simp] theorem behind_elseArm :
    template.elseArm.behind front base = (template.behind front base).elseArm := by
  obtain ⟨mode, nodes, frames, diagnostics⟩ := template
  cases frames with
  | nil => rfl
  | cons frame outer => cases frame <;> rfl

@[simp] theorem behind_emptyArm :
    template.emptyArm.behind front base = (template.behind front base).emptyArm := by
  obtain ⟨mode, nodes, frames, diagnostics⟩ := template
  cases frames with
  | nil => rfl
  | cons frame outer => cases frame <;> rfl

@[simp] theorem behind_perform (effect : TagEffect) :
    (template.perform effect).behind front base =
      (template.behind front base).perform (effect.movedTo base) := by
  cases effect with
  | elseBlock => exact behind_elseArm front base template
  | endIf => exact behind_closeFrame front base template
  | emptyBlock => exact behind_emptyArm front base template
  | endForeach => exact behind_closeFrame front base template
  | literal tag => rfl
  | endLiteral body => exact behind_push front base template _

theorem modeBehind_movedTo (effect : TagEffect) :
    modeBehind (effect.movedTo base) = (modeBehind effect).movedTo base := by
  cases effect <;> rfl

@[simp] theorem behind_abandonLiteral (tag : Position) (body : String) :
    (template.abandonLiteral tag body).behind front base =
      (template.behind front base).abandonLiteral (tag.movedTo base) body := by
  rw [abandonLiteral, abandonLiteral, behind_push, behind_report]
  rfl

/-! ## One step -/

variable (token : Token)

theorem behind_stepKeyword (effect : TagEffect) :
    (template.stepKeyword effect token).behind front base =
      (template.behind front base).stepKeyword (effect.movedTo base) (token.movedTo base) := by
  rw [stepKeyword, stepKeyword, apply_ite (behind front base), behind_goOn, behind_perform,
    behind_goOnBehind, behind_perform, behind_report, modeBehind_movedTo]
  rfl

theorem behind_stepText :
    (template.stepText token).behind front base =
      (template.behind front base).stepText (token.movedTo base) := by
  rw [stepText, stepText, Token.kind_movedTo]
  split
  · rw [behind_goOn, behind_push]
    rfl
  · rfl
  · rfl

theorem continuation?_behind (kind : TokenKind) :
    ((template.behind front base).frames.head?.bind fun frame => frame.continuation? kind) =
      (template.frames.head?.bind fun frame => frame.continuation? kind).map
        (ReadingMode.movedTo base) := by
  obtain ⟨mode, nodes, frames, diagnostics⟩ := template
  cases frames with
  | nil => rfl
  | cons frame outer => exact Frame.continuation?_behind _ base frame kind

theorem behind_stepBrace :
    (template.stepBrace token).behind front base =
      (template.behind front base).stepBrace (token.movedTo base) := by
  rw [stepBrace, stepBrace, Token.kind_movedTo, continuation?_behind]
  cases template.frames.head?.bind fun frame => frame.continuation? token.kind with
  | some mode => rfl
  | none =>
      simp only [Option.map_none]
      split
      · rfl
      · rfl
      · rfl
      · rfl
      · rw [behind_goOn, behind_report]
        rfl
      · rw [behind_stepText, behind_report]
        rfl

theorem behind_stepAction (part : OpenAction) :
    (template.stepAction part token).behind front base =
      (template.behind front base).stepAction part (token.movedTo base) := by
  rw [stepAction, stepAction, OpenAction.step_movedTo]
  cases part.step token with
  | more next => rfl
  | done expr =>
      simp only [Progress.movedTo]
      rw [behind_goOn, behind_push]
      rfl
  | failed diagnostic =>
      simp only [Progress.movedTo]
      rw [behind_goOnBehind, behind_report]

/-- A condition that opens its block behind other nodes as it does without them. -/
theorem behind_stepCondition {mode moved : OpenCondition → ReadingMode}
    {opened : OpenTemplate → Option Expr → OpenTemplate}
    (hmode : ∀ part, (mode part).movedTo base = moved part)
    {openedBehind : OpenTemplate → Option Expr → OpenTemplate}
    (hopened : ∀ (template : OpenTemplate) (condition : Option Expr),
      (opened template condition).behind front base =
        openedBehind (template.behind front base) condition)
    (part : OpenCondition) :
    (template.stepCondition mode opened part token).behind front base =
      (template.behind front base).stepCondition moved openedBehind part
        (token.movedTo base) := by
  rw [stepCondition, stepCondition, OpenCondition.step_movedTo]
  cases part.step token with
  | more next =>
      simp only [Progress.movedTo]
      rw [behind_goOn, hmode]
  | done condition =>
      simp only [Progress.movedTo]
      rw [behind_goOn, hopened]
      rfl
  | failed diagnostic =>
      simp only [Progress.movedTo]
      rw [behind_goOnBehind, hopened, behind_report]

theorem behind_stepForeach (tag : Position) (part : OpenLoop) :
    (template.stepForeach tag part token).behind front base =
      (template.behind front base).stepForeach (tag.movedTo base) part (token.movedTo base) := by
  rw [stepForeach, stepForeach, OpenLoop.step_movedTo]
  cases part.step tag token with
  | more next => rfl
  | done header => rfl
  | failed diagnostic =>
      simp only [Progress.movedTo]
      rw [behind_goOnBehind, behind_openFrame, behind_report]
      rfl

theorem behind_stepLiteral (tag : Position) (body : String) :
    (template.stepLiteral tag body token).behind front base =
      (template.behind front base).stepLiteral (tag.movedTo base) body (token.movedTo base) := by
  rw [stepLiteral, stepLiteral, Token.kind_movedTo]
  split
  · rfl
  · rfl
  · rw [behind_stepText, behind_abandonLiteral]

theorem behind_stepLiteralBrace (tag : Position) (body : String) :
    (template.stepLiteralBrace tag body token).behind front base =
      (template.behind front base).stepLiteralBrace (tag.movedTo base) body
        (token.movedTo base) := by
  rw [stepLiteralBrace, stepLiteralBrace, apply_ite (behind front base), behind_stepBrace,
    behind_abandonLiteral]
  rfl

/-- One token further, a template that stands behind other nodes still stands behind them. -/
theorem behind_step :
    (template.step token).behind front base =
      (template.behind front base).step (token.movedTo base) := by
  have hmode : (template.behind front base).mode = template.mode.movedTo base := rfl
  rw [step, step, hmode]
  cases template.mode with
  | text => exact behind_stepText front base template token
  | brace => exact behind_stepBrace front base template token
  | action part => exact behind_stepAction front base template token part
  | ifTag tag part =>
      refine behind_stepCondition front base template token (fun _ => rfl) ?_ part
      intro template condition
      rfl
  | elseIfTag part =>
      exact behind_stepCondition front base template token (fun _ => rfl)
        (behind_nextArm front base) part
  | foreachTag tag part => exact behind_stepForeach front base template token tag part
  | keyword effect => exact behind_stepKeyword front base template token effect
  | skipping =>
      rw [apply_ite (behind front base)]
      rfl
  | literal tag body => exact behind_stepLiteral front base template token tag body
  | literalBrace tag body => exact behind_stepLiteralBrace front base template token tag body

/-! ## Whole readings -/

/-- Tokens in their new places are read behind the nodes as they are read alone. -/
theorem behind_read (ts : List Token) :
    (template.read ts).behind front base =
      (template.behind front base).read (ts.map (Token.movedTo base)) := by
  induction ts generalizing template with
  | nil => rfl
  | cons token ts ih =>
      rw [List.map_cons, read_cons, read_cons, ih, behind_step]

theorem behind_abandonFrame (frame : Frame) (nodes : List Node) :
    (template.abandonFrame frame).behind front base =
      (template.behind front base).abandonFrame (frame.behind nodes base) := by
  rw [abandonFrame, abandonFrame, behind_closeFrame, behind_report, Frame.unterminated_behind]

/-- At the end of the source the nodes in front stay where they are. -/
theorem behind_closeAll :
    template.closeAll.behind front base = (template.behind front base).closeAll := by
  have hfold (frames : List Frame) (template : OpenTemplate) :
      (frames.foldl abandonFrame template).behind front base =
        (Frame.allBehind front base frames).foldl abandonFrame (template.behind front base) := by
    induction frames generalizing template with
    | nil => rfl
    | cons frame outer ih =>
        rw [List.foldl_cons, ih, behind_abandonFrame]
        rfl
  exact hfold template.frames template

end Behind

end OpenTemplate

end Stencil
