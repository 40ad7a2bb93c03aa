import Stencil.Template.Basic

/-!
# Reading behind earlier diagnostics

Diagnostics are only written.  A reader that has recorded some already goes on as one that has
not, and what it records comes behind them.  One step keeps this, whatever it does to the nodes
and blocks, and so do a whole reading and the end of a source.
-/

namespace Stencil

namespace OpenTemplate

/-- What has been read of a template, with diagnostics in front of its own. -/
def noted (earlier : List Diagnostic) (template : OpenTemplate) : OpenTemplate :=
  { template with diagnostics := earlier ++ template.diagnostics }

section Noted

variable (earlier : List Diagnostic) (template : OpenTemplate)

theorem noted_goOn (mode : ReadingMode) :
    (template.goOn mode).noted earlier = (template.noted earlier).goOn mode :=
  rfl

theorem noted_push (node : Node) :
    (template.push node).noted earlier = (template.noted earlier).push node :=
  rfl

theorem noted_report (diagnostic : Diagnostic) :
    (template.report diagnostic).noted earlier =
      (template.noted earlier).report diagnostic := by
  rw [noted, report, report, noted]
  simp only [List.append_assoc]

theorem noted_goOnBehind (token : Token) :
    (template.goOnBehind token).noted earlier = (template.noted earlier).goOnBehind token :=
  rfl

theorem noted_closeFrame :
    template.closeFrame.noted earlier = (template.noted earlier).closeFrame := by
  obtain ⟨mode, nodes, frames, diagnostics⟩ := template
  cases frames <;> rfl

theorem noted_nextArm (condition : Option Expr) :
    (template.nextArm condition).noted earlier = (template.noted earlier).nextArm condition := by
  obtain ⟨mode, nodes, frames, diagnostics⟩ := template
  cases frames with
  | nil => rfl
  | cons frame outer => cases frame <;> rfl

theorem noted_perform (effect : TagEffect) :
    (template.perform effect).noted earlier = (template.noted earlier).perform effect := by
  obtain ⟨mode, nodes, frames, diagnostics⟩ := template
  cases effect with
  | endIf | endForeach => exact noted_closeFrame earlier _
  | literal | endLiteral => rfl
  | elseBlock | emptyBlock =>
      cases frames with
      | nil => rfl
      | cons frame outer => cases frame <;> rfl

theorem noted_abandonLiteral (tag : Position) (body : String) :
    (template.abandonLiteral tag body).noted earlier =
      (template.noted earlier).abandonLiteral tag body := by
  rw [abandonLiteral, noted_push, noted_report, abandonLiteral]

/-! ## One step -/

variable (token : Token)

theorem noted_stepText :
    (template.stepText token).noted earlier = (template.noted earlier).stepText token := by
  rw [stepText, stepText]
  split <;> rfl

theorem noted_stepBrace :
    (template.stepBrace token).noted earlier = (template.noted earlier).stepBrace token := by
  have hframes : (template.noted earlier).frames = template.frames := rfl
  rw [stepBrace, stepBrace, hframes]
  split
  · rfl
  · split
    · rfl
    · rfl
    · rfl
    · rfl
    · rw [noted_goOn, noted_report]
    · rw [noted_stepText, noted_report]

theorem noted_stepKeyword (effect : TagEffect) :
    (template.stepKeyword effect token).noted earlier =
      (template.noted earlier).stepKeyword effect token := by
  rw [stepKeyword, stepKeyword]
  split
  · rw [noted_goOn, noted_perform]
  · rw [noted_goOnBehind, noted_perform, noted_report]

theorem noted_stepAction (part : OpenAction) :
    (template.stepAction part token).noted earlier =
      (template.noted earlier).stepAction part token := by
  rw [stepAction, stepAction]
  split
  · rfl
  · rfl
  · rw [noted_goOnBehind, noted_report]

/-- A condition whose block is opened alike, with diagnostics in front and without. -/
theorem noted_stepCondition {mode : OpenCondition → ReadingMode}
    {opened : OpenTemplate → Option Expr → OpenTemplate}
    (hopened : ∀ template condition,
      (opened template condition).noted earlier = opened (template.noted earlier) condition)
    (part : OpenCondition) :
    (template.stepCondition mode opened part token).noted earlier =
      (template.noted earlier).stepCondition mode opened part token := by
  rw [stepCondition, stepCondition]
  split
  · rfl
  · rw [noted_goOn, hopened]
  · rw [noted_goOnBehind, hopened, noted_report]

theorem noted_stepForeach (tag : Position) (part : OpenLoop) :
    (template.stepForeach tag part token).noted earlier =
      (template.noted earlier).stepForeach tag part token := by
  have hopened (template : OpenTemplate) (frame : Frame) :
      (template.openFrame frame).noted earlier = (template.noted earlier).openFrame frame := rfl
  rw [stepForeach, stepForeach]
  split
  · rfl
  · rfl
  · rw [noted_goOnBehind, hopened, noted_report]
    rfl

theorem noted_stepLiteral (tag : Position) (body : String) :
    (template.stepLiteral tag body token).noted earlier =
      (template.noted earlier).stepLiteral tag body token := by
  rw [stepLiteral, stepLiteral]
  split
  · rfl
  · rfl
  · rw [noted_stepText, noted_abandonLiteral]

theorem noted_stepLiteralBrace (tag : Position) (body : String) :
    (template.stepLiteralBrace tag body token).noted earlier =
      (template.noted earlier).stepLiteralBrace tag body token := by
  rw [stepLiteralBrace, stepLiteralBrace]
  split
  · rfl
  · rw [noted_stepBrace, noted_abandonLiteral]

/-- One token further, the diagnostics in front are still in front. -/
theorem noted_step :
    (template.step token).noted earlier = (template.noted earlier).step token := by
  have hmode : (template.noted earlier).mode = template.mode := rfl
  rw [step, step, hmode]
  cases template.mode with
  | text => exact noted_stepText earlier template token
  | brace => exact noted_stepBrace earlier template token
  | action part => exact noted_stepAction earlier template token part
  | ifTag tag part => exact noted_stepCondition earlier template token (fun _ _ => rfl) part
  | elseIfTag part =>
      exact noted_stepCondition earlier template token (noted_nextArm earlier) part
  | foreachTag tag part => exact noted_stepForeach earlier template token tag part
  | keyword effect => exact noted_stepKeyword earlier template token effect
  | skipping =>
      rw [apply_ite (noted earlier)]
      rfl
  | literal tag body => exact noted_stepLiteral earlier template token tag body
  | literalBrace tag body => exact noted_stepLiteralBrace earlier template token tag body

/-! ## Whole readings -/

theorem noted_read (ts : List Token) :
    (template.read ts).noted earlier = (template.noted earlier).read ts := by
  induction ts generalizing template with
  | nil => rfl
  | cons token ts ih => rw [read_cons, read_cons, ih, noted_step]

theorem noted_abandonFrame (frame : Frame) :
    (template.abandonFrame frame).noted earlier =
      (template.noted earlier).abandonFrame frame := by
  rw [abandonFrame, abandonFrame, noted_closeFrame, noted_report]

theorem noted_closeAll : template.closeAll.noted earlier = (template.noted earlier).closeAll := by
  have hfold (frames : List Frame) (template : OpenTemplate) :
      (frames.foldl abandonFrame template).noted earlier =
        frames.foldl abandonFrame (template.noted earlier) := by
    induction frames generalizing template with
    | nil => rfl
    | cons frame outer ih => rw [List.foldl_cons, ih, noted_abandonFrame, List.foldl_cons]
  exact hfold template.frames template

end Noted

end OpenTemplate

end Stencil
