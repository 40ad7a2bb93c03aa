import Stencil.Template.Basic

/-!
# Steps that record nothing

A step of reading either records a diagnostic or is one of the few steps listed here, each with
the kind of token that it takes and the state that it leads to.  Diagnostics are only ever
added, so every step of a reading that ends without diagnostics is one of these.
-/

namespace Stencil

namespace OpenTemplate

/-- The steps that record nothing. -/
inductive CleanStep (template : OpenTemplate) (token : Token) : OpenTemplate → Prop
  | text (hmode : template.mode = .text) (hkind : token.kind = .text) :
      CleanStep template token ((template.push (.text token.literal)).goOn .text)
  | brace (hmode : template.mode = .text) (hkind : token.kind = .openTag) :
      CleanStep template token (template.goOn .brace)
  | stray (hmode : template.mode = .text) (htext : token.kind ≠ .text)
      (hbrace : token.kind ≠ .openTag) :
      CleanStep template token (template.goOn .text)
  | continuation {frame : Frame} {outer : List Frame} {mode : ReadingMode}
      (hmode : template.mode = .brace) (hframes : template.frames = frame :: outer)
      (hcontinuation : frame.continuation? token.kind = some mode) :
      CleanStep template token (template.goOn mode)
  | dollar (hmode : template.mode = .brace) (hkind : token.kind = .dollar) :
      CleanStep template token (template.goOn (.action .start))
  | ifWord (hmode : template.mode = .brace) (hkind : token.kind = .ifWord) :
      CleanStep template token (template.goOn (.ifTag token.position .start))
  | foreachWord (hmode : template.mode = .brace) (hkind : token.kind = .foreachWord) :
      CleanStep template token (template.goOn (.foreachTag token.position .start))
  | literalWord (hmode : template.mode = .brace) (hkind : token.kind = .literalWord) :
      CleanStep template token (template.goOn (.keyword (.literal token.position)))
  | action {part next : OpenAction} (hmode : template.mode = .action part)
      (hstep : part.step token = .more next) :
      CleanStep template token (template.goOn (.action next))
  | actionEnd {part : OpenAction} {expr : Expr} (hmode : template.mode = .action part)
      (hstep : part.step token = .done expr) :
      CleanStep template token ((template.push (.action expr)).goOn .text)
  | ifTag {tag : Position} {part next : OpenCondition} (hmode : template.mode = .ifTag tag part)
      (hstep : part.step token = .more next) :
      CleanStep template token (template.goOn (.ifTag tag next))
  | ifTagEnd {tag : Position} {part : OpenCondition} {condition : Expr}
      (hmode : template.mode = .ifTag tag part) (hstep : part.step token = .done condition) :
      CleanStep template token
        ((template.openFrame (.arm tag template.nodes [] (some condition))).goOn .text)
  | elseIfTag {part next : OpenCondition} (hmode : template.mode = .elseIfTag part)
      (hstep : part.step token = .more next) :
      CleanStep template token (template.goOn (.elseIfTag next))
  | elseIfTagEnd {part : OpenCondition} {condition : Expr}
      (hmode : template.mode = .elseIfTag part) (hstep : part.step token = .done condition) :
      CleanStep template token ((template.nextArm (some condition)).goOn .text)
  | foreachTag {tag : Position} {part next : OpenLoop}
      (hmode : template.mode = .foreachTag tag part) (hstep : part.step tag token = .more next) :
      CleanStep template token (template.goOn (.foreachTag tag next))
  | foreachTagEnd {tag : Position} {part : OpenLoop} {header : LoopHeader}
      (hmode : template.mode = .foreachTag tag part)
      (hstep : part.step tag token = .done header) :
      CleanStep template token
        ((template.openFrame (.body tag template.nodes (some header))).goOn .text)
  | keyword {effect : TagEffect} (hmode : template.mode = .keyword effect)
      (hkind : token.kind = .closeTag) :
      CleanStep template token ((template.perform effect).goOn (modeBehind effect))
  | skipping (hmode : template.mode = .skipping) (hkind : token.kind ≠ .closeTag) :
      CleanStep template token template
  | skippingEnd (hmode : template.mode = .skipping) (hkind : token.kind = .closeTag) :
      CleanStep template token (template.goOn .text)
  | literal {tag : Position} {body : String} (hmode : template.mode = .literal tag body)
      (hkind : token.kind = .text) :
      CleanStep template token (template.goOn (.literal tag (body ++ token.literal)))
  | literalBrace {tag : Position} {body : String} (hmode : template.mode = .literal tag body)
      (hkind : token.kind = .openTag) :
      CleanStep template token (template.goOn (.literalBrace tag body))
  | endLiteral {tag : Position} {body : String} (hmode : template.mode = .literalBrace tag body)
      (hkind : token.kind = .endLiteralWord) :
      CleanStep template token (template.goOn (.keyword (.endLiteral body)))

/-! ## Changes of the blocks -/

section Blocks

variable {template : OpenTemplate} {outer : List Frame} {tag : Position} {above : List Node}

theorem closeFrame_eq {frame : Frame} (h : template.frames = frame :: outer) :
    template.closeFrame =
      { template with
        nodes := frame.above ++ (frame.node? template.nodes).toList
        frames := outer } := by
  rw [closeFrame, h]

theorem nextArm_eq
    {arms : List Arm} {previous : Option Expr}
    (h : template.frames = .arm tag above arms previous :: outer) (condition : Option Expr) :
    template.nextArm condition =
      { template with
        nodes := []
        frames := .arm tag above (arms ++ [(previous, template.nodes)]) condition :: outer } := by
  rw [nextArm, h]

theorem elseArm_eq
    {arms : List Arm} {previous : Option Expr}
    (h : template.frames = .arm tag above arms previous :: outer) :
    template.elseArm =
      { template with
        nodes := []
        frames := .otherwise tag above (arms ++ [(previous, template.nodes)]) :: outer } := by
  rw [elseArm, h]

theorem emptyArm_eq
    {header : Option LoopHeader} (h : template.frames = .body tag above header :: outer) :
    template.emptyArm =
      { template with
        nodes := []
        frames := .ifEmpty tag above header template.nodes :: outer } := by
  rw [emptyArm, h]

end Blocks

/-! ## Diagnostics are only added -/

@[simp] theorem diagnostics_push (template : OpenTemplate) (node : Node) :
    (template.push node).diagnostics = template.diagnostics := rfl

@[simp] theorem diagnostics_goOn (template : OpenTemplate) (mode : ReadingMode) :
    (template.goOn mode).diagnostics = template.diagnostics := rfl

@[simp] theorem diagnostics_goOnBehind (template : OpenTemplate) (token : Token) :
    (template.goOnBehind token).diagnostics = template.diagnostics := rfl

@[simp] theorem diagnostics_report (template : OpenTemplate) (diagnostic : Diagnostic) :
    (template.report diagnostic).diagnostics = template.diagnostics ++ [diagnostic] := rfl

@[simp] theorem diagnostics_openFrame (template : OpenTemplate) (frame : Frame) :
    (template.openFrame frame).diagnostics = template.diagnostics := rfl

@[simp] theorem diagnostics_closeFrame (template : OpenTemplate) :
    template.closeFrame.diagnostics = template.diagnostics := by
  rw [closeFrame]
  split <;> rfl

@[simp] theorem diagnostics_nextArm (template : OpenTemplate) (condition : Option Expr) :
    (template.nextArm condition).diagnostics = template.diagnostics := by
  rw [nextArm]
  split <;> rfl

@[simp] theorem diagnostics_elseArm (template : OpenTemplate) :
    template.elseArm.diagnostics = template.diagnostics := by
  rw [elseArm]
  split <;> rfl

@[simp] theorem diagnostics_emptyArm (template : OpenTemplate) :
    template.emptyArm.diagnostics = template.diagnostics := by
  rw [emptyArm]
  split <;> rfl

@[simp] theorem diagnostics_perform (template : OpenTemplate) (effect : TagEffect) :
    (template.perform effect).diagnostics = template.diagnostics := by
  cases effect with
  | elseBlock => exact diagnostics_elseArm template
  | endIf => exact diagnostics_closeFrame template
  | emptyBlock => exact diagnostics_emptyArm template
  | endForeach => exact diagnostics_closeFrame template
  | literal tag => rfl
  | endLiteral body => rfl

@[simp] theorem diagnostics_stepText (template : OpenTemplate) (token : Token) :
    (template.stepText token).diagnostics = template.diagnostics := by
  rw [stepText]
  split <;> rfl

/-- A template that has more diagnostics than another one. -/
def Reports (before after : OpenTemplate) : Prop :=
  ∃ diagnostic further, after.diagnostics = before.diagnostics ++ diagnostic :: further

theorem reports_of_eq_report
    {before after : OpenTemplate} {diagnostic : Diagnostic}
    (h : after.diagnostics = (before.report diagnostic).diagnostics) : Reports before after :=
  ⟨diagnostic, [], h⟩

theorem diagnostics_prefix_stepBrace (template : OpenTemplate) (token : Token) :
    template.diagnostics <+: (template.stepBrace token).diagnostics := by
  rw [stepBrace]
  split
  · exact List.prefix_rfl
  · split
    · exact List.prefix_rfl
    · exact List.prefix_rfl
    · exact List.prefix_rfl
    · exact List.prefix_rfl
    · exact List.prefix_append _ _
    · simp

theorem cleanStep_stepText
    {template : OpenTemplate} (hmode : template.mode = .text) (token : Token) :
    CleanStep template token (template.stepText token) := by
  rw [stepText]
  split
  · exact .text hmode ‹_›
  · exact .brace hmode ‹_›
  · exact .stray hmode ‹_› ‹_›

theorem cleanStep_stepBrace
    {template : OpenTemplate} (hmode : template.mode = .brace) (token : Token) :
    CleanStep template token (template.stepBrace token) ∨
      Reports template (template.stepBrace token) := by
  rw [stepBrace]
  split
  · rename_i mode hcontinuation
    obtain ⟨frame, hhead, hcontinuation⟩ := Option.bind_eq_some_iff.mp hcontinuation
    obtain ⟨outer, hframes⟩ := List.head?_eq_some_iff.mp hhead
    exact .inl (.continuation hmode hframes hcontinuation)
  · split
    · exact .inl (.dollar hmode ‹_›)
    · exact .inl (.ifWord hmode ‹_›)
    · exact .inl (.foreachWord hmode ‹_›)
    · exact .inl (.literalWord hmode ‹_›)
    · exact .inr (reports_of_eq_report rfl)
    · exact .inr (reports_of_eq_report (diagnostics_stepText _ _))

theorem cleanStep_stepAction
    {template : OpenTemplate} {part : OpenAction} (hmode : template.mode = .action part)
    (token : Token) :
    CleanStep template token (template.stepAction part token) ∨
      Reports template (template.stepAction part token) := by
  rw [stepAction]
  split
  · exact .inl (.action hmode ‹_›)
  · exact .inl (.actionEnd hmode ‹_›)
  · exact .inr (reports_of_eq_report rfl)

theorem cleanStep_stepForeach
    {template : OpenTemplate} {tag : Position} {part : OpenLoop}
    (hmode : template.mode = .foreachTag tag part) (token : Token) :
    CleanStep template token (template.stepForeach tag part token) ∨
      Reports template (template.stepForeach tag part token) := by
  rw [stepForeach]
  split
  · exact .inl (.foreachTag hmode ‹_›)
  · exact .inl (.foreachTagEnd hmode ‹_›)
  · exact .inr (reports_of_eq_report rfl)

theorem cleanStep_stepKeyword
    {template : OpenTemplate} {effect : TagEffect} (hmode : template.mode = .keyword effect)
    (token : Token) :
    CleanStep template token (template.stepKeyword effect token) ∨
      Reports template (template.stepKeyword effect token) := by
  rw [stepKeyword]
  split
  · exact .inl (.keyword hmode ‹_›)
  · exact .inr (reports_of_eq_report (diagnostics_perform _ _))

theorem cleanStep_stepLiteral
    {template : OpenTemplate} {tag : Position} {body : String}
    (hmode : template.mode = .literal tag body) (token : Token) :
    CleanStep template token (template.stepLiteral tag body token) ∨
      Reports template (template.stepLiteral tag body token) := by
  rw [stepLiteral]
  split
  · exact .inl (.literal hmode ‹_›)
  · exact .inl (.literalBrace hmode ‹_›)
  · exact .inr (reports_of_eq_report (diagnostics_stepText _ _))

theorem cleanStep_stepLiteralBrace
    {template : OpenTemplate} {tag : Position} {body : String}
    (hmode : template.mode = .literalBrace tag body) (token : Token) :
    CleanStep template token (template.stepLiteralBrace tag body token) ∨
      Reports template (template.stepLiteralBrace tag body token) := by
  rw [stepLiteralBrace]
  split
  · exact .inl (.endLiteral hmode ‹_›)
  · obtain ⟨further, hfurther⟩ :=
      diagnostics_prefix_stepBrace (template.abandonLiteral tag body) token
    refine .inr ⟨⟨.unterminatedLiteral, tag⟩, further, ?_⟩
    rw [← hfurther]
    simp [abandonLiteral]

/-- A step either records a diagnostic or is one of the clean ones. -/
theorem cleanStep_or_reports (template : OpenTemplate) (token : Token) :
    CleanStep template token (template.step token) ∨ Reports template (template.step token) := by
  cases hmode : template.mode with
  | text =>
      simp only [step, hmode]
      exact .inl (cleanStep_stepText hmode token)
  | brace =>
      simp only [step, hmode]
      exact cleanStep_stepBrace hmode token
  | action part =>
      simp only [step, hmode]
      exact cleanStep_stepAction hmode token
  | ifTag tag part =>
      simp only [step, hmode, stepCondition]
      split
      · exact .inl (.ifTag hmode ‹_›)
      · exact .inl (.ifTagEnd hmode ‹_›)
      · exact .inr (reports_of_eq_report rfl)
  | elseIfTag part =>
      simp only [step, hmode, stepCondition]
      split
      · exact .inl (.elseIfTag hmode ‹_›)
      · exact .inl (.elseIfTagEnd hmode ‹_›)
      · exact .inr (reports_of_eq_report (diagnostics_nextArm _ _))
  | foreachTag tag part =>
      simp only [step, hmode]
      exact cleanStep_stepForeach hmode token
  | keyword effect =>
      simp only [step, hmode]
      exact cleanStep_stepKeyword hmode token
  | skipping =>
      simp only [step, hmode]
      split
      · exact .inl (.skippingEnd hmode ‹_›)
      · exact .inl (.skipping hmode ‹_›)
  | literal tag body =>
      simp only [step, hmode]
      exact cleanStep_stepLiteral hmode token
  | literalBrace tag body =>
      simp only [step, hmode]
      exact cleanStep_stepLiteralBrace hmode token

theorem CleanStep.diagnostics_eq
    {template next : OpenTemplate} {token : Token} (h : CleanStep template token next) :
    next.diagnostics = template.diagnostics := by
  cases h with
  | _ => simp

/-- Diagnostics are only added, never taken back. -/
theorem diagnostics_eq_nil_of_step
    {template : OpenTemplate} {token : Token} (h : (template.step token).diagnostics = []) :
    template.diagnostics = [] ∧ CleanStep template token (template.step token) := by
  rcases cleanStep_or_reports template token with hclean | ⟨diagnostic, further, hreports⟩
  · exact ⟨hclean.diagnostics_eq.symm.trans h, hclean⟩
  · rw [h] at hreports
    simp at hreports

end OpenTemplate

end Stencil
