import Stencil.Proofs.Template.ParseExpr
import Stencil.Proofs.Template.Grammar

/-!
# Derived tags are read

Tokens from which the inside of a tag is derived are read one by one without failure, and the
brace behind them completes the tag with what they were derived from.  A machine for tags runs
the one for expressions inside it, so a run over an expression is one over the tag.
-/

namespace Stencil

open Progress

theorem closeWith_of_closeTag {State Result : Type} (result : Result) {token : Token}
    (h : token.kind = .closeTag) :
    (closeWith result token : Progress State Result) = .done result :=
  if_pos h

namespace OpenCondition

theorem run_of_derives {condition : Expr} {ts : List Token} (h : condition.Derives ts) :
    ∃ last, Run step start ts last ∧
      ∀ token : Token, token.kind = .closeTag → last.step token = .done condition := by
  obtain ⟨last, hrun, hlast⟩ := OpenExpr.run_start_of_derives h
  refine ⟨⟨last⟩, hrun.lift ?_, ?_⟩
  · intro part token next hstep
    simp only [step, hstep]
  · intro token htoken
    have hends : token.kind.EndsExpr := by
      rw [htoken]
      decide
    simp only [step, hlast token hends]
    exact closeWith_of_closeTag condition htoken

end OpenCondition

namespace OpenAction

/-- An expression to put out of which all has been read: a bar leads to a further modifier, and
a brace completes the tag. -/
structure Holds (action : OpenAction) (expr : Expr) : Prop where
  pipe : ∀ token : Token, token.kind = .pipe → action.step token = .more (.modifier expr)
  close : ∀ token : Token, token.kind = .closeTag → action.step token = .done expr

theorem stepPipeline_of_pipe (input : Expr) {token : Token} (h : token.kind = .pipe) :
    stepPipeline input token = .more (.modifier input) :=
  if_pos h

theorem stepPipeline_of_closeTag (input : Expr) {token : Token} (h : token.kind = .closeTag) :
    stepPipeline input token = .done input := by
  have hpipe : token.kind ≠ .pipe := by
    rw [h]
    exact nofun
  rw [stepPipeline, if_neg hpipe]
  exact closeWith_of_closeTag input h

theorem run_of_derivesPipeline {expr : Expr} {ts : List Token} (h : expr.DerivesPipeline ts) :
    ∃ last, Run step (.expr .start) ts last ∧ last.Holds expr := by
  induction h with
  | @expr input ts hinput =>
      obtain ⟨last, hrun, hlast⟩ := OpenExpr.run_start_of_derives hinput
      refine ⟨.expr last, hrun.lift ?_, ?_, ?_⟩
      · intro part token next hstep
        simp only [step, hstep]
      · intro token htoken
        have hends : token.kind.EndsExpr := by
          rw [htoken]
          decide
        simp only [step, hlast token hends]
        exact stepPipeline_of_pipe input htoken
      · intro token htoken
        have hends : token.kind.EndsExpr := by
          rw [htoken]
          decide
        simp only [step, hlast token hends]
        exact stepPipeline_of_closeTag input htoken
  | @pipe input ts bar name hinput hbar hname ih =>
      obtain ⟨last, hrun, hlast⟩ := ih
      refine ⟨.pipeline (.pipe input name.literal),
        hrun.append (.cons (hlast.pipe bar hbar) (.single ?_)), ?_, ?_⟩
      · simp only [step, if_pos hname]
      · intro token htoken
        exact stepPipeline_of_pipe _ htoken
      · intro token htoken
        exact stepPipeline_of_closeTag _ htoken

/-- The dollar in front has been read when the expression is begun. -/
theorem run_start_of_derivesPipeline {expr : Expr} {dollar : Token} {ts : List Token}
    (hdollar : dollar.kind = .dollar) (h : expr.DerivesPipeline (dollar :: ts)) :
    ∃ last, Run step start ts last ∧
      ∀ token : Token, token.kind = .closeTag → last.step token = .done expr := by
  obtain ⟨last, hrun, hlast⟩ := run_of_derivesPipeline h
  have hfirst : step (.expr .start) dollar = .more start := by
    simp [step, OpenExpr.start, OpenExpr.step, OpenExpr.stepOperand, hdollar, start,
      OpenExpr.startVariable]
  cases hrun with
  | cons hstep hrest =>
      rw [hfirst] at hstep
      cases hstep
      exact ⟨last, hrest, hlast.close⟩

end OpenAction

namespace OpenLoop

/-- Attributes that are complete, in front of any token that ends the value of the last of them. -/
def Holds (tag : Position) (loop : OpenLoop) (attributes : LoopAttributes) : Prop :=
  ∀ token : Token, token.kind.EndsExpr → loop.step tag token = stepBetween tag attributes token

theorem holds_between (tag : Position) (attributes : LoopAttributes) :
    Holds tag (.between attributes) attributes :=
  fun _ _ => rfl

theorem stepVariable_of_isWord {attributes : LoopAttributes} (target : LoopVariable)
    {token : Token} (h : token.kind.isWord = true) :
    stepVariable attributes target token =
      .more (.between (bind attributes token.literal target)) :=
  if_pos h

theorem valueOf_toAttribute (attributes : LoopAttributes) (target : LoopVariable) :
    valueOf attributes target.toAttribute = .variableOrDollar attributes target := by
  cases target <;> rfl

/-- The value of an attribute is read. -/
theorem run_of_adds {tag : Position} {attributes further : LoopAttributes}
    {which : LoopAttribute} {ts : List Token} (h : attributes.Adds which ts further) :
    ∃ last, Run (step tag) (valueOf attributes which) ts last ∧ Holds tag last further := by
  cases h with
  | @source expr _ hexpr =>
      obtain ⟨last, hrun, hlast⟩ := OpenExpr.run_start_of_derives hexpr
      refine ⟨.source attributes last, hrun.lift ?_, ?_⟩
      · intro part token next hstep
        simp only [step, hstep]
      · intro token hends
        simp only [step, hlast token hends]
  | @«variable» target name hname =>
      refine ⟨_, .single ?_, holds_between tag _⟩
      have hdollar : name.kind ≠ .dollar := by
        intro hkind
        rw [hkind] at hname
        cases hname
      rw [valueOf_toAttribute]
      simp only [step, if_neg hdollar]
      exact stepVariable_of_isWord target hname
  | @dollarVariable target dollar name hdollar hname =>
      have hfirst : step tag (valueOf attributes target.toAttribute) dollar =
          .more (.variableName attributes target) := by
        rw [valueOf_toAttribute]
        simp only [step, if_pos hdollar]
      have hsecond : step tag (.variableName attributes target) name =
          .more (.between (bind attributes name.literal target)) :=
        stepVariable_of_isWord target hname
      exact ⟨_, .cons hfirst (.single hsecond), holds_between tag _⟩
  | label hname =>
      refine ⟨_, .single ?_, holds_between tag _⟩
      simp only [valueOf, step, if_pos hname]

theorem run_of_derives {attributes : LoopAttributes} {ts : List Token} (tag : Position)
    (h : attributes.Derives ts) :
    ∃ last, Run (step tag) start ts last ∧ Holds tag last attributes := by
  induction h with
  | empty => exact ⟨start, .nil, holds_between tag .empty⟩
  | @add attributes further which ts us name assign hattributes hnew hname hvalue ih =>
      obtain ⟨last, hrun, hlast⟩ := ih
      obtain ⟨final, hrest, hfinal⟩ := run_of_adds hvalue
      have hends : name.kind.EndsExpr := by
        rw [hname.kind]
        decide
      have hfirst : last.step tag name = .more (.assign attributes which) := by
        rw [hlast name hends]
        simp [stepBetween, stepName, hname.kind, hname.word, hnew]
      have hsecond : step tag (.assign attributes which) assign =
          .more (valueOf attributes which) := by
        simp only [step, if_pos hname.assign]
      exact ⟨final, hrun.append (.cons hfirst (.cons hsecond hrest)), hfinal⟩

theorem run_of_header_derives {header : LoopHeader} {ts : List Token} (tag : Position)
    (h : header.Derives ts) :
    ∃ last, Run (step tag) start ts last ∧
      ∀ token : Token, token.kind = .closeTag → last.step tag token = .done header := by
  obtain ⟨last, hrun, hlast⟩ := run_of_derives tag h
  refine ⟨last, hrun, ?_⟩
  intro token htoken
  have hends : token.kind.EndsExpr := by
    rw [htoken]
    decide
  rw [hlast token hends, stepBetween, if_pos htoken, LoopAttributes.header]

end OpenLoop

end Stencil
