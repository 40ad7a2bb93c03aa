import Stencil.Proofs.Template.ReadExpr

/-!
# Tags are read as the grammar says

The same for the insides of tags as for expressions: what has been read of a condition, of an
expression to put out or of the attributes of a loop is written by the tokens that have been
taken.  What a step can do is said first, once for each kind of tag.  A step that goes on keeps
what has been read, and a tag that is complete with a token is derived from the tokens in front
of it, while that token is the brace that closes the tag.
-/

namespace Stencil

theorem closeWith_ne_more {State Result : Type} {content : Result} {token : Token} {next : State} :
    closeWith content token ≠ .more next := by
  rw [closeWith]
  split
  · exact nofun
  · exact nofun

theorem eq_of_closeWith_done
    {State Result : Type} {content result : Result} {token : Token}
    (h : (closeWith content token : Progress State Result) = .done result) :
    token.kind = .closeTag ∧ content = result := by
  rw [closeWith] at h
  split at h
  · cases h
    exact ⟨‹_›, rfl⟩
  · cases h

/-! ## Conditions -/

namespace OpenCondition

/-- Tokens that have been read of a condition. -/
def Read (condition : OpenCondition) (ts : List Token) : Prop :=
  condition.expr.Read ts

theorem step_expr_of_step_more
    {condition next : OpenCondition} {token : Token} (hstep : condition.step token = .more next) :
    condition.expr.step token = .more next.expr := by
  rw [step] at hstep
  split at hstep
  · rename_i hexpr
    cases hstep
    exact hexpr
  · exact (closeWith_ne_more hstep).elim
  · cases hstep

theorem step_expr_of_step_done
    {condition : OpenCondition} {whole : Expr} {token : Token}
    (hstep : condition.step token = .done whole) :
    token.kind = .closeTag ∧ condition.expr.step token = .done whole := by
  rw [step] at hstep
  split at hstep
  · cases hstep
  · rename_i hexpr
    obtain ⟨hclose, rfl⟩ := eq_of_closeWith_done hstep
    exact ⟨hclose, hexpr⟩
  · cases hstep

theorem isInner_of_step_more
    {condition next : OpenCondition} {token : Token} (hstep : condition.step token = .more next) :
    token.kind.isInner = true :=
  OpenExpr.isInner_of_step_more (step_expr_of_step_more hstep)

theorem read_of_step_more
    {condition next : OpenCondition} {ts : List Token} {token : Token}
    (hread : condition.Read ts) (hstep : condition.step token = .more next) :
    next.Read (ts ++ [token]) :=
  OpenExpr.read_of_step_more hread (step_expr_of_step_more hstep)

theorem kind_of_step_done
    {condition : OpenCondition} {whole : Expr} {token : Token}
    (hstep : condition.step token = .done whole) : token.kind = .closeTag :=
  (step_expr_of_step_done hstep).1

theorem derives_of_step_done
    {condition : OpenCondition} {whole : Expr} {ts : List Token} {token : Token}
    (hread : condition.Read ts) (hstep : condition.step token = .done whole) :
    whole.Derives ts :=
  OpenExpr.derives_of_step_done hread (step_expr_of_step_done hstep).2

end OpenCondition

/-! ## Expressions to put out -/

namespace OpenAction

/-- An expression to put out of which all has been read in front of a token. -/
inductive WholeAt : OpenAction → Token → Expr → Prop
  | expr {part : OpenExpr} {token : Token} {input : Expr} (hpart : part.step token = .done input) :
      WholeAt (.expr part) token input
  | pipeline {token : Token} {input : Expr} : WholeAt (.pipeline input) token input

/-- The steps that go on with an expression to put out. -/
inductive GoesOn (token : Token) : OpenAction → OpenAction → Prop
  | expr {part next : OpenExpr} (hpart : part.step token = .more next) :
      GoesOn token (.expr part) (.expr next)
  | bar {action : OpenAction} {input : Expr} (hinput : WholeAt action token input)
      (hbar : token.kind = .pipe) : GoesOn token action (.modifier input)
  | modifier {input : Expr} (hword : token.kind.isWord = true) :
      GoesOn token (.modifier input) (.pipeline (.pipe input token.literal))

theorem goesOn_of_stepPipeline
    {action next : OpenAction} {input : Expr} {token : Token} (hinput : WholeAt action token input)
    (hstep : stepPipeline input token = .more next) : GoesOn token action next := by
  rw [stepPipeline] at hstep
  split at hstep
  · rename_i hbar
    cases hstep
    exact .bar hinput hbar
  · exact (closeWith_ne_more hstep).elim

theorem goesOn_of_step_more
    {action next : OpenAction} {token : Token} (hstep : action.step token = .more next) :
    GoesOn token action next := by
  cases action with
  | expr part =>
      simp only [step] at hstep
      split at hstep
      · rename_i hexpr
        cases hstep
        exact .expr hexpr
      · rename_i hexpr
        exact goesOn_of_stepPipeline (.expr hexpr) hstep
      · cases hstep
  | pipeline input => exact goesOn_of_stepPipeline .pipeline hstep
  | modifier input =>
      simp only [step] at hstep
      split at hstep
      · rename_i hword
        cases hstep
        exact .modifier hword
      · cases hstep

theorem eq_of_stepPipeline_done
    {input whole : Expr} {token : Token} (hstep : stepPipeline input token = .done whole) :
    token.kind = .closeTag ∧ input = whole := by
  rw [stepPipeline] at hstep
  split at hstep
  · cases hstep
  · exact eq_of_closeWith_done hstep

theorem wholeAt_of_step_done
    {action : OpenAction} {whole : Expr} {token : Token}
    (hstep : action.step token = .done whole) :
    token.kind = .closeTag ∧ WholeAt action token whole := by
  cases action with
  | expr part =>
      simp only [step] at hstep
      split at hstep
      · cases hstep
      · rename_i hexpr
        obtain ⟨hclose, rfl⟩ := eq_of_stepPipeline_done hstep
        exact ⟨hclose, .expr hexpr⟩
      · cases hstep
  | pipeline input =>
      obtain ⟨hclose, rfl⟩ := eq_of_stepPipeline_done hstep
      exact ⟨hclose, .pipeline⟩
  | modifier input =>
      simp only [step] at hstep
      split at hstep <;> cases hstep

/-- Tokens that have been read of an expression to put out and its modifiers. -/
inductive Read : OpenAction → List Token → Prop
  | expr {part : OpenExpr} {ts : List Token} (hpart : part.Read ts) : Read (.expr part) ts
  | pipeline {input : Expr} {ts : List Token} (hinput : input.DerivesPipeline ts) :
      Read (.pipeline input) ts
  | modifier {input : Expr} {ts : List Token} {bar : Token}
      (hinput : input.DerivesPipeline ts) (hbar : bar.kind = .pipe) :
      Read (.modifier input) (ts ++ [bar])

theorem derives_of_wholeAt
    {action : OpenAction} {input : Expr} {ts : List Token} {token : Token}
    (hread : action.Read ts) (hinput : WholeAt action token input) : input.DerivesPipeline ts := by
  cases hinput with
  | expr hexpr =>
      obtain ⟨hpart⟩ := hread
      exact .expr (OpenExpr.derives_of_step_done hpart hexpr)
  | pipeline =>
      obtain ⟨⟩ | ⟨hinput⟩ := hread
      exact hinput

theorem isInner_of_step_more
    {action next : OpenAction} {token : Token} (hstep : action.step token = .more next) :
    token.kind.isInner = true := by
  cases goesOn_of_step_more hstep with
  | expr hpart => exact OpenExpr.isInner_of_step_more hpart
  | bar hinput hbar => exact TokenKind.isInner_of_eq hbar rfl
  | modifier hword => exact TokenKind.isInner_of_isWord hword

theorem read_of_step_more
    {action next : OpenAction} {ts : List Token} {token : Token}
    (hread : action.Read ts) (hstep : action.step token = .more next) :
    next.Read (ts ++ [token]) := by
  cases goesOn_of_step_more hstep with
  | expr hexpr =>
      obtain ⟨hpart⟩ := hread
      exact .expr (OpenExpr.read_of_step_more hpart hexpr)
  | bar hinput hbar => exact .modifier (derives_of_wholeAt hread hinput) hbar
  | modifier hword =>
      cases hread with
      | modifier hinput hbar =>
          have hpipe := Expr.DerivesPipeline.pipe hinput hbar hword
          exact .pipeline (by simpa using hpipe)

theorem kind_of_step_done
    {action : OpenAction} {whole : Expr} {token : Token}
    (hstep : action.step token = .done whole) : token.kind = .closeTag :=
  (wholeAt_of_step_done hstep).1

theorem derives_of_step_done
    {action : OpenAction} {whole : Expr} {ts : List Token} {token : Token}
    (hread : action.Read ts) (hstep : action.step token = .done whole) :
    whole.DerivesPipeline ts :=
  derives_of_wholeAt hread (wholeAt_of_step_done hstep).2

end OpenAction

/-! ## Attributes of loops -/

namespace OpenLoop

/-- The attributes that are complete in front of a token. -/
inductive WholeAt : OpenLoop → Token → LoopAttributes → Prop
  | between {attributes : LoopAttributes} {token : Token} :
      WholeAt (.between attributes) token attributes
  | source {attributes : LoopAttributes} {part : OpenExpr} {token : Token} {whole : Expr}
      (hpart : part.step token = .done whole) :
      WholeAt (.source attributes part) token { attributes with source := some whole }

/-- The steps that go on with the attributes of a loop. -/
inductive GoesOn (token : Token) : OpenLoop → OpenLoop → Prop
  | name {loop : OpenLoop} {attributes : LoopAttributes} {which : LoopAttribute}
      (hattributes : WholeAt loop token attributes) (hkind : token.kind = .identifier)
      (hword : LoopAttribute.ofWord? token.literal = some which)
      (hnew : attributes.has which = false) : GoesOn token loop (.assign attributes which)
  | assign {attributes : LoopAttributes} {which : LoopAttribute} (hassign : token.kind = .assign) :
      GoesOn token (.assign attributes which) (valueOf attributes which)
  | source {attributes : LoopAttributes} {part next : OpenExpr}
      (hpart : part.step token = .more next) :
      GoesOn token (.source attributes part) (.source attributes next)
  | dollar {attributes : LoopAttributes} {target : LoopVariable} (hdollar : token.kind = .dollar) :
      GoesOn token (.variableOrDollar attributes target) (.variableName attributes target)
  | variable {attributes : LoopAttributes} {target : LoopVariable}
      (hword : token.kind.isWord = true) :
      GoesOn token (.variableOrDollar attributes target)
        (.between (bind attributes token.literal target))
  | dollarVariable {attributes : LoopAttributes} {target : LoopVariable}
      (hword : token.kind.isWord = true) :
      GoesOn token (.variableName attributes target)
        (.between (bind attributes token.literal target))
  | label {attributes : LoopAttributes}
      (hkind : token.kind.isWord = true ∨ token.kind = .string) :
      GoesOn token (.label attributes) (.between { attributes with label := some token.literal })

theorem goesOn_of_stepBetween
    {tag : Position} {loop next : OpenLoop} {attributes : LoopAttributes} {token : Token}
    (hattributes : WholeAt loop token attributes)
    (hstep : stepBetween tag attributes token = .more next) : GoesOn token loop next := by
  rw [stepBetween] at hstep
  split at hstep
  · rw [LoopAttributes.header] at hstep
    split at hstep <;> cases hstep
  · split at hstep
    · cases hstep
    · split at hstep
      · rename_i hkind
        rw [stepName] at hstep
        split at hstep
        · cases hstep
        · rename_i which hword
          split at hstep
          · cases hstep
          · rename_i hnew
            cases hstep
            exact .name hattributes hkind hword (by simpa using hnew)
      · cases hstep

theorem between_of_stepVariable
    {attributes : LoopAttributes} {target : LoopVariable} {token : Token} {next : OpenLoop}
    (hstep : stepVariable attributes target token = .more next) :
    token.kind.isWord = true ∧ next = .between (bind attributes token.literal target) := by
  rw [stepVariable] at hstep
  split at hstep
  · rename_i hword
    cases hstep
    exact ⟨hword, rfl⟩
  · cases hstep

theorem goesOn_of_step_more
    {tag : Position} {loop next : OpenLoop} {token : Token}
    (hstep : loop.step tag token = .more next) : GoesOn token loop next := by
  cases loop with
  | between attributes => exact goesOn_of_stepBetween .between hstep
  | assign attributes which =>
      simp only [step] at hstep
      split at hstep
      · rename_i hassign
        cases hstep
        exact .assign hassign
      · cases hstep
  | source attributes part =>
      simp only [step] at hstep
      split at hstep
      · rename_i hexpr
        cases hstep
        exact .source hexpr
      · rename_i hexpr
        exact goesOn_of_stepBetween (.source hexpr) hstep
      · cases hstep
  | variableOrDollar attributes target =>
      simp only [step] at hstep
      split at hstep
      · rename_i hdollar
        cases hstep
        exact .dollar hdollar
      · obtain ⟨hword, rfl⟩ := between_of_stepVariable hstep
        exact .variable hword
  | variableName attributes target =>
      obtain ⟨hword, rfl⟩ := between_of_stepVariable hstep
      exact .dollarVariable hword
  | label attributes =>
      simp only [step] at hstep
      split at hstep
      · rename_i hkind
        cases hstep
        exact .label hkind
      · cases hstep

/-- The header of a loop is complete only with the brace that closes its tag. -/
theorem header_of_stepBetween_done
    {tag : Position} {attributes : LoopAttributes} {token : Token} {header : LoopHeader}
    (hstep : stepBetween tag attributes token = .done header) :
    token.kind = .closeTag ∧
      attributes = ⟨some header.source, some header.item, header.key, header.label⟩ := by
  rw [stepBetween] at hstep
  split at hstep
  · rename_i hkind
    refine ⟨hkind, ?_⟩
    rw [LoopAttributes.header] at hstep
    split at hstep
    · cases hstep
    · cases hstep
    · rename_i source item hsource hitem
      cases hstep
      rw [← hsource, ← hitem]
  · split at hstep
    · cases hstep
    · split at hstep
      · rw [stepName] at hstep
        split at hstep
        · cases hstep
        · split at hstep <;> cases hstep
      · cases hstep

theorem stepVariable_ne_done
    {attributes : LoopAttributes} {target : LoopVariable} {token : Token} {header : LoopHeader} :
    stepVariable attributes target token ≠ .done header := by
  rw [stepVariable]
  split
  · exact nofun
  · exact nofun

theorem wholeAt_of_step_done
    {tag : Position} {loop : OpenLoop} {header : LoopHeader} {token : Token}
    (hstep : loop.step tag token = .done header) :
    token.kind = .closeTag ∧
      WholeAt loop token ⟨some header.source, some header.item, header.key, header.label⟩ := by
  cases loop with
  | between attributes =>
      obtain ⟨hclose, rfl⟩ := header_of_stepBetween_done hstep
      exact ⟨hclose, .between⟩
  | source attributes part =>
      simp only [step] at hstep
      split at hstep
      · cases hstep
      · rename_i hexpr
        obtain ⟨hclose, hattributes⟩ := header_of_stepBetween_done hstep
        rw [← hattributes]
        exact ⟨hclose, .source hexpr⟩
      · cases hstep
  | assign attributes which =>
      simp only [step] at hstep
      split at hstep <;> cases hstep
  | variableOrDollar attributes target =>
      simp only [step] at hstep
      split at hstep
      · cases hstep
      · exact (stepVariable_ne_done hstep).elim
  | variableName attributes target => exact (stepVariable_ne_done hstep).elim
  | label attributes =>
      simp only [step] at hstep
      split at hstep <;> cases hstep

/-- Tokens that have been read of the name of a further attribute, and those in front of it. -/
structure Named (attributes : LoopAttributes) (which : LoopAttribute) (ts : List Token)
    (name : Token) : Prop where
  before : attributes.Derives ts
  isNew : attributes.has which = false
  kind : name.kind = .identifier
  word : LoopAttribute.ofWord? name.literal = some which

/-- Tokens that have been read of the attributes of a loop. -/
inductive Read : OpenLoop → List Token → Prop
  | between {attributes : LoopAttributes} {ts : List Token} (h : attributes.Derives ts) :
      Read (.between attributes) ts
  | assign {attributes : LoopAttributes} {which : LoopAttribute} {ts : List Token} {name : Token}
      (hnamed : Named attributes which ts name) :
      Read (.assign attributes which) (ts ++ [name])
  | source {attributes : LoopAttributes} {part : OpenExpr} {ts us : List Token}
      {name assign : Token}
      (hnamed : Named attributes .source ts name) (hassign : assign.kind = .assign)
      (hpart : part.Read us) :
      Read (.source attributes part) (ts ++ name :: assign :: us)
  | variableOrDollar {attributes : LoopAttributes} {target : LoopVariable} {ts : List Token}
      {name assign : Token}
      (hnamed : Named attributes target.toAttribute ts name) (hassign : assign.kind = .assign) :
      Read (.variableOrDollar attributes target) (ts ++ [name, assign])
  | variableName {attributes : LoopAttributes} {target : LoopVariable} {ts : List Token}
      {name assign dollar : Token}
      (hnamed : Named attributes target.toAttribute ts name) (hassign : assign.kind = .assign)
      (hdollar : dollar.kind = .dollar) :
      Read (.variableName attributes target) (ts ++ [name, assign, dollar])
  | label {attributes : LoopAttributes} {ts : List Token} {name assign : Token}
      (hnamed : Named attributes .label ts name) (hassign : assign.kind = .assign) :
      Read (.label attributes) (ts ++ [name, assign])

theorem read_start : start.Read [] :=
  .between .empty

/-- A value completes an attribute whose name has been read. -/
theorem derives_of_adds
    {attributes further : LoopAttributes} {which : LoopAttribute} {ts us : List Token}
    {name assign : Token}
    (hnamed : Named attributes which ts name) (hassign : assign.kind = .assign)
    (hvalue : attributes.Adds which us further) :
    further.Derives (ts ++ name :: assign :: us) :=
  .add hnamed.before hnamed.isNew ⟨hnamed.kind, hnamed.word, hassign⟩ hvalue

/-- Behind an equals sign, the value of an attribute begins. -/
theorem read_valueOf
    {attributes : LoopAttributes} {which : LoopAttribute} {ts : List Token} {name assign : Token}
    (hnamed : Named attributes which ts name) (hassign : assign.kind = .assign) :
    (valueOf attributes which).Read (ts ++ [name, assign]) := by
  cases which with
  | source => exact .source hnamed hassign OpenExpr.read_start
  | item => exact @Read.variableOrDollar attributes .item ts name assign hnamed hassign
  | key => exact @Read.variableOrDollar attributes .key ts name assign hnamed hassign
  | label => exact .label hnamed hassign

theorem derives_of_wholeAt
    {loop : OpenLoop} {attributes : LoopAttributes} {ts : List Token} {token : Token}
    (hread : loop.Read ts) (h : WholeAt loop token attributes) : attributes.Derives ts := by
  cases h with
  | between =>
      obtain ⟨hderives⟩ := hread
      exact hderives
  | source hexpr =>
      cases hread with
      | source hnamed hassign hpart =>
          have hwhole := OpenExpr.derives_of_step_done hpart hexpr
          exact derives_of_adds hnamed hassign (.source hwhole)

theorem isInner_of_step_more
    {tag : Position} {loop next : OpenLoop} {token : Token}
    (hstep : loop.step tag token = .more next) : token.kind.isInner = true := by
  cases goesOn_of_step_more hstep with
  | name hattributes hkind hword hnew => exact TokenKind.isInner_of_eq hkind rfl
  | assign hassign => exact TokenKind.isInner_of_eq hassign rfl
  | source hpart => exact OpenExpr.isInner_of_step_more hpart
  | dollar hdollar => exact TokenKind.isInner_of_eq hdollar rfl
  | «variable» hword => exact TokenKind.isInner_of_isWord hword
  | dollarVariable hword => exact TokenKind.isInner_of_isWord hword
  | label hkind =>
      rcases hkind with hword | hstring
      · exact TokenKind.isInner_of_isWord hword
      · exact TokenKind.isInner_of_eq hstring rfl

theorem read_of_step_more
    {tag : Position} {loop next : OpenLoop} {ts : List Token} {token : Token}
    (hread : loop.Read ts) (hstep : loop.step tag token = .more next) :
    next.Read (ts ++ [token]) := by
  cases goesOn_of_step_more hstep with
  | name hattributes hkind hword hnew =>
      exact .assign ⟨derives_of_wholeAt hread hattributes, hnew, hkind, hword⟩
  | assign hassign =>
      cases hread with
      | assign hnamed => simpa using read_valueOf hnamed hassign
  | source hexpr =>
      cases hread with
      | source hnamed hassign hpart =>
          simpa using Read.source hnamed hassign (OpenExpr.read_of_step_more hpart hexpr)
  | dollar hdollar =>
      cases hread with
      | variableOrDollar hnamed hassign => simpa using Read.variableName hnamed hassign hdollar
  | «variable» hword =>
      cases hread with
      | variableOrDollar hnamed hassign =>
          simpa using Read.between (derives_of_adds hnamed hassign (.variable hword))
  | dollarVariable hword =>
      cases hread with
      | variableName hnamed hassign hdollar =>
          simpa using Read.between (derives_of_adds hnamed hassign (.dollarVariable hdollar hword))
  | label hkind =>
      cases hread with
      | label hnamed hassign =>
          simpa using Read.between (derives_of_adds hnamed hassign (.label hkind))

theorem kind_of_step_done
    {tag : Position} {loop : OpenLoop} {header : LoopHeader} {token : Token}
    (hstep : loop.step tag token = .done header) : token.kind = .closeTag :=
  (wholeAt_of_step_done hstep).1

theorem derives_of_step_done
    {tag : Position} {loop : OpenLoop} {header : LoopHeader} {ts : List Token} {token : Token}
    (hread : loop.Read ts) (hstep : loop.step tag token = .done header) : header.Derives ts :=
  derives_of_wholeAt hread (wholeAt_of_step_done hstep).2

end OpenLoop

end Stencil
