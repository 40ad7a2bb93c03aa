import Stencil.Proofs.Template.ReadExpr

/-!
# Derived expressions are read

Tokens from which an expression is derived are read one by one without failure.  Behind them,
some operands may still wait, but they wait for nothing but the token behind the expression:
joined with the operand at hand down to any level of the expression, they make the expression.
-/

namespace Stencil

namespace Progress

variable {State Further Result Outcome : Type}

/-- Tokens that are taken one by one, each of them going on. -/
inductive Run (step : State → Token → Progress State Result) : State → List Token → State → Prop
  | nil {state : State} : Run step state [] state
  | cons {state next final : State} {token : Token} {ts : List Token}
      (hstep : step state token = .more next) (hrun : Run step next ts final) :
      Run step state (token :: ts) final

namespace Run

variable {step : State → Token → Progress State Result}

theorem single {state next : State} {token : Token} (hstep : step state token = .more next) :
    Run step state [token] next :=
  .cons hstep .nil

theorem append {state next final : State} {ts us : List Token}
    (hfirst : Run step state ts next) (hsecond : Run step next us final) :
    Run step state (ts ++ us) final := by
  induction hfirst with
  | nil => exact hsecond
  | cons hstep hrun ih => exact .cons hstep (ih hsecond)

/-- A machine that does what another one does inside it runs as the other one does. -/
theorem lift {inside : Further → Token → Progress Further Outcome} {embed : Further → State}
    (hembed : ∀ state token next,
      inside state token = .more next → step (embed state) token = .more (embed next))
    {state final : Further} {ts : List Token} (hrun : Run inside state ts final) :
    Run step (embed state) ts (embed final) := by
  induction hrun with
  | nil => exact .nil
  | cons hstep hrun ih => exact .cons (hembed _ _ _ hstep) ih

end Run

end Progress

open Progress

namespace Expr

theorem tightness_pos {expr : Expr} {ts : List Token} (h : expr.Derives ts) :
    0 < expr.tightness := by
  cases h with
  | binary _ _ _ _ _ => exact BinaryOp.precedence_pos _
  | _ => exact Nat.zero_lt_succ 3

end Expr

namespace TokenKind

/-- The kinds of tokens that do not go on with an operand. -/
def EndsExpr (kind : TokenKind) : Prop :=
  kind ≠ .dot ∧ kind ≠ .openBracket ∧ BinaryOp.ofKind? kind = none

instance decidableEndsExpr (kind : TokenKind) : Decidable kind.EndsExpr :=
  inferInstanceAs (Decidable (_ ∧ _ ∧ _))

end TokenKind

namespace OpenExpr

theorem join_of_level_lt
    {minimum : Nat} {operand : Expr} {pending : List Pending}
    (h : Pending.level pending < minimum) : join minimum operand pending = (operand, pending) := by
  cases pending with
  | nil => rfl
  | cons first rest =>
      cases first with
      | bracket base => rfl
      | operator left op =>
          rw [join, if_neg]
          exact Nat.not_le_of_lt h

theorem stepSuffix_of_operator
    {pending : List Pending} {operand : Expr} {token : Token} {op : BinaryOp}
    (h : BinaryOp.ofKind? token.kind = some op) :
    stepSuffix pending operand token =
      .more ⟨.operator (join op.precedence operand pending).1 op ::
        (join op.precedence operand pending).2, .operand⟩ := by
  rw [stepSuffix]
  split
  · rename_i hkind
    rw [hkind] at h
    cases h
  · rename_i hkind
    rw [hkind] at h
    cases h
  · rw [h]

theorem stepSuffix_of_endsExpr
    {pending : List Pending} {operand : Expr} {token : Token} (h : token.kind.EndsExpr) :
    stepSuffix pending operand token = close pending operand token := by
  obtain ⟨hdot, hbracket, hop⟩ := h
  rw [stepSuffix]
  split
  · exact (hdot ‹_›).elim
  · exact (hbracket ‹_›).elim
  · rw [hop]

/-- An operand at hand, with what waits for it, stands for an expression in front of what waited
before: all joins down to a level of the expression give the expression, and one that binds
tightest is at hand itself. -/
structure StandsFor (expr : Expr) (before : List Pending) (pending : List Pending)
    (operand : Expr) : Prop where
  joins : ∀ minimum ≤ expr.tightness,
    join minimum operand pending = join minimum expr before
  tight : expr.tightness = Expr.tightest → pending = before ∧ operand = expr

theorem standsFor_self (expr : Expr) (before : List Pending) :
    StandsFor expr before before expr :=
  ⟨fun _ _ => rfl, fun _ => ⟨rfl, rfl⟩⟩

/-- Tokens from which an expression is derived lead from an operand that is awaited to one that
stands for the expression. -/
theorem run_of_derives
    {expr : Expr} {ts : List Token} (h : expr.Derives ts) (before : List Pending)
    (hlevel : Pending.level before < expr.tightness) :
    ∃ pending operand, Run step ⟨before, .operand⟩ ts ⟨pending, .suffix operand⟩ ∧
      StandsFor expr before pending operand := by
  induction h generalizing before with
  | @«variable» dollar name hdollar hname =>
      have hfirst : step ⟨before, .operand⟩ dollar = .more ⟨before, .variableName⟩ := by
        simp [step, stepOperand, hdollar]
      have hsecond : step ⟨before, .variableName⟩ name =
          .more ⟨before, .suffix (.variable name.literal)⟩ := by
        simp [step, stepName, hname]
      exact ⟨before, .variable name.literal, .cons hfirst (.single hsecond), standsFor_self _ _⟩
  | @number digits hdigits =>
      refine ⟨before, .number (Number.ofDigits digits.literal.toList), .single ?_,
        standsFor_self _ _⟩
      simp [step, stepOperand, hdigits]
  | @string text htext =>
      refine ⟨before, .string text.literal, .single ?_, standsFor_self _ _⟩
      simp [step, stepOperand, htext]
  | @field base ts dot name hbase htight hdot hname ih =>
      have hbelow := Pending.level_lt_tightest before
      obtain ⟨pending, operand, hrun, hstands⟩ := ih before (by rwa [htight])
      obtain ⟨rfl, rfl⟩ := hstands.tight htight
      have hfirst : step ⟨pending, .suffix operand⟩ dot =
          .more ⟨pending, .propertyName operand⟩ := by
        simp [step, stepSuffix, hdot]
      have hsecond : step ⟨pending, .propertyName operand⟩ name =
          .more ⟨pending, .suffix (.field operand name.literal)⟩ := by
        simp [step, stepName, hname]
      exact ⟨pending, .field operand name.literal,
        hrun.append (.cons hfirst (.single hsecond)), standsFor_self _ _⟩
  | @index base position ts us left right hbase htight hleft hposition hright ihBase ihPosition =>
      have hbelow := Pending.level_lt_tightest before
      obtain ⟨pending, operand, hrun, hstands⟩ := ihBase before (by rwa [htight])
      obtain ⟨rfl, rfl⟩ := hstands.tight htight
      obtain ⟨waiting, inner, hinside, hinner⟩ :=
        ihPosition (.bracket operand :: pending) (Expr.tightness_pos hposition)
      have hjoin : join 0 inner waiting = (position, .bracket operand :: pending) :=
        hinner.joins 0 (Nat.zero_le _)
      refine ⟨pending, .index operand position, ?_, standsFor_self _ _⟩
      refine (hrun.append (.cons ?_ hinside)).append (.single ?_)
      · simp [step, stepSuffix, hleft]
      · have hends : right.kind.EndsExpr := by
          rw [hright]
          decide
        simp only [step, stepSuffix_of_endsExpr hends, close, hjoin, hright, if_true]
  | @binary left right op ts us sign hleft htight hsign hright htighter ihLeft ihRight =>
      obtain ⟨pending, operand, hrun, hstands⟩ :=
        ihLeft before (Nat.lt_of_lt_of_le hlevel htight)
      have hjoin : join op.precedence operand pending = (left, before) := by
        rw [hstands.joins _ htight]
        exact join_of_level_lt hlevel
      obtain ⟨waiting, inner, hinside, hinner⟩ := ihRight (.operator left op :: before) htighter
      refine ⟨waiting, inner, hrun.append (.cons ?_ hinside), ?_, ?_⟩
      · simp only [step, stepSuffix_of_operator hsign, hjoin]
      · intro minimum hminimum
        have hop : minimum ≤ op.precedence := hminimum
        rw [hinner.joins minimum (Nat.le_of_lt (Nat.lt_of_le_of_lt hminimum htighter)), join,
          if_pos hop]
      · intro hequal
        exact absurd hequal (Nat.ne_of_lt op.precedence_lt_tightest)

/-- An expression is complete in front of any token that does not go on with an operand. -/
theorem run_start_of_derives
    {expr : Expr} {ts : List Token} (h : expr.Derives ts) :
    ∃ last, Run step start ts last ∧
      ∀ token : Token, token.kind.EndsExpr → last.step token = .done expr := by
  obtain ⟨pending, operand, hrun, hstands⟩ := run_of_derives h [] (Expr.tightness_pos h)
  refine ⟨_, hrun, ?_⟩
  intro token htoken
  have hjoin : join 0 operand pending = (expr, []) := hstands.joins 0 (Nat.zero_le _)
  simp only [step, stepSuffix_of_endsExpr htoken, close, hjoin]

end OpenExpr

end Stencil
