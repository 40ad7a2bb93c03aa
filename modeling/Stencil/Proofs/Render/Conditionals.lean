import Stencil.Modifier.Builtin
import Stencil.Proofs.Render.Calls

/-!
# Laws of conditions

A condition with a conjunction or a disjunction can be written with two conditions, and further
conditions can be written as conditions inside the block that is rendered otherwise.  The value
of a condition is the text of a block, or null; around a further condition it is null or an
empty text where nothing is rendered.  Both put out nothing, so it is what is put out that the
laws are about, and with it all that the evaluation of the conditions does to the host.
-/

namespace Stencil

variable {σ : Type}

/-- What a value puts out, and the surroundings behind it. -/
def putOut (result : Value × Surroundings σ) : String × Surroundings σ :=
  (result.1.output, result.2)

/-- A block in place of a value puts out what the block does. -/
theorem putOut_blockValue (result : String × Surroundings σ) :
    putOut (blockValue result) = result :=
  rfl

theorem Node.renderAll_singleton (registry : Registry σ) (node : Node) (depth : Nat)
    (state : Surroundings σ) :
    Node.renderAll registry [node] depth state = putOut (node.eval registry depth state) := by
  simp only [renderAll, putOut, String.append_empty]

/-! ## Conjunction and disjunction -/

namespace Expr

variable (registry : Registry σ) (vars : Variables) (left right : Expr) (host : σ)

/-- The right side of a conjunction is evaluated behind a left side that holds, and only then. -/
theorem eval_and :
    (binary left .and right).eval registry vars host =
      let first := left.eval registry vars host
      let second := right.eval registry vars first.2
      if first.1.isTruthy then (.boolean second.1.isTruthy, second.2)
      else (.boolean false, first.2) := by
  by_cases hleft : (left.eval registry vars host).1.isTruthy = true
  · simp [eval, BinaryOp.isDecided, BinaryOp.holds, hleft]
  · simp [eval, BinaryOp.isDecided, hleft]

/-- The right side of a disjunction is evaluated behind a left side that does not hold, and only
then. -/
theorem eval_or :
    (binary left .or right).eval registry vars host =
      let first := left.eval registry vars host
      let second := right.eval registry vars first.2
      if first.1.isTruthy then (.boolean true, first.2)
      else (.boolean second.1.isTruthy, second.2) := by
  by_cases hleft : (left.eval registry vars host).1.isTruthy = true
  · simp [eval, BinaryOp.isDecided, hleft]
  · simp [eval, BinaryOp.isDecided, BinaryOp.holds, hleft]

end Expr

/-! ## Blocks with the same effect -/

namespace Node

/-- Two blocks that cannot be told apart: whatever the registry and the surroundings, they put
out the same text, leave the same variables and the same state of the host, and call the same
modifiers with the same values in the same order. -/
structure SameEffect (nodes others : List Node) : Prop where
  outcome : ∀ {σ : Type} (registry : Registry σ) (depth : Nat) (state : Surroundings σ),
    renderAll registry nodes depth state = renderAll registry others depth state
  calls : ∀ {σ : Type} (registry : Registry σ) (depth : Nat) (state : Surroundings σ),
    calls registry nodes depth state = calls registry others depth state

/-- Nodes that put out the same for every host stand for one another anywhere in a block; one of
the hosts is the one that has notes of the calls kept. -/
theorem sameEffect_of_eval {node other : Node}
    (h : ∀ {σ : Type} (registry : Registry σ) (depth : Nat) (state : Surroundings σ),
      putOut (node.eval registry depth state) = putOut (other.eval registry depth state))
    (front back : List Node) : SameEffect (front ++ node :: back) (front ++ other :: back) := by
  have houtcome {σ : Type} (registry : Registry σ) (depth : Nat) (state : Surroundings σ) :
      renderAll registry (front ++ node :: back) depth state =
        renderAll registry (front ++ other :: back) depth state := by
    induction front generalizing state with
    | nil =>
        exact congrArg
          (fun result : String × Surroundings σ =>
            let further := renderAll registry back depth result.2
            (result.1 ++ further.1, further.2))
          (h registry depth state)
    | cons earlier front ih => simp only [List.cons_append, renderAll, ih]
  exact ⟨houtcome, fun registry depth state =>
    congrArg (·.2.host.2) (houtcome registry.noting depth _)⟩

section Conditionals

variable (registry : Registry σ) (depth : Nat) (state : Surroundings σ) (first second : Expr)
  (block other : List Node) (otherwise : Alternative)

theorem putOut_eval_and :
    putOut ((conditional (.binary first .and second) block otherwise).eval registry depth state) =
      putOut ((conditional first [conditional second block otherwise] otherwise).eval registry depth
        state) := by
  simp only [eval, Expr.eval_and, renderAll_singleton]
  by_cases hfirst : (first.eval registry state.vars state.host).1.isTruthy = true
  · simp only [hfirst, if_true, putOut_blockValue, Value.isTruthy]
  · simp only [hfirst, if_false, Value.isTruthy, Bool.false_eq_true]

theorem putOut_eval_or :
    putOut ((conditional (.binary first .or second) block otherwise).eval registry depth state) =
      putOut
        ((conditional first block (.elseIf second block otherwise)).eval registry depth state) := by
  simp only [eval, Alternative.eval, Expr.eval_or]
  by_cases hfirst : (first.eval registry state.vars state.host).1.isTruthy = true
  · simp only [hfirst, if_true, Value.isTruthy]
  · simp only [hfirst, if_false, Value.isTruthy, Bool.false_eq_true]

theorem putOut_eval_elseIf :
    putOut ((conditional first block (.elseIf second other otherwise)).eval registry depth state) =
      putOut
        ((conditional first block (.block [conditional second other otherwise])).eval registry
          depth state) := by
  simp only [eval, Alternative.eval, renderAll_singleton]
  by_cases hfirst : (first.eval registry state.vars state.host).1.isTruthy = true
  · simp only [hfirst, if_true]
  · simp only [hfirst, if_false, putOut_blockValue, Bool.false_eq_true]

end Conditionals

/-- A conjunction is a condition inside a condition, a disjunction is a further condition with
the same block, and a further condition is one in the block for otherwise.  What each goes on to
if it does not hold may be nothing, a block, or any number of further conditions. -/
theorem sameEffect_conditional (first second : Expr) (block other : List Node)
    (otherwise : Alternative) (front back : List Node) :
    SameEffect (front ++ conditional (.binary first .and second) block otherwise :: back)
        (front ++ conditional first [conditional second block otherwise] otherwise :: back) ∧
      SameEffect (front ++ conditional (.binary first .or second) block otherwise :: back)
        (front ++ conditional first block (.elseIf second block otherwise) :: back) ∧
      SameEffect (front ++ conditional first block (.elseIf second other otherwise) :: back)
        (front ++ conditional first block (.block [conditional second other otherwise]) ::
          back) := by
  refine ⟨?_, ?_, ?_⟩
  · exact sameEffect_of_eval
      (fun registry depth state =>
        putOut_eval_and registry depth state first second block otherwise) _ _
  · exact sameEffect_of_eval
      (fun registry depth state =>
        putOut_eval_or registry depth state first second block otherwise) _ _
  · exact sameEffect_of_eval
      (fun registry depth state =>
        putOut_eval_elseIf registry depth state first second block other otherwise) _ _

/-- The right side of the conjunction is not asked where the left side is empty. -/
example :
    let condition := Expr.binary (.pipe (.string "") "upper") .and (.pipe (.string "b") "lower")
    calls Registry.builtin [conditional condition [] .nothing] 0 ⟨[], ()⟩ =
      [⟨"upper", .string ""⟩] := by
  rfl

end Node

end Stencil
