import Stencil.Render.Basic

/-!
# The calls that rendering makes

Rendering acts on the host only by calling modifiers.  A registry can be made to note every
call, with the name and the value of it, before the modifier is called; the notes are kept
beside the state of the host.  Forgetting them leaves what the registry does without them, at
every call and so in a whole template: the notes tell which calls rendering makes and change
nothing.
-/

namespace Stencil

variable {σ τ : Type}

/-- A call of a modifier: the name that it was looked up under and the value it was given. -/
structure Call where
  modifier : String
  value : Value

namespace Registry

/-- The registry whose modifiers note every call of them behind the earlier ones. -/
def noting (registry : Registry σ) : Registry (σ × List Call) :=
  registry.map fun entry =>
    (entry.1, fun value state =>
      let result := entry.2 value state.1
      (result.1, (result.2, state.2 ++ [⟨entry.1, value⟩])))

theorem find?_noting (registry : Registry σ) (name : String) :
    Entries.find? name registry.noting =
      (Entries.find? name registry).map fun modifier value state =>
        let result := modifier value state.1
        (result.1, (result.2, state.2 ++ [⟨name, value⟩])) := by
  induction registry with
  | nil => rfl
  | cons entry rest ih =>
      obtain ⟨other, modifier⟩ := entry
      rw [noting, List.map_cons, Entries.find?, Entries.find?]
      by_cases h : name = other
      · subst h
        rw [if_pos rfl, if_pos rfl]
        rfl
      · rw [if_neg h, if_neg h]
        exact ih

/-- One registry does to a part of its host's state what another does to the whole of it, and
nothing else comes out. -/
def ActsAs (registry : Registry τ) (part : τ → σ) (other : Registry σ) : Prop :=
  ∀ name value host,
    Prod.map id part (registry.apply name value host) = other.apply name value (part host)

theorem noting_actsAs (registry : Registry σ) : registry.noting.ActsAs Prod.fst registry := by
  intro name value host
  rw [apply, apply, find?_noting]
  cases Entries.find? name registry <;> rfl

end Registry

/-! ## Rendering for a part of the host -/

/-- The surroundings with a part of the host's state. -/
def Surroundings.withPart (part : τ → σ) (state : Surroundings τ) : Surroundings σ :=
  ⟨state.vars, part state.host⟩

/-- What comes out together with surroundings, with a part of the host's state in these. -/
def outWithPart {α : Type} (part : τ → σ) : α × Surroundings τ → α × Surroundings σ :=
  Prod.map id (Surroundings.withPart part)

namespace LoopHeader

variable {header : LoopHeader} {depth : Nat} {part : τ → σ}
  {body : Surroundings τ → String × Surroundings τ}
  {otherBody : Surroundings σ → String × Surroundings σ}

theorem rounds_withPart
    (hbody : ∀ state, outWithPart part (body state) = otherBody (state.withPart part))
    (first : Bool) (entries : List (Value × Value)) (scope : Scope) (host : τ) :
    Prod.map id (Prod.map id part) (header.rounds depth body first entries scope host) =
      header.rounds depth otherBody first entries scope (part host) := by
  induction entries generalizing first scope host with
  | nil => rfl
  | cons entry rest ih =>
      let bound := header.bindRound depth first rest.isEmpty entry scope
      have hround : otherBody ⟨bound.vars, part host⟩ =
          outWithPart part (body ⟨bound.vars, host⟩) :=
        (hbody ⟨bound.vars, host⟩).symm
      have hfurther :=
        ih false { bound with vars := (body ⟨bound.vars, host⟩).2.vars }
          (body ⟨bound.vars, host⟩).2.host
      simp only [rounds]
      rw [hround]
      exact congrArg (fun further => ((body ⟨bound.vars, host⟩).1 ++ further.1, further.2)) hfurther

end LoopHeader

section Part

variable {registry : Registry τ} {part : τ → σ} {other : Registry σ}

theorem Expr.eval_withPart (h : registry.ActsAs part other) (vars : Variables) (expr : Expr)
    (host : τ) :
    Prod.map id part (expr.eval registry vars host) = expr.eval other vars (part host) := by
  induction expr generalizing host with
  | «variable» | number | string => rfl
  | field base name ih =>
      simp only [eval]
      rw [← ih]
      rfl
  | index base position ihBase ihPosition =>
      simp only [eval]
      rw [← ihBase, Prod.map_snd, ← ihPosition]
      rfl
  | binary left op right ihLeft ihRight =>
      simp only [eval]
      rw [← ihLeft, Prod.map_fst, Prod.map_snd, ← ihRight, id]
      split <;> rfl
  | pipe input modifier ih =>
      simp only [eval]
      rw [← ih]
      exact h modifier _ _

theorem LoopHeader.run_withPart (h : registry.ActsAs part other) (header : LoopHeader) (depth : Nat)
    {body : Surroundings τ → String × Surroundings τ}
    {ifEmpty : Surroundings τ → Value × Surroundings τ}
    {otherBody : Surroundings σ → String × Surroundings σ}
    {otherIfEmpty : Surroundings σ → Value × Surroundings σ}
    (hbody : ∀ state, outWithPart part (body state) = otherBody (state.withPart part))
    (hifEmpty : ∀ state, outWithPart part (ifEmpty state) = otherIfEmpty (state.withPart part))
    (state : Surroundings τ) :
    outWithPart part (header.run registry depth body ifEmpty state) =
      header.run other depth otherBody otherIfEmpty (state.withPart part) := by
  obtain ⟨vars, host⟩ := state
  change _ = header.run other depth otherBody otherIfEmpty ⟨vars, part host⟩
  simp only [run]
  rw [← Expr.eval_withPart h vars header.source host, Prod.map_fst, Prod.map_snd, id]
  split
  · exact hifEmpty _
  · rw [← rounds_withPart hbody]
    rfl

theorem blockValue_withPart {result : String × Surroundings τ} {expected : String × Surroundings σ}
    (hresult : outWithPart part result = expected) :
    outWithPart part (blockValue result) = blockValue expected :=
  congrArg blockValue hresult

mutual

/-- A node puts out the same for a part of the host as for the whole. -/
theorem Node.eval_withPart (h : registry.ActsAs part other) :
    ∀ (node : Node) (depth : Nat) (state : Surroundings τ),
    outWithPart part (node.eval registry depth state) =
      node.eval other depth (state.withPart part)
  | .text _, _, _ => rfl
  | .action expr, depth, ⟨vars, host⟩ => by
      change _ = Node.eval other (.action expr) depth ⟨vars, part host⟩
      simp only [Node.eval]
      rw [← Expr.eval_withPart h]
      rfl
  | .conditional condition block otherwise, depth, ⟨vars, host⟩ => by
      change _ = Node.eval other (.conditional condition block otherwise) depth ⟨vars, part host⟩
      simp only [Node.eval]
      rw [← Expr.eval_withPart h, Prod.map_fst, Prod.map_snd, id]
      split
      · exact blockValue_withPart (Node.renderAll_withPart h block depth _)
      · exact Alternative.eval_withPart h otherwise depth _
  | .loop header body none, depth, state =>
      header.run_withPart h depth (Node.renderAll_withPart h body (depth + 1)) (fun _ => rfl) state
  | .loop header body (some block), depth, state => by
      simp only [Node.eval]
      refine header.run_withPart h depth (Node.renderAll_withPart h body (depth + 1)) ?_ state
      intro state
      exact blockValue_withPart (Node.renderAll_withPart h block depth state)

/-- A block puts out the same for a part of the host as for the whole. -/
theorem Node.renderAll_withPart (h : registry.ActsAs part other) :
    ∀ (nodes : List Node) (depth : Nat) (state : Surroundings τ),
    outWithPart part (Node.renderAll registry nodes depth state) =
      Node.renderAll other nodes depth (state.withPart part)
  | [], _, _ => rfl
  | node :: rest, depth, state => by
      simp only [Node.renderAll]
      rw [← Node.eval_withPart h node]
      exact congrArg
        (fun further => ((node.eval registry depth state).1.output ++ further.1, further.2))
        (Node.renderAll_withPart h rest depth (node.eval registry depth state).2)

theorem Alternative.eval_withPart (h : registry.ActsAs part other) :
    ∀ (otherwise : Alternative) (depth : Nat) (state : Surroundings τ),
    outWithPart part (otherwise.eval registry depth state) =
      otherwise.eval other depth (state.withPart part)
  | .nothing, _, _ => rfl
  | .block nodes, depth, state => blockValue_withPart (Node.renderAll_withPart h nodes depth state)
  | .elseIf condition block otherwise, depth, ⟨vars, host⟩ => by
      change _ = Alternative.eval other (.elseIf condition block otherwise) depth ⟨vars, part host⟩
      simp only [Alternative.eval]
      rw [← Expr.eval_withPart h, Prod.map_fst, Prod.map_snd, id]
      split
      · exact blockValue_withPart (Node.renderAll_withPart h block depth _)
      · exact Alternative.eval_withPart h otherwise depth _

end

end Part

/-! ## Calls -/

/-- The calls that rendering a block makes, in order. -/
def Node.calls (registry : Registry σ) (nodes : List Node) (depth : Nat) (state : Surroundings σ) :
    List Call :=
  (Node.renderAll registry.noting nodes depth ⟨state.vars, (state.host, [])⟩).2.host.2

/-- Noting the calls leaves the text, the variables and the state of the host as they are
without notes. -/
theorem Node.renderAll_noting (registry : Registry σ) (nodes : List Node) (depth : Nat)
    (state : Surroundings σ) (before : List Call) :
    outWithPart Prod.fst
        (Node.renderAll registry.noting nodes depth ⟨state.vars, (state.host, before)⟩) =
      Node.renderAll registry nodes depth state :=
  Node.renderAll_withPart registry.noting_actsAs nodes depth _

end Stencil
