import Stencil.Proofs.Environment.Restoration
import Stencil.Render.Basic

/-!
# Rendering puts the variables back

Only loops touch the variables, and they do it in a scope that covers the variables in front of
the loop.  In every round the item and the key are bound through that scope.  The flags are
written over in the variables directly, but only where the loop has a label, and then the name
that holds them is saved since the scope was opened.  So the scope covers the same variables to
the end, whatever the body does that puts its own variables back.
-/

namespace Stencil

namespace LoopContext

/-- A loop with a label has the state of the context saved. -/
def SavesContext (label : Option String) (scope : Scope) : Prop :=
  ∀ name ∈ label, contextName ∈ scope.savedNames

theorem covers_openScope (depth : Nat) (label : Option String) (vars : Variables) :
    (openScope depth label vars).Covers vars := by
  cases label with
  | none => exact Scope.covers_ofVariables vars
  | some label => exact Scope.covers_bind (Scope.covers_ofVariables vars) _ _

theorem savesContext_openScope (depth : Nat) (label : Option String) (vars : Variables) :
    SavesContext label (openScope depth label vars) := by
  rintro name ⟨⟩
  exact Scope.mem_savedNames_bind _ _ _

theorem savedNames_updateScope (depth : Nat) (label : Option String) (first last : Bool)
    (scope : Scope) : (updateScope depth label first last scope).savedNames = scope.savedNames := by
  cases label <;> rfl

/-- The flags are written where a state is saved. -/
theorem covers_updateScope {label : Option String} {scope : Scope} {vars : Variables}
    (h : scope.Covers vars) (hcontext : SavesContext label scope) (depth : Nat)
    (first last : Bool) : (updateScope depth label first last scope).Covers vars := by
  cases label with
  | none => exact h
  | some label =>
      refine Scope.covers_of_agree h ?_
      intro name hname
      have hne : name ≠ contextName := by
        rintro rfl
        exact hname (hcontext label rfl)
      exact Entries.find?_modify_of_ne hne _ _

end LoopContext

variable {σ : Type}

namespace LoopHeader

theorem covers_bindRound {header : LoopHeader} {scope : Scope} {vars : Variables}
    (h : scope.Covers vars) (hcontext : LoopContext.SavesContext header.label scope)
    (depth : Nat) (first last : Bool) (entry : Value × Value) :
    (header.bindRound depth first last entry scope).Covers vars ∧
      LoopContext.SavesContext header.label
        (header.bindRound depth first last entry scope) := by
  have hsaved : scope.savedNames ⊆
      ((scope.bind header.item entry.2).bind? header.key entry.1).savedNames :=
    List.Subset.trans (Scope.savedNames_subset_bind scope header.item entry.2)
      (Scope.savedNames_subset_bind? _ header.key entry.1)
  have hbound := Scope.covers_bind? (Scope.covers_bind h header.item entry.2) header.key entry.1
  constructor
  · apply LoopContext.covers_updateScope hbound
    intro name hname
    exact hsaved (hcontext name hname)
  · intro name hname
    rw [bindRound, LoopContext.savedNames_updateScope]
    exact hsaved (hcontext name hname)

/-- The rounds of a loop leave its scope able to put everything back, if the body puts back what it
changes. -/
theorem covers_rounds {header : LoopHeader} {depth : Nat}
    {body : Surroundings σ → String × Surroundings σ} {vars : Variables}
    (hbody : ∀ state, Entries.SameLookups (body state).2.vars state.vars)
    (entries : List (Value × Value)) (first : Bool) {scope : Scope} (host : σ)
    (h : scope.Covers vars) (hcontext : LoopContext.SavesContext header.label scope) :
    (header.rounds depth body first entries scope host).2.1.Covers vars := by
  induction entries generalizing first scope host with
  | nil => exact h
  | cons entry rest ih =>
      obtain ⟨hbound, hsaves⟩ := covers_bindRound h hcontext depth first rest.isEmpty entry
      exact ih false _ (Scope.covers_of_agree hbound fun name _ => hbody _ name) hsaves

/-- A loop puts the variables back, if its blocks do. -/
theorem sameLookups_run (header : LoopHeader) (registry : Registry σ) (depth : Nat)
    {body : Surroundings σ → String × Surroundings σ}
    {ifEmpty : Surroundings σ → Value × Surroundings σ}
    (hbody : ∀ state, Entries.SameLookups (body state).2.vars state.vars)
    (hifEmpty : ∀ state, Entries.SameLookups (ifEmpty state).2.vars state.vars)
    (state : Surroundings σ) :
    Entries.SameLookups (header.run registry depth body ifEmpty state).2.vars state.vars := by
  rw [run]
  split
  · exact hifEmpty _
  · exact Scope.sameLookups_close (covers_rounds hbody _ true _
      (LoopContext.covers_openScope depth header.label state.vars)
      (LoopContext.savesContext_openScope depth header.label state.vars))

end LoopHeader

mutual

/-- A node puts the variables back. -/
theorem Node.sameLookups_eval (registry : Registry σ) :
    ∀ (node : Node) (depth : Nat) (state : Surroundings σ),
      Entries.SameLookups (node.eval registry depth state).2.vars state.vars
  | .text _, _, state => Entries.SameLookups.refl state.vars
  | .action _, _, state => Entries.SameLookups.refl state.vars
  | .conditional condition block otherwise, depth, state => by
      rw [Node.eval]
      split
      · exact Node.sameLookups_renderAll registry block depth _
      · exact Alternative.sameLookups_eval registry otherwise depth _
  | .loop header body none, depth, state =>
      header.sameLookups_run registry depth
        (Node.sameLookups_renderAll registry body (depth + 1))
        (fun state => Entries.SameLookups.refl state.vars) state
  | .loop header body (some block), depth, state =>
      header.sameLookups_run registry depth
        (Node.sameLookups_renderAll registry body (depth + 1))
        (Node.sameLookups_renderAll registry block depth) state

/-- A block puts the variables back. -/
theorem Node.sameLookups_renderAll (registry : Registry σ) :
    ∀ (nodes : List Node) (depth : Nat) (state : Surroundings σ),
      Entries.SameLookups (Node.renderAll registry nodes depth state).2.vars state.vars
  | [], _, state => Entries.SameLookups.refl state.vars
  | node :: rest, depth, state =>
      (Node.sameLookups_renderAll registry rest depth _).trans
        (node.sameLookups_eval registry depth state)

/-- What a condition goes on to puts the variables back. -/
theorem Alternative.sameLookups_eval (registry : Registry σ) :
    ∀ (otherwise : Alternative) (depth : Nat) (state : Surroundings σ),
      Entries.SameLookups (otherwise.eval registry depth state).2.vars state.vars
  | .nothing, _, state => Entries.SameLookups.refl state.vars
  | .block nodes, depth, state => Node.sameLookups_renderAll registry nodes depth state
  | .elseIf condition block otherwise, depth, state => by
      rw [Alternative.eval]
      split
      · exact Node.sameLookups_renderAll registry block depth _
      · exact Alternative.sameLookups_eval registry otherwise depth _

end

/-- Rendering a template leaves every name with the value that it had, or without one if it had
none. -/
theorem Template.find?_vars_render (template : Template) (registry : Registry σ)
    (state : Surroundings σ) (name : String) :
    Entries.find? name (template.render registry state).2.vars =
      Entries.find? name state.vars :=
  Node.sameLookups_renderAll registry template.nodes 0 state name

end Stencil
