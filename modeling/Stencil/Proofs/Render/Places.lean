import Stencil.Proofs.Render.Rounds

/-!
# The places of a rendering

While a template is rendered, its blocks are rendered in many surroundings: behind the nodes in
front of them, in the branch that a condition chooses, once in each round of a loop.  A place is
such a block with its surroundings, and one place leads to another as rendering does.  What is
put out at a place is part of what is put out where rendering came from, so a place that is
reached is one whose block is really rendered there.
-/

namespace Stencil

variable {σ : Type}

/-! ## The rounds of a loop -/

namespace LoopHeader

/-- The surroundings in which the body is rendered for the entries, one after the other. -/
def entered
    (header : LoopHeader) (depth : Nat) (body : Surroundings σ → String × Surroundings σ) :
    Bool → List (Value × Value) → Scope → σ → List (Surroundings σ)
  | _, [], _, _ => []
  | first, entry :: rest, scope, host =>
      let bound := header.bindRound depth first rest.isEmpty entry scope
      let result := body ⟨bound.vars, host⟩
      ⟨bound.vars, host⟩ ::
        header.entered depth body false rest { bound with vars := result.2.vars } result.2.host

/-- The surroundings in which a loop renders its body, one for each round. -/
def roundStates
    (header : LoopHeader) (registry : Registry σ) (body : List Node) (depth : Nat)
    (state : Surroundings σ) : List (Surroundings σ) :=
  let source := header.source.eval registry state.vars state.host
  header.entered depth (Node.renderAll registry body (depth + 1)) true source.1.iteration
    (LoopContext.openScope depth header.label state.vars) source.2

/-- The rounds put out what the body does in the surroundings that they are entered with. -/
theorem text_rounds (header : LoopHeader) (depth : Nat)
    (body : Surroundings σ → String × Surroundings σ) (first : Bool)
    (entries : List (Value × Value)) (scope : Scope) (host : σ) :
    (header.rounds depth body first entries scope host).1 =
      String.join ((header.entered depth body first entries scope host).map
        fun state => (body state).1) := by
  induction entries generalizing first scope host with
  | nil => exact String.join_nil.symm
  | cons entry rest ih =>
      simp only [rounds, entered, List.map_cons, String.join_cons, ih]

/-- A round is entered with the variables of the round, as they are when it is the only one. -/
theorem sameLookups_entered {header : LoopHeader} {depth : Nat} {vars : Variables}
    {body : Surroundings σ → String × Surroundings σ}
    (hcontext : header.label.isSome = true → ¬ header.Binds LoopContext.contextName)
    (hrestores : ∀ state, Entries.SameLookups (body state).2.vars state.vars)
    {entries : List (Value × Value)} {first : Bool} {scope : Scope} {host : σ} {index : Nat}
    {inside : Surroundings σ} (hscope : Between header depth vars scope.vars)
    (h : (header.entered depth body first entries scope host)[index]? = some inside) :
    ∃ entry, entries[index]? = some entry ∧
      Entries.SameLookups inside.vars
        (header.roundVariables depth vars (first && index == 0) (index + 1 == entries.length)
          entry) := by
  -- Between two rounds the variables are those around the loop, up to what every round binds again.
  induction entries generalizing first scope host index with
  | nil => cases h
  | cons entry rest ih =>
      have hround := sameLookups_bindRound hcontext hscope first rest.isEmpty entry
      rw [entered] at h
      cases index with
      | zero =>
          refine ⟨entry, rfl, ?_⟩
          have hlast : rest.isEmpty = (0 + 1 == (entry :: rest).length) := by
            cases rest <;> rfl
          rw [← hlast, ← Option.some.inj h, beq_self_eq_true, Bool.and_true]
          exact hround
      | succ index =>
          obtain ⟨other, hother, hsame⟩ :=
            ih (between_of_sameLookups ((hrestores _).trans hround)) h
          refine ⟨other, hother, ?_⟩
          have hfirst : (first && index + 1 == 0) = (false && index == 0) := Bool.and_false first
          have hlast : (index + 1 + 1 == (entry :: rest).length) = (index + 1 == rest.length) := by
            simp
          rw [hfirst, hlast]
          exact hsame

end LoopHeader

/-- A loop with entries puts out what its body does in each round. -/
theorem Node.output_eval_loop {registry : Registry σ} {header : LoopHeader} {depth : Nat}
    {state : Surroundings σ} (body : List Node) (ifEmpty : Option (List Node))
    (h : (header.source.eval registry state.vars state.host).1.iteration ≠ []) :
    ((Node.loop header body ifEmpty).eval registry depth state).1.output =
      String.join ((header.roundStates registry body depth state).map
        fun inside => (Node.renderAll registry body (depth + 1) inside).1) := by
  rw [Node.eval_loop_eq_run, LoopHeader.run_of_ne_nil h, LoopHeader.roundStates,
    ← LoopHeader.text_rounds]
  dsimp only
  split
  · rename_i hempty
    rw [String.isEmpty_iff.mp hempty]
    rfl
  · rfl

/-! ## Places -/

/-- What is rendered at a place: a block, or what a condition goes on to. -/
inductive Passage
  | block (nodes : List Node)
  | ending (otherwise : Alternative)

/-- What is rendered, and the depth and the surroundings in which it is. -/
structure Place (σ : Type) where
  passage : Passage
  depth : Nat
  state : Surroundings σ

/-- One round of a loop: its position among as many rounds as the loop has. -/
structure Round where
  header : LoopHeader
  index : Nat
  count : Nat

namespace Place

/-- The text that is put out at a place. -/
def text (registry : Registry σ) (place : Place σ) : String :=
  match place.passage with
  | .block nodes => (Node.renderAll registry nodes place.depth place.state).1
  | .ending otherwise => (otherwise.eval registry place.depth place.state).1.output

@[simp]
theorem text_block (registry : Registry σ) (nodes : List Node) (depth : Nat)
    (state : Surroundings σ) :
    text registry ⟨.block nodes, depth, state⟩ = (Node.renderAll registry nodes depth state).1 :=
  rfl

@[simp]
theorem text_ending (registry : Registry σ) (otherwise : Alternative) (depth : Nat)
    (state : Surroundings σ) :
    text registry ⟨.ending otherwise, depth, state⟩ =
      (otherwise.eval registry depth state).1.output :=
  rfl

/-- One step from a place to the next one that rendering comes to: behind the first node of a
block, or into it.  A step into the body of a loop says which round it enters. -/
inductive Leads (registry : Registry σ) : Place σ → Option Round → Place σ → Prop
  | behind (node : Node) (rest : List Node) (depth : Nat) (state : Surroundings σ) :
      Leads registry ⟨.block (node :: rest), depth, state⟩ none
        ⟨.block rest, depth, (node.eval registry depth state).2⟩
  | condition (condition : Expr) (block : List Node) (otherwise : Alternative) (rest : List Node)
      (depth : Nat) (state : Surroundings σ) :
      Leads registry ⟨.block (.conditional condition block otherwise :: rest), depth, state⟩ none
        ⟨.ending (.elseIf condition block otherwise), depth, state⟩
  | holds (condition : Expr) (block : List Node) (otherwise : Alternative) (depth : Nat)
      (state : Surroundings σ)
      (h : (condition.eval registry state.vars state.host).1.isTruthy = true) :
      Leads registry ⟨.ending (.elseIf condition block otherwise), depth, state⟩ none
        ⟨.block block, depth,
          { state with host := (condition.eval registry state.vars state.host).2 }⟩
  | fails (condition : Expr) (block : List Node) (otherwise : Alternative) (depth : Nat)
      (state : Surroundings σ)
      (h : (condition.eval registry state.vars state.host).1.isTruthy = false) :
      Leads registry ⟨.ending (.elseIf condition block otherwise), depth, state⟩ none
        ⟨.ending otherwise, depth,
          { state with host := (condition.eval registry state.vars state.host).2 }⟩
  | otherwise (nodes : List Node) (depth : Nat) (state : Surroundings σ) :
      Leads registry ⟨.ending (.block nodes), depth, state⟩ none ⟨.block nodes, depth, state⟩
  | ifEmpty (header : LoopHeader) (body block rest : List Node) (depth : Nat)
      (state : Surroundings σ)
      (h : (header.source.eval registry state.vars state.host).1.iteration = []) :
      Leads registry ⟨.block (.loop header body (some block) :: rest), depth, state⟩ none
        ⟨.block block, depth,
          { state with host := (header.source.eval registry state.vars state.host).2 }⟩
  | round (header : LoopHeader) (body : List Node) (ifEmpty : Option (List Node))
      (rest : List Node) (depth : Nat) (state : Surroundings σ) (index : Nat)
      (inside : Surroundings σ)
      (h : (header.roundStates registry body depth state)[index]? = some inside) :
      Leads registry ⟨.block (.loop header body ifEmpty :: rest), depth, state⟩
        (some ⟨header, index,
          (header.source.eval registry state.vars state.host).1.iteration.length⟩)
        ⟨.block body, depth + 1, inside⟩

/-- Several steps, and the rounds entered on the way, the innermost one first. -/
inductive Reaches (registry : Registry σ) (place : Place σ) : List Round → Place σ → Prop
  | start : Reaches registry place [] place
  | step {rounds : List Round} {middle here : Place σ} {round : Option Round}
      (h : Reaches registry place rounds middle) (hstep : middle.Leads registry round here) :
      Reaches registry place (round.toList ++ rounds) here

variable {registry : Registry σ} {place here : Place σ}

/-- What is put out at a place that another leads to is part of what the other puts out. -/
theorem text_of_leads {round : Option Round} (h : place.Leads registry round here) :
    ∃ front back, place.text registry = front ++ here.text registry ++ back := by
  cases h with
  | behind node rest depth state =>
      refine ⟨(node.eval registry depth state).1.output, "", ?_⟩
      rw [String.append_empty, text_block, Node.renderAll]
      rfl
  | condition condition block otherwise rest depth state =>
      let node := Node.conditional condition block otherwise
      refine ⟨"", (Node.renderAll registry rest depth (node.eval registry depth state).2).1, ?_⟩
      rw [String.empty_append, text_block, Node.renderAll]
      rfl
  | holds condition block otherwise depth state h =>
      refine ⟨"", "", ?_⟩
      rw [String.empty_append, String.append_empty, text_ending, Alternative.eval, if_pos h]
      rfl
  | fails condition block otherwise depth state h =>
      refine ⟨"", "", ?_⟩
      rw [String.empty_append, String.append_empty, text_ending, Alternative.eval, h]
      rfl
  | otherwise nodes depth state =>
      refine ⟨"", "", ?_⟩
      rw [String.empty_append, String.append_empty]
      rfl
  | ifEmpty header body block rest depth state h =>
      let node := Node.loop header body (some block)
      refine ⟨"", (Node.renderAll registry rest depth (node.eval registry depth state).2).1, ?_⟩
      have houtput : (node.eval registry depth state).1.output =
          (Node.renderAll registry block depth
            { state with host := (header.source.eval registry state.vars state.host).2 }).1 := by
        rw [Node.eval, LoopHeader.run_of_nil h]
        rfl
      rw [String.empty_append, text_block, Node.renderAll, houtput, text_block]
  | round header body ifEmpty rest depth state index inside h =>
      let node := Node.loop header body ifEmpty
      obtain ⟨before, behind, hstates⟩ := List.append_of_mem (List.mem_of_getElem? h)
      have hentries : (header.source.eval registry state.vars state.host).1.iteration ≠ [] := by
        intro hnil
        rw [LoopHeader.roundStates, hnil] at h
        cases h
      let put := fun inside => (Node.renderAll registry body (depth + 1) inside).1
      refine ⟨String.join (before.map put), String.join (behind.map put) ++
        (Node.renderAll registry rest depth (node.eval registry depth state).2).1, ?_⟩
      rw [text_block, Node.renderAll, Node.output_eval_loop body ifEmpty hentries, hstates,
        List.map_append, List.map_cons, String.join_append, String.join_cons, text_block]
      simp only [String.append_assoc, put, node]

/-- What is put out at a place that is reached is part of what is put out where rendering came
from. -/
theorem text_of_reaches {rounds : List Round} (h : place.Reaches registry rounds here) :
    ∃ front back, place.text registry = front ++ here.text registry ++ back := by
  induction h with
  | start =>
      refine ⟨"", "", ?_⟩
      rw [String.empty_append, String.append_empty]
  | step _ hstep ih =>
      obtain ⟨front, back, hplace⟩ := ih
      obtain ⟨before, behind, hmiddle⟩ := text_of_leads hstep
      refine ⟨front ++ before, behind ++ back, ?_⟩
      rw [hplace, hmiddle]
      simp only [String.append_assoc]

end Place

end Stencil
