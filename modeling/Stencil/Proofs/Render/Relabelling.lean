import Stencil.Modifier.Builtin
import Stencil.Proofs.Render.Calls
import Stencil.Proofs.Value.Relabelling

/-!
# Rendering does not see labels

Rendering reads values, compares them, sends them through modifiers, and binds them and the
contexts of loops.  Each of these commutes with a move of labels: done to values that have been
moved, it gives what it gave before, moved along, and the same text.  Comparing is the only
place where it matters that no two labels are moved to the same, and the contexts of loops the
only containers that are made on the way; their labels stay.

What modifiers do is theirs, so it is assumed of them that they treat moved values alike.  A
host may keep what its modifiers are given, and then its state is not the same for moved values.
It is therefore compared by a relation, which the modifiers have to keep: where a host notes the
calls of its modifiers, the notes are of the same calls with values of the same structure.  The
built-in modifiers make texts of texts and numbers and leave the host alone, so they keep any
relation.
-/

namespace Stencil

namespace Entries

variable {α β : Type}

theorem mapData_modify {f : α → β} {change : α → α} {further : β → β}
    (h : ∀ datum, f (change datum) = further (f datum)) (name : String) (entries : Entries α) :
    mapData f (modify name change entries) = modify name further (mapData f entries) := by
  induction entries with
  | nil => rfl
  | cons entry rest ih =>
      obtain ⟨other, datum⟩ := entry
      simp only [mapData, modify, List.map_cons]
      split
      · simp [h]
      · exact congrArg (_ :: ·) ih

theorem mapData_erase (f : α → β) (name : String) (entries : Entries α) :
    mapData f (erase name entries) = erase name (mapData f entries) := by
  rw [mapData, erase, erase, mapData, List.filter_map]
  rfl

end Entries

namespace Scope

/-- A scope whose variables and saved states have been moved. -/
def relabel (g : List Nat → List Nat) (scope : Scope) : Scope where
  vars := Entries.mapData (Value.relabel g) scope.vars
  saved := scope.saved.map fun entry => (entry.1, entry.2.map (Value.relabel g))

variable (g : List Nat → List Nat)

theorem bind_relabel (scope : Scope) (name : String) (value : Value) :
    (scope.relabel g).bind name (value.relabel g) = (scope.bind name value).relabel g := by
  simp only [bind, relabel, Entries.mapData_insert, Entries.find?_mapData, List.any_map]
  congr 1
  rw [apply_ite (List.map _)]
  rfl

theorem bind?_relabel (scope : Scope) (name : Option String) (value : Value) :
    (scope.relabel g).bind? name (value.relabel g) = (scope.bind? name value).relabel g := by
  rcases name with _ | name
  · rfl
  · exact scope.bind_relabel g name value

theorem restore_mapData (vars : Variables) (saved : Saved) :
    restore (Entries.mapData (Value.relabel g) vars) (saved.1, saved.2.map (Value.relabel g)) =
      Entries.mapData (Value.relabel g) (restore vars saved) := by
  obtain ⟨name, _ | value⟩ := saved
  · exact (Entries.mapData_erase _ name vars).symm
  · exact (Entries.mapData_insert _ name value vars).symm

theorem close_relabel (scope : Scope) :
    (scope.relabel g).close = Entries.mapData (Value.relabel g) scope.close := by
  rw [close, close, relabel, List.foldl_map]
  exact List.foldl_hom (Entries.mapData (Value.relabel g))
    (fun vars saved => restore_mapData g vars saved)

end Scope

namespace LoopContext

variable (g : List Nat → List Nat)

theorem putFlags_mapData (first last : Bool) (flags : Entries Value) :
    Entries.mapData (Value.relabel g) (putFlags first last flags) =
      putFlags first last (Entries.mapData (Value.relabel g) flags) := by
  rw [putFlags, putFlags, Entries.mapData_insert, Entries.mapData_insert]
  rfl

/-- A map of a loop's own keeps its label. -/
theorem relabel_loopMap (depth : Nat) (part : LoopPart) (entries : Entries Value) :
    (Value.map (.loop depth part) entries).relabel g =
      .map (.loop depth part) (Entries.mapData (Value.relabel g) entries) :=
  Value.relabel_map g _ entries

theorem changeMap_relabel (depth : Nat) (part : LoopPart)
    {change : Entries Value → Entries Value}
    (h : ∀ entries, Entries.mapData (Value.relabel g) (change entries) =
      change (Entries.mapData (Value.relabel g) entries)) (value : Value) :
    (changeMap depth part change value).relabel g =
      changeMap depth part change (value.relabel g) := by
  rcases value with _ | _ | _ | _ | _ | ⟨identity, entries⟩ | _ | _ | _
  case map =>
    rw [Value.relabel_map, changeMap, changeMap, relabel_loopMap, h]
  all_goals rfl

theorem setFlags_relabel (depth : Nat) (label : String) (first last : Bool) (value : Value) :
    (setFlags depth label first last value).relabel g =
      setFlags depth label first last (value.relabel g) := by
  apply changeMap_relabel
  apply Entries.mapData_modify
  apply changeMap_relabel
  apply Entries.mapData_modify
  apply changeMap_relabel
  exact putFlags_mapData g first last

theorem create_relabel (depth : Nat) (label : String) (around : Value) :
    (create depth label around).relabel g = create depth label (around.relabel g) := by
  simp only [create, Value.mapEntries_relabel, Entries.find?_mapData, Value.getD_map_relabel,
    relabel_loopMap, Entries.mapData_insert, putFlags_mapData]
  rfl

theorem openScope_relabel (depth : Nat) (label : Option String) (vars : Variables) :
    openScope depth label (Entries.mapData (Value.relabel g) vars) =
      (openScope depth label vars).relabel g := by
  rcases label with _ | label
  · rfl
  · simp only [openScope, Entries.find?_mapData, Value.getD_map_relabel, ← create_relabel]
    exact Scope.bind_relabel g (Scope.ofVariables vars) contextName _

theorem updateScope_relabel (depth : Nat) (label : Option String) (first last : Bool)
    (scope : Scope) :
    updateScope depth label first last (scope.relabel g) =
      (updateScope depth label first last scope).relabel g := by
  rcases label with _ | label
  · rfl
  · have hvars := Entries.mapData_modify
      (fun value => setFlags_relabel g depth label first last value) contextName scope.vars
    simp only [updateScope, Scope.relabel, hvars]

end LoopContext

variable {σ : Type}

/-- Modifiers that treat values alike in which labels have been moved, between hosts whose
states are related. -/
def Registry.Blind (registry : Registry σ) (g : List Nat → List Nat) (R : σ → σ → Prop) : Prop :=
  ∀ entry ∈ registry, ∀ value {host other : σ}, R host other →
    (entry.2 (value.relabel g) host).1 = (entry.2 value other).1.relabel g ∧
      R (entry.2 (value.relabel g) host).2 (entry.2 value other).2

theorem Registry.apply_relabel {registry : Registry σ} {g : List Nat → List Nat} {R : σ → σ → Prop}
    (h : registry.Blind g R) (modifier : String) (value : Value) {host other : σ}
    (hhost : R host other) :
    (registry.apply modifier (value.relabel g) host).1 =
        (registry.apply modifier value other).1.relabel g ∧
      R (registry.apply modifier (value.relabel g) host).2
        (registry.apply modifier value other).2 := by
  rw [apply, apply]
  rcases hfound : Entries.find? modifier registry with _ | found
  · exact ⟨rfl, hhost⟩
  · exact h _ (Entries.mem_of_find? hfound) value hhost

/-- The built-in modifiers make texts and null only, of texts and numbers only. -/
theorem Registry.blind_builtin (g : List Nat → List Nat) (R : σ → σ → Prop) :
    (builtin : Registry σ).Blind g R := by
  have htext (f : List Char → List Char) (value : Value) :
      Modifier.onText f (value.relabel g) = (Modifier.onText f value).relabel g := by
    rw [Modifier.onText, Modifier.onText, Value.toText?_relabel]
    rcases value.toText? with _ | text
    · rfl
    · rfl
  have hnumber (value : Value) :
      Modifier.formatNumber (value.relabel g) = (Modifier.formatNumber value).relabel g := by
    rw [Modifier.formatNumber, Modifier.formatNumber, Value.toNumber?_relabel]
    rcases value.toNumber? with _ | n
    · rfl
    · rfl
  intro entry hentry value host other hhost
  simp only [builtin, Modifier.builtins, List.map_cons, List.map_nil, List.mem_cons,
    List.not_mem_nil, or_false] at hentry
  rcases hentry with rfl | rfl | rfl | rfl | rfl | rfl
  case inr.inr.inr.inr.inl => exact ⟨hnumber value, hhost⟩
  all_goals exact ⟨htext _ value, hhost⟩

/-- A call without the labels of what the modifier is given. -/
def Call.bare (call : Call) : Call where
  modifier := call.modifier
  value := call.value.bare

/-- States of a host that notes the calls of its modifiers: the notes are of the same calls with
values of the same structure. -/
def SameNotes (R : σ → σ → Prop) (host other : σ × List Call) : Prop :=
  R host.1 other.1 ∧ host.2.map Call.bare = other.2.map Call.bare

/-- Noting the calls of modifiers does not make them see labels. -/
theorem Registry.Blind.noting {registry : Registry σ} {g : List Nat → List Nat} {R : σ → σ → Prop}
    (h : registry.Blind g R) : registry.noting.Blind g (SameNotes R) := by
  intro entry hentry value host other hhost
  obtain ⟨plain, hplain, rfl⟩ := List.mem_map.mp hentry
  obtain ⟨hvalue, hstate⟩ := h plain hplain value hhost.1
  have hcall : (Call.mk plain.1 (value.relabel g)).bare = (Call.mk plain.1 value).bare :=
    congrArg (Call.mk plain.1) (Value.sameStructure_relabel g value)
  refine ⟨hvalue, hstate, ?_⟩
  simp only [List.map_append, List.map_cons, List.map_nil]
  rw [hhost.2, hcall]

/-! ## Expressions -/

section Moved

variable {registry : Registry σ} {g : List Nat → List Nat} {R : σ → σ → Prop}
  (hg : Function.Injective g) (hregistry : registry.Blind g R)

include hg in
theorem BinaryOp.holds_relabel (op : BinaryOp) (left right : Value) :
    op.holds (left.relabel g) (right.relabel g) = op.holds left right := by
  rcases op with _ | _ | _ | _ | _ | _ | _ | _ <;>
    simp only [holds, compare, Value.isTruthy_relabel, Value.same_relabel hg,
      Value.toNumber?_relabel]

theorem BinaryOp.isDecided_relabel (op : BinaryOp) (left : Value) :
    op.isDecided (left.relabel g) = op.isDecided left := by
  rcases op with _ | _ | _ | _ | _ | _ | _ | _ <;>
    simp only [isDecided, Value.isTruthy_relabel]

include hg hregistry in
/-- An expression over moved variables has the moved value. -/
theorem Expr.eval_relabel (vars : Variables) (expr : Expr) {host other : σ} (hhost : R host other) :
    (expr.eval registry (Entries.mapData (Value.relabel g) vars) host).1 =
        (expr.eval registry vars other).1.relabel g ∧
      R (expr.eval registry (Entries.mapData (Value.relabel g) vars) host).2
        (expr.eval registry vars other).2 := by
  induction expr generalizing host other with
  | «variable» name =>
      refine ⟨?_, hhost⟩
      rw [eval, eval, Entries.find?_mapData, Value.getD_map_relabel]
  | number value => exact ⟨rfl, hhost⟩
  | string text => exact ⟨rfl, hhost⟩
  | field base name ih =>
      obtain ⟨hvalue, hstate⟩ := ih hhost
      refine ⟨?_, hstate⟩
      simp only [eval]
      rw [hvalue, Value.field_relabel]
  | index base position ihBase ihPosition =>
      obtain ⟨hbase, hstate⟩ := ihBase hhost
      obtain ⟨hposition, hlast⟩ := ihPosition hstate
      refine ⟨?_, hlast⟩
      simp only [eval]
      rw [hbase, hposition, Value.item_relabel]
  | binary left op right ihLeft ihRight =>
      obtain ⟨hleft, hstate⟩ := ihLeft hhost
      obtain ⟨hright, hlast⟩ := ihRight hstate
      simp only [eval]
      rw [hleft, BinaryOp.isDecided_relabel, Value.isTruthy_relabel]
      split
      · exact ⟨rfl, hstate⟩
      · rw [hright, BinaryOp.holds_relabel hg]
        exact ⟨rfl, hlast⟩
  | pipe input modifier ih =>
      obtain ⟨hvalue, hstate⟩ := ih hhost
      simp only [eval]
      rw [hvalue]
      exact Registry.apply_relabel hregistry modifier _ hstate

end Moved

/-! ## Loops -/

/-- Surroundings in which labels have been moved, with a host whose state is related. -/
structure Surroundings.Moved (g : List Nat → List Nat) (R : σ → σ → Prop)
    (moved state : Surroundings σ) : Prop where
  vars : moved.vars = Entries.mapData (Value.relabel g) state.vars
  host : R moved.host state.host

/-- A block that treats moved variables alike. -/
def BlindBlock (g : List Nat → List Nat) (R : σ → σ → Prop)
    (block : Surroundings σ → String × Surroundings σ) : Prop :=
  ∀ ⦃moved state⦄, moved.Moved g R state →
    (block moved).1 = (block state).1 ∧ (block moved).2.Moved g R (block state).2

/-- Something with a value that treats moved variables alike. -/
def BlindEval (g : List Nat → List Nat) (R : σ → σ → Prop)
    (eval : Surroundings σ → Value × Surroundings σ) : Prop :=
  ∀ ⦃moved state⦄, moved.Moved g R state →
    (eval moved).1 = (eval state).1.relabel g ∧ (eval moved).2.Moved g R (eval state).2

section Blind

variable {g : List Nat → List Nat} {R : σ → σ → Prop}

theorem BlindBlock.blockValue {block : Surroundings σ → String × Surroundings σ}
    (h : BlindBlock g R block) : BlindEval g R fun state => Stencil.blockValue (block state) := by
  intro moved state hmoved
  obtain ⟨htext, hbehind⟩ := h hmoved
  exact ⟨congrArg Value.string htext, hbehind⟩

theorem blindEval_null : BlindEval g R fun state => (.null, state) :=
  fun _ _ hmoved => ⟨rfl, hmoved⟩

end Blind

namespace LoopHeader

variable {g : List Nat → List Nat} {R : σ → σ → Prop}

theorem bindRound_relabel (g : List Nat → List Nat) (header : LoopHeader) (depth : Nat)
    (first last : Bool) (entry : Value × Value) (scope : Scope) :
    header.bindRound depth first last (entry.map (Value.relabel g) (Value.relabel g))
        (scope.relabel g) =
      (header.bindRound depth first last entry scope).relabel g := by
  rw [bindRound, bindRound, Prod.map_fst, Prod.map_snd, Scope.bind_relabel, Scope.bind?_relabel,
    LoopContext.updateScope_relabel]

/-- The rounds of a loop over moved entries put out the same text and leave a scope with moved
variables. -/
theorem rounds_relabel (header : LoopHeader) (depth : Nat)
    {body : Surroundings σ → String × Surroundings σ} (hbody : BlindBlock g R body)
    (entries : List (Value × Value)) (first : Bool) (scope : Scope) {host other : σ}
    (hhost : R host other) :
    let moved := header.rounds depth body first
      (entries.map (Prod.map (Value.relabel g) (Value.relabel g))) (scope.relabel g) host
    let plain := header.rounds depth body first entries scope other
    moved.1 = plain.1 ∧ moved.2.1 = plain.2.1.relabel g ∧ R moved.2.2 plain.2.2 := by
  induction entries generalizing first scope host other with
  | nil => exact ⟨rfl, rfl, hhost⟩
  | cons entry rest ih =>
      have hbound := header.bindRound_relabel g depth first rest.isEmpty entry scope
      simp only [List.map_cons, rounds, List.isEmpty_map, hbound]
      generalize header.bindRound depth first rest.isEmpty entry scope = bound
      have hmoved : (⟨(bound.relabel g).vars, host⟩ : Surroundings σ).Moved g R
          ⟨bound.vars, other⟩ :=
        ⟨rfl, hhost⟩
      obtain ⟨htext, hvars, hstate⟩ := hbody hmoved
      have hscope :
          (⟨(body ⟨(bound.relabel g).vars, host⟩).2.vars, (bound.relabel g).saved⟩ : Scope) =
            (⟨(body ⟨bound.vars, other⟩).2.vars, bound.saved⟩ : Scope).relabel g := by
        rw [hvars]
        rfl
      obtain ⟨hrest, hlast⟩ := ih false ⟨(body ⟨bound.vars, other⟩).2.vars, bound.saved⟩ hstate
      rw [hscope, htext, hrest]
      exact ⟨rfl, hlast⟩

theorem run_relabel {registry : Registry σ} (hg : Function.Injective g)
    (hregistry : registry.Blind g R) (header : LoopHeader) (depth : Nat)
    {body : Surroundings σ → String × Surroundings σ} (hbody : BlindBlock g R body)
    {ifEmpty : Surroundings σ → Value × Surroundings σ} (hifEmpty : BlindEval g R ifEmpty) :
    BlindEval g R (header.run registry depth body ifEmpty) := by
  rintro ⟨_, host⟩ ⟨vars, other⟩ ⟨rfl, hhost⟩
  obtain ⟨hsource, hstate⟩ := header.source.eval_relabel hg hregistry vars hhost
  simp only [run, hsource, Value.iteration_relabel]
  rcases (header.source.eval registry vars other).1.iteration with _ | ⟨entry, rest⟩
  · exact hifEmpty ⟨rfl, hstate⟩
  · obtain ⟨htext, hscope, hlast⟩ := header.rounds_relabel depth hbody (entry :: rest) true
      (LoopContext.openScope depth header.label vars) hstate
    rw [List.map_cons] at htext hscope hlast ⊢
    dsimp only
    rw [LoopContext.openScope_relabel, htext]
    refine ⟨?_, ?_, hlast⟩
    · split
      · rfl
      · rfl
    · dsimp only
      rw [hscope, Scope.close_relabel]

end LoopHeader

/-! ## Templates -/

section Moved

variable {registry : Registry σ} {g : List Nat → List Nat} {R : σ → σ → Prop}

mutual

/-- A node over moved variables has the moved value. -/
theorem Node.eval_relabel (hg : Function.Injective g) (hregistry : registry.Blind g R) (node : Node)
    (depth : Nat) : BlindEval g R (node.eval registry depth) := by
  match node with
  | .text content => exact fun _ _ hmoved => ⟨rfl, hmoved⟩
  | .action expr =>
      rintro ⟨_, host⟩ ⟨vars, other⟩ ⟨rfl, hhost⟩
      obtain ⟨hvalue, hstate⟩ := expr.eval_relabel hg hregistry vars hhost
      exact ⟨hvalue, rfl, hstate⟩
  | .conditional condition block otherwise =>
      rintro ⟨_, host⟩ ⟨vars, other⟩ ⟨rfl, hhost⟩
      obtain ⟨hvalue, hstate⟩ := condition.eval_relabel hg hregistry vars hhost
      simp only [Node.eval, hvalue, Value.isTruthy_relabel]
      split
      · exact (Node.renderAll_relabel hg hregistry block depth).blockValue ⟨rfl, hstate⟩
      · exact Alternative.eval_relabel hg hregistry otherwise depth ⟨rfl, hstate⟩
  | .loop header body none =>
      have hbody := Node.renderAll_relabel hg hregistry body (depth + 1)
      exact header.run_relabel hg hregistry depth hbody blindEval_null
  | .loop header body (some block) =>
      have hbody := Node.renderAll_relabel hg hregistry body (depth + 1)
      have hblock := Node.renderAll_relabel hg hregistry block depth
      exact header.run_relabel hg hregistry depth hbody hblock.blockValue

/-- A block over moved variables puts out the same text. -/
theorem Node.renderAll_relabel (hg : Function.Injective g) (hregistry : registry.Blind g R)
    (nodes : List Node) (depth : Nat) : BlindBlock g R (Node.renderAll registry nodes depth) := by
  match nodes with
  | [] => exact fun _ _ hmoved => ⟨rfl, hmoved⟩
  | node :: rest =>
      intro moved state hmoved
      obtain ⟨hvalue, hbehind⟩ := Node.eval_relabel hg hregistry node depth hmoved
      obtain ⟨htext, hlast⟩ := Node.renderAll_relabel hg hregistry rest depth hbehind
      simp only [Node.renderAll]
      rw [hvalue, htext, Value.output_relabel]
      exact ⟨rfl, hlast⟩

theorem Alternative.eval_relabel (hg : Function.Injective g) (hregistry : registry.Blind g R)
    (otherwise : Alternative) (depth : Nat) : BlindEval g R (otherwise.eval registry depth) := by
  match otherwise with
  | .nothing => exact blindEval_null
  | .block nodes => exact (Node.renderAll_relabel hg hregistry nodes depth).blockValue
  | .elseIf condition block otherwise =>
      rintro ⟨_, host⟩ ⟨vars, other⟩ ⟨rfl, hhost⟩
      obtain ⟨hvalue, hstate⟩ := condition.eval_relabel hg hregistry vars hhost
      simp only [Alternative.eval, hvalue, Value.isTruthy_relabel]
      split
      · exact (Node.renderAll_relabel hg hregistry block depth).blockValue ⟨rfl, hstate⟩
      · exact Alternative.eval_relabel hg hregistry otherwise depth ⟨rfl, hstate⟩

end

/-- A template puts out the same text for variables in which labels have been moved, and what it
does to the host keeps the relation between the states. -/
theorem Template.render_relabel (hg : Function.Injective g) (hregistry : registry.Blind g R)
    (template : Template) : BlindBlock g R (template.render registry) :=
  Node.renderAll_relabel hg hregistry template.nodes 0

end Moved

end Stencil
