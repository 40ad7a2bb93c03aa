import Stencil.Modifier.Builtin
import Stencil.Proofs.Render.Restoration

/-!
# What rendering reads

Rendering finds out about the variables only by looking up the free variables of a template.
This is stated for a relation between values: where the free variables have related values on
two sides, related values come out, and the same text.  Equality is such a relation for every
registry.  A coarser one has to leave alone what a value is inside its optional layers, and to
be respected by the modifiers.
-/

namespace Stencil

/-- The value that a name stands for in an expression. -/
def Variables.value (vars : Variables) (name : String) : Value :=
  (Entries.find? name vars).getD .null

/-! ## Free variables -/

/-- The variables that an expression reads. -/
def Expr.freeVariables : Expr → List String
  | .variable name => [name]
  | .number _ => []
  | .string _ => []
  | .field base _ => base.freeVariables
  | .index base position => base.freeVariables ++ position.freeVariables
  | .binary left _ right => left.freeVariables ++ right.freeVariables
  | .pipe input _ => input.freeVariables

/-- The names that a loop binds to an item and its key. -/
def LoopHeader.Binds (header : LoopHeader) (name : String) : Prop :=
  name = header.item ∨ header.key = some name

instance (header : LoopHeader) (name : String) : Decidable (header.Binds name) :=
  inferInstanceAs (Decidable (_ ∨ _))

mutual

/-- The variables that a node reads from around it. -/
def Node.freeVariables : Node → List String
  | .text _ => []
  | .action expr => expr.freeVariables
  | .conditional condition block otherwise =>
      condition.freeVariables ++ Node.freeVariablesOfAll block ++ otherwise.freeVariables
  | .loop header body none =>
      header.source.freeVariables ++
        (Node.freeVariablesOfAll body).filter fun name => ¬ header.Binds name
  | .loop header body (some block) =>
      header.source.freeVariables ++
        ((Node.freeVariablesOfAll body).filter fun name => ¬ header.Binds name) ++
        Node.freeVariablesOfAll block

/-- The variables that a block reads from around it. -/
def Node.freeVariablesOfAll : List Node → List String
  | [] => []
  | node :: rest => node.freeVariables ++ Node.freeVariablesOfAll rest

/-- The variables that are read by what a condition goes on to. -/
def Alternative.freeVariables : Alternative → List String
  | .nothing => []
  | .block nodes => Node.freeVariablesOfAll nodes
  | .elseIf condition block otherwise =>
      condition.freeVariables ++ Node.freeVariablesOfAll block ++ otherwise.freeVariables

end

/-! ## Values that are alike inside their optional layers -/

namespace Value

theorem isTruthy_unwrapped (value : Value) : value.unwrapped.isTruthy = value.isTruthy := by
  induction value using unwrapped.induct with
  | case1 inner ih => exact ih
  | case2 => rfl
  | case3 other hpresent habsent => rw [unwrapped.eq_3 other hpresent habsent]

variable {value other : Value} (h : value.unwrapped = other.unwrapped)

include h

theorem isTruthy_of_unwrapped : value.isTruthy = other.isTruthy := by
  rw [← isTruthy_unwrapped value, h, isTruthy_unwrapped]

theorem field_of_unwrapped (name : String) : value.field name = other.field name := by
  rw [field, h, field]

theorem output_of_unwrapped : value.output = other.output := by
  rw [output, output, isNull, isNull, h]

theorem iteration_of_unwrapped : value.iteration = other.iteration := by
  rw [iteration, h, iteration]

theorem mapEntries_of_unwrapped : value.mapEntries = other.mapEntries := by
  rw [mapEntries, h, mapEntries]

end Value

theorem Value.item_of_unwrapped {value other position place : Value}
    (h : value.unwrapped = other.unwrapped) (hposition : position.unwrapped = place.unwrapped) :
    value.item position = other.item place := by
  rw [item, h, hposition, item]

theorem BinaryOp.holds_of_unwrapped (op : BinaryOp) {left right other further : Value}
    (hleft : left.unwrapped = other.unwrapped) (hright : right.unwrapped = further.unwrapped) :
    op.holds left right = op.holds other further := by
  have htruthy := Value.isTruthy_of_unwrapped hleft
  have hsecond := Value.isTruthy_of_unwrapped hright
  cases op <;>
    simp only [holds, compare, Value.same, Value.toNumber?, hleft, hright, htruthy, hsecond]

theorem BinaryOp.isDecided_of_unwrapped (op : BinaryOp) {left other : Value}
    (h : left.unwrapped = other.unwrapped) : op.isDecided left = op.isDecided other := by
  cases op <;> simp only [isDecided, Value.isTruthy_of_unwrapped h]

/-! ## Agreement -/

variable {σ : Type}

/-- A relation between values that templates cannot break. -/
structure Registry.Respects (registry : Registry σ) (R : Value → Value → Prop) : Prop where
  refl : ∀ value, R value value
  unwrapped : ∀ {value other}, R value other → value.unwrapped = other.unwrapped
  apply : ∀ (modifier : String) {value other : Value} (host : σ), R value other →
    R (registry.apply modifier value host).1 (registry.apply modifier other host).1 ∧
      (registry.apply modifier value host).2 = (registry.apply modifier other host).2

theorem Registry.respects_eq (registry : Registry σ) : registry.Respects Eq where
  refl := fun _ => rfl
  unwrapped := fun h => congrArg Value.unwrapped h
  apply := by
    rintro modifier value _ host rfl
    exact ⟨rfl, rfl⟩

namespace Variables

/-- Variables that give each of some names related values. -/
def Agree (R : Value → Value → Prop) (names : String → Prop) (vars others : Variables) : Prop :=
  ∀ name, names name → R (vars.value name) (others.value name)

theorem value_of_sameLookups {vars next : Variables} (h : Entries.SameLookups next vars)
    (name : String) : Variables.value next name = vars.value name := by
  rw [value, value, h name]

theorem agree_of_sameLookups {R : Value → Value → Prop} {names : String → Prop}
    {vars others next further : Variables} (h : Agree R names vars others)
    (hvars : Entries.SameLookups next vars) (hothers : Entries.SameLookups further others) :
    Agree R names next further := by
  intro name hname
  rw [value_of_sameLookups hvars, value_of_sameLookups hothers]
  exact h name hname

end Variables

section Related

variable {registry : Registry σ} {R : Value → Value → Prop} (hR : registry.Respects R)
  {names : String → Prop} {vars others : Variables}

include hR

/-- An expression reads nothing but its free variables. -/
theorem Expr.related_eval (h : Variables.Agree R names vars others) {expr : Expr}
    (hfree : ∀ name ∈ expr.freeVariables, names name) (host : σ) :
    R (expr.eval registry vars host).1 (expr.eval registry others host).1 ∧
      (expr.eval registry vars host).2 = (expr.eval registry others host).2 := by
  induction expr generalizing host with
  | «variable» name => exact ⟨h name (hfree name List.mem_cons_self), rfl⟩
  | number value => exact ⟨hR.refl _, rfl⟩
  | string text => exact ⟨hR.refl _, rfl⟩
  | field base name ih =>
      obtain ⟨hvalue, hhost⟩ := ih hfree host
      refine ⟨?_, hhost⟩
      simp only [eval]
      rw [Value.field_of_unwrapped (hR.unwrapped hvalue)]
      exact hR.refl _
  | index base position ihBase ihPosition =>
      obtain ⟨hbase, hhost⟩ := ihBase
        (fun name hname => hfree name (List.mem_append_left _ hname)) host
      obtain ⟨hposition, hlast⟩ := ihPosition
        (fun name hname => hfree name (List.mem_append_right _ hname))
        (base.eval registry vars host).2
      simp only [eval]
      rw [← hhost]
      refine ⟨?_, hlast⟩
      rw [Value.item_of_unwrapped (hR.unwrapped hbase) (hR.unwrapped hposition)]
      exact hR.refl _
  | binary left op right ihLeft ihRight =>
      obtain ⟨hleft, hhost⟩ := ihLeft
        (fun name hname => hfree name (List.mem_append_left _ hname)) host
      obtain ⟨hright, hlast⟩ := ihRight
        (fun name hname => hfree name (List.mem_append_right _ hname))
        (left.eval registry vars host).2
      have hunwrapped := hR.unwrapped hleft
      simp only [eval]
      rw [← BinaryOp.isDecided_of_unwrapped op hunwrapped, ← hhost]
      split
      · rw [Value.isTruthy_of_unwrapped hunwrapped]
        exact ⟨hR.refl _, rfl⟩
      · rw [BinaryOp.holds_of_unwrapped op hunwrapped (hR.unwrapped hright)]
        exact ⟨hR.refl _, hlast⟩
  | pipe input modifier ih =>
      obtain ⟨hvalue, hhost⟩ := ih hfree host
      simp only [eval]
      rw [← hhost]
      exact hR.apply modifier _ hvalue

end Related

/-! ## Agreement inside loops -/

namespace Variables

theorem value_insert_self (vars : Variables) (name : String) (value : Value) :
    Variables.value (Entries.insert name value vars) name = value := by
  rw [Variables.value, Entries.find?_insert_self]
  rfl

theorem value_insert_of_ne {name other : String} (h : other ≠ name) (vars : Variables)
    (value : Value) :
    Variables.value (Entries.insert name value vars) other = vars.value other := by
  rw [Variables.value, Entries.find?_insert_of_ne h, Variables.value]

theorem value_modify_self {change : Value → Value} (hnull : change .null = .null)
    (vars : Variables) (name : String) :
    Variables.value (Entries.modify name change vars) name = change (vars.value name) := by
  rw [Variables.value, Variables.value, Entries.find?_modify_self]
  cases Entries.find? name vars with
  | none => exact hnull.symm
  | some value => rfl

theorem value_modify_of_ne {name other : String} (h : other ≠ name) (vars : Variables)
    (change : Value → Value) :
    Variables.value (Entries.modify name change vars) other = vars.value other := by
  rw [Variables.value, Entries.find?_modify_of_ne h, Variables.value]

/-- Variables that agree in a loop.  One with a label reads the context to set its flags, which
related values of it might show, so both sides have to have the same one. -/
structure AgreeInLoop (header : LoopHeader) (R : Value → Value → Prop) (names : String → Prop)
    (vars others : Variables) : Prop where
  agree : Agree R names vars others
  context : header.label.isSome = true → names LoopContext.contextName →
    vars.value LoopContext.contextName = others.value LoopContext.contextName

variable {header : LoopHeader} {R : Value → Value → Prop} {names further : String → Prop}
  {vars others next rest : Variables}

theorem agreeInLoop_mono (h : AgreeInLoop header R names vars others)
    (hsubset : ∀ name, further name → names name) :
    AgreeInLoop header R further vars others where
  agree := fun name hname => h.agree name (hsubset name hname)
  context := fun hlabel hname => h.context hlabel (hsubset _ hname)

theorem agreeInLoop_of_sameLookups (h : AgreeInLoop header R names vars others)
    (hvars : Entries.SameLookups next vars) (hothers : Entries.SameLookups rest others) :
    AgreeInLoop header R names next rest where
  agree := agree_of_sameLookups h.agree hvars hothers
  context := fun hlabel hname => by
    rw [value_of_sameLookups hvars, value_of_sameLookups hothers]
    exact h.context hlabel hname

theorem agreeInLoop_insert (hrefl : ∀ value, R value value)
    (h : AgreeInLoop header R names vars others) (name : String) (value : Value) :
    AgreeInLoop header R (fun other => names other ∨ other = name)
      (Entries.insert name value vars) (Entries.insert name value others) := by
  constructor
  · intro other hother
    by_cases hname : other = name
    · rw [hname, value_insert_self, value_insert_self]
      exact hrefl value
    · rw [value_insert_of_ne hname, value_insert_of_ne hname]
      exact h.agree other (hother.resolve_right hname)
  · intro hlabel hother
    by_cases hname : LoopContext.contextName = name
    · rw [hname, value_insert_self, value_insert_self]
    · rw [value_insert_of_ne hname, value_insert_of_ne hname]
      exact h.context hlabel (hother.resolve_right hname)

end Variables

namespace LoopContext

open Variables

variable {header : LoopHeader} {R : Value → Value → Prop} {names : String → Prop}

theorem vars_openScope (depth : Nat) (label : String) (vars : Variables) :
    (openScope depth (some label) vars).vars =
      Entries.insert contextName (create depth label (vars.value contextName)) vars :=
  rfl

theorem vars_updateScope (depth : Nat) (label : String) (first last : Bool) (scope : Scope) :
    (updateScope depth (some label) first last scope).vars =
      Entries.modify contextName (setFlags depth label first last) scope.vars :=
  rfl

theorem agreeInLoop_openScope
    (hunwrapped : ∀ {value other}, R value other → value.unwrapped = other.unwrapped)
    (hrefl : ∀ value, R value value) {vars others : Variables} (depth : Nat)
    (h : Agree R names vars others) :
    AgreeInLoop header R names (openScope depth header.label vars).vars
      (openScope depth header.label others).vars := by
  cases hlabel : header.label with
  | none => exact ⟨h, fun hsome => by simp [hlabel] at hsome⟩
  | some label =>
      have hcontext (hname : names contextName) :
          create depth label (vars.value contextName) =
            create depth label (others.value contextName) := by
        rw [create, Value.mapEntries_of_unwrapped (hunwrapped (h contextName hname)), create]
      rw [vars_openScope, vars_openScope]
      constructor
      · intro name hname
        by_cases heq : name = contextName
        · subst heq
          rw [value_insert_self, value_insert_self, hcontext hname]
          exact hrefl _
        · rw [value_insert_of_ne heq, value_insert_of_ne heq]
          exact h name hname
      · intro _ hname
        rw [value_insert_self, value_insert_self]
        exact hcontext hname

theorem setFlags_null (depth : Nat) (label : String) (first last : Bool) :
    setFlags depth label first last .null = .null :=
  rfl

theorem agreeInLoop_updateScope (hrefl : ∀ value, R value value) {scope other : Scope}
    (depth : Nat) (first last : Bool)
    (h : AgreeInLoop header R names scope.vars other.vars) :
    AgreeInLoop header R names (updateScope depth header.label first last scope).vars
      (updateScope depth header.label first last other).vars := by
  cases hlabel : header.label with
  | none => exact h
  | some label =>
      have hsome : header.label.isSome = true := by rw [hlabel]; rfl
      have hnull := setFlags_null depth label first last
      have hcontext (hname : names contextName) :
          Variables.value (updateScope depth (some label) first last scope).vars contextName =
            Variables.value (updateScope depth (some label) first last other).vars contextName := by
        rw [vars_updateScope, vars_updateScope, value_modify_self hnull,
          value_modify_self hnull, h.context hsome hname]
      constructor
      · intro name hname
        by_cases heq : name = contextName
        · subst heq
          rw [hcontext hname]
          exact hrefl _
        · rw [vars_updateScope, vars_updateScope, value_modify_of_ne heq,
            value_modify_of_ne heq]
          exact h.agree name hname
      · intro _ hname
        exact hcontext hname

end LoopContext

namespace LoopHeader

open Variables

/-- The names that the body of a loop may read where some names may be read around it. -/
def Inside (header : LoopHeader) (names : String → Prop) (name : String) : Prop :=
  names name ∨ header.Binds name

variable {header : LoopHeader} {R : Value → Value → Prop} {names : String → Prop}

/-- Binding the item and the key makes variables agree on their names too. -/
theorem agreeInLoop_bindRound (hrefl : ∀ value, R value value) {scope other : Scope}
    (depth : Nat) (first last : Bool) (entry : Value × Value)
    (h : AgreeInLoop header R names scope.vars other.vars) :
    AgreeInLoop header R (header.Inside names)
      (header.bindRound depth first last entry scope).vars
      (header.bindRound depth first last entry other).vars := by
  refine LoopContext.agreeInLoop_updateScope hrefl depth first last ?_
  have hitem := agreeInLoop_insert hrefl h header.item entry.2
  cases hkey : header.key with
  | none =>
      refine agreeInLoop_mono hitem ?_
      intro name hname
      rcases hname with hname | hname | hname
      · exact Or.inl hname
      · exact Or.inr hname
      · rw [hkey] at hname
        cases hname
  | some key =>
      refine agreeInLoop_mono (agreeInLoop_insert hrefl hitem key entry.1) ?_
      intro name hname
      rcases hname with hname | hname | hname
      · exact Or.inl (Or.inl hname)
      · exact Or.inl (Or.inr hname)
      · rw [hkey] at hname
        exact Or.inr (Option.some.inj hname).symm

/-- The rounds of a loop come out alike in scopes that agree. -/
theorem rounds_congr {depth : Nat} {body : Surroundings σ → String × Surroundings σ}
    (hrefl : ∀ value, R value value)
    (hrestores : ∀ state, Entries.SameLookups (body state).2.vars state.vars)
    (hbody : ∀ {vars others : Variables} (host : σ), Agree R (header.Inside names) vars others →
      (body ⟨vars, host⟩).1 = (body ⟨others, host⟩).1 ∧
        (body ⟨vars, host⟩).2.host = (body ⟨others, host⟩).2.host)
    (entries : List (Value × Value)) (first : Bool) {scope other : Scope} (host : σ)
    (h : AgreeInLoop header R names scope.vars other.vars) :
    (header.rounds depth body first entries scope host).1 =
        (header.rounds depth body first entries other host).1 ∧
      (header.rounds depth body first entries scope host).2.2 =
        (header.rounds depth body first entries other host).2.2 := by
  induction entries generalizing first scope other host with
  | nil => exact ⟨rfl, rfl⟩
  | cons entry rest ih =>
      have hbound := agreeInLoop_bindRound hrefl depth first rest.isEmpty entry h
      obtain ⟨htext, hhost⟩ := hbody host hbound.agree
      have hnext := agreeInLoop_of_sameLookups hbound (hrestores ⟨_, host⟩) (hrestores ⟨_, host⟩)
      have houtside := agreeInLoop_mono hnext fun name hname => Or.inl hname
      obtain ⟨hfurther, hlast⟩ := @ih false
        { header.bindRound depth first rest.isEmpty entry scope with vars := _ }
        { header.bindRound depth first rest.isEmpty entry other with vars := _ }
        (body ⟨(header.bindRound depth first rest.isEmpty entry scope).vars, host⟩).2.host houtside
      simp only [rounds]
      rw [← hhost]
      exact ⟨by rw [htext, hfurther], hlast⟩

/-- A loop reads its source, and the blocks read from around it, nothing else. -/
theorem run_congr {registry : Registry σ} (hR : registry.Respects R) {depth : Nat}
    {body : Surroundings σ → String × Surroundings σ}
    {ifEmpty : Surroundings σ → Value × Surroundings σ}
    (hrestores : ∀ state, Entries.SameLookups (body state).2.vars state.vars)
    (hbody : ∀ {vars others : Variables} (host : σ), Agree R (header.Inside names) vars others →
      (body ⟨vars, host⟩).1 = (body ⟨others, host⟩).1 ∧
        (body ⟨vars, host⟩).2.host = (body ⟨others, host⟩).2.host)
    (hifEmpty : ∀ {vars others : Variables} (host : σ), Agree R names vars others →
      R (ifEmpty ⟨vars, host⟩).1 (ifEmpty ⟨others, host⟩).1 ∧
        (ifEmpty ⟨vars, host⟩).2.host = (ifEmpty ⟨others, host⟩).2.host)
    (hsource : ∀ name ∈ header.source.freeVariables, names name)
    {vars others : Variables} (host : σ) (h : Agree R names vars others) :
    R (header.run registry depth body ifEmpty ⟨vars, host⟩).1
        (header.run registry depth body ifEmpty ⟨others, host⟩).1 ∧
      (header.run registry depth body ifEmpty ⟨vars, host⟩).2.host =
        (header.run registry depth body ifEmpty ⟨others, host⟩).2.host := by
  obtain ⟨hvalue, hhost⟩ := Expr.related_eval hR h hsource host
  have hentries := Value.iteration_of_unwrapped (hR.unwrapped hvalue)
  simp only [run]
  rw [← hentries, ← hhost]
  cases (header.source.eval registry vars host).1.iteration with
  | nil => exact hifEmpty _ h
  | cons entry rest =>
      obtain ⟨htext, hlast⟩ := rounds_congr hR.refl hrestores hbody (entry :: rest) true
        (header.source.eval registry vars host).2
        (LoopContext.agreeInLoop_openScope hR.unwrapped hR.refl depth h)
      refine ⟨?_, hlast⟩
      dsimp only
      rw [htext]
      exact hR.refl _

end LoopHeader

/-! ## Agreement on templates -/

section Related

open Variables

variable {registry : Registry σ} {R : Value → Value → Prop} (hR : registry.Respects R)

include hR

mutual

/-- A node reads nothing but its free variables. -/
theorem Node.related_eval :
    ∀ (node : Node) (depth : Nat) {names : String → Prop} {vars others : Variables} (host : σ),
      (∀ name ∈ node.freeVariables, names name) → Agree R names vars others →
      R (node.eval registry depth ⟨vars, host⟩).1 (node.eval registry depth ⟨others, host⟩).1 ∧
        (node.eval registry depth ⟨vars, host⟩).2.host =
          (node.eval registry depth ⟨others, host⟩).2.host
  | .text content, _, _, _, _, _, _, _ => ⟨hR.refl _, rfl⟩
  | .action expr, _, _, _, _, host, hfree, h => by
      obtain ⟨hvalue, hhost⟩ := Expr.related_eval hR h hfree host
      exact ⟨hvalue, hhost⟩
  | .conditional condition block otherwise, depth, names, vars, others, host, hfree, h => by
      simp only [Node.freeVariables, List.forall_mem_append] at hfree
      obtain ⟨⟨hcondition, hblock⟩, hotherwise⟩ := hfree
      obtain ⟨hvalue, hhost⟩ := Expr.related_eval hR h hcondition host
      simp only [Node.eval]
      rw [← hhost, ← Value.isTruthy_of_unwrapped (hR.unwrapped hvalue)]
      split
      · obtain ⟨htext, hlast⟩ := Node.renderAll_congr block depth _ hblock h
        exact ⟨by simp only [blockValue, htext, hR.refl], hlast⟩
      · exact Alternative.related_eval otherwise depth _ hotherwise h
  | .loop header body none, depth, names, vars, others, host, hfree, h => by
      simp only [Node.freeVariables, List.forall_mem_append] at hfree
      obtain ⟨hsource, hbody⟩ := hfree
      refine LoopHeader.run_congr hR (Node.sameLookups_renderAll registry body (depth + 1))
        (fun host hinside => Node.renderAll_congr body (depth + 1) host ?_ hinside)
        (fun host _ => ⟨hR.refl _, rfl⟩) hsource host h
      intro name hname
      by_cases hbinds : header.Binds name
      · exact Or.inr hbinds
      · exact Or.inl (hbody name (List.mem_filter.mpr ⟨hname, by simpa using hbinds⟩))
  | .loop header body (some block), depth, names, vars, others, host, hfree, h => by
      simp only [Node.freeVariables, List.forall_mem_append] at hfree
      obtain ⟨⟨hsource, hbody⟩, hblock⟩ := hfree
      refine LoopHeader.run_congr hR (Node.sameLookups_renderAll registry body (depth + 1))
        (fun host hinside => Node.renderAll_congr body (depth + 1) host ?_ hinside)
        (fun host hagree => ?_) hsource host h
      · intro name hname
        by_cases hbinds : header.Binds name
        · exact Or.inr hbinds
        · exact Or.inl (hbody name (List.mem_filter.mpr ⟨hname, by simpa using hbinds⟩))
      · obtain ⟨htext, hlast⟩ := Node.renderAll_congr block depth host hblock hagree
        exact ⟨by simp only [blockValue, htext, hR.refl], hlast⟩

/-- A block reads nothing but its free variables. -/
theorem Node.renderAll_congr :
    ∀ (nodes : List Node) (depth : Nat) {names : String → Prop} {vars others : Variables}
      (host : σ), (∀ name ∈ Node.freeVariablesOfAll nodes, names name) →
      Agree R names vars others →
      (Node.renderAll registry nodes depth ⟨vars, host⟩).1 =
          (Node.renderAll registry nodes depth ⟨others, host⟩).1 ∧
        (Node.renderAll registry nodes depth ⟨vars, host⟩).2.host =
          (Node.renderAll registry nodes depth ⟨others, host⟩).2.host
  | [], _, _, _, _, _, _, _ => ⟨rfl, rfl⟩
  | node :: rest, depth, names, vars, others, host, hfree, h => by
      simp only [Node.freeVariablesOfAll, List.forall_mem_append] at hfree
      obtain ⟨hnode, hrest⟩ := hfree
      obtain ⟨hvalue, hhost⟩ := Node.related_eval node depth host hnode h
      have hagree := agree_of_sameLookups h
        (node.sameLookups_eval registry depth ⟨vars, host⟩)
        (node.sameLookups_eval registry depth ⟨others, host⟩)
      obtain ⟨htext, hlast⟩ := Node.renderAll_congr rest depth
        (node.eval registry depth ⟨vars, host⟩).2.host hrest hagree
      have hother : (node.eval registry depth ⟨others, host⟩).2 =
          ⟨(node.eval registry depth ⟨others, host⟩).2.vars,
            (node.eval registry depth ⟨vars, host⟩).2.host⟩ := by
        rw [hhost]
      simp only [Node.renderAll]
      rw [hother, ← Value.output_of_unwrapped (hR.unwrapped hvalue), ← htext]
      exact ⟨rfl, hlast⟩

/-- What a condition goes on to reads nothing but its free variables. -/
theorem Alternative.related_eval :
    ∀ (otherwise : Alternative) (depth : Nat) {names : String → Prop}
      {vars others : Variables} (host : σ),
      (∀ name ∈ otherwise.freeVariables, names name) → Agree R names vars others →
      R (otherwise.eval registry depth ⟨vars, host⟩).1
          (otherwise.eval registry depth ⟨others, host⟩).1 ∧
        (otherwise.eval registry depth ⟨vars, host⟩).2.host =
          (otherwise.eval registry depth ⟨others, host⟩).2.host
  | .nothing, _, _, _, _, _, _, _ => ⟨hR.refl _, rfl⟩
  | .block nodes, depth, _, _, _, host, hfree, h => by
      obtain ⟨htext, hlast⟩ := Node.renderAll_congr nodes depth host hfree h
      exact ⟨by simp only [Alternative.eval, blockValue, htext, hR.refl], hlast⟩
  | .elseIf condition block otherwise, depth, names, vars, others, host, hfree, h => by
      simp only [Alternative.freeVariables, List.forall_mem_append] at hfree
      obtain ⟨⟨hcondition, hblock⟩, hotherwise⟩ := hfree
      obtain ⟨hvalue, hhost⟩ := Expr.related_eval hR h hcondition host
      simp only [Alternative.eval]
      rw [← hhost, ← Value.isTruthy_of_unwrapped (hR.unwrapped hvalue)]
      split
      · obtain ⟨htext, hlast⟩ := Node.renderAll_congr block depth _ hblock h
        exact ⟨by simp only [blockValue, htext, hR.refl], hlast⟩
      · exact Alternative.related_eval otherwise depth _ hotherwise h

end

end Related

/-! ## Free variables are all that is read -/

namespace Template

/-- The variables that a template reads. -/
def freeVariables (template : Template) : List String :=
  Node.freeVariablesOfAll template.nodes

/-- Where two hosts give the free variables of a template the same states, the template puts out
the same text and does the same to the modifiers, whatever the other names stand for. -/
theorem render_eq_of_freeVariables (template : Template) (registry : Registry σ)
    {vars others : Variables} (host : σ)
    (h : ∀ name ∈ template.freeVariables, Entries.find? name vars = Entries.find? name others) :
    (template.render registry ⟨vars, host⟩).1 = (template.render registry ⟨others, host⟩).1 ∧
      (template.render registry ⟨vars, host⟩).2.host =
        (template.render registry ⟨others, host⟩).2.host := by
  have hagree : Variables.Agree Eq (· ∈ template.freeVariables) vars others := by
    intro name hname
    rw [Variables.value, h name hname, Variables.value]
  exact Node.renderAll_congr registry.respects_eq template.nodes 0 host
    (fun _ hname => hname) hagree

/-- A named loop does not show the context that was there before it, nor what its item's name
stood for. -/
theorem render_eq_of_freeVariables_rows :
    let template : Template :=
      ⟨[.loop ⟨.variable "rows", "row", none, some "table"⟩ [.action (.variable "row")] none,
        .action (.field (.variable "page") "title")]⟩
    let given : Variables :=
      [("page", .map (.host [0]) [("title", .string "end")]),
        ("rows", .array (.host [1]) [.string "a", .string "b"])]
    let shadowed : Variables :=
      given ++ [("row", .number (Number.ofNat 1)),
        ("smarty", .map (.host [2]) [("foreach", .map (.host [3]) [("table", .null)])])]
    (∀ name ∈ template.freeVariables,
        Entries.find? name given = Entries.find? name shadowed) ∧
      (template.render Registry.builtin ⟨given, ()⟩).1 = "abend" ∧
      (template.render Registry.builtin ⟨shadowed, ()⟩).1 = "abend" := by
  intro template given shadowed
  have hfree : ∀ name ∈ template.freeVariables,
      Entries.find? name given = Entries.find? name shadowed := by
    intro name hname
    have hnames : template.freeVariables = ["rows", "page"] := by decide
    simp only [hnames, List.mem_cons, List.not_mem_nil, or_false] at hname
    rcases hname with rfl | rfl
    · rfl
    · rfl
  have hgiven : (template.render Registry.builtin ⟨given, ()⟩).1 = "abend" := by
    simp only [template, given]
    decide +kernel
  obtain ⟨htext, -⟩ := template.render_eq_of_freeVariables Registry.builtin () hfree
  exact ⟨hfree, hgiven, htext.symm.trans hgiven⟩

end Template

end Stencil
