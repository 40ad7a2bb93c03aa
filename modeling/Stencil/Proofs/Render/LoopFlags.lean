import Stencil.Proofs.Render.Places

/-!
# The flags of the loops around a place

At every place the context has the flags of each loop around it as they are in the current
round.  Of several loops with one label the innermost counts.  What else the context had in
front of the loops is still there.

A step of rendering that enters no round leaves the variables as they are.  One that enters a
round of a loop with a label gives the context a new entry for the flags and keeps all others,
and a round of a loop without a label keeps them all.  So what the context shows is known from
the rounds that have been entered, and it does not matter what the loops in front of a place
have done, as they put the variables back.
-/

namespace Stencil

variable {σ : Type}

/-! ## Steps -/

namespace Place

variable {registry : Registry σ} {place here : Place σ}

/-- A step that enters no round keeps the variables. -/
theorem sameLookups_of_leads (h : place.Leads registry none here) :
    Entries.SameLookups here.state.vars place.state.vars := by
  cases h with
  | behind node rest depth state => exact node.sameLookups_eval registry depth state
  | condition | holds | fails | otherwise | ifEmpty => exact Entries.SameLookups.refl _

/-- A step that enters a round finds the variables of that round. -/
theorem sameLookups_of_leads_round {round : Round} (h : place.Leads registry (some round) here)
    (hcontext : ¬ round.header.Binds LoopContext.contextName) :
    round.index < round.count ∧ ∃ depth entry,
      Entries.SameLookups here.state.vars
        (round.header.roundVariables depth place.state.vars (round.index == 0)
          (round.index + 1 == round.count) entry) := by
  cases h with
  | round header body ifEmpty rest depth state index inside h =>
      obtain ⟨entry, hentry, hsame⟩ := LoopHeader.sameLookups_entered (fun _ => hcontext)
        (Node.sameLookups_renderAll registry body (depth + 1))
        (LoopHeader.between_openScope header depth state.vars) h
      obtain ⟨hlt, -⟩ := List.getElem?_eq_some_iff.mp hentry
      exact ⟨hlt, depth, entry, hsame⟩

end Place

/-! ## What the context shows -/

theorem Value.field_eq_find?_mapEntries (value : Value) (name : String) :
    value.field name = (Entries.find? name value.mapEntries).getD .null := by
  rw [field, mapEntries]
  split <;> rfl

/-- The innermost of the rounds whose loop has a label. -/
def Round.innermost? (label : String) (rounds : List Round) : Option Round :=
  rounds.find? fun round => round.header.label = some label

/-- A context shows the flags of the rounds, and for the rest what another does. -/
structure Value.Shows (context : Value) (rounds : List Round) (around : Value) : Prop where
  other : ∀ name, name ≠ LoopContext.loopsName → context.field name = around.field name
  unused : ∀ label, Round.innermost? label rounds = none →
    (context.field LoopContext.loopsName).field label =
      (around.field LoopContext.loopsName).field label
  used : ∀ label round, Round.innermost? label rounds = some round → ∃ depth,
    (context.field LoopContext.loopsName).field label =
      LoopContext.flags depth (round.index == 0) (round.index + 1 == round.count)

namespace LoopContext

theorem field_within_of_ne {name : String} (h : name ≠ loopsName) (depth : Nat) (label : String)
    (first last : Bool) (around : Value) :
    (within depth label first last around).field name = around.field name := by
  rw [Value.field_eq_find?_mapEntries around, ← Entries.find?_insert_of_ne h]
  rfl

/-- The map of loops has the flags of the loop in place of what was under its label. -/
theorem field_field_within (depth : Nat) (label : String) (first last : Bool) (around : Value)
    (other : String) :
    ((within depth label first last around).field loopsName).field other =
      if other = label then flags depth first last else (around.field loopsName).field other := by
  have hloops : (within depth label first last around).field loopsName =
      .map (.loop depth .loops) (Entries.insert label (flags depth first last)
        (around.field loopsName).mapEntries) := by
    rw [Value.field_eq_find?_mapEntries around]
    exact congrArg (Option.getD · Value.null) (Entries.find?_insert_self _ _ _)
  rw [hloops]
  change (Entries.find? other (Entries.insert label _ _)).getD Value.null = _
  by_cases h : other = label
  · rw [if_pos h, h, Entries.find?_insert_self]
    rfl
  · rw [if_neg h, Entries.find?_insert_of_ne h, ← Value.field_eq_find?_mapEntries]

end LoopContext

namespace LoopHeader

variable {header : LoopHeader} {depth : Nat} {vars : Variables} {first last : Bool}
  {entry : Value × Value}

theorem value_roundVariables_of_not_label (hlabel : header.label = none)
    (hcontext : ¬ header.Binds LoopContext.contextName) :
    (header.roundVariables depth vars first last entry).value LoopContext.contextName =
      vars.value LoopContext.contextName := by
  rw [roundVariables, hlabel, Variables.value, Variables.value,
    find?_bindEntry_of_not_binds hcontext]

theorem value_roundVariables_of_label {label : String} (hlabel : header.label = some label) :
    (header.roundVariables depth vars first last entry).value LoopContext.contextName =
      LoopContext.within depth label first last (vars.value LoopContext.contextName) := by
  rw [roundVariables, hlabel]
  exact Variables.value_insert_self _ _ _

end LoopHeader

namespace Value

variable {context around : Value} {rounds : List Round}

theorem shows_nil (around : Value) : around.Shows [] around where
  other := fun _ _ => rfl
  unused := fun _ _ => rfl
  used := nofun

/-- A round without a label changes nothing. -/
theorem shows_cons_of_not_label {round : Round} (h : context.Shows rounds around)
    (hlabel : round.header.label = none) : context.Shows (round :: rounds) around := by
  have hfind (label : String) :
      Round.innermost? label (round :: rounds) = Round.innermost? label rounds := by
    apply List.find?_cons_of_neg
    rw [hlabel]
    exact of_decide_eq_false rfl
  constructor
  · exact h.other
  · intro label hnone
    exact h.unused label ((hfind label).symm.trans hnone)
  · intro label inner hsome
    exact h.used label inner ((hfind label).symm.trans hsome)

/-- A round with a label puts its flags in front of those of the rounds around it. -/
theorem shows_cons_of_label {round : Round} {label : String} (h : context.Shows rounds around)
    (hlabel : round.header.label = some label) (depth : Nat) :
    Shows (LoopContext.within depth label (round.index == 0) (round.index + 1 == round.count)
      context) (round :: rounds) around := by
  have hself : Round.innermost? label (round :: rounds) = some round :=
    List.find?_cons_of_pos (decide_eq_true hlabel)
  have hfind {other : String} (hne : other ≠ label) :
      Round.innermost? other (round :: rounds) = Round.innermost? other rounds := by
    apply List.find?_cons_of_neg
    rw [hlabel, decide_eq_true_eq]
    exact fun heq => hne (Option.some.inj heq).symm
  constructor
  · intro name hname
    rw [LoopContext.field_within_of_ne hname]
    exact h.other name hname
  · intro other hnone
    have hne : other ≠ label := by
      rintro rfl
      rw [hself] at hnone
      cases hnone
    rw [LoopContext.field_field_within, if_neg hne]
    exact h.unused other ((hfind hne).symm.trans hnone)
  · intro other inner hsome
    rw [LoopContext.field_field_within]
    by_cases hother : other = label
    · subst hother
      rw [hself] at hsome
      obtain rfl := Option.some.inj hsome
      exact ⟨depth, if_pos rfl⟩
    · rw [if_neg hother]
      exact h.used other inner ((hfind hother).symm.trans hsome)

end Value

/-! ## Runs -/

namespace Place

variable {registry : Registry σ} {place here : Place σ} {rounds : List Round}

/-- The context at a place that is reached shows the flags of the rounds entered on the way. -/
theorem shows_of_reaches (h : place.Reaches registry rounds here)
    (hcontext : ∀ round ∈ rounds, ¬ round.header.Binds LoopContext.contextName) :
    (here.state.vars.value LoopContext.contextName).Shows rounds
        (place.state.vars.value LoopContext.contextName) ∧
      ∀ round ∈ rounds, round.index < round.count := by
  induction h with
  | start => exact ⟨Value.shows_nil _, nofun⟩
  | @step rounds middle here round _ hstep ih =>
      obtain ⟨hshows, hcounts⟩ := ih fun other hother =>
        hcontext other (List.mem_append_right _ hother)
      cases round with
      | none =>
          rw [Variables.value_of_sameLookups (sameLookups_of_leads hstep)]
          exact ⟨hshows, hcounts⟩
      | some round =>
          have hbinds := hcontext round List.mem_cons_self
          obtain ⟨hcount, depth, entry, hsame⟩ := sameLookups_of_leads_round hstep hbinds
          refine ⟨?_, List.forall_mem_cons.mpr ⟨hcount, hcounts⟩⟩
          rw [Variables.value_of_sameLookups hsame]
          cases hlabel : round.header.label with
          | none =>
              rw [LoopHeader.value_roundVariables_of_not_label hlabel hbinds]
              exact Value.shows_cons_of_not_label hshows hlabel
          | some label =>
              rw [LoopHeader.value_roundVariables_of_label hlabel]
              exact Value.shows_cons_of_label hshows hlabel depth

/-- The value that an expression has at a place. -/
def valueOf (registry : Registry σ) (place : Place σ) (expr : Expr) : Value :=
  (expr.eval registry place.state.vars place.state.host).1

/-- Wherever rendering comes to, inside any loops none of which binds the context, the flags
under the label of a loop around are those of the current round of the innermost loop with that
label.  Under labels that no loop around has, and under all other names, the context is what it
was in front of the loops. -/
theorem flags_of_reaches (h : place.Reaches registry rounds here)
    (hcontext : ∀ round ∈ rounds, ¬ round.header.Binds LoopContext.contextName) :
    let context := Expr.variable LoopContext.contextName
    let loops := Expr.field context LoopContext.loopsName
    (∃ front back, place.text registry = front ++ here.text registry ++ back) ∧
      (∀ round ∈ rounds, round.index < round.count) ∧
      (∀ label round, Round.innermost? label rounds = some round →
        here.valueOf registry (.field (.field loops label) "first") =
            .boolean (round.index == 0) ∧
          here.valueOf registry (.field (.field loops label) "last") =
            .boolean (round.index + 1 == round.count)) ∧
      (∀ label, Round.innermost? label rounds = none →
        here.valueOf registry (.field loops label) = place.valueOf registry (.field loops label)) ∧
      ∀ name, name ≠ LoopContext.loopsName →
        here.valueOf registry (.field context name) =
          place.valueOf registry (.field context name) := by
  intro context loops
  obtain ⟨hshows, hcounts⟩ := shows_of_reaches h hcontext
  refine ⟨text_of_reaches h, hcounts, ?_, ?_, ?_⟩
  · intro label round hround
    obtain ⟨depth, hflags⟩ := hshows.used label round hround
    have hvalue : here.valueOf registry (.field loops label) =
        LoopContext.flags depth (round.index == 0) (round.index + 1 == round.count) := hflags
    constructor
    · exact congrArg (Value.field · "first") hvalue
    · exact congrArg (Value.field · "last") hvalue
  · intro label hnone
    exact hshows.unused label hnone
  · intro name hname
    exact hshows.other name hname

/-- Behind the inner of two loops with one label, in the second and last round of the outer one;
and inside the inner one, in the first of two rounds of its own. -/
theorem flags_of_reaches_nested :
    let inner : LoopHeader := ⟨.variable "rows", "cell", none, some "table"⟩
    let outer : LoopHeader := ⟨.variable "rows", "row", none, some "table"⟩
    let around := Value.map (.host [1]) [("lang", .string "de")]
    let rows := Value.array (.host [0]) [.string "a", .string "b"]
    let place : Place Unit :=
      ⟨.block [.loop outer [.loop inner [.text "-"] none, .text "+"] none], 0,
        ⟨[("rows", rows), ("smarty", around)], ()⟩⟩
    let flag := fun name =>
      Expr.field (.field (.field (.variable "smarty") "foreach") "table") name
    ∃ inside behind : Place Unit,
      place.Reaches Registry.builtin [⟨inner, 0, 2⟩, ⟨outer, 1, 2⟩] inside ∧
        place.Reaches Registry.builtin [⟨outer, 1, 2⟩] behind ∧
        (∀ round ∈ [Round.mk inner 0 2, ⟨outer, 1, 2⟩],
          ¬ round.header.Binds LoopContext.contextName) ∧
        inside.valueOf Registry.builtin (flag "first") = .boolean true ∧
        inside.valueOf Registry.builtin (flag "last") = .boolean false ∧
        behind.valueOf Registry.builtin (flag "first") = .boolean false ∧
        behind.valueOf Registry.builtin (flag "last") = .boolean true ∧
        behind.valueOf Registry.builtin (.field (.variable "smarty") "lang") = .string "de" := by
  intro inner outer around rows place flag
  let body := [Node.loop inner [.text "-"] none, .text "+"]
  have houter : ((outer.roundStates Registry.builtin body 0 place.state)[1]?.map fun inside =>
      ((inner.roundStates Registry.builtin [.text "-"] 1 inside).length,
        (inner.source.eval Registry.builtin inside.vars inside.host).1.iteration.length)) =
      some (2, 2) := by
    simp only [body, place, rows, around, outer, inner]
    decide +kernel
  obtain ⟨second, hsecond, hinner⟩ := Option.map_eq_some_iff.mp houter
  obtain ⟨hstates, hcount⟩ := Prod.mk.inj hinner
  have hfirst := List.getElem?_eq_getElem (hstates ▸ Nat.zero_lt_two)
  have hmiddle : place.Reaches Registry.builtin [⟨outer, 1, 2⟩] ⟨.block body, 1, second⟩ :=
    .step .start (.round outer body none [] 0 place.state 1 second hsecond)
  have hinside := Reaches.step hmiddle
    (.round inner [.text "-"] none [.text "+"] 1 second 0 _ hfirst)
  rw [hcount] at hinside
  have hbehind := Reaches.step hmiddle (.behind (.loop inner [.text "-"] none) [.text "+"] 1 second)
  have hcontext : ∀ round ∈ [Round.mk inner 0 2, ⟨outer, 1, 2⟩],
      ¬ round.header.Binds LoopContext.contextName := by
    decide
  obtain ⟨-, -, hflagsInside, -, -⟩ := flags_of_reaches hinside hcontext
  obtain ⟨-, -, hflagsBehind, -, hother⟩ := flags_of_reaches hbehind fun round hround =>
    hcontext round (List.mem_cons_of_mem _ hround)
  obtain ⟨hinsideFirst, hinsideLast⟩ := hflagsInside "table" ⟨inner, 0, 2⟩ rfl
  obtain ⟨hbehindFirst, hbehindLast⟩ := hflagsBehind "table" ⟨outer, 1, 2⟩ rfl
  exact ⟨_, _, hinside, hbehind, hcontext, hinsideFirst, hinsideLast, hbehindFirst, hbehindLast,
    hother "lang" (by decide)⟩

end Place

end Stencil
