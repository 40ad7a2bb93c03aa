import Stencil.Modifier.Builtin
import Stencil.Proofs.Environment.Restoration
import Stencil.Session.Action

/-!
# What a host does in an open scope

A host may bind names through a scope and set, remove and render in between, also in further
scopes.  Only a binding through the scope itself adds to what it has saved, and only if the name
is not saved yet; everything else changes the variables alone.  So each name is saved with the
state that it had just before it was first bound, and that state is put back, while a name that
was never bound keeps what has become of it.
-/

namespace Stencil

namespace Action

variable {σ : Type} (equipment : Equipment σ) (path : List Nat)

/-- Whether an action binds a name through the scope in which it is done.  What is bound in a
scope further inside is bound through that one only. -/
def Binds (action : Action) (name : String) : Prop :=
  ∃ draft, action = bind name draft

/-! ## One action -/

/-- An action leaves what is saved as it is, unless it binds a name through the scope. -/
theorem run_cases (action : Action) (acting : Acting σ) :
    (action.run equipment path acting).2.scope.saved = acting.scope.saved ∨
      ∃ name value, action.Binds name ∧
        (action.run equipment path acting).2.scope = acting.scope.bind name value := by
  cases action with
  | bind name draft => exact .inr ⟨name, draft.build acting.scope.vars path, ⟨draft, rfl⟩, rfl⟩
  | get | contains | set | remove | render | renderSource | scope => exact .inl rfl

/-- An action keeps what is saved, saves no name twice and no name that it does not bind. -/
theorem saved_run (action : Action) (acting : Acting σ)
    (hdistinct : acting.scope.savedNames.Nodup) :
    let next := (action.run equipment path acting).2
    next.scope.savedNames.Nodup ∧ acting.scope.saved ⊆ next.scope.saved ∧
      ∀ name ∈ next.scope.savedNames, name ∈ acting.scope.savedNames ∨ action.Binds name := by
  intro next
  rcases run_cases equipment path action acting with hsaved | ⟨name, value, hbinds, hscope⟩
  · have hnames : next.scope.savedNames = acting.scope.savedNames :=
      congrArg (List.map Prod.fst) hsaved
    rw [hnames, hsaved]
    exact ⟨hdistinct, List.Subset.refl _, fun _ => .inl⟩
  · have hnext : next.scope = acting.scope.bind name value := hscope
    rw [hnext]
    refine ⟨Scope.nodup_savedNames_bind hdistinct name value,
      Scope.saved_subset_bind acting.scope name value, ?_⟩
    intro other hother
    rcases Scope.eq_or_mem_of_mem_savedNames_bind hother with rfl | hmem
    · exact .inr hbinds
    · exact .inl hmem

/-! ## Actions one after the other -/

theorem runAll_append (position : Nat) (actions others : List Action) (acting : Acting σ) :
    (runAll equipment path position (actions ++ others) acting).2 =
      (runAll equipment path (position + actions.length) others
        (runAll equipment path position actions acting).2).2 := by
  induction actions generalizing position acting with
  | nil => rfl
  | cons action rest ih =>
      have hposition : position + (action :: rest).length = position + 1 + rest.length := by
        rw [List.length_cons]
        omega
      rw [hposition]
      exact ih (position + 1) _

/-- What holds of one action holds of several. -/
theorem saved_runAll (position : Nat) (actions : List Action) (acting : Acting σ)
    (hdistinct : acting.scope.savedNames.Nodup) :
    let last := (runAll equipment path position actions acting).2
    last.scope.savedNames.Nodup ∧ acting.scope.saved ⊆ last.scope.saved ∧
      ∀ name ∈ last.scope.savedNames,
        name ∈ acting.scope.savedNames ∨ ∃ action ∈ actions, action.Binds name := by
  induction actions generalizing position acting with
  | nil => exact ⟨hdistinct, List.Subset.refl _, fun _ => .inl⟩
  | cons action rest ih =>
      obtain ⟨hnext, hsubset, hnames⟩ :=
        saved_run equipment (position :: path) action acting hdistinct
      obtain ⟨hlast, hfurther, hrest⟩ := ih (position + 1) _ hnext
      refine ⟨hlast, List.Subset.trans hsubset hfurther, ?_⟩
      intro name hname
      rcases hrest name hname with hmem | ⟨other, hother, hbinds⟩
      · rcases hnames name hmem with hbefore | hbinds
        · exact .inl hbefore
        · exact .inr ⟨action, List.mem_cons_self, hbinds⟩
      · exact .inr ⟨other, List.mem_cons_of_mem action hother, hbinds⟩

/-! ## A scope from its opening to its end -/

/-- An environment on which actions have been done in a scope that was opened on it. -/
def inScope (actions : List Action) (acting : Acting σ) : Acting σ :=
  (runAll equipment path 0 actions
    { acting with scope := Scope.ofVariables acting.scope.vars }).2

theorem saved_inScope (actions : List Action) (acting : Acting σ) :
    (inScope equipment path actions acting).scope.savedNames.Nodup ∧
      ∀ name ∈ (inScope equipment path actions acting).scope.savedNames,
        ∃ action ∈ actions, action.Binds name := by
  obtain ⟨hdistinct, -, hnames⟩ := saved_runAll equipment path 0 actions
    { acting with scope := Scope.ofVariables acting.scope.vars } List.nodup_nil
  refine ⟨hdistinct, ?_⟩
  intro name hname
  exact (hnames name hname).resolve_left List.not_mem_nil

/-- The first action that binds a name saves the state that the name has just before it, and no
later one changes what is saved. -/
theorem mem_saved_inScope {name : String} {before after : List Action} {action : Action}
    (hbinds : action.Binds name) (hfirst : ∀ earlier ∈ before, ¬ earlier.Binds name)
    (acting : Acting σ) :
    (name, (inScope equipment path before acting).find? name) ∈
      (inScope equipment path (before ++ action :: after) acting).scope.saved := by
  obtain ⟨draft, rfl⟩ := hbinds
  obtain ⟨hdistinct, hnames⟩ := saved_inScope equipment path before acting
  have hnew : name ∉ (inScope equipment path before acting).scope.savedNames := by
    intro hmem
    obtain ⟨earlier, hearlier, hbinds⟩ := hnames name hmem
    exact hfirst earlier hearlier hbinds
  rw [inScope, runAll_append]
  refine (saved_runAll equipment path _ after _ ?_).2.1 ?_
  · exact Scope.nodup_savedNames_bind hdistinct name _
  · change _ ∈ ((inScope equipment path before acting).scope.bind name _).saved
    rw [Scope.saved_bind_of_not_mem hnew]
    exact List.mem_cons_self

/-- When a scope is closed, every name that was bound through it has the state that it had just
before its first binding, whatever was done to it later, and every other name keeps the state in
which the actions have left it.  The environment may have a scope open already, of which nothing
is forgotten and to which nothing is added, so the same is true of scopes inside scopes. -/
theorem find?_run_scope (actions : List Action) (acting : Acting σ) (name : String) :
    let closed := ((scope actions).run equipment path acting).2
    (∀ before action after, actions = before ++ action :: after → action.Binds name →
        (∀ earlier ∈ before, ¬ earlier.Binds name) →
          closed.find? name = (inScope equipment path before acting).find? name) ∧
      ((∀ action ∈ actions, ¬ action.Binds name) →
        closed.find? name = (inScope equipment path actions acting).find? name) ∧
      closed.scope.saved = acting.scope.saved := by
  intro closed
  have hclosed : closed.find? name =
      Entries.find? name (inScope equipment path actions acting).scope.close := rfl
  obtain ⟨hdistinct, hnames⟩ := saved_inScope equipment path actions acting
  refine ⟨?_, ?_, rfl⟩
  · rintro before action after rfl hbinds hfirst
    rw [hclosed]
    exact Scope.find?_close_of_saved hdistinct
      (mem_saved_inScope equipment path hbinds hfirst acting)
  · intro hnone
    rw [hclosed]
    apply Scope.find?_close_of_not_saved
    intro hmem
    obtain ⟨action, haction, hbinds⟩ := hnames name hmem
    exact hnone action haction hbinds

/-- A name that is set in front of its first binding, and removed, bound further inside and
bound again behind it.  Another name is set in the scope inside, which does not bind it. -/
theorem find?_run_scope_nested :
    let equipment : Equipment Unit := ⟨[], Registry.builtin⟩
    let before := [set "row" (.string "kept")]
    let after :=
      [remove "row", scope [bind "row" (.string "inside"), set "page" (.string "new")],
        renderSource "\x7b$row\x7d", bind "row" (.string "again"), set "row" (.string "lost")]
    let actions := before ++ bind "row" (.string "bound") :: after
    let acting : Acting Unit := ⟨Scope.ofVariables [("row", .string "old")], ()⟩
    let closed := ((scope actions).run equipment [] acting).2
    (∀ earlier ∈ before, ¬ earlier.Binds "row") ∧ (∀ action ∈ actions, ¬ action.Binds "page") ∧
      closed.find? "row" = some (.string "kept") ∧ closed.find? "page" = some (.string "new") := by
  intro equipment before after actions acting closed
  have hfirst : ∀ earlier ∈ before, ¬ earlier.Binds "row" := by
    simp [before, Binds]
  have hnone : ∀ action ∈ actions, ¬ action.Binds "page" := by
    simp [actions, before, after, Binds]
  obtain ⟨hrow, -, -⟩ := find?_run_scope equipment [] actions acting "row"
  obtain ⟨-, hpage, -⟩ := find?_run_scope equipment [] actions acting "page"
  refine ⟨hfirst, hnone, ?_, ?_⟩
  · rw [hrow before _ after rfl ⟨_, rfl⟩ hfirst]
    rfl
  · rw [hpage hnone]
    with_unfolding_all rfl

end Action

end Stencil
