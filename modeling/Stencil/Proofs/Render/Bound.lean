import Stencil.Proofs.Render.Places

/-!
# What a round finds bound

When the body of a loop is rendered for an entry, the key is bound to the key of that entry and
the item to its value, both as the source held them when the loop was entered.  Neither the
rounds before nor anything else that the body does can change them, as every round binds them
anew.

There is one exception.  The flags of a loop with a label are put into what the context variable
holds, and that is done once the item and the key are bound.  If the item has the name of the
context and is a map, it is this map that is taken for the context: it becomes a map of the
loop's own, and flags that it has under the label of the loop are overwritten.  A key is never a
map, so it is safe under every name.
-/

namespace Stencil

variable {σ : Type}

/-! ## What the flags are put into -/

namespace LoopContext

theorem setFlags_of_not_map {value : Value} (h : ∀ identity entries, value ≠ .map identity entries)
    (depth : Nat) (label : String) (first last : Bool) :
    setFlags depth label first last value = value := by
  cases value with
  | map identity entries => exact absurd rfl (h identity entries)
  | _ => rfl

end LoopContext

theorem Value.key_ne_map {value : Value} {entry : Value × Value} (h : entry ∈ value.iteration)
    (identity : Identity) (entries : List (String × Value)) : entry.1 ≠ .map identity entries := by
  rw [iteration] at h
  split at h
  · rename_i items _
    rw [numbered_eq_mapIdx] at h
    obtain ⟨i, hi, rfl⟩ := List.mem_mapIdx.mp h
    exact Value.noConfusion
  · obtain ⟨field, -, rfl⟩ := List.mem_map.mp h
    exact Value.noConfusion
  · cases h

namespace LoopHeader

/-- The flags of the loop are put into a value that is bound to the item. -/
def TakesForContext (header : LoopHeader) (value : Value) : Prop :=
  header.label.isSome = true ∧ header.item = LoopContext.contextName ∧
    ∃ identity entries, value = .map identity entries

/-- What the body of a loop finds under a name that was bound to a value before the flags were
set. -/
def found (header : LoopHeader) (depth : Nat) (first last : Bool) (name : String) (value : Value) :
    Value :=
  match header.label with
  | some label =>
      if name = LoopContext.contextName then LoopContext.setFlags depth label first last value
      else value
  | none => value

variable {header : LoopHeader} {depth : Nat} {first last : Bool} {name : String} {value : Value}

theorem found_of_not_map (h : ∀ identity entries, value ≠ .map identity entries) :
    header.found depth first last name value = value := by
  rw [found]
  split
  · rw [LoopContext.setFlags_of_not_map h, ite_self]
  · rfl

theorem found_item (h : ¬ header.TakesForContext value) :
    header.found depth first last header.item value = value := by
  rw [found]
  split
  · rename_i label hlabel
    split
    · rename_i hitem
      refine LoopContext.setFlags_of_not_map ?_ depth label first last
      intro identity entries hvalue
      exact h ⟨Option.isSome_of_mem hlabel, hitem, identity, entries, hvalue⟩
    · rfl
  · rfl

theorem found_context {label : String} (hlabel : header.label = some label)
    (hitem : header.item = LoopContext.contextName) :
    header.found depth first last header.item value =
      LoopContext.setFlags depth label first last value := by
  rw [found, hlabel]
  exact if_pos hitem

/-! ## One round -/

theorem find?_bindRound {entry : Value × Value} {scope : Scope}
    (h : Entries.find? name (header.bindEntry entry scope.vars) = some value) :
    Entries.find? name (header.bindRound depth first last entry scope).vars =
      some (header.found depth first last name value) := by
  rw [bindRound, found]
  cases header.label with
  | none =>
      rw [LoopContext.updateScope, vars_bind]
      exact h
  | some label =>
      rw [LoopContext.updateScope, vars_bind]
      by_cases hname : name = LoopContext.contextName
      · subst hname
        rw [Entries.find?_modify_self, h]
        exact congrArg some (if_pos rfl).symm
      · rw [Entries.find?_modify_of_ne hname, h]
        exact congrArg some (if_neg hname).symm

theorem find?_bindEntry_key {key : String} (hkey : header.key = some key) (entry : Value × Value)
    (vars : Variables) : Entries.find? key (header.bindEntry entry vars) = some entry.1 := by
  rw [bindEntry, hkey]
  exact Entries.find?_insert_self _ _ _

theorem find?_bindEntry_item (hkey : header.key ≠ some header.item) (entry : Value × Value)
    (vars : Variables) :
    Entries.find? header.item (header.bindEntry entry vars) = some entry.2 := by
  rw [bindEntry]
  split
  · rename_i key hsome
    have hne : header.item ≠ key := by
      intro heq
      exact hkey (heq ▸ hsome)
    rw [Entries.find?_insert_of_ne hne, Entries.find?_insert_self]
  · exact Entries.find?_insert_self _ _ _

/-! ## All rounds -/

/-- Every round is entered with its entry bound, in whatever scope the rounds before have left
behind. -/
theorem exists_bindRound_of_entered {body : Surroundings σ → String × Surroundings σ}
    {entries : List (Value × Value)} {scope : Scope} {host : σ} {index : Nat}
    {inside : Surroundings σ}
    (h : (header.entered depth body first entries scope host)[index]? = some inside) :
    ∃ entry before, entries[index]? = some entry ∧
      inside.vars =
        (header.bindRound depth (first && index == 0) (index + 1 == entries.length) entry
          before).vars := by
  induction entries generalizing first scope host index with
  | nil => cases h
  | cons entry rest ih =>
      rw [entered] at h
      cases index with
      | zero =>
          have hlast : (0 + 1 == (entry :: rest).length) = rest.isEmpty := by
            cases rest <;> rfl
          refine ⟨entry, scope, rfl, ?_⟩
          rw [hlast, beq_self_eq_true, Bool.and_true, ← Option.some.inj h]
      | succ index =>
          obtain ⟨other, before, hother, hvars⟩ := ih h
          have hfirst : (first && index + 1 == 0) = (false && index == 0) := Bool.and_false first
          have hlast : (index + 1 + 1 == (entry :: rest).length) = (index + 1 == rest.length) := by
            simp
          refine ⟨other, before, hother, ?_⟩
          rw [hfirst, hlast]
          exact hvars

theorem length_entered (header : LoopHeader) (depth : Nat)
    (body : Surroundings σ → String × Surroundings σ) (first : Bool)
    (entries : List (Value × Value)) (scope : Scope) (host : σ) :
    (header.entered depth body first entries scope host).length = entries.length := by
  induction entries generalizing first scope host with
  | nil => rfl
  | cons entry rest ih => rw [entered, List.length_cons, ih, List.length_cons]

/-- There is one round for each entry.  In it the key is that of the entry, and the item is its
value, unless that is a map under the name of the context in a loop with a label: then it is the
value with the flags put into it. -/
theorem bound_in_rounds (hkey : header.key ≠ some header.item) (registry : Registry σ)
    (body : List Node) (depth : Nat) (state : Surroundings σ) :
    let entries := (header.source.eval registry state.vars state.host).1.iteration
    (header.roundStates registry body depth state).length = entries.length ∧
      ∀ index inside entry, (header.roundStates registry body depth state)[index]? = some inside →
        entries[index]? = some entry →
          (∀ key, header.key = some key → Entries.find? key inside.vars = some entry.1) ∧
          (¬ header.TakesForContext entry.2 →
            Entries.find? header.item inside.vars = some entry.2) ∧
          ∀ label, header.label = some label → header.item = LoopContext.contextName →
            Entries.find? header.item inside.vars =
              some (LoopContext.setFlags depth label (index == 0) (index + 1 == entries.length)
                entry.2) := by
  intro entries
  refine ⟨length_entered header depth _ true entries _ _, ?_⟩
  intro index inside entry hinside hentry
  obtain ⟨other, before, hother, hvars⟩ := exists_bindRound_of_entered hinside
  obtain rfl : other = entry := Option.some.inj (hother.symm.trans hentry)
  rw [Bool.true_and] at hvars
  refine ⟨?_, ?_, ?_⟩
  · intro key hsome
    rw [hvars, find?_bindRound (find?_bindEntry_key hsome other before.vars),
      found_of_not_map (Value.key_ne_map (List.mem_of_getElem? hentry))]
  · intro hcontext
    rw [hvars, find?_bindRound (find?_bindEntry_item hkey other before.vars), found_item hcontext]
  · intro label hlabel hcontext
    rw [hvars, find?_bindRound (find?_bindEntry_item hkey other before.vars),
      found_context hlabel hcontext]

/-- An item that is a map with flags of its own under the label of the loop.  In the first and
only round it has those of the loop in their place. -/
theorem bound_in_rounds_context :
    let header : LoopHeader := ⟨.variable "xs", LoopContext.contextName, none, some "n"⟩
    let flags := Value.map (.host [0, 0, 0, 0]) [("first", .string "x")]
    let item := Value.map (.host [0, 0])
      [("foreach", .map (.host [0, 0, 0]) [("n", flags)])]
    let state : Surroundings Unit := ⟨[("xs", .array (.host [0]) [item])], ()⟩
    let first := fun value : Value => ((value.field "foreach").field "n").field "first"
    header.key ≠ some header.item ∧
      (header.source.eval Registry.builtin state.vars state.host).1.iteration =
        [(.number (Number.ofNat 0), item)] ∧
      ∃ inside found, (header.roundStates Registry.builtin [] 0 state)[0]? = some inside ∧
        Entries.find? header.item inside.vars = some found ∧ first found = .boolean true ∧
          first item = .string "x" := by
  intro header flags item state first
  have hkey : header.key ≠ some header.item := nofun
  obtain ⟨-, hrounds⟩ := bound_in_rounds hkey Registry.builtin [] 0 state
  refine ⟨hkey, rfl, _, _, rfl, (hrounds 0 _ _ rfl rfl).2.2 "n" rfl rfl, rfl, rfl⟩

end LoopHeader

end Stencil
