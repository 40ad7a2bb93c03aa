import Stencil.Environment.Scope

/-!
# What a scope puts back

A scope covers the variables on which it was opened as long as every name is either saved, with
the state that it had there, or still in that state.  Binding through the scope keeps this, and
so does any change to names that are saved.  Closing a scope that covers some variables gives
every name its state in them.
-/

namespace Stencil

namespace Entries

variable {α : Type}

/-- Two tables in which every name is found with the same datum, or in neither. -/
def SameLookups (entries others : Entries α) : Prop :=
  ∀ name, find? name entries = find? name others

theorem SameLookups.refl (entries : Entries α) : SameLookups entries entries :=
  fun _ => rfl

theorem SameLookups.trans {entries others further : Entries α}
    (h : SameLookups entries others) (hothers : SameLookups others further) :
    SameLookups entries further :=
  fun name => (h name).trans (hothers name)

end Entries

namespace Scope

/-- The names whose states a scope puts back. -/
def savedNames (scope : Scope) : List String :=
  scope.saved.map Prod.fst

/-! ## Closing -/

theorem find?_restore_self (vars : Variables) (entry : Saved) :
    Entries.find? entry.1 (restore vars entry) = entry.2 := by
  obtain ⟨name, value | _⟩ := entry
  · exact Entries.find?_erase_self name vars
  · exact Entries.find?_insert_self name _ vars

theorem find?_restore_of_ne {name : String} {entry : Saved} (h : name ≠ entry.1)
    (vars : Variables) :
    Entries.find? name (restore vars entry) = Entries.find? name vars := by
  obtain ⟨other, value | _⟩ := entry
  · exact Entries.find?_erase_of_ne h vars
  · exact Entries.find?_insert_of_ne h _ vars

theorem find?_foldl_restore_of_not_mem {name : String} {saved : List Saved}
    (h : name ∉ saved.map Prod.fst) (vars : Variables) :
    Entries.find? name (saved.foldl restore vars) = Entries.find? name vars := by
  induction saved generalizing vars with
  | nil => rfl
  | cons entry rest ih =>
      rw [List.map_cons, List.mem_cons, not_or] at h
      rw [List.foldl_cons, ih h.2, find?_restore_of_ne h.1]

theorem find?_foldl_restore_of_mem {entry : Saved} {saved : List Saved}
    (hdistinct : (saved.map Prod.fst).Nodup) (h : entry ∈ saved) (vars : Variables) :
    Entries.find? entry.1 (saved.foldl restore vars) = entry.2 := by
  induction saved generalizing vars with
  | nil => cases h
  | cons first rest ih =>
      rw [List.map_cons, List.nodup_cons] at hdistinct
      rw [List.foldl_cons]
      rcases List.mem_cons.mp h with rfl | hrest
      · rw [find?_foldl_restore_of_not_mem hdistinct.1, find?_restore_self]
      · exact ih hdistinct.2 hrest _

/-- A name that is not saved keeps its state when the scope is closed. -/
theorem find?_close_of_not_saved {scope : Scope} {name : String} (h : name ∉ scope.savedNames) :
    Entries.find? name scope.close = Entries.find? name scope.vars :=
  find?_foldl_restore_of_not_mem h scope.vars

/-- A name that is saved once gets the state that was saved. -/
theorem find?_close_of_saved {scope : Scope} {entry : Saved}
    (hdistinct : scope.savedNames.Nodup) (h : entry ∈ scope.saved) :
    Entries.find? entry.1 scope.close = entry.2 :=
  find?_foldl_restore_of_mem hdistinct h scope.vars

/-! ## Binding -/

theorem find?_bind_of_ne {name other : String} (h : other ≠ name) (scope : Scope) (value : Value) :
    Entries.find? other (scope.bind name value).vars = Entries.find? other scope.vars :=
  Entries.find?_insert_of_ne h value scope.vars

theorem any_saved_iff (scope : Scope) (name : String) :
    (scope.saved.any fun entry => entry.1 = name) = true ↔ name ∈ scope.savedNames := by
  simp [savedNames]

theorem saved_bind_of_mem {scope : Scope} {name : String} (h : name ∈ scope.savedNames)
    (value : Value) : (scope.bind name value).saved = scope.saved :=
  if_pos ((any_saved_iff scope name).mpr h)

/-- The first binding of a name saves the state that the name has just before it. -/
theorem saved_bind_of_not_mem {scope : Scope} {name : String} (h : name ∉ scope.savedNames)
    (value : Value) :
    (scope.bind name value).saved = (name, Entries.find? name scope.vars) :: scope.saved :=
  if_neg fun hany => h ((any_saved_iff scope name).mp hany)

theorem saved_subset_bind (scope : Scope) (name : String) (value : Value) :
    scope.saved ⊆ (scope.bind name value).saved := by
  by_cases hname : name ∈ scope.savedNames
  · rw [saved_bind_of_mem hname]
    exact List.Subset.refl _
  · rw [saved_bind_of_not_mem hname]
    exact List.subset_cons_self _ _

theorem savedNames_subset_bind (scope : Scope) (name : String) (value : Value) :
    scope.savedNames ⊆ (scope.bind name value).savedNames :=
  List.map_subset Prod.fst (saved_subset_bind scope name value)

theorem mem_savedNames_bind (scope : Scope) (name : String) (value : Value) :
    name ∈ (scope.bind name value).savedNames := by
  by_cases h : name ∈ scope.savedNames
  · exact savedNames_subset_bind scope name value h
  · rw [savedNames, saved_bind_of_not_mem h, List.map_cons]
    exact List.mem_cons_self

theorem nodup_savedNames_bind {scope : Scope} (h : scope.savedNames.Nodup) (name : String)
    (value : Value) : (scope.bind name value).savedNames.Nodup := by
  by_cases hname : name ∈ scope.savedNames
  · rw [savedNames, saved_bind_of_mem hname]
    exact h
  · rw [savedNames, saved_bind_of_not_mem hname, List.map_cons]
    exact List.nodup_cons.mpr ⟨hname, h⟩

theorem eq_or_mem_of_mem_savedNames_bind {scope : Scope} {name other : String} {value : Value}
    (h : other ∈ (scope.bind name value).savedNames) : other = name ∨ other ∈ scope.savedNames := by
  by_cases hname : name ∈ scope.savedNames
  · rw [savedNames, saved_bind_of_mem hname] at h
    exact .inr h
  · rw [savedNames, saved_bind_of_not_mem hname, List.map_cons] at h
    exact List.mem_cons.mp h

/-! ## Covering -/

/-- A scope that can put back the state of every name in some variables. -/
structure Covers (scope : Scope) (vars : Variables) : Prop where
  distinct : scope.savedNames.Nodup
  saved : ∀ entry ∈ scope.saved, entry.2 = Entries.find? entry.1 vars
  other : ∀ name, name ∉ scope.savedNames →
    Entries.find? name scope.vars = Entries.find? name vars

theorem covers_ofVariables (vars : Variables) : (ofVariables vars).Covers vars where
  distinct := List.nodup_nil
  saved := nofun
  other := fun _ _ => rfl

/-- The names that are saved may take any state. -/
theorem covers_of_agree {scope : Scope} {vars next : Variables} (h : scope.Covers vars)
    (hagree : ∀ name, name ∉ scope.savedNames →
      Entries.find? name next = Entries.find? name scope.vars) :
    Covers { scope with vars := next } vars where
  distinct := h.distinct
  saved := h.saved
  other := fun name hname => (hagree name hname).trans (h.other name hname)

theorem covers_bind {scope : Scope} {vars : Variables} (h : scope.Covers vars)
    (name : String) (value : Value) : (scope.bind name value).Covers vars := by
  have hother (other : String) (hnot : other ∉ (scope.bind name value).savedNames) :
      Entries.find? other (scope.bind name value).vars = Entries.find? other vars := by
    have hne : other ≠ name := by
      rintro rfl
      exact hnot (mem_savedNames_bind scope other value)
    rw [find?_bind_of_ne hne]
    exact h.other other fun hmem => hnot (savedNames_subset_bind scope name value hmem)
  refine ⟨nodup_savedNames_bind h.distinct name value, ?_, hother⟩
  by_cases hname : name ∈ scope.savedNames
  · rw [saved_bind_of_mem hname]
    exact h.saved
  · rw [saved_bind_of_not_mem hname]
    intro entry hentry
    rcases List.mem_cons.mp hentry with rfl | hrest
    · exact h.other name hname
    · exact h.saved entry hrest

theorem covers_bind? {scope : Scope} {vars : Variables} (h : scope.Covers vars)
    (name : Option String) (value : Value) : (scope.bind? name value).Covers vars := by
  cases name with
  | none => exact h
  | some name => exact covers_bind h name value

theorem savedNames_subset_bind? (scope : Scope) (name : Option String) (value : Value) :
    scope.savedNames ⊆ (scope.bind? name value).savedNames := by
  cases name with
  | none => exact List.Subset.refl _
  | some name => exact savedNames_subset_bind scope name value

/-- Closing a scope gives every name the state that it has in the variables that the scope
covers. -/
theorem sameLookups_close {scope : Scope} {vars : Variables} (h : scope.Covers vars) :
    Entries.SameLookups scope.close vars := by
  intro name
  by_cases hname : name ∈ scope.savedNames
  · obtain ⟨entry, hentry, rfl⟩ := List.mem_map.mp hname
    rw [find?_close_of_saved h.distinct hentry, h.saved entry hentry]
  · rw [find?_close_of_not_saved hname, h.other name hname]

end Scope

end Stencil
