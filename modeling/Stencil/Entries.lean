/-!
# Entries under names

Entries are pairs of a name and a datum, one for each name, in ascending order of the names.
Names are ordered by code point, which is also the order of their UTF-8 bytes.

An insertion keeps the order and puts the new datum in the place of an old one of the same name.
The lookup lemmas say what insertion and removal do to the datum under each name; they hold of
any list of pairs, so nothing has to be known about its order.
-/

namespace Stencil

/-- Data under names. -/
abbrev Entries (α : Type) := List (String × α)

namespace Entries

/-- The datum under a name. -/
def find? (name : String) : Entries α → Option α
  | [] => none
  | (other, datum) :: rest => if name = other then some datum else find? name rest

/-- Whether a name has a datum. -/
def contains (name : String) (entries : Entries α) : Bool :=
  (find? name entries).isSome

/-- Puts a datum under a name. -/
def insert (name : String) (datum : α) : Entries α → Entries α
  | [] => [(name, datum)]
  | (other, old) :: rest =>
      if name = other then (name, datum) :: rest
      else if name < other then (name, datum) :: (other, old) :: rest
      else (other, old) :: insert name datum rest

/-- Changes the datum under a name, if there is one. -/
def modify (name : String) (change : α → α) : Entries α → Entries α
  | [] => []
  | (other, datum) :: rest =>
      if name = other then (other, change datum) :: rest
      else (other, datum) :: modify name change rest

/-- Removes the datum under a name. -/
def erase (name : String) (entries : Entries α) : Entries α :=
  entries.filter fun entry => entry.1 ≠ name

/-- The entries of a list of pairs; of several under one name the last counts. -/
def ofList (pairs : List (String × α)) : Entries α :=
  pairs.foldl (fun entries pair => insert pair.1 pair.2 entries) []

/-- The names in order. -/
def names (entries : Entries α) : List String :=
  entries.map Prod.fst

theorem mem_of_find? {name : String} {datum : α} {entries : Entries α}
    (h : find? name entries = some datum) : (name, datum) ∈ entries := by
  induction entries with
  | nil => cases h
  | cons entry rest ih =>
      obtain ⟨other, found⟩ := entry
      rw [find?] at h
      split at h
      · rename_i hother
        cases h
        rw [hother]
        exact List.mem_cons_self
      · exact List.mem_cons_of_mem _ (ih h)

theorem mem_of_mem_insert {name : String} {datum : α} {entries : Entries α} {entry : String × α}
    (h : entry ∈ insert name datum entries) : entry = (name, datum) ∨ entry ∈ entries := by
  induction entries with
  | nil => exact Or.inl (List.mem_singleton.mp h)
  | cons first rest ih =>
      obtain ⟨other, old⟩ := first
      rw [insert] at h
      split at h
      · rcases List.mem_cons.mp h with heq | hrest
        · exact Or.inl heq
        · exact Or.inr (List.mem_cons_of_mem _ hrest)
      · split at h
        · exact List.mem_cons.mp h
        · rcases List.mem_cons.mp h with rfl | hrest
          · exact Or.inr List.mem_cons_self
          · rcases ih hrest with heq | hmem
            · exact Or.inl heq
            · exact Or.inr (List.mem_cons_of_mem _ hmem)

theorem find?_insert_self (name : String) (datum : α) (entries : Entries α) :
    find? name (insert name datum entries) = some datum := by
  induction entries with
  | nil => simp [insert, find?]
  | cons entry rest ih =>
      obtain ⟨other, old⟩ := entry
      rw [insert]
      split
      · simp [find?]
      · rename_i hother
        split
        · simp [find?]
        · simp [find?, hother, ih]

theorem find?_insert_of_ne
    {name other : String} (h : other ≠ name) (datum : α) (entries : Entries α) :
    find? other (insert name datum entries) = find? other entries := by
  induction entries with
  | nil => simp [insert, find?, h]
  | cons entry rest ih =>
      obtain ⟨next, old⟩ := entry
      rw [insert]
      split
      · rename_i hnext
        subst hnext
        simp [find?, h]
      · split
        · simp [find?, h]
        · simp [find?, ih]

theorem find?_modify_self (name : String) (change : α → α) (entries : Entries α) :
    find? name (modify name change entries) = (find? name entries).map change := by
  induction entries with
  | nil => rfl
  | cons entry rest ih =>
      obtain ⟨other, datum⟩ := entry
      rw [modify]
      split
      · rename_i hother
        simp [find?, hother]
      · rename_i hother
        simp [find?, hother, ih]

theorem find?_modify_of_ne
    {name other : String} (h : other ≠ name) (change : α → α) (entries : Entries α) :
    find? other (modify name change entries) = find? other entries := by
  induction entries with
  | nil => rfl
  | cons entry rest ih =>
      obtain ⟨next, datum⟩ := entry
      rw [modify]
      split
      · rename_i hnext
        subst hnext
        simp [find?, h]
      · simp [find?, ih]

theorem find?_erase_self (name : String) (entries : Entries α) :
    find? name (erase name entries) = none := by
  induction entries with
  | nil => rfl
  | cons entry rest ih =>
      obtain ⟨other, old⟩ := entry
      by_cases h : other = name
      · simpa [erase, h] using ih
      · have hne : name ≠ other := fun heq => h heq.symm
        simpa [erase, find?, h, hne] using ih

theorem find?_erase_of_ne
    {name other : String} (h : other ≠ name) (entries : Entries α) :
    find? other (erase name entries) = find? other entries := by
  induction entries with
  | nil => rfl
  | cons entry rest ih =>
      obtain ⟨next, old⟩ := entry
      by_cases hnext : next = name
      · have hne : other ≠ next := fun heq => h (heq.trans hnext)
        simpa [erase, find?, hnext, h] using ih
      · simp only [erase, List.filter_cons, ne_eq, hnext, not_false_eq_true, decide_true,
          if_true, find?]
        split
        · rfl
        · exact ih

end Entries

end Stencil
