import Mathlib.Data.List.Induction
import Mathlib.Data.List.Nodup
import Stencil.Entries

/-!
# Insertion in any order

Two insertions under different names can change places, whatever the entries are that they are
made into.  So pairs with distinct names give the same entries in whatever order they come, and
of pairs with one name the last counts.  Data can be changed under their names before or behind
an insertion alike.
-/

namespace Stencil

namespace Entries

variable {α β : Type}

theorem insert_of_lt {name other : String} (h : name < other) (datum old : α)
    (rest : Entries α) :
    insert name datum ((other, old) :: rest) = (name, datum) :: (other, old) :: rest := by
  have hne : name ≠ other := fun heq => String.lt_irrefl other (heq ▸ h)
  rw [insert, if_neg hne, if_pos h]

theorem insert_of_gt {name other : String} (h : other < name) (datum old : α)
    (rest : Entries α) :
    insert name datum ((other, old) :: rest) = (other, old) :: insert name datum rest := by
  have hne : name ≠ other := fun heq => String.lt_irrefl other (heq ▸ h)
  rw [insert, if_neg hne, if_neg (String.lt_asymm h)]

theorem insert_head (name : String) (datum old : α) (rest : Entries α) :
    insert name datum ((name, old) :: rest) = (name, datum) :: rest := by
  rw [insert, if_pos rfl]

theorem insert_comm_of_lt {first second : String} (h : first < second) (one other : α)
    (entries : Entries α) :
    insert first one (insert second other entries) =
      insert second other (insert first one entries) := by
  induction entries with
  | nil =>
      change insert first one [(second, other)] = insert second other [(first, one)]
      rw [insert_of_lt h, insert_of_gt h]
      rfl
  | cons entry rest ih =>
      obtain ⟨name, old⟩ := entry
      rcases Std.lt_trichotomy first name with hlt | rfl | hgt
      · -- The first name goes in front in either order, wherever the second goes.
        rw [insert_of_lt hlt, insert_of_gt h]
        rcases Std.lt_trichotomy second name with hsecond | rfl | hsecond
        · rw [insert_of_lt hsecond, insert_of_lt h]
        · rw [insert_head, insert_of_lt h]
        · rw [insert_of_gt hsecond, insert_of_lt hlt]
      · rw [insert_of_gt h, insert_head, insert_head, insert_of_gt h]
      · have hsecond := String.lt_trans hgt h
        rw [insert_of_gt hsecond, insert_of_gt hgt, insert_of_gt hgt, insert_of_gt hsecond, ih]

theorem insert_comm {first second : String} (h : first ≠ second) (one other : α)
    (entries : Entries α) :
    insert first one (insert second other entries) =
      insert second other (insert first one entries) := by
  rcases Std.lt_trichotomy first second with hlt | heq | hgt
  · exact insert_comm_of_lt hlt one other entries
  · exact absurd heq h
  · exact (insert_comm_of_lt hgt other one entries).symm

/-- Of two insertions under one name the last counts. -/
theorem insert_insert (name : String) (one other : α) (entries : Entries α) :
    insert name one (insert name other entries) = insert name one entries := by
  induction entries with
  | nil => exact insert_head name one other []
  | cons entry rest ih =>
      obtain ⟨next, old⟩ := entry
      rcases Std.lt_trichotomy name next with hlt | rfl | hgt
      · rw [insert_of_lt hlt, insert_head, insert_of_lt hlt]
      · rw [insert_head, insert_head, insert_head]
      · rw [insert_of_gt hgt, insert_of_gt hgt, insert_of_gt hgt, ih]

theorem mem_names_insert {name other : String} {datum : α} {entries : Entries α} :
    other ∈ names (insert name datum entries) ↔ other = name ∨ other ∈ names entries := by
  induction entries with
  | nil => exact List.mem_cons
  | cons entry rest ih =>
      obtain ⟨next, old⟩ := entry
      rcases Std.lt_trichotomy name next with hlt | rfl | hgt
      · rw [insert_of_lt hlt]
        exact List.mem_cons
      · rw [insert_head]
        simp [names]
      · rw [insert_of_gt hgt]
        change other ∈ next :: names (insert name datum rest) ↔
          other = name ∨ other ∈ next :: names rest
        rw [List.mem_cons, List.mem_cons, ih]
        exact or_left_comm

theorem contains_eq_decide_mem (name : String) (entries : Entries α) :
    contains name entries = decide (name ∈ names entries) := by
  induction entries with
  | nil => rfl
  | cons entry rest ih =>
      obtain ⟨other, datum⟩ := entry
      rw [contains, find?]
      split
      · rename_i heq
        simp [names, heq]
      · rename_i hne
        rw [contains] at ih
        rw [ih, decide_eq_decide]
        simp [names, hne]

/-- Entries into which pairs have been put one after the other. -/
def insertAll (pairs : List (String × α)) (entries : Entries α) : Entries α :=
  pairs.foldl (fun entries pair => insert pair.1 pair.2 entries) entries

theorem ofList_concat (pairs : List (String × α)) (pair : String × α) :
    ofList (pairs ++ [pair]) = insert pair.1 pair.2 (ofList pairs) := by
  rw [ofList, List.foldl_append]
  rfl

/-- Under a name is the datum of the last pair with that name. -/
theorem find?_ofList (name : String) (pairs : List (String × α)) :
    find? name (ofList pairs) = (pairs.reverse.find? fun pair => pair.1 = name).map Prod.snd := by
  induction pairs using List.reverseRecOn with
  | nil => rfl
  | append_singleton pairs pair ih =>
      rw [ofList_concat, List.reverse_append, List.reverse_singleton, List.singleton_append]
      by_cases heq : pair.1 = name
      · subst heq
        simp [find?_insert_self]
      · rw [find?_insert_of_ne (Ne.symm heq), ih]
        simp [heq]

theorem find?_ofList_of_last {before after : List (String × α)} {pair : String × α}
    (h : ∀ later ∈ after, later.1 ≠ pair.1) :
    find? pair.1 (ofList (before ++ pair :: after)) = some pair.2 := by
  have hafter : (after.reverse.find? fun later => later.1 = pair.1) = none := by
    simpa using h
  rw [find?_ofList, List.reverse_append, List.reverse_cons, List.find?_append,
    List.find?_append, hafter]
  simp

theorem mem_names_ofList {name : String} {pairs : List (String × α)} :
    name ∈ names (ofList pairs) ↔ name ∈ pairs.map Prod.fst := by
  induction pairs using List.reverseRecOn with
  | nil => rfl
  | append_singleton pairs pair ih =>
      rw [ofList_concat, mem_names_insert, ih, List.map_append, List.mem_append, or_comm]
      simp

/-- Pairs with distinct names give the same entries in any order. -/
theorem ofList_perm {pairs others : List (String × α)} (h : pairs.Perm others)
    (hdistinct : (pairs.map Prod.fst).Nodup) : ofList pairs = ofList others := by
  refine h.foldl_eq' ?_ []
  intro one hone other hother entries
  by_cases hname : one.1 = other.1
  · have heq : one = other := List.inj_on_of_nodup_map hdistinct hone hother hname
    rw [heq]
  · exact insert_comm (Ne.symm hname) other.2 one.2 entries

/-- The entries with a function applied to every datum. -/
def mapData (f : α → β) (entries : Entries α) : Entries β :=
  entries.map fun entry => (entry.1, f entry.2)

theorem names_mapData (f : α → β) (entries : Entries α) :
    names (mapData f entries) = names entries := by
  rw [names, mapData, List.map_map]
  rfl

theorem find?_mapData (f : α → β) (name : String) (entries : Entries α) :
    find? name (mapData f entries) = (find? name entries).map f := by
  induction entries with
  | nil => rfl
  | cons entry rest ih =>
      obtain ⟨other, datum⟩ := entry
      change find? name ((other, f datum) :: mapData f rest) = _
      rw [find?, find?, ih]
      split
      · rfl
      · rfl

theorem mapData_insert (f : α → β) (name : String) (datum : α) (entries : Entries α) :
    mapData f (insert name datum entries) = insert name (f datum) (mapData f entries) := by
  induction entries with
  | nil => rfl
  | cons entry rest ih =>
      obtain ⟨other, old⟩ := entry
      simp only [mapData, insert, List.map_cons]
      split
      · rfl
      · split
        · rfl
        · exact congrArg (_ :: ·) ih

theorem mapData_ofList (f : α → β) (pairs : List (String × α)) :
    mapData f (ofList pairs) = ofList (mapData f pairs) := by
  rw [ofList, ofList, mapData, mapData, List.foldl_map]
  exact (List.foldl_hom (mapData f)
    (fun entries pair => (mapData_insert f pair.1 pair.2 entries).symm)).symm

end Entries

end Stencil
