import Stencil.Proofs.Entries.Insertion
import Stencil.Value.Basic

/-!
# The structure of a value

Apart from their identities, values are trees of scalars, items, entries and optional layers.
Two values have the same structure if they are equal once all identities are forgotten.  Unlike
the comparison of contents, this tells the two zeros apart and knows not-a-number again.
-/

namespace Stencil

namespace Value

mutual

/-- A value with the identities of its arrays and maps forgotten. -/
def bare : Value → Value
  | null => null
  | boolean flag => boolean flag
  | number n => number n
  | string text => string text
  | array _ items => array (.host []) (bareItems items)
  | map _ entries => map (.host []) (bareEntries entries)
  | time t => time t
  | absent => absent
  | present inner => present inner.bare

/-- The items of an array with all identities in them forgotten. -/
def bareItems : List Value → List Value
  | [] => []
  | item :: rest => item.bare :: bareItems rest

/-- The entries of a map with all identities in them forgotten. -/
def bareEntries : List (String × Value) → List (String × Value)
  | [] => []
  | (name, value) :: rest => (name, value.bare) :: bareEntries rest

end

/-- Two values that differ in nothing but the identities of arrays and maps. -/
def SameStructure (value other : Value) : Prop :=
  value.bare = other.bare

theorem bareItems_eq_map (items : List Value) : bareItems items = items.map bare := by
  induction items with
  | nil => rfl
  | cons item rest ih => rw [bareItems, ih, List.map_cons]

theorem bareEntries_eq_mapData (entries : List (String × Value)) :
    bareEntries entries = Entries.mapData bare entries := by
  induction entries with
  | nil => rfl
  | cons entry rest ih =>
      obtain ⟨name, value⟩ := entry
      rw [bareEntries, ih]
      rfl

/-- An optional layer around null is not there, and null has no other structure than its own. -/
theorem sameStructure_optional {value other : Value} (h : value.SameStructure other) :
    (optional (some value)).SameStructure (optional (some other)) := by
  cases value with
  | null =>
      cases other with
      | null => rfl
      | _ => cases h
  | _ =>
      cases other with
      | null => cases h
      | _ => exact congrArg present h

end Value

end Stencil
