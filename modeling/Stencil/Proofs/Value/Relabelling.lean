import Mathlib.Logic.Function.Basic
import Stencil.Proofs.Value.Structure
import Stencil.Value.Text

/-!
# Values under other labels

The labels of containers tell them apart and mean nothing else.  Moving the labels of a host's
containers to others, no two of them to the same, changes neither the text of a value nor its
truth nor what it is the same as, and the fields, items and entries that are read from it are
those that were there, moved along.

A label is below a path if it belongs to a part of what is labelled by the path.  A move below a
path is one of positions there: it leaves all other labels as they are, and with them all values
in which no label is below the path.
-/

namespace Stencil

namespace Identity

/-- An identity whose label has been moved.  The maps that loops make keep theirs. -/
def move (g : List Nat → List Nat) : Identity → Identity
  | host path => host (g path)
  | loop depth part => loop depth part

theorem move_inj {g : List Nat → List Nat} (hg : Function.Injective g) {identity other : Identity} :
    identity.move g = other.move g ↔ identity = other := by
  constructor
  · intro h
    rcases identity with path | ⟨depth, part⟩
    · rcases other with place | ⟨depth, part⟩
      · rw [hg (Identity.host.inj h)]
      · cases h
    · rcases other with place | ⟨further, piece⟩
      · cases h
      · exact h
  · exact congrArg (move g)

end Identity

namespace Value

mutual

/-- A value in which the labels of the host's containers have been moved. -/
def relabel (g : List Nat → List Nat) : Value → Value
  | null => null
  | boolean flag => boolean flag
  | number n => number n
  | string text => string text
  | array identity items => array (identity.move g) (relabelItems g items)
  | map identity entries => map (identity.move g) (relabelEntries g entries)
  | time t => time t
  | absent => absent
  | present inner => present (inner.relabel g)

/-- The items of an array with the labels in them moved. -/
def relabelItems (g : List Nat → List Nat) : List Value → List Value
  | [] => []
  | item :: rest => item.relabel g :: relabelItems g rest

/-- The entries of a map with the labels in them moved. -/
def relabelEntries (g : List Nat → List Nat) : List (String × Value) → List (String × Value)
  | [] => []
  | (name, value) :: rest => (name, value.relabel g) :: relabelEntries g rest

end

variable (g : List Nat → List Nat)

theorem relabelItems_eq_map (items : List Value) :
    relabelItems g items = items.map (relabel g) := by
  induction items with
  | nil => rfl
  | cons item rest ih => rw [relabelItems, ih, List.map_cons]

theorem relabelEntries_eq_mapData (entries : List (String × Value)) :
    relabelEntries g entries = Entries.mapData (relabel g) entries := by
  induction entries with
  | nil => rfl
  | cons entry rest ih =>
      obtain ⟨name, value⟩ := entry
      rw [relabelEntries, ih]
      rfl

theorem relabel_array (identity : Identity) (items : List Value) :
    (array identity items).relabel g = array (identity.move g) (items.map (relabel g)) := by
  rw [relabel, relabelItems_eq_map]

theorem relabel_map (identity : Identity) (entries : List (String × Value)) :
    (map identity entries).relabel g =
      map (identity.move g) (Entries.mapData (relabel g) entries) := by
  rw [relabel, relabelEntries_eq_mapData]

/-! ## Text -/

mutual

/-- The text of a value shows nothing of its identities. -/
theorem text_bare (value : Value) : value.bare.text = value.text := by
  match value with
  | null | boolean _ | number _ | string _ | time _ | absent => rfl
  | array identity items => rw [bare, text, text, itemTexts_bareItems]
  | map identity entries => rw [bare, text, text, entryTexts_bareEntries]
  | present inner =>
      rw [bare, text, text]
      exact text_bare inner

theorem itemTexts_bareItems (items : List Value) :
    itemTexts (bareItems items) = itemTexts items := by
  match items with
  | [] => rfl
  | item :: rest => rw [bareItems, itemTexts, itemTexts, text_bare item, itemTexts_bareItems rest]

theorem entryTexts_bareEntries (entries : List (String × Value)) :
    entryTexts (bareEntries entries) = entryTexts entries := by
  match entries with
  | [] => rfl
  | (name, value) :: rest =>
      rw [bareEntries, entryTexts, entryTexts, text_bare value, entryTexts_bareEntries rest]

end

/-- Values of one structure have the same text. -/
theorem text_of_sameStructure {value other : Value} (h : value.SameStructure other) :
    value.text = other.text := by
  rw [← text_bare value, ← text_bare other, h]

mutual

/-- Moving labels keeps the structure. -/
theorem sameStructure_relabel (value : Value) : (value.relabel g).SameStructure value := by
  match value with
  | null | boolean _ | number _ | string _ | time _ | absent => rfl
  | array identity items =>
      rw [SameStructure, relabel, bare, bare, bareItems_relabelItems]
  | map identity entries =>
      rw [SameStructure, relabel, bare, bare, bareEntries_relabelEntries]
  | present inner => exact congrArg present (sameStructure_relabel inner)

theorem bareItems_relabelItems (items : List Value) :
    bareItems (relabelItems g items) = bareItems items := by
  match items with
  | [] => rfl
  | item :: rest =>
      rw [relabelItems, bareItems, bareItems, sameStructure_relabel item,
        bareItems_relabelItems rest]

theorem bareEntries_relabelEntries (entries : List (String × Value)) :
    bareEntries (relabelEntries g entries) = bareEntries entries := by
  match entries with
  | [] => rfl
  | (name, value) :: rest =>
      rw [relabelEntries, bareEntries, bareEntries, sameStructure_relabel value,
        bareEntries_relabelEntries rest]

end

theorem unwrapped_relabel (value : Value) :
    (value.relabel g).unwrapped = value.unwrapped.relabel g := by
  induction value using unwrapped.induct with
  | case1 inner ih => exact ih
  | case2 => rfl
  | case3 other hpresent habsent =>
      rw [unwrapped.eq_3 other hpresent habsent]
      rcases other with _ | _ | _ | _ | _ | _ | _ | _ | inner
      case present => exact absurd rfl (hpresent inner)
      case absent => exact absurd rfl habsent
      all_goals rfl

theorem output_relabel (value : Value) : (value.relabel g).output = value.output := by
  have htext := text_of_sameStructure (sameStructure_relabel g value.unwrapped)
  rw [output, output, isNull, isNull, unwrapped_relabel, htext]
  rcases value.unwrapped with _ | _ | _ | _ | _ | _ | _ | _ | _ <;> rfl

theorem isTruthy_relabel (value : Value) : (value.relabel g).isTruthy = value.isTruthy := by
  induction value using unwrapped.induct with
  | case1 inner ih => exact ih
  | case2 => rfl
  | case3 other hpresent habsent =>
      rcases other with _ | _ | _ | _ | ⟨identity, items⟩ | ⟨identity, entries⟩ | _ | _ | inner
      case array => simp [relabel_array, isTruthy]
      case map => simp [relabel_map, isTruthy, Entries.mapData]
      case present => exact absurd rfl (hpresent inner)
      all_goals rfl

/-! ## What is read from a value -/

theorem toNumber?_relabel (value : Value) : (value.relabel g).toNumber? = value.toNumber? := by
  rw [toNumber?, toNumber?, unwrapped_relabel]
  rcases value.unwrapped with _ | _ | _ | _ | _ | _ | _ | _ | _ <;> rfl

theorem toText?_relabel (value : Value) : (value.relabel g).toText? = value.toText? := by
  rw [toText?, toText?, unwrapped_relabel]
  rcases value.unwrapped with _ | _ | _ | _ | _ | _ | _ | _ | _ <;> rfl

theorem getD_map_relabel (found : Option Value) :
    (found.map (relabel g)).getD null = (found.getD null).relabel g := by
  rcases found with _ | value
  · rfl
  · rfl

theorem field_relabel (value : Value) (name : String) :
    (value.relabel g).field name = (value.field name).relabel g := by
  rw [field, field, unwrapped_relabel]
  rcases value.unwrapped with _ | _ | _ | _ | _ | ⟨identity, entries⟩ | _ | _ | _
  case map =>
    rw [relabel_map]
    dsimp only
    rw [Entries.find?_mapData, getD_map_relabel]
  all_goals rfl

theorem item_relabel (value position : Value) :
    (value.relabel g).item (position.relabel g) = (value.item position).relabel g := by
  rw [item, item, unwrapped_relabel, unwrapped_relabel]
  rcases value.unwrapped with _ | _ | _ | _ | ⟨identity, items⟩ | _ | _ | _ | _
  case array =>
    rw [relabel_array]
    rcases position.unwrapped with _ | _ | n | _ | _ | _ | _ | _ | _
    case number =>
      have hget : (n.toNat?.bind fun i => (items.map (relabel g))[i]?) =
          (n.toNat?.bind fun i => items[i]?).map (relabel g) := by
        rcases n.toNat? with _ | i
        · rfl
        · exact List.getElem?_map
      simp only [relabel, hget, getD_map_relabel]
    all_goals rfl
  all_goals rfl

theorem numbered_map_relabel (items : List Value) (position : Nat) :
    numbered position (items.map (relabel g)) =
      (numbered position items).map (Prod.map (relabel g) (relabel g)) := by
  induction items generalizing position with
  | nil => rfl
  | cons item rest ih =>
      rw [List.map_cons, numbered, numbered, ih, List.map_cons]
      rfl

theorem iteration_relabel (value : Value) :
    (value.relabel g).iteration = value.iteration.map (Prod.map (relabel g) (relabel g)) := by
  rw [iteration, iteration, unwrapped_relabel]
  rcases value.unwrapped with _ | _ | _ | _ | ⟨identity, items⟩ | ⟨identity, entries⟩ | _ | _ | _
  case array =>
    rw [relabel_array]
    exact numbered_map_relabel g items 0
  case map =>
    rw [relabel_map]
    simp only [Entries.mapData, List.map_map]
    rfl
  all_goals rfl

theorem mapEntries_relabel (value : Value) :
    (value.relabel g).mapEntries = Entries.mapData (relabel g) value.mapEntries := by
  rw [mapEntries, mapEntries, unwrapped_relabel]
  rcases value.unwrapped with _ | _ | _ | _ | _ | ⟨identity, entries⟩ | _ | _ | _
  case map => rw [relabel_map]
  all_goals rfl

variable {g}

/-- Where no two labels are moved to the same, sameness is kept. -/
theorem same_relabel (hg : Function.Injective g) (value other : Value) :
    (value.relabel g).same (other.relabel g) = value.same other := by
  rw [same, same, unwrapped_relabel, unwrapped_relabel]
  rcases value.unwrapped with
      _ | _ | _ | _ | ⟨identity, items⟩ | ⟨identity, entries⟩ | _ | _ | _ <;>
    rcases other.unwrapped with
      _ | _ | _ | _ | ⟨others, further⟩ | ⟨others, further⟩ | _ | _ | _ <;>
    simp only [relabel, sameUnwrapped, Identity.move_inj hg]

end Value

/-! ## Moves below a path -/

/-- Whether a label belongs to a part of what is labelled by a path. -/
def Identity.Below (path : List Nat) : Identity → Prop
  | .host place => ∃ between position, place = between ++ position :: path
  | .loop _ _ => False

/-- A value in which no label is below a path. -/
inductive Value.Avoids (path : List Nat) : Value → Prop
  | null : Avoids path .null
  | boolean (flag : Bool) : Avoids path (.boolean flag)
  | number (number : Number) : Avoids path (.number number)
  | string (text : String) : Avoids path (.string text)
  | array {identity : Identity} {items : List Value} (hidentity : ¬ identity.Below path)
      (hitems : ∀ item ∈ items, Avoids path item) : Avoids path (.array identity items)
  | map {identity : Identity} {entries : List (String × Value)} (hidentity : ¬ identity.Below path)
      (hentries : ∀ entry ∈ entries, Avoids path entry.2) : Avoids path (.map identity entries)
  | time (time : Timestamp) : Avoids path (.time time)
  | absent : Avoids path .absent
  | present {inner : Value} (hinner : Avoids path inner) : Avoids path (.present inner)

/-- A way to move labels that leaves alone those that are not below a path, and keeps labels
apart. -/
structure MovesBelow (path : List Nat) (g : List Nat → List Nat) : Prop where
  injective : Function.Injective g
  fixes : ∀ {place}, ¬ (Identity.host place).Below path → g place = place

namespace MovesBelow

variable {path : List Nat} {g : List Nat → List Nat}

theorem move_eq (hg : MovesBelow path g) {identity : Identity} (h : ¬ identity.Below path) :
    identity.move g = identity := by
  rcases identity with place | ⟨depth, part⟩
  · exact congrArg Identity.host (hg.fixes h)
  · rfl

theorem relabel_eq (hg : MovesBelow path g) {value : Value} (h : value.Avoids path) :
    value.relabel g = value := by
  induction h with
  | null | boolean | number | string | time | absent => rfl
  | array hidentity hitems ih =>
      rw [Value.relabel_array, hg.move_eq hidentity, List.map_congr_left ih, List.map_id']
  | map hidentity hentries ih =>
      rw [Value.relabel_map, hg.move_eq hidentity, Entries.mapData, List.map_congr_left,
        List.map_id']
      intro entry hentry
      rw [ih entry hentry]
  | present hinner ih => rw [Value.relabel, ih]

theorem mapData_eq (hg : MovesBelow path g) {entries : Entries Value}
    (h : ∀ entry ∈ entries, entry.2.Avoids path) :
    Entries.mapData (Value.relabel g) entries = entries := by
  rw [Entries.mapData, List.map_congr_left, List.map_id']
  intro entry hentry
  rw [hg.relabel_eq (h entry hentry)]

end MovesBelow

/-- A move of labels carries a path, and what is below it, along. -/
def Carries (g : List Nat → List Nat) (path : List Nat) : Prop :=
  ∀ between, g (between ++ path) = between ++ g path

namespace Carries

variable {g : List Nat → List Nat} {path : List Nat}

theorem cons_eq (h : Carries g path) (position : Nat) : g (position :: path) = position :: g path :=
  h [position]

theorem cons (h : Carries g path) (position : Nat) : Carries g (position :: path) := by
  intro between
  rw [h.cons_eq, ← List.singleton_append, ← List.append_assoc, h, List.append_assoc]
  rfl

end Carries

/-- The move of labels that carries the positions directly below a path. -/
def carryBelow (path : List Nat) (carry : Nat → Nat) : List Nat → List Nat
  | [] => []
  | position :: rest =>
      if rest = path then carry position :: path else position :: carryBelow path carry rest

section CarryBelow

variable {path : List Nat} {carry : Nat → Nat}

theorem not_below_of_length_le {place : List Nat} (h : place.length ≤ path.length) :
    ¬ (Identity.host place).Below path := by
  rintro ⟨between, position, rfl⟩
  simp at h
  omega

theorem carryBelow_below (between : List Nat) (position : Nat) :
    carryBelow path carry (between ++ position :: path) = between ++ carry position :: path := by
  induction between with
  | nil => exact if_pos rfl
  | cons first rest ih =>
      have hne : rest ++ position :: path ≠ path := by
        intro heq
        have hlength := congrArg List.length heq
        simp at hlength
        omega
      rw [List.cons_append, carryBelow, if_neg hne, ih, List.cons_append]

theorem carryBelow_of_not_below {place : List Nat} (h : ¬ (Identity.host place).Below path) :
    carryBelow path carry place = place := by
  induction place with
  | nil => rfl
  | cons position rest ih =>
      have hne : rest ≠ path := by
        rintro rfl
        exact h ⟨[], position, rfl⟩
      have hrest : ¬ (Identity.host rest).Below path := by
        rintro ⟨between, further, rfl⟩
        exact h ⟨position :: between, further, rfl⟩
      rw [carryBelow, if_neg hne, ih hrest]

theorem carryBelow_injective (hcarry : Function.Injective carry) :
    Function.Injective (carryBelow path carry) := by
  have hpath : carryBelow path carry path = path :=
    carryBelow_of_not_below (not_below_of_length_le (Nat.le_refl _))
  intro place other h
  induction place generalizing other with
  | nil =>
      rcases other with _ | ⟨position, rest⟩
      · rfl
      · rw [carryBelow, carryBelow] at h
        split at h <;> cases h
  | cons position rest ih =>
      rcases other with _ | ⟨further, more⟩
      · rw [carryBelow, carryBelow] at h
        split at h <;> cases h
      · rw [carryBelow, carryBelow] at h
        split at h
        · rename_i hrest
          split at h
          · rename_i hmore
            rw [hcarry (List.cons.inj h).1, hrest, hmore]
          · rename_i hmore
            exact absurd (ih (by rw [hrest, hpath, ← (List.cons.inj h).2])) (hrest ▸ Ne.symm hmore)
        · rename_i hrest
          split at h
          · rename_i hmore
            exact absurd (ih ((List.cons.inj h).2.trans hpath.symm)) hrest
          · rw [(List.cons.inj h).1, ih (List.cons.inj h).2]

theorem movesBelow_carryBelow (hcarry : Function.Injective carry) :
    MovesBelow path (carryBelow path carry) where
  injective := carryBelow_injective hcarry
  fixes := carryBelow_of_not_below

theorem carries_carryBelow (position : Nat) :
    Carries (carryBelow path carry) (position :: path) := by
  intro between
  rw [carryBelow_below, show carryBelow path carry (position :: path) = carry position :: path from
    carryBelow_below [] position]

end CarryBelow

theorem MovesBelow.of_cons {path : List Nat} {position : Nat} {g : List Nat → List Nat}
    (h : MovesBelow (position :: path) g) : MovesBelow path g where
  injective := h.injective
  fixes := by
    intro place hplace
    apply h.fixes
    rintro ⟨between, further, rfl⟩
    exact hplace ⟨between ++ [further], position, by simp⟩

end Stencil
