import Mathlib.Data.List.Nodup
import Stencil.Proofs.Entries.Insertion
import Stencil.Proofs.Environment.Restoration
import Stencil.Proofs.Host.Order

/-!
# Only the last pairs count

Entries in ascending order are told by their lookups.  So what becomes of a list of pairs
depends on nothing but its last pairs, those that no other pair of the same name follows, and
the other pairs may as well be left out.

For every name there is one place where its last pair stands.  Between two lists these places
can be carried over by a map of positions that keeps all positions apart.
-/

namespace Stencil

namespace Entries

variable {α : Type}

/-! ## Lookups in ascending entries -/

theorem find?_eq_some_iff_mem {entries : Entries α} (h : Ascending entries) {name : String}
    {datum : α} :
    find? name entries = some datum ↔ (name, datum) ∈ entries := by
  constructor
  · exact mem_of_find?
  · intro hmem
    induction entries with
    | nil => cases hmem
    | cons first rest ih =>
        obtain ⟨other, old⟩ := first
        obtain ⟨hfirst, hrest⟩ := ascending_cons.mp h
        rcases List.mem_cons.mp hmem with heq | hlater
        · cases heq
          exact if_pos rfl
        · have hne : name ≠ other := by
            rintro rfl
            exact String.lt_irrefl name (hfirst _ hlater)
          exact (if_neg hne).trans (ih hrest hlater)

theorem pairwise_of_ascending {entries : Entries α} (h : Ascending entries) :
    entries.Pairwise fun entry later => entry.1 < later.1 :=
  List.pairwise_map.mp h

theorem nodup_of_ascending {entries : Entries α} (h : Ascending entries) : entries.Nodup := by
  refine (pairwise_of_ascending h).imp ?_
  intro entry later hlt heq
  exact String.lt_irrefl _ (heq ▸ hlt)

/-- Ascending entries with the same lookups are the same. -/
theorem eq_of_sameLookups {entries others : Entries α} (h : Ascending entries)
    (hothers : Ascending others) (hsame : SameLookups entries others) : entries = others := by
  have hperm : entries.Perm others := by
    rw [List.perm_ext_iff_of_nodup (nodup_of_ascending h) (nodup_of_ascending hothers)]
    rintro ⟨name, datum⟩
    rw [← find?_eq_some_iff_mem h, ← find?_eq_some_iff_mem hothers, hsame name]
  refine hperm.eq_of_pairwise ?_ (pairwise_of_ascending h) (pairwise_of_ascending hothers)
  intro entry later _ _ hlt hgt
  exact absurd (String.lt_trans hlt hgt) (String.lt_irrefl _)

/-! ## Lists of pairs -/

theorem find?_ofList_cons (name : String) (pair : String × α) (rest : List (String × α)) :
    find? name (ofList (pair :: rest)) =
      (find? name (ofList rest)).or (if pair.1 = name then some pair.2 else none) := by
  rw [find?_ofList, find?_ofList, List.reverse_cons, List.find?_append]
  generalize rest.reverse.find? (fun other => other.1 = name) = found
  rcases found with _ | other
  · by_cases hname : pair.1 = name
    · simp [hname]
    · simp [hname]
  · rfl

/-- The pairs that no other pair of the same name follows. -/
def lasts : List (String × α) → List (String × α)
  | [] => []
  | pair :: rest => if pair.1 ∈ rest.map Prod.fst then lasts rest else pair :: lasts rest

theorem lasts_subset (pairs : List (String × α)) : lasts pairs ⊆ pairs := by
  induction pairs with
  | nil => exact List.Subset.refl []
  | cons pair rest ih =>
      rw [lasts]
      split
      · exact List.subset_cons_of_subset pair ih
      · exact List.cons_subset_cons pair ih

theorem find?_ofList_isSome {name : String} {pairs : List (String × α)} :
    (find? name (ofList pairs)).isSome = true ↔ name ∈ pairs.map Prod.fst := by
  rw [← mem_names_ofList, ← contains, contains_eq_decide_mem, decide_eq_true_iff]

/-- Pairs that are followed by others of the same name may be left out. -/
theorem ofList_lasts (pairs : List (String × α)) : ofList (lasts pairs) = ofList pairs := by
  refine eq_of_sameLookups (ascending_ofList _) (ascending_ofList _) ?_
  intro name
  induction pairs with
  | nil => rfl
  | cons pair rest ih =>
      rw [find?_ofList_cons, lasts]
      split
      · rename_i hlater
        rw [ih]
        by_cases hname : pair.1 = name
        · -- The name has a datum behind the pair already.
          rw [hname, ← find?_ofList_isSome, Option.isSome_iff_exists] at hlater
          obtain ⟨datum, hdatum⟩ := hlater
          rw [hdatum]
          rfl
        · rw [if_neg hname, Option.or_none]
      · rw [find?_ofList_cons, ih]

theorem nodup_lasts (pairs : List (String × α)) : ((lasts pairs).map Prod.fst).Nodup := by
  induction pairs with
  | nil => exact List.nodup_nil
  | cons pair rest ih =>
      rw [lasts]
      split
      · exact ih
      · rename_i hlater
        refine List.nodup_cons.mpr ⟨?_, ih⟩
        intro hmem
        exact hlater (List.map_subset _ (lasts_subset rest) hmem)

/-! ## Places of last pairs -/

/-- A name stands at a place for the last time. -/
structure LastAt (names : List String) (name : String) (place : Nat) : Prop where
  here : names[place]? = some name
  later : ∀ further, place < further → names[further]? ≠ some name

theorem LastAt.unique {names : List String} {name : String} {place other : Nat}
    (h : LastAt names name place) (hother : LastAt names name other) : place = other := by
  rcases Nat.lt_trichotomy place other with hlt | heq | hgt
  · exact absurd hother.here (h.later other hlt)
  · exact heq
  · exact absurd h.here (hother.later place hgt)

theorem exists_lastAt {names : List String} {name : String} (h : name ∈ names) :
    ∃ place, LastAt names name place := by
  induction names with
  | nil => cases h
  | cons first rest ih =>
      by_cases hrest : name ∈ rest
      · obtain ⟨place, hhere, hlater⟩ := ih hrest
        refine ⟨place + 1, hhere, ?_⟩
        intro further hlt
        obtain ⟨further, rfl⟩ := Nat.exists_eq_succ_of_ne_zero (Nat.ne_zero_of_lt hlt)
        exact hlater further (Nat.lt_of_succ_lt_succ hlt)
      · obtain rfl : name = first := (List.mem_cons.mp h).resolve_right hrest
        refine ⟨0, rfl, ?_⟩
        intro further hlt hfurther
        obtain ⟨further, rfl⟩ := Nat.exists_eq_succ_of_ne_zero (Nat.ne_zero_of_lt hlt)
        exact hrest (List.mem_of_getElem? hfurther)

/-- At the last place of a name stands the datum that is found under it. -/
theorem find?_ofList_of_lastAt {pairs : List (String × α)} {name : String} {place : Nat} {datum : α}
    (h : LastAt (pairs.map Prod.fst) name place) (hpair : pairs[place]? = some (name, datum)) :
    find? name (ofList pairs) = some datum := by
  obtain ⟨hlt, hget⟩ := List.getElem?_eq_some_iff.mp hpair
  have hsplit : pairs = pairs.take place ++ (name, datum) :: pairs.drop (place + 1) := by
    rw [← hget, ← List.drop_eq_getElem_cons hlt, List.take_append_drop]
  have hafter : ∀ later ∈ pairs.drop (place + 1), later.1 ≠ (name, datum).1 := by
    intro later hlater heq
    obtain ⟨between, hbetween⟩ := List.mem_iff_getElem?.mp hlater
    rw [List.getElem?_drop] at hbetween
    apply h.later (place + 1 + between) (by omega)
    rw [List.getElem?_map, hbetween, Option.map_some, heq]
  rw [hsplit]
  exact find?_ofList_of_last hafter

/-- The last places of the names of one list can be carried to those of another, with all
positions kept apart. -/
theorem exists_injective_lastAt (names others : List String) :
    ∃ carry : Nat → Nat, Function.Injective carry ∧
      ∀ name place other, LastAt names name place → LastAt others name other →
        carry other = place := by
  classical
  -- Positions that are no last places go behind all those that are.
  let carry (other : Nat) : Nat :=
    if h : ∃ place name, LastAt names name place ∧ LastAt others name other then h.choose
    else other + names.length
  have hcarry {name : String} {place other : Nat} (hplace : LastAt names name place)
      (hother : LastAt others name other) : carry other = place := by
    have hex : ∃ place name, LastAt names name place ∧ LastAt others name other :=
      ⟨place, name, hplace, hother⟩
    obtain ⟨further, hfurther, hsame⟩ := hex.choose_spec
    obtain rfl : name = further := Option.some.inj (hother.here.symm.trans hsame.here)
    rw [show carry other = hex.choose from dif_pos hex]
    exact hfurther.unique hplace
  have hrange (other : Nat) : carry other < names.length ∧
      (∃ name, LastAt names name (carry other) ∧ LastAt others name other) ∨
        carry other = other + names.length := by
    by_cases hex : ∃ place name, LastAt names name place ∧ LastAt others name other
    · obtain ⟨place, name, hplace, hother⟩ := hex
      rw [hcarry hplace hother]
      exact .inl ⟨(List.getElem?_eq_some_iff.mp hplace.here).1, name, hplace, hother⟩
    · exact .inr (dif_neg hex)
  refine ⟨carry, ?_, fun name place other => hcarry⟩
  intro one other heq
  rcases hrange one with ⟨hone, name, hplace, hlast⟩ | hone
  · rcases hrange other with ⟨-, further, hfurther, hlater⟩ | hother
    · rw [heq] at hplace
      obtain rfl : name = further := Option.some.inj (hplace.here.symm.trans hfurther.here)
      exact hlast.unique hlater
    · omega
  · rcases hrange other with ⟨hother, -⟩ | hother
    · omega
    · omega

end Entries

end Stencil
