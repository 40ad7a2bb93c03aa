import Stencil.Proofs.Number.Exact
import Stencil.Proofs.Render.Bound
import Stencil.Proofs.Render.LoopFlags

/-!
# Positions in an array

An index that is a number has the item at a position exactly if its value is that position, and
is null for every other number.  A loop counts the items of an array with numbers, and as long
as these are below `2 ^ 53` each of them equals the position that it was made from.  So the key
of a round leads back to the item of the round.

Names that no round binds anew keep their values inside the rounds, whatever else the rounds
bind.  That carries the array, the item and the key from where they were bound to every place
that the body of the loop comes to.
-/

namespace Stencil

variable {σ : Type}

/-! ## Indices -/

section Indices

variable {value position : Value} {identity : Identity} {items : List Value} {n : Number}

theorem Value.item_of_array (hvalue : value.unwrapped = .array identity items)
    (hposition : position.unwrapped = .number n) :
    value.item position = (n.toNat?.bind fun i => items[i]?).getD .null := by
  rw [item, hvalue, hposition]

/-- A number that equals a position has the item at that position. -/
theorem Value.item_of_position (hvalue : value.unwrapped = .array identity items)
    (hposition : position.unwrapped = .number n) {i : Nat} {found : Value}
    (hfound : items[i]? = some found) (hn : n.toNat? = some i) : value.item position = found := by
  rw [item_of_array hvalue hposition, hn, Option.bind_some, hfound, Option.getD_some]

/-- A number that equals no position has nothing. -/
theorem Value.item_of_no_position (hvalue : value.unwrapped = .array identity items)
    (hposition : position.unwrapped = .number n)
    (hnone : ∀ i < items.length, n.toNat? ≠ some i) : value.item position = .null := by
  rw [item_of_array hvalue hposition]
  cases hn : n.toNat? with
  | none => rfl
  | some i =>
      have hbeyond : items.length ≤ i := Nat.not_lt.mp fun hlt => hnone i hlt hn
      rw [Option.bind_some, List.getElem?_eq_none hbeyond, Option.getD_none]

end Indices

/-! ## Names that are not bound anew -/

namespace LoopHeader

/-- A round of a loop binds a name: to the item or to the key, or as the context of a loop with
a label. -/
def Rebinds (header : LoopHeader) (name : String) : Prop :=
  header.Binds name ∨ header.label.isSome = true ∧ name = LoopContext.contextName

variable {header : LoopHeader} {name : String}

theorem find?_openScope_of_not_rebinds (h : ¬ header.Rebinds name) (depth : Nat)
    (vars : Variables) :
    Entries.find? name (LoopContext.openScope depth header.label vars).vars =
      Entries.find? name vars := by
  cases hlabel : header.label with
  | none => rfl
  | some label =>
      rw [LoopContext.vars_openScope]
      apply Entries.find?_insert_of_ne
      intro hname
      exact h (Or.inr ⟨Option.isSome_of_mem hlabel, hname⟩)

theorem find?_bindRound_of_not_rebinds (h : ¬ header.Rebinds name) (depth : Nat) (first last : Bool)
    (entry : Value × Value) (scope : Scope) :
    Entries.find? name (header.bindRound depth first last entry scope).vars =
      Entries.find? name scope.vars := by
  have hentry := find?_bindEntry_of_not_binds (fun hbinds => h (Or.inl hbinds)) entry scope.vars
  rw [bindRound]
  cases hlabel : header.label with
  | none =>
      rw [LoopContext.updateScope, vars_bind]
      exact hentry
  | some label =>
      have hne : name ≠ LoopContext.contextName := by
        intro hname
        exact h (Or.inr ⟨Option.isSome_of_mem hlabel, hname⟩)
      rw [LoopContext.vars_updateScope, vars_bind, Entries.find?_modify_of_ne hne]
      exact hentry

/-- A name that the rounds do not bind has the value in every round that it had in front of them. -/
theorem find?_entered_of_not_rebinds {depth : Nat} {body : Surroundings σ → String × Surroundings σ}
    (h : ¬ header.Rebinds name)
    (hrestores : ∀ state, Entries.SameLookups (body state).2.vars state.vars) {first : Bool}
    {entries : List (Value × Value)} {scope : Scope} {host : σ} {inside : Surroundings σ}
    (hinside : inside ∈ header.entered depth body first entries scope host) :
    Entries.find? name inside.vars = Entries.find? name scope.vars := by
  induction entries generalizing first scope host with
  | nil => cases hinside
  | cons entry rest ih =>
      have hround := find?_bindRound_of_not_rebinds h depth first rest.isEmpty entry scope
      rw [entered] at hinside
      rcases List.mem_cons.mp hinside with rfl | hlater
      · exact hround
      · rw [ih hlater]
        exact (hrestores _ name).trans hround

theorem find?_roundStates_of_not_rebinds (h : ¬ header.Rebinds name) {registry : Registry σ}
    {body : List Node} {depth : Nat} {state inside : Surroundings σ}
    (hinside : inside ∈ header.roundStates registry body depth state) :
    Entries.find? name inside.vars = Entries.find? name state.vars := by
  rw [find?_entered_of_not_rebinds h (Node.sameLookups_renderAll registry body (depth + 1)) hinside,
    find?_openScope_of_not_rebinds h]

end LoopHeader

namespace Place

variable {registry : Registry σ} {place here : Place σ} {name : String}

/-- A step keeps the value of a name, unless it enters a round that binds the name. -/
theorem find?_of_leads {round : Option Round} (h : place.Leads registry round here)
    (hname : ∀ entered ∈ round, ¬ entered.header.Rebinds name) :
    Entries.find? name here.state.vars = Entries.find? name place.state.vars := by
  cases round with
  | none => exact sameLookups_of_leads h name
  | some round =>
      have hround := hname round rfl
      cases h with
      | round header body ifEmpty rest depth state index inside h =>
          exact LoopHeader.find?_roundStates_of_not_rebinds hround (List.mem_of_getElem? h)

/-- Wherever rendering comes to, a name that no round on the way binds has the value that it had
before. -/
theorem find?_of_reaches {rounds : List Round} (h : place.Reaches registry rounds here)
    (hname : ∀ round ∈ rounds, ¬ round.header.Rebinds name) :
    Entries.find? name here.state.vars = Entries.find? name place.state.vars := by
  induction h with
  | start => rfl
  | @step rounds middle here round _ hstep ih =>
      have hmiddle := ih fun other hother => hname other (List.mem_append_right _ hother)
      rw [find?_of_leads hstep, hmiddle]
      intro entered hentered
      exact hname entered (List.mem_append_left _ (Option.mem_toList.mpr hentered))

end Place

/-! ## Keys of rounds -/

namespace LoopHeader

variable {identity : Identity} {items : List Value}

/-- In a round over an array the key is bound to the number of the position, and the item to
what is there. -/
theorem bound_in_rounds_of_array {header : LoopHeader} (hdistinct : header.key ≠ some header.item)
    (hlabel : header.label = none) {registry : Registry σ} {body : List Node} {depth : Nat}
    {state inside : Surroundings σ}
    (harray : (header.source.eval registry state.vars state.host).1.unwrapped =
      .array identity items) {index : Nat}
    (h : (header.roundStates registry body depth state)[index]? = some inside) :
    ∃ found, items[index]? = some found ∧ Entries.find? header.item inside.vars = some found ∧
      ∀ key, header.key = some key →
        Entries.find? key inside.vars = some (.number (Number.ofNat index)) := by
  obtain ⟨entry, before, hentry, hvars⟩ := exists_bindRound_of_entered h
  rw [Value.iteration_of_array harray, List.getElem?_mapIdx] at hentry
  obtain ⟨found, hfound, rfl⟩ := Option.map_eq_some_iff.mp hentry
  have hcontext : ¬ header.TakesForContext found := by
    rintro ⟨hsome, -⟩
    rw [hlabel] at hsome
    cases hsome
  refine ⟨found, hfound, ?_, ?_⟩
  · rw [hvars, find?_bindRound (find?_bindEntry_item hdistinct _ before.vars), found_item hcontext]
  · intro key hkey
    rw [hvars, find?_bindRound (find?_bindEntry_key hkey _ before.vars),
      found_of_not_map fun _ _ => Value.noConfusion]

/-- A loop over a variable, without a label, binds no other names than those of the item and the
key. -/
theorem not_rebinds_of_ne {source : Expr} {item key name : String} (hitem : name ≠ item)
    (hkey : name ≠ key) : ¬ Rebinds ⟨source, item, some key, none⟩ name := by
  rintro ((heq | heq) | ⟨hlabel, -⟩)
  · exact hitem heq
  · exact hkey (Option.some.inj heq).symm
  · cases hlabel

/-- At every place in a round over the array of a variable, where none of the names is bound
anew, the variable has the array, the key the number of the round and the item what the array
has there. -/
theorem values_of_reaches {registry : Registry σ} {source item key : String} {body : List Node}
    {depth : Nat} {state inside : Surroundings σ} (hitem : source ≠ item) (hkey : source ≠ key)
    (hdistinct : item ≠ key) (harray : (state.vars.value source).unwrapped = .array identity items)
    {index : Nat}
    (hinside :
      (roundStates ⟨.variable source, item, some key, none⟩ registry body depth state)[index]? =
        some inside)
    {rounds : List Round} {here : Place σ}
    (hreaches : Place.Reaches registry ⟨.block body, depth + 1, inside⟩ rounds here)
    (hnames : ∀ round ∈ rounds, ∀ name ∈ [source, item, key], ¬ round.header.Rebinds name) :
    (here.state.vars.value source).unwrapped = .array identity items ∧
      here.state.vars.value key = .number (Number.ofNat index) ∧
      items[index]? = some (here.state.vars.value item) := by
  have hkept {name : String} (hname : name ∈ [source, item, key]) :
      here.state.vars.value name = inside.vars.value name := by
    rw [Variables.value, Variables.value,
      Place.find?_of_reaches hreaches fun round hround => hnames round hround name hname]
  have hvalue : ((Expr.variable source).eval registry state.vars state.host).1.unwrapped =
      .array identity items := harray
  obtain ⟨found, hfound, hitemBound, hkeyBound⟩ :=
    bound_in_rounds_of_array (fun heq => hdistinct (Option.some.inj heq).symm) rfl hvalue hinside
  refine ⟨?_, ?_, ?_⟩
  · rw [hkept (by simp), Variables.value,
      find?_roundStates_of_not_rebinds (not_rebinds_of_ne hitem hkey)
        (List.mem_of_getElem? hinside)]
    exact harray
  · rw [hkept (by simp), Variables.value, hkeyBound key rfl]
    rfl
  · rw [hkept (by simp), Variables.value, hitemBound]
    exact hfound

end LoopHeader

namespace Place

/-- Where the array, the key and the item of a round are still bound, the key leads to the item. -/
theorem valueOf_index_key {registry : Registry σ} {here : Place σ} {source key : String}
    {found : Value} {identity : Identity} {items : List Value} {index : Nat}
    (harray : (here.state.vars.value source).unwrapped = .array identity items)
    (hlength : items.length < 2 ^ 53)
    (hkey : here.state.vars.value key = .number (Number.ofNat index))
    (hfound : items[index]? = some found) :
    here.valueOf registry (.index (.variable source) (.variable key)) = found := by
  obtain ⟨hindex, -⟩ := List.getElem?_eq_some_iff.mp hfound
  have hposition := Number.toNat?_ofNat (Nat.lt_trans hindex hlength)
  have hnumber : (here.state.vars.value key).unwrapped = .number (Number.ofNat index) := by
    rw [hkey]
    rfl
  exact Value.item_of_position harray hnumber hfound hposition

end Place

/-- An index into an array has the item at a position if it equals that position, and is null if
it equals none.  So in the rounds of a loop over an array, wherever nothing binds the names of
the array, the item and the key anew, the array has the item of the round at the key of the
round. -/
theorem index_at_positions (registry : Registry σ) :
    (∀ (base position : Expr) (vars : Variables) (host : σ) (identity : Identity)
        (items : List Value) (n : Number),
      let left := base.eval registry vars host
      let right := position.eval registry vars left.2
      let found := ((Expr.index base position).eval registry vars host).1
      left.1.unwrapped = .array identity items → right.1.unwrapped = .number n →
        (∀ (i : Nat) (item : Value), items[i]? = some item → n.toRat? = some (i : ℚ) →
          found = item) ∧
          ((∀ i < items.length, n.toRat? ≠ some (i : ℚ)) → found = .null)) ∧
      ∀ (source item key : String) (body : List Node) (depth : Nat) (state : Surroundings σ)
        (identity : Identity) (items : List Value),
        let header : LoopHeader := ⟨.variable source, item, some key, none⟩
        let states := header.roundStates registry body depth state
        source ≠ item → source ≠ key → item ≠ key →
        (state.vars.value source).unwrapped = .array identity items →
        items.length < 2 ^ 53 →
          states.length = items.length ∧
            ∀ (index : Nat) (inside : Surroundings σ), states[index]? = some inside → ∀ rounds here,
              Place.Reaches registry ⟨.block body, depth + 1, inside⟩ rounds here →
              (∀ round ∈ rounds, ∀ name ∈ [source, item, key], ¬ round.header.Rebinds name) →
                items[index]? = some (here.valueOf registry (.variable item)) ∧
                  here.valueOf registry (.index (.variable source) (.variable key)) =
                    here.valueOf registry (.variable item) := by
  constructor
  · intro base position vars host identity items n left right found harray hnumber
    constructor
    · intro i item hitem hn
      exact Value.item_of_position harray hnumber hitem (Number.toNat?_eq_some_iff.mpr hn)
    · intro hnone
      apply Value.item_of_no_position harray hnumber
      intro i hi hn
      exact hnone i hi (Number.toNat?_eq_some_iff.mp hn)
  · intro source item key body depth state identity items header states hitem hkey hdistinct harray
      hlength
    have hvalue : (header.source.eval registry state.vars state.host).1.unwrapped =
        .array identity items := harray
    constructor
    · have hcount : states.length =
          (header.source.eval registry state.vars state.host).1.iteration.length :=
        LoopHeader.length_entered header depth _ true _ _ _
      rw [hcount, Value.iteration_of_array hvalue, List.length_mapIdx]
    · intro index inside hinside rounds here hreaches hnames
      obtain ⟨harrayHere, hkeyHere, hitemHere⟩ :=
        LoopHeader.values_of_reaches hitem hkey hdistinct harray hinside hreaches hnames
      exact ⟨hitemHere, Place.valueOf_index_key harrayHere hlength hkeyHere hitemHere⟩

/-- An array in an optional layer, with the other zero and one and a half for indices, and the
last of two rounds over it. -/
theorem index_at_positions_rows :
    let rows := Value.present (.array (.host [0]) [.string "a", .present (.string "b")])
    let state : Surroundings Unit := ⟨[("rows", rows)], ()⟩
    let header : LoopHeader := ⟨.variable "rows", "row", some "place", none⟩
    let found := fun n : Number =>
      ((Expr.index (.variable "rows") (.number n)).eval Registry.builtin state.vars ()).1
    found (.finite true 0 0 (by decide)) = .string "a" ∧
      found (.finite false (3 * 2 ^ 51) 1022 (by decide)) = .null ∧
      ∃ inside, (header.roundStates Registry.builtin [] 0 state)[1]? = some inside ∧
        Place.valueOf Registry.builtin ⟨.block [], 1, inside⟩
          (.index (.variable "rows") (.variable "place")) = .present (.string "b") := by
  intro rows state header found
  let items := [Value.string "a", .present (.string "b")]
  obtain ⟨hindex, hloop⟩ := index_at_positions (Registry.builtin : Registry Unit)
  obtain ⟨hzero, -⟩ :=
    hindex (.variable "rows") (.number (.finite true 0 0 (by decide))) state.vars ()
      (.host [0]) items _ rfl rfl
  obtain ⟨-, hhalf⟩ :=
    hindex (.variable "rows") (.number (.finite false (3 * 2 ^ 51) 1022 (by decide)))
      state.vars () (.host [0]) items _ rfl rfl
  obtain ⟨hlength, hrounds⟩ := hloop "rows" "row" "place" [] 0 state (.host [0]) items (by decide)
    (by decide) (by decide) rfl (by decide)
  have hlong : 1 < (header.roundStates Registry.builtin [] 0 state).length :=
    Nat.lt_of_lt_of_eq Nat.one_lt_two hlength.symm
  have hlast := List.getElem?_eq_getElem hlong
  refine ⟨hzero 0 _ rfl ?_, hhalf ?_, _, hlast, ?_⟩
  · rw [← Number.toNat?_eq_some_iff]
    decide +kernel
  · intro i _ hvalue
    have hnone : (Number.finite false (3 * 2 ^ 51) 1022 (by decide)).toNat? = none := by
      decide +kernel
    rw [← Number.toNat?_eq_some_iff, hnone] at hvalue
    cases hvalue
  · obtain ⟨hitem, hkey⟩ := hrounds 1 _ hlast [] _ .start nofun
    exact hkey.trans (Option.some.inj hitem).symm

end Stencil
