import Mathlib.Data.List.Perm.Basic
import Stencil.Host.Datum
import Stencil.Host.Typed
import Stencil.Proofs.Value.Structure

/-!
# Both ways to a value agree

A host value of a known type has its value at once, and it can also hand itself over part by
part.  The parts of a sequence come in order, those of a map in any order, key before value.
Both ways give values of one structure, and the second fails nowhere: what it could stumble
over, a key that is no text or a value without a key, is not among the parts of such a value.

The arrays and maps of the two values are different ones, so it is the structure in which they
agree.  Optional layers are part of it.
-/

namespace Stencil

namespace Typed

/-- Host values made of truth values, numbers, texts, optional values, sequences, and maps with
distinct names. -/
inductive IsPlain : Typed → Prop
  | boolean (flag : Bool) : IsPlain (.boolean flag)
  | integer (n : Int) : IsPlain (.integer n)
  | double (n : Number) : IsPlain (.double n)
  | single (n : Number) : IsPlain (.single n)
  | string (text : String) : IsPlain (.string text)
  | nothing : IsPlain .nothing
  | something {inner : Typed} (hinner : IsPlain inner) : IsPlain (.something inner)
  | sequence {items : List Typed} (hitems : ∀ item ∈ items, IsPlain item) :
      IsPlain (.sequence items)
  | map {entries : List (String × Typed)} (hdistinct : (entries.map Prod.fst).Nodup)
      (hvalues : ∀ entry ∈ entries, IsPlain entry.2) : IsPlain (.map entries)

/-- How a host value hands itself over.  The parts of a map may come in another order than that
of its entries. -/
inductive HandsOver : Typed → Datum → Prop
  | boolean (flag : Bool) : HandsOver (.boolean flag) (.boolean flag)
  | integer (n : Int) : HandsOver (.integer n) (.integer n)
  | double (n : Number) : HandsOver (.double n) (.double n)
  | single (n : Number) : HandsOver (.single n) (.single n)
  | string (text : String) : HandsOver (.string text) (.string text)
  | nothing : HandsOver .nothing .nothing
  | something {inner : Typed} {datum : Datum} (hinner : HandsOver inner datum) :
      HandsOver (.something inner) (.something datum)
  | sequence {items : List Typed} {data : List Datum} (hitems : List.Forall₂ HandsOver items data) :
      HandsOver (.sequence items) (.sequence data)
  | map {entries : List (String × Typed)} {data : List Datum} {pairs : List (Datum × Datum)}
      (hvalues : List.Forall₂ HandsOver (entries.map Prod.snd) data)
      (hpairs : pairs.Perm ((entries.map fun entry => Datum.string entry.1).zip data)) :
      HandsOver (.map entries) (.ofPairs pairs)

end Typed

/-! ## Conversion of parts -/

namespace Datum

/-- Host data that are converted, wherever they stand, to a value of the structure of another. -/
def Converts (datum : Datum) (expected : Value) : Prop :=
  ∀ path, ∃ value, datum.toValue path = .ok value ∧ value.SameStructure expected

theorem itemValues_of_converts {items : List Datum} {expected : List Value}
    (h : List.Forall₂ Converts items expected) (path : List Nat) (position : Nat) :
    ∃ values, itemValues path position items = .ok values ∧
      values.map Value.bare = expected.map Value.bare := by
  induction h generalizing position with
  | nil => exact ⟨[], rfl, rfl⟩
  | cons hitem hrest ih =>
      obtain ⟨value, hvalue, hsame⟩ := hitem (position :: path)
      obtain ⟨values, hvalues, hfurther⟩ := ih (position + 1)
      refine ⟨value :: values, ?_, ?_⟩
      · rw [itemValues, hvalue, hvalues]
        rfl
      · rw [List.map_cons, List.map_cons, hfurther, hsame]

/-- A key that is a text, and a datum that is converted to a value of the structure of another. -/
def PairConverts (pair : Datum × Datum) (expected : String × Value) : Prop :=
  pair.1 = .string expected.1 ∧ pair.2.Converts expected.2

theorem partEntries_pair (path : List Nat) (position : Nat) (before : Entries Value) (name : String)
    (datum : Datum) (rest : List MapPart) :
    partEntries path position none before (.key (.string name) :: .value datum :: rest) =
      (datum.toValue (position :: path)).bind fun value =>
        partEntries path (position + 1) none (Entries.insert name value before) rest :=
  rfl

/-- Pairs with texts as keys are put into a map one after the other. -/
theorem partEntries_of_converts {pairs : List (Datum × Datum)} {expected : List (String × Value)}
    (h : List.Forall₂ PairConverts pairs expected) (path : List Nat) (position : Nat)
    (before : Entries Value) :
    ∃ entries, partEntries path position none before
          (pairs.flatMap fun pair => [.key pair.1, .value pair.2]) =
        .ok (entries.foldl (fun entries pair => Entries.insert pair.1 pair.2 entries) before) ∧
      Entries.mapData Value.bare entries = Entries.mapData Value.bare expected := by
  induction h generalizing position before with
  | nil => exact ⟨[], rfl, rfl⟩
  | @cons pair named pairs expected hpair hrest ih =>
      obtain ⟨key, datum⟩ := pair
      obtain ⟨name, other⟩ := named
      obtain ⟨rfl, hdatum⟩ := hpair
      obtain ⟨value, hvalue, hsame⟩ := hdatum (position :: path)
      obtain ⟨entries, hentries, hfurther⟩ := ih (position + 1) (Entries.insert name value before)
      refine ⟨(name, value) :: entries, ?_, ?_⟩
      · rw [List.flatMap_cons, List.cons_append, List.cons_append, List.nil_append,
          partEntries_pair, hvalue]
        exact hentries
      · rw [Entries.mapData, List.map_cons, hsame]
        exact congrArg ((name, other.bare) :: ·) hfurther

/-- A map with distinct names is converted alike from its pairs in any order. -/
theorem converts_ofPairs {given pairs : List (Datum × Datum)} {expected : List (String × Value)}
    (hpairs : List.Forall₂ PairConverts given expected) (horder : pairs.Perm given)
    (hdistinct : (expected.map Prod.fst).Nodup) (identity : Identity) :
    (ofPairs pairs).Converts (.map identity (Entries.ofList expected)) := by
  intro path
  obtain ⟨ordered, hordered, hperm⟩ := List.perm_comp_forall₂ horder hpairs
  obtain ⟨entries, hentries, hsame⟩ := partEntries_of_converts hordered path 0 []
  refine ⟨.map (.host path) (Entries.ofList entries), ?_, ?_⟩
  · rw [ofPairs, toValue, hentries]
    rfl
  · have hbare : Entries.mapData Value.bare (Entries.ofList entries) =
        Entries.mapData Value.bare (Entries.ofList expected) := by
      rw [Entries.mapData_ofList, hsame, ← Entries.mapData_ofList,
        Entries.ofList_perm hperm.symm hdistinct]
    rw [Value.SameStructure, Value.bare, Value.bare, Value.bareEntries_eq_mapData,
      Value.bareEntries_eq_mapData, hbare]

end Datum

/-! ## Host values of known types -/

namespace Typed

theorem names_entryValues (place : List Nat) (position : Nat) (entries : List (String × Typed)) :
    (entryValues place position entries).map Prod.fst = entries.map Prod.fst := by
  induction entries generalizing position with
  | nil => rfl
  | cons entry rest ih =>
      obtain ⟨name, item⟩ := entry
      rw [entryValues, List.map_cons, ih, List.map_cons]

mutual

/-- What a host value hands over is converted to a value of the structure of its own. -/
theorem converts_of_handsOver (x : Typed) (hplain : x.IsPlain) {datum : Datum}
    (h : x.HandsOver datum) (place : List Nat) : datum.Converts (x.toValue place) := by
  match x with
  | .boolean flag =>
      cases h
      exact fun path => ⟨_, rfl, rfl⟩
  | .integer n =>
      cases h
      exact fun path => ⟨_, rfl, rfl⟩
  | .double n =>
      cases h
      exact fun path => ⟨_, rfl, rfl⟩
  | .single n =>
      cases h
      exact fun path => ⟨_, rfl, rfl⟩
  | .string text =>
      cases h
      exact fun path => ⟨_, rfl, rfl⟩
  | .nothing =>
      cases h
      exact fun path => ⟨_, rfl, rfl⟩
  | .something inner =>
      cases hplain with
      | something hinside =>
          cases h with
          | @something _ datum hinner =>
              intro path
              obtain ⟨value, hvalue, hsame⟩ := converts_of_handsOver inner hinside hinner place path
              refine ⟨Value.optional (some value), ?_, Value.sameStructure_optional hsame⟩
              rw [Datum.toValue, hvalue]
              rfl
  | .sequence items =>
      cases hplain with
      | sequence hitems =>
          cases h with
          | @sequence _ data hdata =>
              intro path
              obtain ⟨values, hvalues, hsame⟩ :=
                Datum.itemValues_of_converts (converts_items items hitems hdata place 0) path 0
              refine ⟨.array (.host path) values, ?_, ?_⟩
              · rw [Datum.toValue, hvalues]
                rfl
              · rw [toValue, Value.SameStructure, Value.bare, Value.bare, Value.bareItems_eq_map,
                  Value.bareItems_eq_map, hsame]
  | .map entries =>
      cases hplain with
      | map hdistinct hvalues =>
          cases h with
          | map hdata hpairs =>
              refine Datum.converts_ofPairs
                (converts_entries entries hvalues hdata place 0) hpairs ?_ _
              rw [names_entryValues]
              exact hdistinct
  | .time instant => cases hplain
  | .value whole => cases hplain

theorem converts_items (items : List Typed) (hplain : ∀ item ∈ items, item.IsPlain)
    {data : List Datum} (h : List.Forall₂ HandsOver items data) (place : List Nat)
    (position : Nat) :
    List.Forall₂ Datum.Converts data (itemValues place position items) := by
  match items, h with
  | [], .nil => exact .nil
  | item :: rest, .cons hitem hrest =>
      rw [List.forall_mem_cons] at hplain
      exact .cons (converts_of_handsOver item hplain.1 hitem (position :: place))
        (converts_items rest hplain.2 hrest place (position + 1))

theorem converts_entries (entries : List (String × Typed))
    (hplain : ∀ entry ∈ entries, entry.2.IsPlain) {data : List Datum}
    (h : List.Forall₂ HandsOver (entries.map Prod.snd) data) (place : List Nat) (position : Nat) :
    List.Forall₂ Datum.PairConverts ((entries.map fun entry => Datum.string entry.1).zip data)
      (entryValues place position entries) := by
  match entries, h with
  | [], .nil => exact .nil
  | (name, item) :: rest, .cons hitem hrest =>
      rw [List.forall_mem_cons] at hplain
      exact .cons ⟨rfl, converts_of_handsOver item hplain.1 hitem (position :: place)⟩
        (converts_entries rest hplain.2 hrest place (position + 1))

end

mutual

theorem exists_handsOver (x : Typed) (hplain : x.IsPlain) : ∃ datum, x.HandsOver datum := by
  match x with
  | .boolean flag => exact ⟨_, .boolean flag⟩
  | .integer n => exact ⟨_, .integer n⟩
  | .double n => exact ⟨_, .double n⟩
  | .single n => exact ⟨_, .single n⟩
  | .string text => exact ⟨_, .string text⟩
  | .nothing => exact ⟨_, .nothing⟩
  | .something inner =>
      cases hplain with
      | something hinside =>
          obtain ⟨datum, hinner⟩ := exists_handsOver inner hinside
          exact ⟨_, .something hinner⟩
  | .sequence items =>
      cases hplain with
      | sequence hitems =>
          obtain ⟨data, hdata⟩ := exists_itemsHandOver items hitems
          exact ⟨_, .sequence hdata⟩
  | .map entries =>
      cases hplain with
      | map hdistinct hvalues =>
          obtain ⟨data, hdata⟩ := exists_valuesHandOver entries hvalues
          exact ⟨_, .map hdata (List.Perm.refl _)⟩
  | .time instant => cases hplain
  | .value whole => cases hplain

theorem exists_itemsHandOver (items : List Typed) (hplain : ∀ item ∈ items, item.IsPlain) :
    ∃ data, List.Forall₂ HandsOver items data := by
  match items with
  | [] => exact ⟨[], .nil⟩
  | item :: rest =>
      rw [List.forall_mem_cons] at hplain
      obtain ⟨datum, hitem⟩ := exists_handsOver item hplain.1
      obtain ⟨data, hrest⟩ := exists_itemsHandOver rest hplain.2
      exact ⟨datum :: data, .cons hitem hrest⟩

theorem exists_valuesHandOver (entries : List (String × Typed))
    (hplain : ∀ entry ∈ entries, entry.2.IsPlain) :
    ∃ data, List.Forall₂ HandsOver (entries.map Prod.snd) data := by
  match entries with
  | [] => exact ⟨[], .nil⟩
  | (name, item) :: rest =>
      rw [List.forall_mem_cons] at hplain
      obtain ⟨datum, hitem⟩ := exists_handsOver item hplain.1
      obtain ⟨data, hrest⟩ := exists_valuesHandOver rest hplain.2
      exact ⟨datum :: data, .cons hitem hrest⟩

end

/-- A plain host value can hand itself over, and in whatever order it does so, its parts are
converted, to a value of the structure of the one that it has at once. -/
theorem toValue_handedOver {x : Typed} (h : x.IsPlain) :
    (∃ datum, x.HandsOver datum) ∧
      ∀ datum, x.HandsOver datum → ∀ path place,
        ∃ value, datum.toValue path = .ok value ∧ value.SameStructure (x.toValue place) :=
  ⟨exists_handsOver x h, fun _ hdatum path place => converts_of_handsOver x h hdatum place path⟩

/-- A map in another order than its names, with layers inside layers, not-a-number, and an
integer beyond those that have numbers of their own. -/
theorem toValue_handedOver_nested :
    let large : Int := 9007199254740993
    let x : Typed :=
      .map [("b", .something (.something (.integer large))),
        ("a", .sequence [.double .nan, .nothing, .map []])]
    let datum : Datum :=
      .ofPairs [(.string "a", .sequence [.double .nan, .nothing, .ofPairs []]),
        (.string "b", .something (.something (.integer large)))]
    x.IsPlain ∧ x.HandsOver datum ∧
      ∃ value, datum.toValue [] = .ok value ∧ value.SameStructure (x.toValue [1]) := by
  intro large x datum
  have hplain : x.IsPlain := by
    refine .map (by decide) ?_
    simp only [List.forall_mem_cons]
    refine ⟨.something (.something (.integer _)), .sequence ?_, nofun⟩
    simp only [List.forall_mem_cons]
    exact ⟨.double _, .nothing, .map List.nodup_nil nofun, nofun⟩
  have hnone : List.Forall₂ HandsOver (([] : List (String × Typed)).map Prod.snd) [] := .nil
  have hempty : HandsOver (.map []) (.ofPairs []) := .map hnone (List.Perm.refl _)
  have hdatum : x.HandsOver datum := by
    refine .map (.cons (.something (.something (.integer large)))
      (.cons (.sequence (.cons (.double .nan) (.cons .nothing (.cons hempty .nil)))) .nil)) ?_
    exact List.Perm.swap _ _ _
  exact ⟨hplain, hdatum, (toValue_handedOver hplain).2 datum hdatum [] [1]⟩

end Typed

end Stencil
