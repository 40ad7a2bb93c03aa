import Stencil.Host.Typed
import Stencil.Proofs.Host.Faults
import Stencil.Proofs.Value.Relabelling

/-!
# What a host builds at another place

The place at which a host's value stands shows in the labels of its containers and nowhere else.
So a value that is built at another place has the same structure, host data that are refused at
one place are refused at all, and a move of labels that carries one place to another, with all
that is below it, carries the value along.  What the host has put into the value as a whole must
not be touched by the move.
-/

namespace Stencil

namespace Value

variable (g : List Nat → List Nat)

theorem optional_relabel (value : Value) :
    optional (some (value.relabel g)) = (optional (some value)).relabel g := by
  rcases value with _ | _ | _ | _ | _ | _ | _ | _ | _ <;> rfl

theorem bare_map_ofList (identity : Identity) (pairs : List (String × Value)) :
    (map identity (Entries.ofList pairs)).bare =
      map (.host []) (Entries.ofList (Entries.mapData bare pairs)) := by
  rw [bare_map, Entries.mapData_ofList]

theorem relabel_map_ofList (identity : Identity) (pairs : List (String × Value)) :
    (map identity (Entries.ofList pairs)).relabel g =
      map (identity.move g) (Entries.ofList (Entries.mapData (relabel g) pairs)) := by
  rw [relabel_map, Entries.mapData_ofList]

end Value

/-! ## Typed values -/

namespace Typed

mutual

/-- The values that a host has put into a typed value as they were. -/
def wholes : Typed → List Value
  | something inner => inner.wholes
  | sequence items => itemWholes items
  | map entries => entryWholes entries
  | value whole => [whole]
  | boolean _ | integer _ | double _ | single _ | string _ | nothing | time _ => []

/-- The values in the items of a sequence. -/
def itemWholes : List Typed → List Value
  | [] => []
  | item :: rest => item.wholes ++ itemWholes rest

/-- The values in the entries of a map. -/
def entryWholes : List (String × Typed) → List Value
  | [] => []
  | (_, item) :: rest => item.wholes ++ entryWholes rest

end

mutual

theorem sameStructure_toValue (x : Typed) (path place : List Nat) :
    (x.toValue path).SameStructure (x.toValue place) := by
  match x with
  | .boolean _ | .integer _ | .double _ | .single _ | .string _ | .nothing | .time _ | .value _ =>
      rfl
  | .something inner => exact Value.sameStructure_optional (sameStructure_toValue inner path place)
  | .sequence items =>
      rw [Value.SameStructure, toValue, toValue, Value.bare, Value.bare, Value.bareItems_eq_map,
        Value.bareItems_eq_map, bare_itemValues items path place 0]
  | .map entries =>
      rw [Value.SameStructure, toValue, toValue, Value.bare_map_ofList, Value.bare_map_ofList,
        bare_entryValues entries path place 0]

theorem bare_itemValues (items : List Typed) (path place : List Nat) (position : Nat) :
    (itemValues path position items).map Value.bare =
      (itemValues place position items).map Value.bare := by
  match items with
  | [] => rfl
  | item :: rest =>
      rw [itemValues, itemValues, List.map_cons, List.map_cons,
        sameStructure_toValue item (position :: path) (position :: place),
        bare_itemValues rest path place (position + 1)]

theorem bare_entryValues (entries : List (String × Typed)) (path place : List Nat)
    (position : Nat) :
    Entries.mapData Value.bare (entryValues path position entries) =
      Entries.mapData Value.bare (entryValues place position entries) := by
  match entries with
  | [] => rfl
  | (name, item) :: rest =>
      have hitem : (item.toValue (position :: path)).bare =
          (item.toValue (position :: place)).bare :=
        sameStructure_toValue item (position :: path) (position :: place)
      have hrest := bare_entryValues rest path place (position + 1)
      simp only [Entries.mapData] at hrest
      simp only [entryValues, Entries.mapData, List.map_cons, hitem, hrest]

end

variable {g : List Nat → List Nat}

mutual

/-- A typed value at the place that its own is carried to. -/
theorem toValue_carried (x : Typed) (hwholes : ∀ whole ∈ x.wholes, whole.relabel g = whole)
    {path : List Nat} (hg : Carries g path) : x.toValue (g path) = (x.toValue path).relabel g := by
  match x with
  | .boolean _ | .integer _ | .double _ | .single _ | .string _ | .nothing | .time _ => rfl
  | .value whole => exact (hwholes whole List.mem_cons_self).symm
  | .something inner =>
      rw [toValue, toValue, toValue_carried inner hwholes hg, Value.optional_relabel]
  | .sequence items =>
      rw [toValue, toValue, itemValues_carried items hwholes hg 0, Value.relabel_array]
      rfl
  | .map entries =>
      rw [toValue, toValue, entryValues_carried entries hwholes hg 0, Value.relabel_map_ofList]
      rfl

theorem itemValues_carried (items : List Typed)
    (hwholes : ∀ whole ∈ itemWholes items, whole.relabel g = whole)
    {path : List Nat} (hg : Carries g path) (position : Nat) :
    itemValues (g path) position items =
      (itemValues path position items).map (Value.relabel g) := by
  match items with
  | [] => rfl
  | item :: rest =>
      obtain ⟨hitem, hrest⟩ := List.forall_mem_append.mp hwholes
      rw [itemValues, itemValues, ← hg.cons_eq, toValue_carried item hitem (hg.cons position),
        itemValues_carried rest hrest hg (position + 1), List.map_cons]

theorem entryValues_carried (entries : List (String × Typed))
    (hwholes : ∀ whole ∈ entryWholes entries, whole.relabel g = whole)
    {path : List Nat} (hg : Carries g path) (position : Nat) :
    entryValues (g path) position entries =
      Entries.mapData (Value.relabel g) (entryValues path position entries) := by
  match entries with
  | [] => rfl
  | (name, item) :: rest =>
      obtain ⟨hitem, hrest⟩ := List.forall_mem_append.mp hwholes
      rw [entryValues, entryValues, ← hg.cons_eq, toValue_carried item hitem (hg.cons position),
        entryValues_carried rest hrest hg (position + 1)]
      rfl

end

end Typed

/-! ## Drafts -/

namespace Draft

variable {vars : Variables}

mutual

theorem sameStructure_build (draft : Draft) (path place : List Nat) :
    (draft.build vars path).SameStructure (draft.build vars place) := by
  match draft with
  | .null | .boolean _ | .number _ | .string _ | .time _ | .absent | .shared _ => rfl
  | .present inner => exact congrArg Value.present (sameStructure_build inner path place)
  | .optional inner => exact Value.sameStructure_optional (sameStructure_build inner path place)
  | .array items =>
      rw [Value.SameStructure, build, build, Value.bare, Value.bare, Value.bareItems_eq_map,
        Value.bareItems_eq_map, bare_buildItems items path place 0]
  | .map entries =>
      rw [Value.SameStructure, build, build, Value.bare_map_ofList, Value.bare_map_ofList,
        bare_buildEntries entries path place 0]

theorem bare_buildItems (items : List Draft) (path place : List Nat) (position : Nat) :
    (buildItems vars path position items).map Value.bare =
      (buildItems vars place position items).map Value.bare := by
  match items with
  | [] => rfl
  | item :: rest =>
      rw [buildItems, buildItems, List.map_cons, List.map_cons,
        sameStructure_build item (position :: path) (position :: place),
        bare_buildItems rest path place (position + 1)]

theorem bare_buildEntries (entries : List (String × Draft)) (path place : List Nat)
    (position : Nat) :
    Entries.mapData Value.bare (buildEntries vars path position entries) =
      Entries.mapData Value.bare (buildEntries vars place position entries) := by
  match entries with
  | [] => rfl
  | (name, item) :: rest =>
      have hitem : (item.build vars (position :: path)).bare =
          (item.build vars (position :: place)).bare :=
        sameStructure_build item (position :: path) (position :: place)
      have hrest := bare_buildEntries rest path place (position + 1)
      simp only [Entries.mapData] at hrest
      simp only [buildEntries, Entries.mapData, List.map_cons, hitem, hrest]

end

variable {g : List Nat → List Nat}

theorem shared_carried (hvars : Entries.mapData (Value.relabel g) vars = vars) (name : String) :
    (Entries.find? name vars).getD .null = ((Entries.find? name vars).getD .null).relabel g := by
  rw [← Value.getD_map_relabel, ← Entries.find?_mapData, hvars]

mutual

/-- A draft that is built at the place that its own is carried to. -/
theorem build_carried (hvars : Entries.mapData (Value.relabel g) vars = vars) (draft : Draft)
    {path : List Nat} (hg : Carries g path) :
    draft.build vars (g path) = (draft.build vars path).relabel g := by
  match draft with
  | .null | .boolean _ | .number _ | .string _ | .time _ | .absent => rfl
  | .shared name => exact shared_carried hvars name
  | .present inner => rw [build, build, build_carried hvars inner hg, Value.relabel]
  | .optional inner => rw [build, build, build_carried hvars inner hg, Value.optional_relabel]
  | .array items =>
      rw [build, build, buildItems_carried hvars items hg 0, Value.relabel_array]
      rfl
  | .map entries =>
      rw [build, build, buildEntries_carried hvars entries hg 0, Value.relabel_map_ofList]
      rfl

theorem buildItems_carried (hvars : Entries.mapData (Value.relabel g) vars = vars)
    (items : List Draft) {path : List Nat} (hg : Carries g path) (position : Nat) :
    buildItems vars (g path) position items =
      (buildItems vars path position items).map (Value.relabel g) := by
  match items with
  | [] => rfl
  | item :: rest =>
      rw [buildItems, buildItems, ← hg.cons_eq, build_carried hvars item (hg.cons position),
        buildItems_carried hvars rest hg (position + 1), List.map_cons]

theorem buildEntries_carried (hvars : Entries.mapData (Value.relabel g) vars = vars)
    (entries : List (String × Draft)) {path : List Nat} (hg : Carries g path) (position : Nat) :
    buildEntries vars (g path) position entries =
      Entries.mapData (Value.relabel g) (buildEntries vars path position entries) := by
  match entries with
  | [] => rfl
  | (name, item) :: rest =>
      rw [buildEntries, buildEntries, ← hg.cons_eq, build_carried hvars item (hg.cons position),
        buildEntries_carried hvars rest hg (position + 1)]
      rfl

end

end Draft

/-! ## Host data -/

namespace Datum

theorem sameStructure_toValue {datum : Datum} {path : List Nat} {value : Value}
    (h : datum.toValue path = .ok value) (place : List Nat) :
    ∃ other, datum.toValue place = .ok other ∧ value.SameStructure other := by
  have hpath := datum.ends_toValue path
  have hplace := datum.ends_toValue place
  rcases hfaults : datum.faults with _ | ⟨fault, rest⟩
  · rw [hfaults] at hpath hplace
    obtain ⟨result, hresult, himage⟩ := hpath
    obtain ⟨other, hother, hsame⟩ := hplace
    rw [h] at hresult
    cases hresult
    exact ⟨other, hother, himage.trans hsame.symm⟩
  · rw [hfaults] at hpath
    cases h.symm.trans hpath

theorem keyName_relabel (g : List Nat → List Nat) (key : Value) :
    keyName (key.relabel g) = keyName key := by
  rw [keyName, keyName, Value.unwrapped_relabel]
  rcases key.unwrapped with _ | _ | _ | _ | _ | _ | _ | _ | _ <;> rfl

theorem readTimestamp_relabel (g : List Nat → List Nat) (text : Value) :
    readTimestamp (text.relabel g) = (readTimestamp text).map (Value.relabel g) := by
  rcases text with _ | _ | _ | text | _ | _ | _ | _ | _
  case string =>
    rw [Value.relabel, readTimestamp]
    rcases Timestamp.read text with error | time
    · rfl
    · rfl
  all_goals rfl

variable {g : List Nat → List Nat}

mutual

/-- Host data at the place that their own is carried to. -/
theorem toValue_carried (datum : Datum) {path : List Nat} (hg : Carries g path) :
    datum.toValue (g path) = (datum.toValue path).map (Value.relabel g) := by
  match datum with
  | .boolean _ | .integer _ | .double _ | .single _ | .string _ | .nothing | .unit | .failure _ =>
      rfl
  | .bytes values =>
      rw [toValue, toValue, Except.map, Value.relabel_array, List.map_map]
      rfl
  | .something inner =>
      rw [toValue, toValue, toValue_carried inner hg]
      rcases inner.toValue path with error | value
      · rfl
      · exact congrArg Except.ok (Value.optional_relabel g value)
  | .sequence items =>
      rw [toValue, toValue, itemValues_carried items hg 0]
      rcases itemValues path 0 items with error | values
      · rfl
      · exact congrArg Except.ok (Value.relabel_array g (.host path) values).symm
  | .map parts =>
      have hparts := partEntries_carried parts hg 0 none []
      rw [toValue, toValue, show partEntries (g path) 0 none [] parts = _ from hparts]
      rcases partEntries path 0 none [] parts with error | entries
      · rfl
      · exact congrArg Except.ok (Value.relabel_map g (.host path) entries).symm
  | .record fields =>
      have hfields := fieldEntries_carried fields hg 0 []
      rw [toValue, toValue, show fieldEntries (g path) 0 [] fields = _ from hfields]
      rcases fieldEntries path 0 [] fields with error | entries
      · rfl
      · exact congrArg Except.ok (Value.relabel_map g (.host path) entries).symm
  | .variant name payload =>
      rw [toValue, toValue, ← hg.cons_eq, toValue_carried payload (hg.cons 0)]
      rcases payload.toValue (0 :: path) with error | value
      · rfl
      · rfl
  | .timestamp text =>
      rw [toValue, toValue, toValue_carried text hg]
      rcases text.toValue path with error | value
      · rfl
      · exact readTimestamp_relabel g value

theorem itemValues_carried (items : List Datum) {path : List Nat} (hg : Carries g path)
    (position : Nat) :
    itemValues (g path) position items =
      (itemValues path position items).map (List.map (Value.relabel g)) := by
  match items with
  | [] => rfl
  | item :: rest =>
      rw [itemValues, itemValues, ← hg.cons_eq, toValue_carried item (hg.cons position),
        itemValues_carried rest hg (position + 1)]
      rcases item.toValue (position :: path) with error | value
      · rfl
      · rcases itemValues path (position + 1) rest with error | values
        · rfl
        · rfl

theorem partEntries_carried (parts : List MapPart) {path : List Nat} (hg : Carries g path)
    (position : Nat) (waiting : Option String) (entries : Entries Value) :
    partEntries (g path) position waiting (Entries.mapData (Value.relabel g) entries) parts =
      (partEntries path position waiting entries parts).map
        (Entries.mapData (Value.relabel g)) := by
  match parts, waiting with
  | [], none | [], some _ => rfl
  | .key datum :: rest, waiting =>
      rw [partEntries, partEntries, ← hg.cons_eq, toValue_carried datum (hg.cons position)]
      rcases datum.toValue (position :: path) with error | key
      · rfl
      · simp only [Except.map, bind, Except.bind, keyName_relabel]
        rcases keyName key with error | name
        · rfl
        · exact partEntries_carried rest hg position (some name) entries
  | .value datum :: rest, none => rfl
  | .value datum :: rest, some name =>
      rw [partEntries, partEntries, ← hg.cons_eq, toValue_carried datum (hg.cons position)]
      rcases datum.toValue (position :: path) with error | value
      · rfl
      · have hrest :=
          partEntries_carried rest hg (position + 1) none (Entries.insert name value entries)
        rw [Entries.mapData_insert] at hrest
        exact hrest

theorem fieldEntries_carried (fields : List (String × Datum)) {path : List Nat}
    (hg : Carries g path) (position : Nat) (entries : Entries Value) :
    fieldEntries (g path) position (Entries.mapData (Value.relabel g) entries) fields =
      (fieldEntries path position entries fields).map (Entries.mapData (Value.relabel g)) := by
  match fields with
  | [] => rfl
  | (name, datum) :: rest =>
      rw [fieldEntries, fieldEntries, ← hg.cons_eq, toValue_carried datum (hg.cons position)]
      rcases datum.toValue (position :: path) with error | value
      · rfl
      · have hrest :=
          fieldEntries_carried rest hg (position + 1) (Entries.insert name value entries)
        rw [Entries.mapData_insert] at hrest
        exact hrest

end

end Datum

end Stencil
