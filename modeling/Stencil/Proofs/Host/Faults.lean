import Stencil.Proofs.Host.Order
import Stencil.Proofs.Value.Structure

/-!
# The first fault of host data

Host data are refused for a part that fails by itself, for a key that is no text, number or
truth value, for a value with no key since the last value, and for something under the mark that
writes no timestamp.  All these faults of the data are listed here in the order in which the
data are handed over, also those behind the first.  A key and what is under the mark are checked
once they are converted, and so only if they have no fault of their own; that a value has no key
is found before the value is looked at.

The conversion ends with the first fault in the list.  If the list is empty, it ends with the
image of the data, in which the values of a map stand under the texts of the keys directly in
front of them.
-/

namespace Stencil

namespace ConversionError

/-- How a conversion ends that meets the given faults: with the first of them, or else with a
result as it is expected. -/
def Ends {α : Type} (faults : List ConversionError) (expected : α → Prop)
    (outcome : Except ConversionError α) : Prop :=
  match faults with
  | [] => ∃ result, outcome = .ok result ∧ expected result
  | fault :: _ => outcome = .error fault

/-- The faults of a part that is checked once it is converted. -/
def checked (faults check : List ConversionError) : List ConversionError :=
  match faults with
  | [] => check
  | fault :: rest => fault :: rest

variable {α β : Type} {faults further : List ConversionError} {expected : α → Prop}
  {expected' : β → Prop} {outcome : Except ConversionError α}

theorem Ends.map (h : Ends faults expected outcome) {f : α → β}
    (hexpected : ∀ result, expected result → expected' (f result)) :
    Ends faults expected' (outcome.map f) := by
  cases faults with
  | nil =>
      obtain ⟨result, rfl, hresult⟩ := h
      exact ⟨f result, rfl, hexpected result hresult⟩
  | cons fault rest =>
      cases h
      exact rfl

theorem Ends.bind (h : Ends faults expected outcome) {next : α → Except ConversionError β}
    (hnext : ∀ result, expected result → Ends further expected' (next result)) :
    Ends (faults ++ further) expected' (outcome.bind next) := by
  cases faults with
  | nil =>
      obtain ⟨result, rfl, hresult⟩ := h
      exact hnext result hresult
  | cons fault rest =>
      cases h
      exact rfl

theorem Ends.check (h : Ends faults expected outcome) {next : α → Except ConversionError β}
    (hnext : ∀ result, expected result → Ends further expected' (next result)) :
    Ends (checked faults further) expected' (outcome.bind next) := by
  cases faults with
  | nil =>
      obtain ⟨result, rfl, hresult⟩ := h
      exact hnext result hresult
  | cons fault rest =>
      cases h
      exact rfl

theorem Ends.error_iff (h : Ends faults expected outcome) (error : ConversionError) :
    outcome = .error error ↔ faults.head? = some error := by
  cases faults with
  | nil =>
      obtain ⟨result, rfl, hresult⟩ := h
      simp
  | cons fault rest =>
      cases h
      simp

end ConversionError

namespace Value

/-- What is wrong with a value as a key of a map. -/
def keyFaults (key : Value) : List ConversionError :=
  match key.unwrapped with
  | string _ | number _ | boolean _ => []
  | other => [.keyType other.typeName]

/-- The text of a value as a key of a map. -/
def keyText (key : Value) : String :=
  match key.unwrapped with
  | string text => text
  | number n => n.text
  | boolean flag => truthText flag
  | _ => ""

/-- What is wrong with a value under the mark of a timestamp. -/
def timeFaults : Value → List ConversionError
  | string text =>
      match Timestamp.read text with
      | .ok _ => []
      | .error error => [.timestampText error]
  | other => [.timestampType other.typeName]

/-- The timestamp that a value under the mark writes. -/
def timeImage : Value → Value
  | string text =>
      match Timestamp.read text with
      | .ok t => time t
      | .error _ => null
  | _ => null

@[simp] theorem bare_unwrapped (value : Value) : value.bare.unwrapped = value.unwrapped.bare := by
  induction value using unwrapped.induct with
  | case1 inner ih => exact ih
  | case2 => rfl
  | case3 other hpresent habsent =>
      cases other with
      | present inner => exact absurd rfl (hpresent inner)
      | absent => exact absurd rfl habsent
      | _ => rfl

theorem bare_optional (value : Value) :
    (optional (some value)).bare = optional (some value.bare) := by
  cases value with
  | _ => rfl

theorem bare_map (identity : Identity) (entries : Entries Value) :
    (map identity entries).bare = map (.host []) (Entries.mapData bare entries) := by
  rw [bare, bareEntries_eq_mapData]

theorem ends_keyName (key : Value) :
    ConversionError.Ends key.bare.keyFaults (· = key.bare.keyText) (Datum.keyName key) := by
  rw [keyFaults, keyText, Datum.keyName, bare_unwrapped]
  cases key.unwrapped with
  | string | number | boolean => exact ⟨_, rfl, rfl⟩
  | _ => rfl

theorem ends_readTimestamp (text : Value) :
    ConversionError.Ends text.bare.timeFaults (·.bare = text.bare.timeImage)
      (Datum.readTimestamp text) := by
  cases text with
  | string text =>
      simp only [bare, timeFaults, timeImage, Datum.readTimestamp]
      cases Timestamp.read text with
      | ok t => exact ⟨_, rfl, rfl⟩
      | error error => rfl
  | _ => rfl

end Value

namespace Datum

mutual

/-- The value of host data, with all identities forgotten. -/
def image : Datum → Value
  | boolean flag => .boolean flag
  | integer n => .number (Number.ofInt n)
  | double n => .number n
  | single n => .number n.toSingle
  | string text => .string text
  | bytes values => .array (.host []) (values.map fun byte => .number (Number.ofNat byte))
  | nothing => .absent
  | something inner => Value.optional (some inner.image)
  | unit => .null
  | sequence items => .array (.host []) (itemImages items)
  | map parts => .map (.host []) (Entries.ofList (partImages parts))
  | record fields => .map (.host []) (Entries.ofList (fieldImages fields))
  | variant name payload => .map (.host []) [(name, payload.image)]
  | timestamp text => text.image.timeImage
  | failure _ => .null

/-- The values of the items of a sequence. -/
def itemImages : List Datum → List Value
  | [] => []
  | item :: rest => item.image :: itemImages rest

/-- The values of a map under the texts of the keys directly in front of them.  A key that is
followed by another key, or by nothing, has no value. -/
def partImages : List MapPart → List (String × Value)
  | [] => []
  | .key key :: .value datum :: rest => (key.image.keyText, datum.image) :: partImages rest
  | _ :: rest => partImages rest

/-- The values of a record under the names of their fields. -/
def fieldImages : List (String × Datum) → List (String × Value)
  | [] => []
  | (name, datum) :: rest => (name, datum.image) :: fieldImages rest

end

mutual

/-- All faults of host data in the order in which the data are handed over. -/
def faults : Datum → List ConversionError
  | something inner => inner.faults
  | sequence items => itemFaults items
  | map parts => partFaults false parts
  | record fields => fieldFaults fields
  | variant _ payload => payload.faults
  | timestamp text => ConversionError.checked text.faults text.image.timeFaults
  | failure message => [.custom message]
  | boolean _ | integer _ | double _ | single _ | string _ | bytes _ | nothing | unit => []

/-- The faults of the items of a sequence. -/
def itemFaults : List Datum → List ConversionError
  | [] => []
  | item :: rest => item.faults ++ itemFaults rest

/-- The faults of the keys and values of a map, with or without a key that waits for its value. -/
def partFaults : Bool → List MapPart → List ConversionError
  | _, [] => []
  | _, .key key :: rest =>
      ConversionError.checked key.faults key.image.keyFaults ++ partFaults true rest
  | true, .value datum :: rest => datum.faults ++ partFaults false rest
  | false, .value datum :: rest => .valueWithoutKey :: (datum.faults ++ partFaults false rest)

/-- The faults of the fields of a record. -/
def fieldFaults : List (String × Datum) → List ConversionError
  | [] => []
  | (_, datum) :: rest => datum.faults ++ fieldFaults rest

end

/-! ## The conversion -/

theorem partImages_key_key (key next : Datum) (rest : List MapPart) :
    partImages (.key key :: .key next :: rest) = partImages (.key next :: rest) := by
  rw [partImages]
  nofun

/-- The values of a map in front of which a key may wait. -/
def imagesAfter : Option String → List MapPart → List (String × Value)
  | some name, .value datum :: rest => (name, datum.image) :: partImages rest
  | _, parts => partImages parts

theorem imagesAfter_key (waiting : Option String) (key : Datum) (rest : List MapPart) :
    imagesAfter waiting (.key key :: rest) = imagesAfter (some key.image.keyText) rest := by
  have hwaiting : imagesAfter waiting (.key key :: rest) = partImages (.key key :: rest) := by
    cases waiting with
    | none | some => rfl
  rw [hwaiting]
  match rest with
  | .value datum :: rest => rfl
  | .key next :: rest => exact partImages_key_key key next rest
  | [] => rfl

open ConversionError

mutual

/-- The conversion ends with the first fault, and without a fault with the image. -/
theorem ends_toValue (datum : Datum) (path : List Nat) :
    Ends datum.faults (·.bare = datum.image) (datum.toValue path) := by
  match datum with
  | .boolean _ | .integer _ | .double _ | .single _ | .string _ | .nothing | .unit =>
      exact ⟨_, rfl, rfl⟩
  | .bytes values =>
      have hbytes : (values.map fun byte => Value.number (Number.ofNat byte)).map Value.bare =
          values.map fun byte => .number (Number.ofNat byte) := by
        rw [List.map_map]
        rfl
      refine ⟨_, rfl, ?_⟩
      beta_reduce
      rw [Value.bare, Value.bareItems_eq_map, hbytes, image]
  | .something inner =>
      refine (ends_toValue inner path).map ?_
      intro value hvalue
      rw [Value.bare_optional, hvalue, image]
  | .sequence items =>
      refine (ends_itemValues items path 0).map ?_
      intro values hvalues
      rw [Value.bare, Value.bareItems_eq_map, hvalues, image]
  | .map parts =>
      refine (ends_partEntries parts path 0 none []).map ?_
      intro entries hentries
      rw [Value.bare_map, hentries, image]
      rfl
  | .record fields =>
      refine (ends_fieldEntries fields path 0 []).map ?_
      intro entries hentries
      rw [Value.bare_map, hentries, image]
      rfl
  | .variant name payload =>
      refine (ends_toValue payload (0 :: path)).map ?_
      intro value hvalue
      rw [image, ← hvalue]
      rfl
  | .timestamp text =>
      refine (ends_toValue text path).check ?_
      intro value hvalue
      rw [image, ← hvalue]
      exact value.ends_readTimestamp
  | .failure message => exact rfl

theorem ends_itemValues (items : List Datum) (path : List Nat) (position : Nat) :
    Ends (itemFaults items) (·.map Value.bare = itemImages items)
      (itemValues path position items) := by
  match items with
  | [] => exact ⟨[], rfl, rfl⟩
  | item :: rest =>
      refine (ends_toValue item (position :: path)).bind ?_
      intro value hvalue
      refine (ends_itemValues rest path (position + 1)).map ?_
      intro values hvalues
      rw [List.map_cons, hvalue, hvalues, itemImages]

theorem ends_partEntries (parts : List MapPart) (path : List Nat) (position : Nat)
    (waiting : Option String) (entries : Entries Value) :
    Ends (partFaults waiting.isSome parts)
      (Entries.mapData Value.bare · =
        Entries.insertAll (imagesAfter waiting parts) (Entries.mapData Value.bare entries))
      (partEntries path position waiting entries parts) := by
  match parts, waiting with
  | [], none | [], some _ => exact ⟨entries, rfl, rfl⟩
  | .key key :: rest, waiting =>
      have hname : Ends (checked key.faults key.image.keyFaults) (· = key.image.keyText)
          (key.toValue (position :: path) >>= keyName) := by
        refine (ends_toValue key (position :: path)).check ?_
        intro value hvalue
        rw [← hvalue]
        exact value.ends_keyName
      rw [imagesAfter_key, partFaults, partEntries, ← bind_assoc]
      refine hname.bind ?_
      intro name hname
      rw [← hname]
      exact ends_partEntries rest path position (some name) entries
  | .value datum :: rest, none => exact rfl
  | .value datum :: rest, some name =>
      refine (ends_toValue datum (position :: path)).bind ?_
      intro value hvalue
      have hrest :=
        ends_partEntries rest path (position + 1) none (Entries.insert name value entries)
      rw [Entries.mapData_insert, hvalue] at hrest
      exact hrest

theorem ends_fieldEntries (fields : List (String × Datum)) (path : List Nat) (position : Nat)
    (entries : Entries Value) :
    Ends (fieldFaults fields)
      (Entries.mapData Value.bare · =
        Entries.insertAll (fieldImages fields) (Entries.mapData Value.bare entries))
      (fieldEntries path position entries fields) := by
  match fields with
  | [] => exact ⟨entries, rfl, rfl⟩
  | (name, datum) :: rest =>
      refine (ends_toValue datum (position :: path)).bind ?_
      intro value hvalue
      have hrest := ends_fieldEntries rest path (position + 1) (Entries.insert name value entries)
      rw [Entries.mapData_insert, hvalue] at hrest
      exact hrest

end

/-- The conversion fails exactly if the data have a fault, and with the first of them.
Otherwise the value has the structure of the image of the data, in which a map has in ascending
order the names that its values were given under, each with the last value that was given under
it. -/
theorem toValue_first_fault :
    (∀ (datum : Datum) (path : List Nat) (error : ConversionError),
      datum.toValue path = .error error ↔ datum.faults.head? = some error) ∧
    (∀ (datum : Datum) (path : List Nat),
      (∃ value, datum.toValue path = .ok value ∧ value.bare = datum.image) ↔ datum.faults = []) ∧
    ∀ parts : List MapPart, ∃ entries, (Datum.map parts).image = .map (.host []) entries ∧
      Entries.Ascending entries ∧
      ∀ name, Entries.find? name entries =
        ((partImages parts).reverse.find? fun pair => pair.1 = name).map Prod.snd := by
  refine ⟨?_, ?_, ?_⟩
  · intro datum path error
    exact (ends_toValue datum path).error_iff error
  · intro datum path
    have hends := ends_toValue datum path
    constructor
    · rintro ⟨value, hvalue, -⟩
      rw [← List.head?_eq_none_iff, Option.eq_none_iff_forall_ne_some]
      intro error herror
      rw [(hends.error_iff error).mpr herror] at hvalue
      cases hvalue
    · intro hfaults
      rw [hfaults] at hends
      exact hends
  · intro parts
    refine ⟨Entries.ofList (partImages parts), ?_, Entries.ascending_ofList _, ?_⟩
    · rw [image]
    · intro name
      exact Entries.find?_ofList name (partImages parts)

/-- A value without a key is found before the value is looked at, and a key only once it has
been converted. -/
example :
    (Datum.sequence [.nothing, .map [.value (.failure "late")]]).toValue [] =
        .error .valueWithoutKey ∧
      (Datum.map [.key (.sequence [.failure "early"]), .value .unit]).toValue [] =
        .error (.custom "early") :=
  ⟨rfl, rfl⟩

end Datum

end Stencil
