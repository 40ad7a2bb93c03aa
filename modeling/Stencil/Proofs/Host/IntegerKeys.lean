import Mathlib.Data.List.Dedup
import Stencil.Proofs.Host.Agreement
import Stencil.Proofs.Host.Faults
import Stencil.Proofs.Number.Integers

/-!
# Maps with integers as keys

An integer as a key is first the number nearest to it, and the text of that number is the name
in the map.  Texts tell the numbers apart, so the map has exactly one entry for each number that
is nearest to a key, and of several keys with one nearest number the last counts.

Up to `2 ^ 53` every integer is a number of its own and has its own text.  So a map all of whose
keys lie there loses no entry, and its names are the texts of the integers.
-/

namespace Stencil

namespace Entries

variable {α ι κ : Type} (label : κ → String) (key : ι → κ) (datum : ι → α)

/-- The data of some items under the labels of their keys. -/
def labelled (items : List ι) : List (String × α) :=
  items.map fun item => (label (key item), datum item)

variable {label key}

/-- If the labels tell the keys apart, there is one entry for each key. -/
theorem names_labelled_perm [DecidableEq κ]
    (hlabel : ∀ item other, label (key item) = label (key other) → key item = key other)
    (items : List ι) :
    (names (ofList (labelled label key datum items))).Perm ((items.map key).dedup.map label) := by
  have hnames : (names (ofList (labelled label key datum items))).Nodup :=
    (ascending_ofList _).imp String.ne_of_lt
  have hlabels : ((items.map key).dedup.map label).Nodup := by
    refine List.Nodup.map_on ?_ (List.nodup_dedup _)
    simp only [List.mem_dedup, List.forall_mem_map]
    intro item _ other _
    exact hlabel item other
  rw [List.perm_ext_iff_of_nodup hnames hlabels]
  intro name
  rw [mem_names_ofList, labelled]
  simp

/-- Under the label of a key is the datum of the last item with that key. -/
theorem find?_labelled (before : List ι) {after : List ι} {item : ι}
    (hlast : ∀ later ∈ after, label (key later) ≠ label (key item)) :
    find? (label (key item)) (ofList (labelled label key datum (before ++ item :: after))) =
      some (datum item) := by
  have hlater : ∀ later ∈ labelled label key datum after,
      later.1 ≠ (label (key item), datum item).1 := by
    simpa [labelled] using hlast
  rw [labelled, List.map_append, List.map_cons]
  exact find?_ofList_of_last hlater

end Entries

namespace Datum

/-- A map given by pairs of an integer and a value. -/
def ofIntegers (pairs : List (Int × Datum)) : Datum :=
  .ofPairs (pairs.map fun pair => (.integer pair.1, pair.2))

/-- The keys and values of a map given by pairs of an integer and a value. -/
def integerParts (pairs : List (Int × Datum)) : List MapPart :=
  pairs.flatMap fun pair => [.key (.integer pair.1), .value pair.2]

theorem ofIntegers_eq (pairs : List (Int × Datum)) :
    ofIntegers pairs = .map (integerParts pairs) := by
  rw [ofIntegers, ofPairs, List.flatMap_map]
  rfl

theorem partFaults_integerParts (pairs : List (Int × Datum)) :
    partFaults false (integerParts pairs) = pairs.flatMap fun pair => pair.2.faults := by
  induction pairs with
  | nil => rfl
  | cons pair rest ih =>
      rw [List.flatMap_cons, ← ih]
      rfl

/-- The number nearest to the integer of a pair. -/
def nearest (pair : Int × Datum) : Number := Number.ofInt pair.1

/-- The values of a map under the texts of the numbers nearest to its integers. -/
def integerImages (pairs : List (Int × Datum)) : List (String × Value) :=
  Entries.labelled Number.text nearest (fun pair => pair.2.image) pairs

theorem partImages_integerParts (pairs : List (Int × Datum)) :
    partImages (integerParts pairs) = integerImages pairs := by
  induction pairs with
  | nil => rfl
  | cons pair rest ih =>
      rw [integerImages, Entries.labelled, List.map_cons, ← Entries.labelled, ← integerImages, ← ih]
      rfl

theorem faults_of_toValue {datum : Datum} {path : List Nat} {value : Value}
    (h : datum.toValue path = .ok value) : datum.faults = [] := by
  have hends := ends_toValue datum path
  cases hfaults : datum.faults with
  | nil => rfl
  | cons fault rest =>
      rw [hfaults, h] at hends
      cases hends

theorem converts_of_image {datum : Datum} {value : Value} (hfaults : datum.faults = [])
    (himage : value.bare = datum.image) : datum.Converts value := by
  intro path
  have hends := ends_toValue datum path
  rw [hfaults] at hends
  obtain ⟨converted, hconverted, hbare⟩ := hends
  exact ⟨converted, hconverted, hbare.trans himage.symm⟩

/-- The entries of a map with integers as keys whose values can be converted. -/
theorem exists_entries (pairs : List (Int × Datum)) (hfaults : ∀ pair ∈ pairs, pair.2.faults = [])
    (path : List Nat) :
    ∃ entries, (ofIntegers pairs).toValue path = .ok (.map (.host path) entries) ∧
      Entries.mapData Value.bare entries = Entries.ofList (integerImages pairs) := by
  have hends := ends_partEntries (integerParts pairs) path 0 none []
  have hnone : partFaults false (integerParts pairs) = [] := by
    rw [partFaults_integerParts, List.flatMap_eq_nil_iff]
    exact hfaults
  change ConversionError.Ends (partFaults false (integerParts pairs)) _ _ at hends
  rw [hnone] at hends
  obtain ⟨entries, hentries, hbare⟩ := hends
  refine ⟨entries, ?_, ?_⟩
  · rw [ofIntegers_eq, toValue, hentries]
    rfl
  · change _ = Entries.insertAll (partImages (integerParts pairs)) [] at hbare
    rw [hbare, partImages_integerParts]
    rfl

theorem text_nearest {pair : Int × Datum} (h : pair.1.natAbs ≤ Nat.pow 2 53) :
    (nearest pair).text = toString pair.1 := by
  rw [nearest]
  exact Number.text_ofInt h

/-- Under the text of the number nearest to a key is the value that was given with it, if no
later key has the same nearest number. -/
theorem find?_of_last {before after : List (Int × Datum)} {pair : Int × Datum}
    {entries : Entries Value}
    (hentries : Entries.mapData Value.bare entries =
      Entries.ofList (integerImages (before ++ pair :: after)))
    (hfaults : pair.2.faults = []) (hlater : ∀ later ∈ after, nearest later ≠ nearest pair) :
    ∃ value, Entries.find? (nearest pair).text entries = some value ∧ pair.2.Converts value := by
  have hlabel : ∀ later ∈ after, (nearest later).text ≠ (nearest pair).text := by
    intro later hmem htext
    exact hlater later hmem (Number.ofInt_eq_of_text_eq htext)
  have himage := Entries.find?_labelled (fun pair : Int × Datum => pair.2.image) before hlabel
  rw [← integerImages, ← hentries, Entries.find?_mapData, Option.map_eq_some_iff] at himage
  obtain ⟨value, hvalue, hbare⟩ := himage
  exact ⟨value, hvalue, converts_of_image hfaults hbare⟩

theorem nodup_nearest {pairs : List (Int × Datum)} (hdistinct : (pairs.map Prod.fst).Nodup)
    (hsmall : ∀ pair ∈ pairs, pair.1.natAbs ≤ Nat.pow 2 53) : (pairs.map nearest).Nodup := by
  refine hdistinct.of_map.map_on ?_
  intro pair hpair other hother hnearest
  exact List.inj_on_of_nodup_map hdistinct hpair hother
    (Number.eq_of_ofInt_eq (hsmall pair hpair) (hsmall other hother) hnearest)

/-- A map with integers as keys has exactly one entry for each number that is nearest to a key,
under the text of that number and with the last value that was given with such a key.  If all
keys are different and lie within `2 ^ 53`, it has exactly one entry for each key, under the
text of that integer. -/
theorem toValue_ofIntegers (pairs : List (Int × Datum))
    (hvalues : ∀ pair ∈ pairs, ∃ value, pair.2.toValue [] = .ok value) (path : List Nat) :
    ∃ entries, (ofIntegers pairs).toValue path = .ok (.map (.host path) entries) ∧
      Entries.Ascending entries ∧
      (Entries.names entries).Perm ((pairs.map nearest).dedup.map Number.text) ∧
      (∀ before pair after, pairs = before ++ pair :: after →
        (∀ later ∈ after, nearest later ≠ nearest pair) →
          ∃ value, Entries.find? (nearest pair).text entries = some value ∧ pair.2.Converts value) ∧
      ((pairs.map Prod.fst).Nodup → (∀ pair ∈ pairs, pair.1.natAbs ≤ Nat.pow 2 53) →
        (Entries.names entries).Perm (pairs.map fun pair => toString pair.1) ∧
          ∀ pair ∈ pairs, ∃ value,
            Entries.find? (toString pair.1) entries = some value ∧ pair.2.Converts value) := by
  have hfaults : ∀ pair ∈ pairs, pair.2.faults = [] := by
    intro pair hpair
    obtain ⟨value, hvalue⟩ := hvalues pair hpair
    exact faults_of_toValue hvalue
  obtain ⟨entries, hentries, hbare⟩ := exists_entries pairs hfaults path
  have hnames : Entries.names entries = Entries.names (Entries.ofList (integerImages pairs)) := by
    rw [← hbare, Entries.names_mapData]
  have hperm : (Entries.names entries).Perm ((pairs.map nearest).dedup.map Number.text) := by
    rw [hnames]
    exact Entries.names_labelled_perm _ (fun _ _ => Number.ofInt_eq_of_text_eq) pairs
  have hlast : ∀ before pair after, pairs = before ++ pair :: after →
      (∀ later ∈ after, nearest later ≠ nearest pair) →
        ∃ value, Entries.find? (nearest pair).text entries = some value ∧
          pair.2.Converts value := by
    intro before pair after hpairs hlater
    rw [hpairs] at hbare hfaults
    exact find?_of_last hbare (hfaults pair List.mem_append_cons_self) hlater
  refine ⟨entries, hentries, ?_, hperm, hlast, ?_⟩
  · rw [Entries.Ascending, hnames]
    exact Entries.ascending_ofList _
  · intro hdistinct hsmall
    have hnodup := nodup_nearest hdistinct hsmall
    constructor
    · rw [hnodup.dedup, List.map_map] at hperm
      have htexts : pairs.map (Number.text ∘ nearest) = pairs.map fun pair => toString pair.1 := by
        refine List.map_congr_left ?_
        intro pair hpair
        rw [Function.comp_apply, text_nearest (hsmall pair hpair)]
      rw [← htexts]
      exact hperm
    · intro pair hpair
      obtain ⟨before, after, hpairs⟩ := List.append_of_mem hpair
      have hlater : ∀ later ∈ after, nearest later ≠ nearest pair := by
        rw [hpairs, List.map_append, List.map_cons, List.nodup_append] at hnodup
        intro later hmem heq
        exact (List.nodup_cons.mp hnodup.2.1).1 (heq ▸ List.mem_map_of_mem hmem)
      rw [← text_nearest (hsmall pair hpair)]
      exact hlast before pair after hpairs hlater

/-- One key on either side of zero, the second at the end of the range. -/
theorem toValue_ofIntegers_signs :
    let pairs : List (Int × Datum) := [(7, .string "seven"), (-9007199254740992, .nothing)]
    (∀ pair ∈ pairs, ∃ value, pair.2.toValue [] = .ok value) ∧
      ∃ entries, (ofIntegers pairs).toValue [] = .ok (.map (.host []) entries) ∧
        (Entries.names entries).Perm ["7", "-9007199254740992"] := by
  intro pairs
  have hvalues : ∀ pair ∈ pairs, ∃ value, pair.2.toValue [] = .ok value := by
    simp only [pairs, List.forall_mem_cons]
    exact ⟨⟨_, rfl⟩, ⟨_, rfl⟩, nofun⟩
  obtain ⟨entries, hentries, -, -, -, hsmall⟩ := toValue_ofIntegers pairs hvalues []
  have htexts : (pairs.map fun pair => toString pair.1) = ["7", "-9007199254740992"] := by decide
  have hnames := (hsmall (by decide) (by decide)).1
  rw [htexts] at hnames
  exact ⟨hvalues, entries, hentries, hnames⟩

/-- Behind `2 ^ 53` two different integers share the entry of their nearest number, and the
second has no entry under its own text. -/
theorem ofIntegers_share_entry :
    let pairs : List (Int × Datum) :=
      [(9007199254740992, .string "a"), (9007199254740993, .string "b")]
    (pairs.map Prod.fst).Nodup ∧ (∀ pair ∈ pairs, ∃ value, pair.2.toValue [] = .ok value) ∧
      (ofIntegers pairs).toValue [] =
        .ok (.map (.host []) [("9007199254740992", .string "b")]) := by
  intro pairs
  refine ⟨by decide, ?_, ?_⟩
  · simp only [pairs, List.forall_mem_cons]
    exact ⟨⟨_, rfl⟩, ⟨_, rfl⟩, nofun⟩
  · have hnearest : Number.ofInt 9007199254740993 = Number.ofInt 9007199254740992 := by
      decide +kernel
    have htext : (Number.ofInt 9007199254740992).text = "9007199254740992" :=
      Number.text_ofInt (by decide)
    have hvalue : (ofIntegers pairs).toValue [] = .ok (.map (.host [])
        (Entries.insert (Number.ofInt 9007199254740993).text (.string "b")
          (Entries.insert (Number.ofInt 9007199254740992).text (.string "a") []))) := rfl
    rw [hvalue, hnearest, Entries.insert_insert, htext]
    rfl

end Datum

end Stencil
