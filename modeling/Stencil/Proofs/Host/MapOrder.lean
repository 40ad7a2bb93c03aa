import Stencil.Proofs.Entries.Lasts
import Stencil.Proofs.Host.Agreement
import Stencil.Proofs.Host.Places
import Stencil.Proofs.Render.Relabelling
import Stencil.Proofs.Text.ByteOrder

/-!
# Maps do not depend on the order of their entries

A host makes a map of entries in one of several ways, and all of them convert the data one after
the other, each at its own position, and put them into the map under their names.  So the last
data under the names decide what the map holds, and their positions decide nothing but labels.

If two lists have the same last data, the positions of one can be carried to those of the other.
The move of labels that does so leaves alone all that was there before the map, and takes one
map to the other.  Since rendering does not see labels, no template can tell the two maps apart,
and a host that keeps what its modifiers are given can tell them apart by labels only.
-/

namespace Stencil

/-! ## Data at their positions -/

/-- The data of entries, each converted at its own position below a path. -/
def placed {α : Type} (convert : List Nat → α → Except ConversionError Value) (path : List Nat) :
    Nat → List (String × α) → Except ConversionError (List (String × Value))
  | _, [] => .ok []
  | position, (name, item) :: rest =>
      (convert (position :: path) item).bind fun value =>
        (placed convert path (position + 1) rest).map ((name, value) :: ·)

section Placed

variable {α : Type} {convert : List Nat → α → Except ConversionError Value} {path : List Nat}

theorem placed_cons_ok {position : Nat} {name : String} {item : α} {rest : List (String × α)}
    {pairs : List (String × Value)}
    (h : placed convert path position ((name, item) :: rest) = .ok pairs) :
    ∃ value further, convert (position :: path) item = .ok value ∧
      placed convert path (position + 1) rest = .ok further ∧ pairs = (name, value) :: further := by
  rw [placed] at h
  rcases hvalue : convert (position :: path) item with error | value
  · rw [hvalue] at h
    cases h
  · rw [hvalue] at h
    rcases hfurther : placed convert path (position + 1) rest with error | further
    · rw [hfurther] at h
      cases h
    · rw [hfurther] at h
      cases h
      exact ⟨value, further, rfl, rfl, rfl⟩

theorem map_fst_placed {position : Nat} {entries : List (String × α)}
    {pairs : List (String × Value)} (h : placed convert path position entries = .ok pairs) :
    pairs.map Prod.fst = entries.map Prod.fst := by
  induction entries generalizing position pairs with
  | nil =>
      cases h
      rfl
  | cons entry rest ih =>
      obtain ⟨value, further, -, hfurther, rfl⟩ := placed_cons_ok h
      rw [List.map_cons, List.map_cons, ih hfurther]

theorem getElem?_placed {position : Nat} {entries : List (String × α)}
    {pairs : List (String × Value)} (h : placed convert path position entries = .ok pairs)
    {index : Nat} {name : String} {item : α} (hentry : entries[index]? = some (name, item)) :
    ∃ value, convert ((position + index) :: path) item = .ok value ∧
      pairs[index]? = some (name, value) := by
  induction entries generalizing position pairs index with
  | nil => cases hentry
  | cons entry rest ih =>
      obtain ⟨value, further, hvalue, hfurther, rfl⟩ := placed_cons_ok h
      rcases index with _ | index
      · cases hentry
        exact ⟨value, hvalue, rfl⟩
      · obtain ⟨next, hnext, hpair⟩ := ih hfurther hentry
        rw [show position + (index + 1) = position + 1 + index by omega]
        exact ⟨next, hnext, hpair⟩

/-- Where all data can be converted anywhere, the entries can be converted together. -/
theorem exists_placed {entries : List (String × α)}
    (h : ∀ entry ∈ entries, ∀ place, ∃ value, convert place entry.2 = .ok value) (position : Nat) :
    ∃ pairs, placed convert path position entries = .ok pairs := by
  induction entries generalizing position with
  | nil => exact ⟨[], rfl⟩
  | cons entry rest ih =>
      obtain ⟨hentry, hrest⟩ := List.forall_mem_cons.mp h
      obtain ⟨value, hvalue⟩ := hentry (position :: path)
      obtain ⟨further, hfurther⟩ := ih hrest (position + 1)
      refine ⟨(entry.1, value) :: further, ?_⟩
      rw [placed, hvalue, hfurther]
      rfl

/-- What is converted under a name is decided by the last datum under it, up to the position
where it stands. -/
theorem mapData_ofList_placed {β : Type} {f f' : Value → β} {entries others : List (String × α)}
    {pairs further : List (String × Value)} (hsame : Entries.ofList entries = Entries.ofList others)
    (hpairs : placed convert path 0 entries = .ok pairs)
    (hfurther : placed convert path 0 others = .ok further)
    (h : ∀ {name item place other value next}, (name, item) ∈ entries →
      Entries.LastAt (entries.map Prod.fst) name place →
      Entries.LastAt (others.map Prod.fst) name other →
      convert (place :: path) item = .ok value → convert (other :: path) item = .ok next →
      f value = f' next) :
    Entries.mapData f (Entries.ofList pairs) = Entries.mapData f' (Entries.ofList further) := by
  rw [Entries.mapData_ofList, Entries.mapData_ofList]
  refine Entries.eq_of_sameLookups (Entries.ascending_ofList _) (Entries.ascending_ofList _) ?_
  intro name
  rw [← Entries.mapData_ofList, ← Entries.mapData_ofList, Entries.find?_mapData,
    Entries.find?_mapData]
  have hnames : name ∈ entries.map Prod.fst ↔ name ∈ others.map Prod.fst := by
    rw [← Entries.find?_ofList_isSome, hsame, Entries.find?_ofList_isSome]
  by_cases hname : name ∈ entries.map Prod.fst
  · obtain ⟨place, hplace⟩ := Entries.exists_lastAt hname
    obtain ⟨other, hother⟩ := Entries.exists_lastAt (hnames.mp hname)
    have hitem := hplace.here
    have hlast := hother.here
    rw [List.getElem?_map, Option.map_eq_some_iff] at hitem hlast
    obtain ⟨⟨_, item⟩, hitem, rfl⟩ := hitem
    obtain ⟨⟨_, last⟩, hlast, rfl⟩ := hlast
    -- Both lists have the same last datum under the name.
    have hitems := Entries.find?_ofList_of_lastAt hplace hitem
    rw [hsame, Entries.find?_ofList_of_lastAt hother hlast] at hitems
    cases hitems
    obtain ⟨value, hvalue, hpair⟩ := getElem?_placed hpairs hitem
    obtain ⟨next, hnext, hnextPair⟩ := getElem?_placed hfurther hlast
    rw [Nat.zero_add] at hvalue hnext
    rw [← map_fst_placed hpairs] at hplace
    rw [← map_fst_placed hfurther] at hother
    rw [Entries.find?_ofList_of_lastAt hplace hpair,
      Entries.find?_ofList_of_lastAt hother hnextPair, Option.map_some, Option.map_some]
    rw [map_fst_placed hpairs] at hplace
    rw [map_fst_placed hfurther] at hother
    rw [h (List.mem_of_getElem? hitem) hplace hother hvalue hnext]
  · have hnone {pairs : List (String × Value)} (hpairs : name ∉ pairs.map Prod.fst) :
        Entries.find? name (Entries.ofList pairs) = none := by
      rw [← Entries.find?_ofList_isSome, Bool.not_eq_true, Option.isSome_eq_false_iff,
        Option.isNone_iff_eq_none] at hpairs
      exact hpairs
    rw [hnone (map_fst_placed hpairs ▸ hname),
      hnone (map_fst_placed hfurther ▸ hnames.not.mp hname)]
    rfl

end Placed

/-! ## The ways to make a map -/

/-- The ways in which a host makes a map of entries: of typed values, of a draft, and of data
that it hands over as pairs, as the fields of a record, or as the fields of a variant. -/
inductive MapKind : Type → Type
  | typed : MapKind Typed
  | draft (vars : Variables) : MapKind Draft
  | pairs : MapKind Datum
  | record : MapKind Datum
  | recordVariant (name : String) : MapKind Datum

namespace MapKind

/-- Makes the map. -/
def make (path : List Nat) :
    {α : Type} → MapKind α → List (String × α) → Except ConversionError Value
  | _, typed, entries => .ok ((Typed.map entries).toValue path)
  | _, draft vars, entries => .ok ((Draft.map entries).build vars path)
  | _, pairs, entries =>
      (Datum.ofPairs (entries.map fun entry => (.string entry.1, entry.2))).toValue path
  | _, record, fields => (Datum.record fields).toValue path
  | _, recordVariant name, fields => (Datum.recordVariant name fields).toValue path

/-- Converts the datum of an entry. -/
def convert : {α : Type} → MapKind α → List Nat → α → Except ConversionError Value
  | _, typed, path, item => .ok (item.toValue path)
  | _, draft vars, path, item => .ok (item.build vars path)
  | _, pairs, path, item => item.toValue path
  | _, record, path, item => item.toValue path
  | _, recordVariant _, path, item => item.toValue path

/-- The path of the map itself. -/
def place (path : List Nat) : {α : Type} → MapKind α → List Nat
  | _, recordVariant _ => 0 :: path
  | _, _ => path

/-- The value that is made around the entries. -/
def frame (path : List Nat) : {α : Type} → MapKind α → Entries Value → Value
  | _, recordVariant name, entries => .map (.host path) [(name, .map (.host (0 :: path)) entries)]
  | _, _, entries => .map (.host path) entries

/-- The entries of the map in a value that has been made. -/
def contents : {α : Type} → MapKind α → Value → Entries Value
  | _, recordVariant name, value => (value.field name).mapEntries
  | _, _, value => value.mapEntries

/-- Whether no label in what the host has put into an item as it was is below a path. -/
def New (path : List Nat) : {α : Type} → MapKind α → α → Prop
  | _, typed, item => ∀ whole ∈ item.wholes, whole.Avoids path
  | _, draft vars, _ => ∀ entry ∈ vars, entry.2.Avoids path
  | _, _, _ => True

variable {α : Type}

theorem placed_typed (path : List Nat) (position : Nat) (entries : List (String × Typed)) :
    placed typed.convert path position entries = .ok (Typed.entryValues path position entries) := by
  induction entries generalizing position with
  | nil => rfl
  | cons entry rest ih =>
      rw [placed, ih]
      rfl

theorem placed_draft (vars : Variables) (path : List Nat) (position : Nat)
    (entries : List (String × Draft)) :
    placed (draft vars).convert path position entries =
      .ok (Draft.buildEntries vars path position entries) := by
  induction entries generalizing position with
  | nil => rfl
  | cons entry rest ih =>
      rw [placed, ih]
      rfl

theorem fieldEntries_eq_placed (path : List Nat) (position : Nat) (before : Entries Value)
    (fields : List (String × Datum)) :
    Datum.fieldEntries path position before fields =
      (placed (fun place item => item.toValue place) path position fields).map
        (Entries.insertAll · before) := by
  induction fields generalizing position before with
  | nil => rfl
  | cons field rest ih =>
      obtain ⟨name, item⟩ := field
      rw [Datum.fieldEntries, placed]
      rcases item.toValue (position :: path) with error | value
      · rfl
      · simp only [bind, Except.bind, ih]
        rcases placed _ path (position + 1) rest with error | further
        · rfl
        · rfl

theorem partEntries_eq_placed (path : List Nat) (position : Nat) (before : Entries Value)
    (entries : List (String × Datum)) :
    Datum.partEntries path position none before
        (entries.flatMap fun entry => [.key (.string entry.1), .value entry.2]) =
      (placed (fun place item => item.toValue place) path position entries).map
        (Entries.insertAll · before) := by
  induction entries generalizing position before with
  | nil => rfl
  | cons entry rest ih =>
      obtain ⟨name, item⟩ := entry
      rw [List.flatMap_cons, List.cons_append, List.cons_append, List.nil_append,
        Datum.partEntries_pair, placed]
      rcases item.toValue (position :: path) with error | value
      · rfl
      · simp only [Except.bind, ih]
        rcases placed _ path (position + 1) rest with error | further
        · rfl
        · rfl

/-- However it is made, a map holds its data at their positions. -/
theorem make_eq (kind : MapKind α) (path : List Nat) (entries : List (String × α)) :
    kind.make path entries =
      (placed kind.convert (kind.place path) 0 entries).map fun pairs =>
        kind.frame path (Entries.ofList pairs) := by
  rcases kind with _ | vars | _ | _ | name
  · rw [make, placed_typed]
    rfl
  · rw [make, placed_draft]
    rfl
  · rw [make, Datum.ofPairs, Datum.toValue, List.flatMap_map, partEntries_eq_placed]
    change _ = Except.map _ (placed (fun place item => item.toValue place) path 0 entries)
    rcases placed (fun place item => Datum.toValue place item) path 0 entries with error | made
    · rfl
    · rfl
  · rw [make, Datum.toValue, fieldEntries_eq_placed]
    change _ = Except.map _ (placed (fun place item => item.toValue place) path 0 entries)
    rcases placed (fun place item => Datum.toValue place item) path 0 entries with error | made
    · rfl
    · rfl
  · rw [make, Datum.recordVariant, Datum.toValue, Datum.toValue, fieldEntries_eq_placed]
    change _ = Except.map _ (placed (fun place item => item.toValue place) (0 :: path) 0 entries)
    rcases placed (fun place item => Datum.toValue place item) (0 :: path) 0 entries with
      error | made
    · rfl
    · rfl

theorem make_ok {kind : MapKind α} {path : List Nat} {entries : List (String × α)} {value : Value}
    (h : kind.make path entries = .ok value) :
    ∃ pairs, placed kind.convert (kind.place path) 0 entries = .ok pairs ∧
      value = kind.frame path (Entries.ofList pairs) := by
  rw [make_eq] at h
  rcases hpairs : placed kind.convert (kind.place path) 0 entries with error | pairs
  · rw [hpairs] at h
    cases h
  · rw [hpairs] at h
    cases h
    exact ⟨pairs, rfl, rfl⟩

/-- An item that is converted at one place is converted at all, to a value of the same structure. -/
theorem sameStructure_convert {kind : MapKind α} {path : List Nat} {item : α} {value : Value}
    (h : kind.convert path item = .ok value) (place : List Nat) :
    ∃ other, kind.convert place item = .ok other ∧ value.SameStructure other := by
  rcases kind with _ | vars | _ | _ | name
  · cases h
    exact ⟨_, rfl, item.sameStructure_toValue path place⟩
  · cases h
    exact ⟨_, rfl, item.sameStructure_build path place⟩
  all_goals exact Datum.sameStructure_toValue h place

theorem convert_carried {kind : MapKind α} {path : List Nat} {item : α} (hnew : kind.New path item)
    {g : List Nat → List Nat} (hmoves : MovesBelow path g) {place : List Nat}
    (hg : Carries g place) :
    kind.convert (g place) item = (kind.convert place item).map (Value.relabel g) := by
  rcases kind with _ | vars | _ | _ | name
  · exact congrArg Except.ok
      (item.toValue_carried (fun whole hwhole => hmoves.relabel_eq (hnew whole hwhole)) hg)
  · exact congrArg Except.ok (Draft.build_carried (hmoves.mapData_eq hnew) item hg)
  all_goals exact item.toValue_carried hg

theorem bare_frame (kind : MapKind α) (path : List Nat) {entries others : Entries Value}
    (h : Entries.mapData Value.bare entries = Entries.mapData Value.bare others) :
    (kind.frame path entries).SameStructure (kind.frame path others) := by
  have hmap (identity : Identity) :
      (Value.map identity entries).bare = (Value.map identity others).bare := by
    rw [Value.bare_map, Value.bare_map, h]
  rcases kind with _ | vars | _ | _ | name
  case recordVariant =>
    rw [Value.SameStructure, frame, frame, Value.bare_map, Value.bare_map]
    exact congrArg (fun inner => Value.map (.host []) [(name, inner)]) (hmap (.host (0 :: path)))
  all_goals exact hmap (.host path)

theorem movesBelow_of_place {kind : MapKind α} {path : List Nat} {g : List Nat → List Nat}
    (h : MovesBelow (kind.place path) g) : MovesBelow path g := by
  rcases kind with _ | vars | _ | _ | name
  case recordVariant => exact h.of_cons
  all_goals exact h

theorem relabel_frame {kind : MapKind α} {path : List Nat} {g : List Nat → List Nat}
    (hg : MovesBelow (kind.place path) g) (entries : Entries Value) :
    (kind.frame path entries).relabel g =
      kind.frame path (Entries.mapData (Value.relabel g) entries) := by
  have hmap {place : List Nat} (hplace : g place = place) :
      (Value.map (.host place) entries).relabel g =
        .map (.host place) (Entries.mapData (Value.relabel g) entries) := by
    rw [Value.relabel_map, Identity.move, hplace]
  rcases kind with _ | vars | _ | _ | name
  case recordVariant =>
    have hpath : g path = path := hg.fixes (not_below_of_length_le (Nat.le_succ _))
    have hinner : g (0 :: path) = 0 :: path := hg.fixes (not_below_of_length_le (Nat.le_refl _))
    rw [frame, frame, Value.relabel, Value.relabelEntries, hmap hinner, Identity.move, hpath,
      Value.relabelEntries]
  all_goals exact hmap (hg.fixes (not_below_of_length_le (Nat.le_refl _)))

theorem contents_frame (kind : MapKind α) (path : List Nat) (entries : Entries Value) :
    kind.contents (kind.frame path entries) = entries := by
  rcases kind with _ | vars | _ | _ | name
  case recordVariant =>
    simp [frame, contents, Value.field, Value.unwrapped, Entries.find?, Value.mapEntries]
  all_goals rfl

/-! ## Lists with the same last data -/

section SameLasts

variable {kind : MapKind α} {path : List Nat} {entries others : List (String × α)}
    {value other : Value}

theorem sameStructure_make (hsame : Entries.ofList entries = Entries.ofList others)
    (hvalue : kind.make path entries = .ok value) (hother : kind.make path others = .ok other) :
    value.SameStructure other := by
  obtain ⟨pairs, hpairs, rfl⟩ := make_ok hvalue
  obtain ⟨further, hfurther, rfl⟩ := make_ok hother
  apply bare_frame
  refine mapData_ofList_placed hsame hpairs hfurther ?_
  intro name item place position value next _ _ _ hconvert hnext
  obtain ⟨again, hagain, hstructure⟩ := sameStructure_convert hconvert (position :: kind.place path)
  rw [hnext] at hagain
  cases hagain
  exact hstructure

/-- Where the lists have the same last data, a move of labels takes one map to the other. -/
theorem exists_relabel_make (hsame : Entries.ofList entries = Entries.ofList others)
    (hnew : ∀ entry ∈ entries, kind.New path entry.2)
    (hvalue : kind.make path entries = .ok value) (hother : kind.make path others = .ok other) :
    ∃ g, MovesBelow path g ∧ value = other.relabel g := by
  obtain ⟨pairs, hpairs, rfl⟩ := make_ok hvalue
  obtain ⟨further, hfurther, rfl⟩ := make_ok hother
  obtain ⟨carry, hinjective, hcarry⟩ :=
    Entries.exists_injective_lastAt (entries.map Prod.fst) (others.map Prod.fst)
  have hmoves : MovesBelow (kind.place path) (carryBelow (kind.place path) carry) :=
    movesBelow_carryBelow hinjective
  refine ⟨carryBelow (kind.place path) carry, movesBelow_of_place hmoves, ?_⟩
  have hentries : Entries.mapData id (Entries.ofList pairs) =
      Entries.mapData (Value.relabel (carryBelow (kind.place path) carry))
        (Entries.ofList further) := by
    refine mapData_ofList_placed hsame hpairs hfurther ?_
    intro name item place position value next hitem hplace hposition hconvert hnext
    have hcarried := convert_carried (hnew _ hitem) (movesBelow_of_place hmoves)
      (carries_carryBelow position)
    have hmoved : carryBelow (kind.place path) carry (position :: kind.place path) =
        place :: kind.place path := by
      refine (carryBelow_below [] position).trans ?_
      rw [hcarry name place position hplace hposition]
      rfl
    rw [hmoved, hconvert, hnext] at hcarried
    exact Except.ok.inj hcarried
  rw [relabel_frame hmoves, ← hentries, Entries.mapData]
  exact congrArg (kind.frame path) (List.map_id _).symm

end SameLasts

/-- What is made of two lists of entries differs in labels only: it has one structure and one text,
and where the labels below the path are new, no template renders it differently.  What modifiers may
keep of the values that they are given is told by the relation between the states of the hosts. -/
structure SameMade (kind : MapKind α) (path : List Nat) (entries others : List (String × α)) :
    Prop where
  structure_eq : ∀ {value other},
    kind.make path entries = .ok value → kind.make path others = .ok other →
    value.SameStructure other ∧ value.text = other.text
  render_eq : ∀ {σ : Type} {R : σ → σ → Prop} {registry : Registry σ} {vars : Variables}
      {value other : Value},
    (∀ g, MovesBelow path g → registry.Blind g R) → (∀ entry ∈ vars, entry.2.Avoids path) →
    (∀ entry ∈ entries, kind.New path entry.2) →
    kind.make path entries = .ok value → kind.make path others = .ok other →
    ∀ (template : Template) (name : String) {host twin : σ}, R host twin →
      let rendered := template.render registry ⟨Entries.insert name value vars, host⟩
      let renderedTwin := template.render registry ⟨Entries.insert name other vars, twin⟩
      rendered.1 = renderedTwin.1 ∧ R rendered.2.host renderedTwin.2.host

theorem sameMade_of_lasts {kind : MapKind α} {path : List Nat} {entries others : List (String × α)}
    (hsame : Entries.ofList entries = Entries.ofList others) :
    kind.SameMade path entries others := by
  constructor
  · intro value other hvalue hother
    have hstructure := sameStructure_make hsame hvalue hother
    exact ⟨hstructure, Value.text_of_sameStructure hstructure⟩
  · intro σ R registry vars value other hregistry hvars hnew hvalue hother template name host twin
      hhost
    obtain ⟨g, hmoves, rfl⟩ := exists_relabel_make hsame hnew hvalue hother
    have hmoved : (⟨Entries.insert name (other.relabel g) vars, host⟩ : Surroundings σ).Moved g R
        ⟨Entries.insert name other vars, twin⟩ := by
      refine ⟨?_, hhost⟩
      rw [Entries.mapData_insert, hmoves.mapData_eq hvars]
    obtain ⟨htext, hbehind⟩ :=
      template.render_relabel hmoves.injective (hregistry g hmoves) hmoved
    exact ⟨htext, hbehind.host⟩

/-- A map can be made of some of the entries that it can be made of. -/
theorem exists_make_of_subset {kind : MapKind α} {path : List Nat}
    {entries others : List (String × α)} {value : Value} (h : kind.make path entries = .ok value)
    (hsubset : others ⊆ entries) :
    ∃ other, kind.make path others = .ok other := by
  obtain ⟨pairs, hpairs, -⟩ := make_ok h
  have hitems : ∀ entry ∈ others, ∀ place, ∃ value, kind.convert place entry.2 = .ok value := by
    rintro ⟨name, item⟩ hentry place
    obtain ⟨index, hindex⟩ := List.mem_iff_getElem?.mp (hsubset hentry)
    obtain ⟨value, hvalue, -⟩ := getElem?_placed hpairs hindex
    obtain ⟨other, hother, -⟩ := sameStructure_convert hvalue place
    exact ⟨other, hother⟩
  obtain ⟨further, hfurther⟩ := exists_placed hitems 0
  refine ⟨kind.frame path (Entries.ofList further), ?_⟩
  rw [make_eq, hfurther]
  rfl

/-- A map does not depend on the order of its entries: entries with distinct names make one map
in any order, or none, and with repeated names they make the map that the last entries make
alone.  The names in it are those of the entries, and ascend in the order of their bytes. -/
theorem make_of_reordered (kind : MapKind α) (path : List Nat) (entries : List (String × α)) :
    (∀ others, others.Perm entries → (entries.map Prod.fst).Nodup →
      ((∃ value, kind.make path entries = .ok value) ↔ ∃ other, kind.make path others = .ok other) ∧
        kind.SameMade path entries others) ∧
    (∀ value, kind.make path entries = .ok value →
      (∃ other, kind.make path (Entries.lasts entries) = .ok other) ∧
        ((kind.contents value).map fun entry => Text.bytes entry.1).Pairwise (· < ·) ∧
        ∀ name, name ∈ Entries.names (kind.contents value) ↔ name ∈ entries.map Prod.fst) ∧
    ((Entries.lasts entries).map Prod.fst).Nodup ∧
      kind.SameMade path entries (Entries.lasts entries) := by
  refine ⟨?_, ?_, Entries.nodup_lasts entries,
    sameMade_of_lasts (Entries.ofList_lasts entries).symm⟩
  · intro others hperm hdistinct
    constructor
    · constructor
      · rintro ⟨value, hvalue⟩
        exact exists_make_of_subset hvalue hperm.subset
      · rintro ⟨other, hother⟩
        exact exists_make_of_subset hother hperm.symm.subset
    · exact sameMade_of_lasts (Entries.ofList_perm hperm.symm hdistinct)
  · intro value hvalue
    refine ⟨exists_make_of_subset hvalue (Entries.lasts_subset entries), ?_⟩
    obtain ⟨pairs, hpairs, rfl⟩ := make_ok hvalue
    rw [contents_frame, ← map_fst_placed hpairs]
    constructor
    · rw [List.pairwise_map]
      refine (Entries.pairwise_of_ascending (Entries.ascending_ofList pairs)).imp ?_
      intro entry later hlt
      exact Text.bytes_lt_of_lt hlt
    · intro name
      exact Entries.mem_names_ofList

/-- A loop goes through a map in the order of the names, whatever the order of the entries was, and
calls its modifiers with the same items. -/
theorem make_of_reordered_loop :
    let entries : List (String × Typed) :=
      [("b", .sequence [.string "x"]), ("a", .value (.array (.host [7]) [.string "y"]))]
    let template : Template :=
      ⟨[.loop ⟨.variable "map", "item", some "key", some "rows"⟩
        [.action (.variable "key"), .action (.pipe (.variable "item") "upper"),
          .action (.index (.variable "item") (.number .zero)),
          .action (.field (.field (.field (.variable "smarty") "foreach") "rows") "last")] none]⟩
    let registry : Registry (Unit × List Call) := Registry.builtin.noting
    let rendered (given : List (String × Typed)) :=
      template.render registry ⟨[("map", (Typed.map given).toValue [0])], ((), [])⟩
    let calls (given : List (String × Typed)) := (rendered given).2.host.2
    (rendered entries).1 = "ayfalsebxtrue" ∧ (rendered entries.reverse).1 = "ayfalsebxtrue" ∧
      (calls entries).map Call.modifier = ["upper", "upper"] ∧
      (calls entries).map Call.bare = (calls entries.reverse).map Call.bare := by
  intro entries template registry rendered calls
  have htext : (rendered entries).1 = "ayfalsebxtrue" := by
    simp only [rendered, registry, template, entries]
    decide +kernel
  have hcalls : (calls entries).map Call.modifier = ["upper", "upper"] := by
    simp only [calls, rendered, registry, template, entries]
    decide +kernel
  have hnew : ∀ entry ∈ entries, typed.New [0] entry.2 := by
    simp only [entries, List.forall_mem_cons]
    refine ⟨nofun, ?_, List.forall_mem_nil _⟩
    intro whole hwhole
    obtain rfl := List.mem_singleton.mp hwhole
    refine .array (not_below_of_length_le (Nat.le_refl _)) ?_
    intro item hitem
    obtain rfl := List.mem_singleton.mp hitem
    exact .string "y"
  have hsame :=
    ((make_of_reordered typed [0] entries).1 entries.reverse entries.reverse_perm (by decide)).2
  have hregistry : ∀ g, MovesBelow [0] g → registry.Blind g (SameNotes Eq) :=
    fun g _ => (Registry.blind_builtin g Eq).noting
  have hvars : ∀ entry ∈ ([] : Variables), entry.2.Avoids [0] := List.forall_mem_nil _
  obtain ⟨hsameText, -, hsameCalls⟩ :=
    hsame.render_eq hregistry hvars hnew rfl rfl template "map" ⟨rfl, rfl⟩
  exact ⟨htext, hsameText.symm.trans htext, hcalls, hsameCalls⟩

end MapKind

end Stencil
