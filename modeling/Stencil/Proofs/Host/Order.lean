import Stencil.Environment.Binding
import Stencil.Modifier.Builtin
import Stencil.Proofs.Value.Order

/-!
# What a host builds is in order

Every map is filled by insertion, and insertion keeps the names in ascending order.  So the
values that are made of drafts or converted from host data are ordered, and so are the variables
that are bound to them.  The built-in modifiers put out texts and null only, which have no order
to lose.
-/

namespace Stencil

namespace Entries

variable {α : Type}

theorem ascending_cons {first : String × α} {rest : Entries α} :
    Ascending (first :: rest) ↔ (∀ entry ∈ rest, first.1 < entry.1) ∧ Ascending rest := by
  rw [Ascending, names, List.map_cons, List.pairwise_cons]
  simp [Ascending, names]

theorem ascending_insert (name : String) (datum : α) {entries : Entries α}
    (h : Ascending entries) : Ascending (insert name datum entries) := by
  induction entries with
  | nil => exact List.pairwise_singleton _ _
  | cons first rest ih =>
      obtain ⟨other, old⟩ := first
      obtain ⟨hfirst, hrest⟩ := ascending_cons.mp h
      rw [insert]
      by_cases heq : name = other
      · rw [if_pos heq, ascending_cons]
        subst heq
        exact ⟨hfirst, hrest⟩
      · by_cases hlt : name < other
        · rw [if_neg heq, if_pos hlt, ascending_cons]
          refine ⟨?_, h⟩
          intro entry hentry
          rcases List.mem_cons.mp hentry with rfl | hmem
          · exact hlt
          · exact String.lt_trans hlt (hfirst entry hmem)
        · rw [if_neg heq, if_neg hlt, ascending_cons]
          refine ⟨?_, ih hrest⟩
          intro entry hentry
          rcases mem_of_mem_insert hentry with rfl | hmem
          · apply String.not_le.mp
            intro hle
            exact heq (String.le_antisymm hle (String.not_lt.mp hlt))
          · exact hfirst entry hmem

theorem ascending_ofList (pairs : List (String × α)) : Ascending (ofList pairs) := by
  have hfold (entries : Entries α) (hentries : Ascending entries) :
      Ascending (pairs.foldl (fun entries pair => insert pair.1 pair.2 entries) entries) := by
    induction pairs generalizing entries with
    | nil => exact hentries
    | cons pair rest ih => exact ih _ (ascending_insert pair.1 pair.2 hentries)
  exact hfold [] List.Pairwise.nil

end Entries

/-- Entries that a map can hold: ascending, with ordered values. -/
structure Entries.Ordered (entries : Entries Value) : Prop where
  ascending : Ascending entries
  values : ∀ entry ∈ entries, entry.2.Ordered

namespace Entries

theorem ordered_nil : Ordered [] :=
  ⟨List.Pairwise.nil, nofun⟩

theorem Ordered.insert {entries : Entries Value} (h : Ordered entries) (name : String)
    {value : Value} (hvalue : value.Ordered) : Ordered (insert name value entries) := by
  refine ⟨ascending_insert name value h.ascending, ?_⟩
  intro entry hentry
  rcases mem_of_mem_insert hentry with rfl | hmem
  · exact hvalue
  · exact h.values entry hmem

theorem ordered_ofList {pairs : List (String × Value)} (h : ∀ pair ∈ pairs, pair.2.Ordered) :
    Ordered (ofList pairs) := by
  have hfold (entries : Entries Value) (hentries : Ordered entries) :
      Ordered (pairs.foldl (fun entries pair => insert pair.1 pair.2 entries) entries) := by
    induction pairs generalizing entries with
    | nil => exact hentries
    | cons pair rest ih =>
        obtain ⟨hpair, hrest⟩ := List.forall_mem_cons.mp h
        exact ih hrest _ (hentries.insert pair.1 hpair)
  exact hfold [] ordered_nil

end Entries

theorem Value.ordered_optional {value : Value} (h : value.Ordered) :
    (Value.optional (some value)).Ordered := by
  rw [optional.eq_def]
  split
  · exact .absent
  · exact .absent
  · rename_i heq
    cases heq
    exact .present h

/-! ## Drafts -/

namespace Draft

variable {vars : Variables}

mutual

/-- A draft over ordered variables makes an ordered value. -/
theorem ordered_build (hvars : Variables.Ordered vars) (path : List Nat) (draft : Draft) :
    (draft.build vars path).Ordered := by
  match draft with
  | .null => exact .null
  | .boolean flag => exact .boolean flag
  | .number n => exact .number n
  | .string text => exact .string text
  | .array items => exact .array _ (ordered_buildItems hvars path 0 items)
  | .map entries =>
      have hentries := Entries.ordered_ofList (ordered_buildEntries hvars path 0 entries)
      exact .map _ hentries.ascending hentries.values
  | .time t => exact .time t
  | .absent => exact .absent
  | .present inner => exact .present (ordered_build hvars path inner)
  | .optional inner => exact Value.ordered_optional (ordered_build hvars path inner)
  | .shared name => exact Value.ordered_getD_find? hvars name

theorem ordered_buildItems (hvars : Variables.Ordered vars) (path : List Nat) (position : Nat)
    (items : List Draft) : ∀ value ∈ buildItems vars path position items, value.Ordered := by
  match items with
  | [] => exact nofun
  | item :: rest =>
      rw [buildItems, List.forall_mem_cons]
      exact ⟨ordered_build hvars (position :: path) item,
        ordered_buildItems hvars path (position + 1) rest⟩

theorem ordered_buildEntries (hvars : Variables.Ordered vars) (path : List Nat) (position : Nat)
    (entries : List (String × Draft)) :
    ∀ entry ∈ buildEntries vars path position entries, entry.2.Ordered := by
  match entries with
  | [] => exact nofun
  | (name, item) :: rest =>
      rw [buildEntries, List.forall_mem_cons]
      exact ⟨ordered_build hvars (position :: path) item,
        ordered_buildEntries hvars path (position + 1) rest⟩

end

end Draft

/-! ## Host data -/

theorem Except.map_eq_ok {ε α β : Type} {f : α → β} {outcome : Except ε α} {result : β}
    (h : outcome.map f = .ok result) : ∃ datum, outcome = .ok datum ∧ f datum = result := by
  cases outcome with
  | error error => cases h
  | ok datum => exact ⟨datum, rfl, Except.ok.inj h⟩

theorem Except.bind_eq_ok {ε α β : Type} {f : α → Except ε β} {outcome : Except ε α} {result : β}
    (h : outcome.bind f = .ok result) : ∃ datum, outcome = .ok datum ∧ f datum = .ok result := by
  cases outcome with
  | error error => cases h
  | ok datum => exact ⟨datum, rfl, h⟩

namespace Datum

theorem ordered_readTimestamp {text value : Value} (h : readTimestamp text = .ok value) :
    value.Ordered := by
  rw [readTimestamp.eq_def] at h
  split at h
  · obtain ⟨time, -, rfl⟩ := Except.map_eq_ok h
    exact .time time
  · cases h

mutual

/-- Host data are converted to an ordered value, if they are converted at all. -/
theorem ordered_toValue (path : List Nat) (datum : Datum) {value : Value}
    (h : datum.toValue path = .ok value) : value.Ordered := by
  match datum with
  | .boolean flag =>
      cases h
      exact .boolean flag
  | .integer n =>
      cases h
      exact .number _
  | .double n =>
      cases h
      exact .number n
  | .single n =>
      cases h
      exact .number _
  | .string text =>
      cases h
      exact .string text
  | .bytes values =>
      cases h
      refine .array _ ?_
      intro item hitem
      obtain ⟨byte, -, rfl⟩ := List.mem_map.mp hitem
      exact .number _
  | .nothing =>
      cases h
      exact .absent
  | .something inner =>
      obtain ⟨inside, hinside, rfl⟩ := Except.map_eq_ok h
      exact Value.ordered_optional (ordered_toValue path inner hinside)
  | .unit =>
      cases h
      exact .null
  | .sequence items =>
      obtain ⟨values, hvalues, rfl⟩ := Except.map_eq_ok h
      exact .array _ (ordered_itemValues path 0 items hvalues)
  | .map parts =>
      obtain ⟨entries, hentries, rfl⟩ := Except.map_eq_ok h
      have hordered := ordered_partEntries path 0 none parts Entries.ordered_nil hentries
      exact .map _ hordered.ascending hordered.values
  | .record fields =>
      obtain ⟨entries, hentries, rfl⟩ := Except.map_eq_ok h
      have hordered := ordered_fieldEntries path 0 fields Entries.ordered_nil hentries
      exact .map _ hordered.ascending hordered.values
  | .variant name payload =>
      obtain ⟨inside, hinside, rfl⟩ := Except.map_eq_ok h
      have hordered := Entries.ordered_nil.insert name (ordered_toValue (0 :: path) payload hinside)
      exact .map _ hordered.ascending hordered.values
  | .timestamp text =>
      obtain ⟨written, -, hread⟩ := Except.bind_eq_ok h
      exact ordered_readTimestamp hread
  | .failure message => cases h

theorem ordered_itemValues (path : List Nat) (position : Nat) (items : List Datum)
    {values : List Value} (h : itemValues path position items = .ok values) :
    ∀ value ∈ values, value.Ordered := by
  match items with
  | [] =>
      cases h
      exact nofun
  | item :: rest =>
      obtain ⟨value, hvalue, h⟩ := Except.bind_eq_ok h
      obtain ⟨further, hfurther, h⟩ := Except.bind_eq_ok h
      cases h
      rw [List.forall_mem_cons]
      exact ⟨ordered_toValue (position :: path) item hvalue,
        ordered_itemValues path (position + 1) rest hfurther⟩

theorem ordered_partEntries (path : List Nat) (position : Nat) (name : Option String)
    (parts : List MapPart) {before entries : Entries Value} (hbefore : before.Ordered)
    (h : partEntries path position name before parts = .ok entries) : entries.Ordered := by
  match parts, name with
  | [], _ =>
      cases h
      exact hbefore
  | .key datum :: rest, _ =>
      obtain ⟨key, -, h⟩ := Except.bind_eq_ok h
      obtain ⟨name, -, h⟩ := Except.bind_eq_ok h
      exact ordered_partEntries path position (some name) rest hbefore h
  | .value datum :: rest, none => cases h
  | .value datum :: rest, some name =>
      obtain ⟨value, hvalue, h⟩ := Except.bind_eq_ok h
      have hnext := hbefore.insert name (ordered_toValue (position :: path) datum hvalue)
      exact ordered_partEntries path (position + 1) none rest hnext h

theorem ordered_fieldEntries (path : List Nat) (position : Nat) (fields : List (String × Datum))
    {before entries : Entries Value} (hbefore : before.Ordered)
    (h : fieldEntries path position before fields = .ok entries) : entries.Ordered := by
  match fields with
  | [] =>
      cases h
      exact hbefore
  | (name, datum) :: rest =>
      obtain ⟨value, hvalue, h⟩ := Except.bind_eq_ok h
      have hnext := hbefore.insert name (ordered_toValue (position :: path) datum hvalue)
      exact ordered_fieldEntries path (position + 1) rest hnext h

end

end Datum

/-! ## Variables and modifiers -/

/-- The variables that bindings to ordered values make are ordered. -/
theorem Binding.ordered_toVariables {bindings : List Binding} {vars : Variables}
    (h : ∀ binding ∈ bindings, ∀ value, binding.value = .ok value → value.Ordered)
    (hvars : toVariables bindings = .ok vars) : Entries.Ordered vars := by
  rw [toVariables] at hvars
  split at hvars
  · cases hvars
    refine Entries.ordered_ofList ?_
    intro pair hpair
    obtain ⟨binding, hbinding, hentry⟩ := List.mem_filterMap.mp hpair
    unfold entry? at hentry
    split at hentry
    · rename_i value hvalue
      cases hentry
      exact h binding hbinding value hvalue
    · cases hentry
  · cases hvars

namespace BindingSource

theorem ordered_value {vars : Variables} (hvars : Variables.Ordered vars) (path : List Nat)
    (source : BindingSource) {value : Value} (h : source.value vars path = .ok value) :
    value.Ordered := by
  cases source with
  | draft given =>
      cases h
      exact Draft.ordered_build hvars path given
  | datum given => exact Datum.ordered_toValue path given h

theorem ordered_bindings (path : List Nat) (position : Nat) {vars : Variables}
    (hvars : Entries.Ordered vars) (sources : List (String × BindingSource)) :
    ∀ binding ∈ bindings path position vars sources, ∀ value, binding.value = .ok value →
      value.Ordered := by
  induction sources generalizing position vars with
  | nil => exact nofun
  | cons first rest ih =>
      obtain ⟨name, source⟩ := first
      have hvalue (value : Value) (h : source.value vars (position :: path) = .ok value) :
          value.Ordered := ordered_value hvars.values (position :: path) source h
      rw [bindings, List.forall_mem_cons]
      refine ⟨hvalue, ih (position + 1) ?_⟩
      split
      · rename_i value hsource
        exact hvars.insert name (hvalue value hsource)
      · exact hvars

/-- Whatever a host binds names to, the variables that it makes are ordered. -/
theorem ordered_toVariables (path : List Nat) (sources : List (String × BindingSource))
    {vars : Variables} (h : Binding.toVariables (bindings path 0 [] sources) = .ok vars) :
    Entries.Ordered vars :=
  Binding.ordered_toVariables (ordered_bindings path 0 Entries.ordered_nil sources) h

end BindingSource

theorem Registry.keepsOrder_builtin {σ : Type} : (Registry.builtin : Registry σ).KeepsOrder := by
  have htext (f : List Char → List Char) (value : Value) : (Modifier.onText f value).Ordered := by
    rw [Modifier.onText]
    split
    · exact .string _
    · exact .null
  have hnumber (value : Value) : (Modifier.formatNumber value).Ordered := by
    rw [Modifier.formatNumber]
    split
    · exact .string _
    · exact .null
  have hall : ∀ entry ∈ Modifier.builtins, ∀ value, (entry.2 value).Ordered := by
    simp only [Modifier.builtins, List.forall_mem_cons]
    exact ⟨htext _, htext _, htext _, htext _, hnumber, htext _, nofun⟩
  intro entry hentry value host _
  obtain ⟨named, hnamed, rfl⟩ := List.mem_map.mp hentry
  exact hall named hnamed value

end Stencil
