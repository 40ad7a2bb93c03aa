import Stencil.Proofs.Entries.Insertion
import Stencil.Proofs.Host.Faults
import Stencil.Proofs.Session.Holders

/-!
# Environments are made as a whole or not at all

One pass over bindings gathers variables and failures side by side.  What it has gathered behind
each binding is what the bindings so far with a value, and those without one, would have given
by themselves; so a good binding hides no failure, and a failure changes no variable.  Only at
the end it is decided which of the two is kept.

Whether a source has a value, and why it has none, depends neither on where it stands nor on
what the sources in front of it are bound to.  So the failures of an environment can be told
from its sources alone.
-/

namespace Stencil

namespace Binding

/-- What a pass over bindings has gathered so far. -/
structure Gathered where
  vars : Variables
  failures : List BindingFailure

namespace Gathered

/-- Takes up one more binding. -/
def take (gathered : Gathered) (binding : Binding) : Gathered :=
  match binding.value with
  | .ok value => { gathered with vars := Entries.insert binding.name value gathered.vars }
  | .error error => { gathered with failures := gathered.failures ++ [⟨binding.name, error⟩] }

/-- What is kept at the end. -/
def result (gathered : Gathered) : Except (List BindingFailure) Variables :=
  if gathered.failures.isEmpty then .ok gathered.vars else .error gathered.failures

/-- A binding with a value adds to the variables only, and one without to the failures only. -/
theorem take_eq (gathered : Gathered) (binding : Binding) :
    gathered.take binding =
      ⟨Entries.insertAll binding.entry?.toList gathered.vars,
        gathered.failures ++ binding.failure?.toList⟩ := by
  obtain ⟨name, error | value⟩ := binding
  · rfl
  · simp [take, entry?, failure?, Entries.insertAll]

theorem foldl_take (bindings : List Binding) (gathered : Gathered) :
    bindings.foldl take gathered =
      ⟨Entries.insertAll (bindings.filterMap entry?) gathered.vars,
        gathered.failures ++ bindings.filterMap failure?⟩ := by
  induction bindings generalizing gathered with
  | nil => simp [Entries.insertAll]
  | cons binding rest ih =>
      have hentries : (binding :: rest).filterMap entry? =
          binding.entry?.toList ++ rest.filterMap entry? := by
        cases h : binding.entry? <;> simp [h]
      have hfailures : (binding :: rest).filterMap failure? =
          binding.failure?.toList ++ rest.filterMap failure? := by
        cases h : binding.failure? <;> simp [h]
      rw [List.foldl_cons, ih, take_eq, hentries, hfailures, List.append_assoc]
      simp only [Entries.insertAll, List.foldl_append]

end Gathered

/-- Gathers what bindings give, in one pass. -/
def gather (bindings : List Binding) : Gathered :=
  bindings.foldl Gathered.take ⟨[], []⟩

theorem toVariables_eq_gather (bindings : List Binding) :
    toVariables bindings = (gather bindings).result := by
  rw [gather, Gathered.foldl_take, toVariables, Gathered.result, List.nil_append]
  split
  · rename_i hnone
    simp only [hnone, List.isEmpty_nil, if_true]
    rfl
  · rename_i hsome
    rw [if_neg]
    simpa using hsome

/-! ## What comes of bindings -/

/-- What is to come of bindings: if each has a value, the variables in which a name has the
value of its last binding and no other name has one, and else the failures of all bindings
without a value, in order. -/
structure AllOrNothing (bindings : List Binding)
    (result : Except (List BindingFailure) Variables) : Prop where
  ok_iff : (∃ vars, result = .ok vars) ↔ ∀ binding ∈ bindings, ∃ value, binding.value = .ok value
  last {vars : Variables} (h : result = .ok vars) {before after : List Binding} {name : String}
    {value : Value} (hbindings : bindings = before ++ ⟨name, .ok value⟩ :: after)
    (hlast : ∀ later ∈ after, later.name ≠ name) : Entries.find? name vars = some value
  unbound {vars : Variables} (h : result = .ok vars) {name : String}
    (hname : ∀ binding ∈ bindings, binding.name ≠ name) : Entries.find? name vars = none
  failures {failures : List BindingFailure} (h : result = .error failures) :
    failures = bindings.filterMap failure?

theorem failure?_eq_none_iff {binding : Binding} :
    binding.failure? = none ↔ ∃ value, binding.value = .ok value := by
  rw [failure?]
  split
  · rename_i hvalue
    simp [hvalue]
  · rename_i herror
    simp [herror]

theorem entry?_ok (name : String) (value : Value) :
    entry? ⟨name, .ok value⟩ = some (name, value) :=
  rfl

theorem name_eq_of_entry {binding : Binding} {entry : String × Value}
    (h : binding.entry? = some entry) :
    binding.name = entry.1 := by
  unfold entry? at h
  split at h
  · cases h
    rfl
  · cases h

theorem allOrNothing_toVariables (bindings : List Binding) :
    AllOrNothing bindings (toVariables bindings) := by
  by_cases hgood : bindings.filterMap failure? = []
  · have hresult : toVariables bindings = .ok (Entries.ofList (bindings.filterMap entry?)) := by
      rw [toVariables, hgood]
    have hvalues : ∀ binding ∈ bindings, ∃ value, binding.value = .ok value := by
      intro binding hbinding
      apply failure?_eq_none_iff.mp
      exact List.filterMap_eq_nil_iff.mp hgood binding hbinding
    rw [hresult]
    constructor
    · exact iff_of_true ⟨_, rfl⟩ hvalues
    · intro vars hvars before after name value hbindings hlast
      cases hvars
      rw [hbindings, List.filterMap_append, List.filterMap_cons_some (entry?_ok name value)]
      have hafter : ∀ later ∈ after.filterMap entry?, later.1 ≠ (name, value).1 := by
        intro later hlater
        obtain ⟨binding, hbinding, hentry⟩ := List.mem_filterMap.mp hlater
        rw [← name_eq_of_entry hentry]
        exact hlast binding hbinding
      exact Entries.find?_ofList_of_last hafter
    · intro vars hvars name hname
      cases hvars
      have hmem : name ∉ Entries.names (Entries.ofList (bindings.filterMap entry?)) := by
        rw [Entries.mem_names_ofList, List.mem_map]
        rintro ⟨entry, hentry, rfl⟩
        obtain ⟨binding, hbinding, hfound⟩ := List.mem_filterMap.mp hentry
        exact hname binding hbinding (name_eq_of_entry hfound)
      have hcontains := Entries.contains_eq_decide_mem name
        (Entries.ofList (bindings.filterMap entry?))
      rw [decide_eq_false hmem, Entries.contains] at hcontains
      simpa using hcontains
    · intro failures hfailures
      cases hfailures
  · have hresult : toVariables bindings = .error (bindings.filterMap failure?) := by
      rw [toVariables]
      split
      · rename_i hnone
        exact absurd hnone hgood
      · rfl
    rw [hresult]
    constructor
    · apply iff_of_false
      · rintro ⟨vars, hvars⟩
        cases hvars
      · intro hvalues
        apply hgood
        apply List.filterMap_eq_nil_iff.mpr
        intro binding hbinding
        exact failure?_eq_none_iff.mpr (hvalues binding hbinding)
    · intro vars hvars
      cases hvars
    · intro vars hvars
      cases hvars
    · intro failures hfailures
      cases hfailures
      rfl

end Binding

namespace BindingSource

/-- Why a source has no value, if it has none: the first fault of host data. -/
def fault? : BindingSource → Option ConversionError
  | draft _ => none
  | datum given => given.faults.head?

/-- The failures of sources, each under the name that was to be bound. -/
def failures (sources : List (String × BindingSource)) : List BindingFailure :=
  sources.filterMap fun named => named.2.fault?.map fun error => ⟨named.1, error⟩

/-- The variables that sources make, those without a value left out. -/
def boundBy (path : List Nat) (sources : List (String × BindingSource)) : Variables :=
  Entries.ofList ((bindings path 0 [] sources).filterMap Binding.entry?)

/-- A source fails in the same way wherever it stands. -/
theorem value_eq_error_iff (source : BindingSource) (vars : Variables) (path : List Nat)
    (error : ConversionError) :
    source.value vars path = .error error ↔ source.fault? = some error := by
  rcases source with given | given
  · simp [value, fault?]
  · exact (given.ends_toValue path).error_iff error

theorem failure?_source (name : String) (source : BindingSource) (vars : Variables)
    (path : List Nat) :
    Binding.failure? ⟨name, source.value vars path⟩ =
      source.fault?.map fun error => ⟨name, error⟩ := by
  rw [Binding.failure?]
  rcases hvalue : source.value vars path with error | value
  · rw [(source.value_eq_error_iff vars path error).mp hvalue]
    rfl
  · have hnone : source.fault? = none := by
      rw [Option.eq_none_iff_forall_ne_some]
      intro error hfault
      rw [(source.value_eq_error_iff vars path error).mpr hfault] at hvalue
      cases hvalue
    rw [hnone]
    rfl

theorem filterMap_failure?_bindings (path : List Nat) (position : Nat) (vars : Variables)
    (sources : List (String × BindingSource)) :
    (bindings path position vars sources).filterMap Binding.failure? = failures sources := by
  induction sources generalizing position vars with
  | nil => rfl
  | cons named rest ih =>
      obtain ⟨name, source⟩ := named
      rw [bindings, failures]
      simp only [List.filterMap_cons, failure?_source, ih]
      rfl

/-- All bindings to sources have a value exactly if no source has a fault. -/
theorem forall_bindings_ok_iff (path : List Nat) (position : Nat) (vars : Variables)
    {sources : List (String × BindingSource)} :
    (∀ binding ∈ bindings path position vars sources, ∃ value, binding.value = .ok value) ↔
      ∀ named ∈ sources, named.2.fault? = none := by
  simp only [← Binding.failure?_eq_none_iff, ← List.filterMap_eq_nil_iff,
    filterMap_failure?_bindings]
  simp [failures]

theorem map_name_bindings (path : List Nat) (position : Nat) (vars : Variables)
    (sources : List (String × BindingSource)) :
    (bindings path position vars sources).map Binding.name = sources.map Prod.fst := by
  induction sources generalizing position vars with
  | nil => rfl
  | cons named rest ih =>
      obtain ⟨name, source⟩ := named
      rw [bindings, List.map_cons, ih]
      rfl

/-- The sources behind others find bound what those in front of them have made. -/
theorem bindings_append (path : List Nat) (position : Nat) (vars : Variables)
    (before after : List (String × BindingSource)) :
    bindings path position vars (before ++ after) =
      bindings path position vars before ++
        bindings path (position + before.length)
          (Entries.insertAll ((bindings path position vars before).filterMap Binding.entry?) vars)
          after := by
  induction before generalizing position vars with
  | nil => rfl
  | cons named rest ih =>
      obtain ⟨name, source⟩ := named
      have hposition : position + 1 + rest.length = position + (rest.length + 1) := by omega
      rw [List.cons_append, bindings, ih, bindings, List.cons_append, List.length_cons, hposition]
      rcases hvalue : source.value vars (position :: path) with error | value
      · rw [List.filterMap_cons_none rfl]
      · rw [List.filterMap_cons_some (Binding.entry?_ok name value)]
        rfl

theorem bindings_split (path : List Nat) (before after : List (String × BindingSource))
    (name : String) (source : BindingSource) :
    ∃ further : List Binding, further.map Binding.name = after.map Prod.fst ∧
      bindings path 0 [] (before ++ (name, source) :: after) =
        bindings path 0 [] before ++
          ⟨name, source.value (boundBy path before) (before.length :: path)⟩ :: further := by
  rw [bindings_append, bindings, Nat.zero_add]
  exact ⟨_, map_name_bindings path _ _ after, rfl⟩

end BindingSource

/-! ## Environments of a session -/

namespace Session

variable {σ : Type}

/-- However a kind of environment finds its registry, the environment is then made in the same
way. -/
theorem newEnvironment_eq_build {session : Session σ} {kind : EnvironmentKind}
    {number : RegistryNumber} (hnumber : kind.number? session = some number) (name : String)
    (sources : List (String × BindingSource)) :
    ∃ base : Session σ, base.environments = session.environments ∧ base.steps = session.steps ∧
      session.newEnvironment name kind sources = base.buildEnvironment name number sources := by
  rcases kind with _ | registry | _
  · cases hnumber
    exact ⟨session.addRegistry Registry.builtin, rfl, rfl, rfl⟩
  · refine ⟨session, rfl, rfl, ?_⟩
    have hfound : Entries.find? registry session.registryNames = some number := hnumber
    rw [newEnvironment, hfound]
  · cases hnumber
    exact ⟨session, rfl, rfl, rfl⟩

theorem step_newEnvironment_of_ok {session : Session σ} {kind : EnvironmentKind}
    {number : RegistryNumber} (hnumber : kind.number? session = some number) (name : String)
    {sources : List (String × BindingSource)} {vars : Variables}
    (h : Binding.toVariables (BindingSource.bindings [session.steps] 0 [] sources) = .ok vars) :
    (session.step (.newEnvironment name kind sources)).1 = .built (.ok ()) ∧
      Entries.find? name (session.step (.newEnvironment name kind sources)).2.environments =
        some ⟨vars, number⟩ := by
  obtain ⟨base, -, hsteps, hbuild⟩ := newEnvironment_eq_build hnumber name sources
  rw [step, perform, hbuild, buildEnvironment, hsteps, h]
  exact ⟨rfl, Entries.find?_insert_self name _ base.environments⟩

theorem step_newEnvironment_of_error {session : Session σ} {kind : EnvironmentKind}
    {number : RegistryNumber} (hnumber : kind.number? session = some number) (name : String)
    {sources : List (String × BindingSource)} {failures : List BindingFailure}
    (h : Binding.toVariables (BindingSource.bindings [session.steps] 0 [] sources) =
      .error failures) :
    (session.step (.newEnvironment name kind sources)).1 = .built (.error failures) ∧
      (session.step (.newEnvironment name kind sources)).2.environments = session.environments := by
  obtain ⟨base, henvironments, hsteps, hbuild⟩ := newEnvironment_eq_build hnumber name sources
  rw [step, perform, hbuild, buildEnvironment, hsteps, h]
  exact ⟨rfl, henvironments⟩

theorem step_get {session : Session σ} {name : String} {environment : Environment}
    (h : Entries.find? name session.environments = some environment) (other : String) :
    (session.step (.act name (.get other))).1 =
      .outcome (.value (Entries.find? other environment.vars)) := by
  rw [step, perform, act, h]
  rfl

/-- Variables come of bindings exactly if each binding has a value.  So an environment of any
kind is made exactly if each of its sources converts.  Then a name has the value of the last
source that was bound to it, and all others are unbound.  Otherwise the failures of all sources
that do not convert are reported in order, each under its name and with what is wrong with its
host data by themselves, and the environments are as they were. -/
theorem newEnvironment_all_or_nothing :
    (∀ bindings : List Binding,
      Binding.AllOrNothing bindings (Binding.toVariables bindings) ∧
        Binding.toVariables bindings = (Binding.gather bindings).result) ∧
    (∀ (datum : Datum) (path : List Nat) (error : ConversionError),
      datum.toValue path = .error error ↔ (BindingSource.datum datum).fault? = some error) ∧
    ∀ (session : Session σ) (kind : EnvironmentKind) (number : RegistryNumber) (name : String)
      (sources : List (String × BindingSource)), kind.number? session = some number →
      let made := session.step (.newEnvironment name kind sources)
      (made.1 = .built (.ok ()) ↔ ∀ named ∈ sources, named.2.fault? = none) ∧
      (made.1 = .built (.ok ()) →
        (∀ before after other source, sources = before ++ (other, source) :: after →
          other ∉ after.map Prod.fst →
          ∃ value,
            source.value (BindingSource.boundBy [session.steps] before)
                [before.length, session.steps] = .ok value ∧
              (made.2.step (.act name (.get other))).1 = .outcome (.value (some value))) ∧
        ∀ other, other ∉ sources.map Prod.fst →
          (made.2.step (.act name (.get other))).1 = .outcome (.value none)) ∧
      (made.1 ≠ .built (.ok ()) →
        made.1 = .built (.error (BindingSource.failures sources)) ∧
          made.2.environments = session.environments) := by
  refine ⟨?_, ?_, ?_⟩
  · intro bindings
    exact ⟨Binding.allOrNothing_toVariables bindings, Binding.toVariables_eq_gather bindings⟩
  · intro datum path error
    exact (BindingSource.datum datum).value_eq_error_iff [] path error
  · intro session kind number name sources hnumber made
    have hwhole :=
      Binding.allOrNothing_toVariables (BindingSource.bindings [session.steps] 0 [] sources)
    rw [← BindingSource.forall_bindings_ok_iff [session.steps] 0 [], ← hwhole.ok_iff]
    rcases hresult : Binding.toVariables (BindingSource.bindings [session.steps] 0 [] sources) with
      failures | vars
    · obtain ⟨hanswer, henvironments⟩ := step_newEnvironment_of_error hnumber name hresult
      have hfailures := hwhole.failures hresult
      rw [BindingSource.filterMap_failure?_bindings] at hfailures
      have hnot : made.1 ≠ .built (.ok ()) := by
        intro hbuilt
        cases hanswer.symm.trans hbuilt
      refine ⟨iff_of_false hnot ?_, fun hbuilt => absurd hbuilt hnot, fun _ => ⟨?_, henvironments⟩⟩
      · rintro ⟨vars, hvars⟩
        cases hvars
      · rw [← hfailures]
        exact hanswer
    · obtain ⟨hanswer, hfound⟩ := step_newEnvironment_of_ok hnumber name hresult
      refine ⟨iff_of_true hanswer ⟨vars, rfl⟩, fun _ => ⟨?_, ?_⟩, fun hnot => absurd hanswer hnot⟩
      · intro before after other source hsources hlast
        obtain ⟨further, hfurther, hsplit⟩ :=
          BindingSource.bindings_split [session.steps] before after other source
        rw [← hsources] at hsplit
        have hmem : ⟨other, source.value (BindingSource.boundBy [session.steps] before)
            [before.length, session.steps]⟩ ∈
              BindingSource.bindings [session.steps] 0 [] sources := by
          rw [hsplit]
          exact List.mem_append_right _ List.mem_cons_self
        obtain ⟨value, hvalue⟩ := hwhole.ok_iff.mp ⟨vars, hresult⟩ _ hmem
        rw [show source.value _ _ = .ok value from hvalue] at hsplit
        have hafter : ∀ later ∈ further, later.name ≠ other := by
          intro later hlater heq
          rw [← hfurther] at hlast
          exact hlast (heq ▸ List.mem_map_of_mem hlater)
        refine ⟨value, hvalue, ?_⟩
        rw [step_get hfound, hwhole.last hresult hsplit hafter]
      · intro other hother
        have hunmentioned : ∀ binding ∈ BindingSource.bindings [session.steps] 0 [] sources,
            binding.name ≠ other := by
          intro binding hbinding heq
          rw [← BindingSource.map_name_bindings [session.steps] 0 []] at hother
          exact hother (heq ▸ List.mem_map_of_mem hbinding)
        rw [step_get hfound, hwhole.unbound hresult hunmentioned]

/-- A good binding of a name hides no earlier failure under that name; without failures it is
the one that counts. -/
theorem newEnvironment_of_repeated_name :
    let good : List (String × BindingSource) :=
      [("first", .draft (.string "one")), ("second", .datum .unit),
        ("first", .draft (.string "two"))]
    ((start ()).step (.newEnvironment "page" .fromEngine
        (("first", .datum (.failure "no")) :: good ++
          [("third", .datum (.map [.value .unit]))]))).1 =
      .built (.error [⟨"first", .custom "no"⟩, ⟨"third", .valueWithoutKey⟩]) ∧
    (((start ()).step (.newEnvironment "page" .fromEngine good)).2.step
      (.act "page" (.get "first"))).1 =
      .outcome (.value (some (.string "two"))) := by
  intro good
  have hwhole := newEnvironment_all_or_nothing.2.2 (start ()) .fromEngine 0 "page"
  constructor
  · have hfailing := hwhole
      (("first", .datum (.failure "no")) :: good ++ [("third", .datum (.map [.value .unit]))]) rfl
    refine (hfailing.2.2 ?_).1
    intro hbuilt
    cases hfailing.1.mp hbuilt _ List.mem_cons_self
  · have hgood := hwhole good rfl
    have hbuilt := hgood.1.mpr (by decide)
    obtain ⟨value, hvalue, hanswer⟩ :=
      (hgood.2.1 hbuilt).1 [("first", .draft (.string "one")), ("second", .datum .unit)] [] "first"
        (.draft (.string "two")) rfl List.not_mem_nil
    cases hvalue
    exact hanswer

end Session

end Stencil
