import Stencil.Proofs.Entries.Insertion
import Stencil.Proofs.Host.Order
import Stencil.Proofs.Session.Holders

/-!
# What registries hold

The registries behind a run are those that were there and those that the run creates, with all
that the run registers entered in order.  Entering a modifier changes places with entering
another elsewhere, and is forgotten when another is entered in its place.  So the registries of
two runs, of which one makes a registration that the other leaves out, differ in that
registration, or in nothing if it is made again.
-/

namespace Stencil

variable {σ : Type}

namespace Registration

/-- Two modifiers are entered under one name in one registry. -/
def SamePlace (registration other : Registration σ) : Prop :=
  registration.number = other.number ∧ registration.name = other.name

theorem getElem?_enter (registration : Registration σ) (registries : List (Registry σ))
    (number : RegistryNumber) :
    (registration.enter registries)[number]? =
      (registries[number]?).map fun registry =>
        if registration.number = number then
          registry.register registration.name registration.modifier
        else registry :=
  List.getElem?_modify _ _ _ _

theorem length_enter (registration : Registration σ) (registries : List (Registry σ)) :
    (registration.enter registries).length = registries.length :=
  List.length_modify _ _ _

theorem enter_append {registration : Registration σ} {registries : List (Registry σ)}
    (h : registration.number < registries.length) (further : List (Registry σ)) :
    registration.enter (registries ++ further) = registration.enter registries ++ further := by
  apply List.ext_getElem?
  intro position
  rw [getElem?_enter, List.getElem?_append, List.getElem?_append, length_enter, getElem?_enter]
  by_cases hposition : position < registries.length
  · rw [if_pos hposition, if_pos hposition]
  · have hne : registration.number ≠ position := fun heq => hposition (heq ▸ h)
    rw [if_neg hposition, if_neg hposition]
    simp only [if_neg hne, Option.map_id_fun', id]

/-- Another modifier that is entered in the same place replaces the first. -/
theorem enter_enter_of_samePlace {registration other : Registration σ}
    (h : registration.SamePlace other) (registries : List (Registry σ)) :
    other.enter (registration.enter registries) = other.enter registries := by
  obtain ⟨hnumber, hname⟩ := h
  rw [enter, enter, enter, hnumber, List.modify_modify_eq, hname]
  congr 1
  funext registry
  exact Entries.insert_insert _ _ _ registry

/-- In different places it does not matter which modifier is entered first. -/
theorem enter_comm {registration other : Registration σ} (h : ¬ registration.SamePlace other)
    (registries : List (Registry σ)) :
    other.enter (registration.enter registries) = registration.enter (other.enter registries) := by
  by_cases hnumber : registration.number = other.number
  · have hname : registration.name ≠ other.name := fun hname => h ⟨hnumber, hname⟩
    rw [enter, enter, enter, enter, hnumber, List.modify_modify_eq, List.modify_modify_eq]
    congr 1
    funext registry
    exact (Entries.insert_comm hname _ _ registry).symm
  · exact List.modify_modify_ne _ _ _ hnumber

/-- The registries with modifiers entered one after the other. -/
def enterAll (registrations : List (Registration σ)) (registries : List (Registry σ)) :
    List (Registry σ) :=
  registrations.foldl (fun registries registration => registration.enter registries) registries

theorem length_enterAll (registrations : List (Registration σ)) (registries : List (Registry σ)) :
    (enterAll registrations registries).length = registries.length := by
  induction registrations generalizing registries with
  | nil => rfl
  | cons registration rest ih => exact (ih _).trans (registration.length_enter registries)

/-- What is entered again later is forgotten. -/
theorem enterAll_enter_of_again {registration : Registration σ}
    {registrations : List (Registration σ)}
    (h : ∃ again ∈ registrations, registration.SamePlace again) (registries : List (Registry σ)) :
    enterAll registrations (registration.enter registries) = enterAll registrations registries := by
  induction registrations generalizing registries with
  | nil => exact absurd h (by simp)
  | cons next rest ih =>
      by_cases hnext : registration.SamePlace next
      · exact congrArg (enterAll rest) (enter_enter_of_samePlace hnext registries)
      · have hrest : ∃ again ∈ rest, registration.SamePlace again := by
          simpa [hnext] using h
        have hstep := congrArg (enterAll rest) (enter_comm hnext registries)
        exact hstep.trans (ih hrest _)

/-- What is not entered again can as well be entered last. -/
theorem enterAll_enter_of_not_again {registration : Registration σ}
    {registrations : List (Registration σ)}
    (h : ¬ ∃ again ∈ registrations, registration.SamePlace again) (registries : List (Registry σ)) :
    enterAll registrations (registration.enter registries) =
      registration.enter (enterAll registrations registries) := by
  induction registrations generalizing registries with
  | nil => rfl
  | cons next rest ih =>
      simp only [List.exists_mem_cons_iff, not_or] at h
      have hstep := congrArg (enterAll rest) (enter_comm h.1 registries)
      exact hstep.trans (ih h.2 _)

/-- The names in a registry are in ascending order, and they are those that it had and those
under which something has been entered. -/
theorem names_enterAll {number : RegistryNumber} {registry : Registry σ}
    (registrations : List (Registration σ)) {registries : List (Registry σ)}
    (h : registries[number]? = some registry) (hascending : Entries.Ascending registry) :
    ∃ after, (enterAll registrations registries)[number]? = some after ∧ Entries.Ascending after ∧
      ∀ name, name ∈ Entries.names after ↔
        name ∈ Entries.names registry ∨
          ∃ registration ∈ registrations, registration.number = number ∧
            registration.name = name := by
  induction registrations generalizing registry registries with
  | nil => exact ⟨registry, h, hascending, fun name => by simp⟩
  | cons next rest ih =>
      have hnext := getElem?_enter next registries number
      rw [h, Option.map_some] at hnext
      by_cases hnumber : next.number = number
      · rw [if_pos hnumber] at hnext
        obtain ⟨after, hafter, hordered, hnames⟩ :=
          ih hnext (Entries.ascending_insert next.name next.modifier hascending)
        refine ⟨after, hafter, hordered, ?_⟩
        intro name
        rw [hnames, Registry.register, Entries.mem_names_insert, List.exists_mem_cons_iff]
        simp only [hnumber, true_and, eq_comm, or_assoc, or_left_comm]
      · rw [if_neg hnumber] at hnext
        obtain ⟨after, hafter, hordered, hnames⟩ := ih hnext hascending
        refine ⟨after, hafter, hordered, ?_⟩
        intro name
        rw [hnames, List.exists_mem_cons_iff]
        simp only [hnumber, false_and, false_or]

end Registration

namespace Session

/-! ## Runs -/

/-- What a run registers, in order. -/
def registrations (session : Session σ) : List (SessionStep σ) → List (Registration σ)
  | [] => []
  | step :: rest =>
      (session.registration? step).toList ++ registrations (session.step step).2 rest

/-- The registries that steps create. -/
def created (steps : List (SessionStep σ)) : List (Registry σ) :=
  (steps.filterMap SessionStep.creation?).map Registry.create

theorem created_cons (step : SessionStep σ) (rest : List (SessionStep σ)) :
    created (step :: rest) = (step.creation?.map Registry.create).toList ++ created rest := by
  rw [created, List.filterMap_cons]
  cases step.creation? <;> rfl

/-- The registries behind a run are those in front of it and those that it creates, with all
that it registers entered in order. -/
theorem registries_run {session : Session σ} (hsound : session.Sound)
    (steps : List (SessionStep σ)) :
    (session.run steps).2.registries =
      Registration.enterAll (session.registrations steps)
        (session.registries ++ created steps) := by
  induction steps generalizing session with
  | nil => exact (List.append_nil _).symm
  | cons step rest ih =>
      have hrest := ih (hsound.step step)
      rw [registries_step, List.append_assoc, ← created_cons] at hrest
      refine hrest.trans ?_
      rw [registrations]
      cases hregistration : session.registration? step with
      | none => rfl
      | some registration =>
          have hnumber : registration.number < session.registries.length := by
            cases step with
            | register holder name modifier =>
                obtain ⟨number, hnumber, rfl⟩ := Option.map_eq_some_iff.mp hregistration
                exact hsound holder number hnumber
            | _ => cases hregistration
          exact congrArg (Registration.enterAll _) (Registration.enter_append hnumber _).symm

theorem SameHolders.run {session other : Session σ} (h : session.SameHolders other)
    (steps : List (SessionStep σ)) :
    session.registrations steps = other.registrations steps ∧
      (session.run steps).2.SameHolders (other.run steps).2 := by
  induction steps generalizing session other with
  | nil => exact ⟨rfl, h⟩
  | cons step rest ih =>
      obtain ⟨hregistrations, hrun⟩ := ih (h.step step)
      refine ⟨?_, hrun⟩
      rw [registrations, registrations, h.registration? step, hregistrations]

/-! ## Names in a registry -/

/-- The names with which a registry begins. -/
def namesAtFirst (withBuiltins : Bool) : List String :=
  if withBuiltins then ["capitalize", "escape", "lower", "nl2br", "number_format", "upper"] else []

theorem names_create (withBuiltins : Bool) :
    Entries.names (Registry.create withBuiltins : Registry σ) = namesAtFirst withBuiltins := by
  cases withBuiltins <;> rfl

theorem ascending_create (withBuiltins : Bool) :
    Entries.Ascending (Registry.create withBuiltins : Registry σ) := by
  rw [Entries.Ascending, names_create]
  cases withBuiltins <;> decide

/-- Every registry of a session has its first names and those that have been registered in it,
in ascending order. -/
theorem names_run (host : σ) (steps : List (SessionStep σ)) {number : RegistryNumber}
    (h : number < ((start host).run steps).2.registries.length) :
    let names := Entries.names (((start host).run steps).2.registry number)
    ∃ withBuiltins, (true :: steps.filterMap SessionStep.creation?)[number]? = some withBuiltins ∧
      names.Pairwise (· < ·) ∧
      ∀ name, name ∈ names ↔ name ∈ namesAtFirst withBuiltins ∨
        ∃ registration ∈ (start host).registrations steps,
          registration.number = number ∧ registration.name = name := by
  intro names
  let kinds := true :: steps.filterMap SessionStep.creation?
  have hregistries : ((start host).run steps).2.registries =
      Registration.enterAll ((start host).registrations steps) (kinds.map Registry.create) :=
    registries_run (sound_start host) steps
  have hkinds : number < kinds.length := by
    rwa [hregistries, Registration.length_enterAll, List.length_map] at h
  have hfirst : (kinds.map Registry.create)[number]? =
      some (Registry.create kinds[number] : Registry σ) := by
    rw [List.getElem?_map, List.getElem?_eq_getElem hkinds, Option.map_some]
  obtain ⟨after, hafter, hascending, hnames⟩ :=
    Registration.names_enterAll ((start host).registrations steps) hfirst (ascending_create _)
  have hregistry : ((start host).run steps).2.registry number = after := by
    rw [registry, hregistries, hafter, Option.getD_some]
  refine ⟨kinds[number], List.getElem?_eq_getElem hkinds, ?_, ?_⟩
  · rw [show names = Entries.names after from congrArg Entries.names hregistry]
    exact hascending
  · intro name
    rw [show names = Entries.names after from congrArg Entries.names hregistry, hnames,
      names_create]

end Session

end Stencil
