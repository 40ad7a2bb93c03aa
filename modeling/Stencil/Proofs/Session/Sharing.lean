import Stencil.Proofs.Render.Calls
import Stencil.Proofs.Session.Registrations

/-!
# Registries are shared and variables are not

A registration reaches whoever holds the registry, however they have come to hold it, and nobody
else: what a holder finds is decided by the number that it holds and by what has been entered in
that registry.  Rendering sees a registry only through what is found in it.

A copy of an environment holds the registry of the original.  Its variables are its own, because
a step puts back no environment but the one that it names.
-/

namespace Stencil

variable {σ : Type}

/-! ## Rendering depends on what is found -/

/-- Registries in which the same is found act alike. -/
theorem Registry.actsAs_id {registry other : Registry σ}
    (h : ∀ name, Entries.find? name registry = Entries.find? name other) :
    registry.ActsAs id other := by
  intro name value host
  rw [apply, apply, h]
  rfl

theorem Template.render_of_find? {registry other : Registry σ}
    (h : ∀ name, Entries.find? name registry = Entries.find? name other) (template : Template)
    (state : Surroundings σ) : template.render registry state = template.render other state :=
  Node.renderAll_withPart (Registry.actsAs_id h) template.nodes 0 state

namespace Action

variable {library : Library} {registry other : Registry σ}

mutual

/-- An action comes to the same with registries in which the same is found. -/
theorem run_of_find? (h : ∀ name, Entries.find? name registry = Entries.find? name other)
    (action : Action) (path : List Nat) (acting : Acting σ) :
    action.run ⟨library, registry⟩ path acting = action.run ⟨library, other⟩ path acting := by
  match action with
  | .render name =>
      simp only [run, Library.render, Template.render_of_find? h]
  | .renderSource source =>
      simp only [run, Library.renderSource, Template.render_of_find? h]
  | .scope actions =>
      simp only [run, runAll_of_find? h actions path 0 _]
  | .get name | .contains name | .set name draft | .remove name | .bind name draft => rfl

theorem runAll_of_find? (h : ∀ name, Entries.find? name registry = Entries.find? name other)
    (actions : List Action) (path : List Nat) (position : Nat) (acting : Acting σ) :
    runAll ⟨library, registry⟩ path position actions acting =
      runAll ⟨library, other⟩ path position actions acting := by
  match actions with
  | [] => rfl
  | action :: rest =>
      simp only [runAll, run_of_find? h action, runAll_of_find? h rest]

end

end Action

namespace SessionStep

/-- A step may put another environment under a name, or another registry on the one that is
there. -/
def Replaces (name : String) : SessionStep σ → Prop
  | .newEnvironment other _ _ => other = name
  | .copyEnvironment _ copy => copy = name
  | .useRegistry other _ => other = name
  | _ => False

/-- A step may do something to the environment under a name. -/
def Targets (name : String) : SessionStep σ → Prop
  | .act other _ => other = name
  | step => step.Replaces name

end SessionStep

namespace Session

/-- The modifier that a holder finds under a name. -/
def modifier? (session : Session σ) (holder : RegistryHolder) (name : String) :
    Option (Modifier σ) :=
  (session.number? holder).bind fun number => Entries.find? name (session.registry number)

/-! ## Environments -/

theorem find?_putEnvironment_of_ne {name other : String} (h : other ≠ name) (session : Session σ)
    (environment : Environment) :
    Entries.find? name (session.putEnvironment other environment).environments =
      Entries.find? name session.environments :=
  Entries.find?_insert_of_ne (Ne.symm h) _ _

theorem find?_buildEnvironment_of_ne {name other : String} (h : other ≠ name) (session : Session σ)
    (number : RegistryNumber) (sources : List (String × BindingSource)) :
    Entries.find? name (session.buildEnvironment other number sources).2.environments =
      Entries.find? name session.environments := by
  rw [buildEnvironment]
  split
  · exact find?_putEnvironment_of_ne h session _
  · rfl

/-- A step leaves an environment as it is, unless it names it. -/
theorem find?_environments_step {step : SessionStep σ} {name : String} (h : ¬ step.Targets name)
    (session : Session σ) :
    Entries.find? name (session.step step).2.environments =
      Entries.find? name session.environments := by
  cases step with
  | newEnvironment other kind sources =>
      have hne : other ≠ name := h
      simp only [Session.step, perform, newEnvironment]
      split
      · exact find?_buildEnvironment_of_ne hne (session.addRegistry _) _ sources
      · split
        · exact find?_buildEnvironment_of_ne hne session _ sources
        · rfl
      · exact find?_buildEnvironment_of_ne hne session _ sources
  | copyEnvironment original copy =>
      have hne : copy ≠ name := h
      simp only [Session.step, perform, copyEnvironment]
      split
      · exact find?_putEnvironment_of_ne hne session _
      · rfl
  | useRegistry other registry =>
      have hne : other ≠ name := h
      simp only [Session.step, perform, useRegistry]
      split
      · exact find?_putEnvironment_of_ne hne session _
      · rfl
      · rfl
  | act other action =>
      have hne : other ≠ name := h
      simp only [Session.step, perform, act]
      split
      · exact find?_putEnvironment_of_ne hne session _
      · rfl
  | newRegistry | keepEngine | parse | template | takeHost => rfl
  | newEngine registry =>
      cases registry with
      | none => rfl
      | some other =>
          simp only [Session.step, perform, newEngine]
          split <;> rfl
  | nameRegistry other holder =>
      simp only [Session.step, perform, nameRegistry]
      split <;> rfl
  | register holder other modifier =>
      simp only [Session.step, perform, register]
      split <;> rfl
  | names holder | has holder other | describe holder =>
      simp only [Session.step, perform, ask]
      split <;> rfl
  | apply holder other draft =>
      simp only [Session.step, perform, apply]
      split
      · split <;> rfl
      · rfl
  | takeEngine other =>
      simp only [Session.step, perform, takeEngine]
      split <;> rfl
  | addTemplate other source =>
      simp only [Session.step, perform, addTemplate]
      split <;> rfl

/-- A step that puts an environment on a registry replaces it or switches it. -/
theorem replaces_of_handing? {session : Session σ} {step : SessionStep σ} {name : String}
    {number : RegistryNumber} (h : session.handing? step = some (.environment name, number)) :
    step.Replaces name := by
  have hname {found : Option RegistryNumber} {other : String}
      (hmap : found.map (RegistryHolder.environment other, ·) = some (.environment name, number)) :
      other = name := by
    obtain ⟨_, -, heq⟩ := Option.map_eq_some_iff.mp hmap
    cases heq
    rfl
  cases step with
  | newEnvironment other kind sources =>
      rw [handing?] at h
      split at h
      · exact hname h
      · cases h
  | copyEnvironment original copy => exact hname h
  | useRegistry other registry =>
      obtain ⟨_, -, hmap⟩ := Option.bind_eq_some_iff.mp h
      exact hname hmap
  | newEngine registry =>
      cases registry with
      | none => cases h
      | some other =>
          obtain ⟨_, -, heq⟩ := Option.map_eq_some_iff.mp h
          cases heq
  | nameRegistry | takeEngine =>
      obtain ⟨_, -, heq⟩ := Option.map_eq_some_iff.mp h
      cases heq
  | newRegistry | register | names | has | describe | apply | keepEngine | addTemplate | parse
  | template | act | takeHost => cases h

/-- An environment stays on its registry as long as no step replaces it or switches it. -/
theorem number?_environment_run {steps : List (SessionStep σ)} {name : String}
    (h : ∀ step ∈ steps, ¬ step.Replaces name) (session : Session σ) :
    (session.run steps).2.number? (.environment name) = session.number? (.environment name) := by
  induction steps generalizing session with
  | nil => rfl
  | cons step rest ih =>
      obtain ⟨hstep, hrest⟩ := List.forall_mem_cons.mp h
      refine (ih hrest (session.step step).2).trans ?_
      rw [number?_step]
      cases hhanding : session.handing? step with
      | none => rfl
      | some handed =>
          obtain ⟨holder, number⟩ := handed
          have hne : RegistryHolder.environment name ≠ holder := by
            rintro rfl
            exact hstep (replaces_of_handing? hhanding)
          simp only [afterHanding, Option.elim_some, if_neg hne]

/-! ## Registrations -/

/-- A run behind a registration, and the same run without it: all hold the same, and the
registries differ in what has been registered, or in nothing if it is registered again. -/
theorem run_register {session : Session σ} (hsound : session.Sound) {holder : RegistryHolder}
    {number : RegistryNumber} (hnumber : session.number? holder = some number) (name : String)
    (modifier : Modifier σ) (later : List (SessionStep σ)) :
    let registration : Registration σ := ⟨number, name, modifier⟩
    let registered := (session.step (.register holder name modifier)).2
    let last := (registered.run later).2
    let without := ((session.step (.names holder)).2.run later).2
    let again := ∃ other ∈ registered.registrations later, registration.SamePlace other
    last.number? = without.number? ∧
      (again → last.registries = without.registries) ∧
        (¬ again → last.registries = registration.enter without.registries) := by
  intro registration registered last without again
  have hregistration :
      session.registration? (.register holder name modifier) = some registration := by
    rw [registration?, hnumber]
    rfl
  have hregistries : registered.registries = registration.enter session.registries := by
    have hstep := registries_step session (.register holder name modifier)
    rw [hregistration] at hstep
    exact hstep.trans (List.append_nil _)
  have hother : (session.step (.names holder)).2.registries = session.registries :=
    (registries_step session (.names holder)).trans (List.append_nil _)
  have hsame : registered.SameHolders (session.step (.names holder)).2 := by
    refine ⟨?_, ?_, rfl⟩
    · funext other
      exact (number?_step session (.register holder name modifier) other).trans
        (number?_step session (.names holder) other).symm
    · rw [hregistries, hother, Registration.length_enter]
  obtain ⟨hregistrations, hlast⟩ := hsame.run later
  have hlastRegistries :
      last.registries = Registration.enterAll (registered.registrations later)
        (registration.enter (session.registries ++ created later)) := by
    rw [Registration.enter_append (hsound holder number hnumber), ← hregistries]
    exact registries_run (hsound.step _) later
  have hwithout :
      without.registries = Registration.enterAll (registered.registrations later)
        (session.registries ++ created later) := by
    rw [hregistrations, ← hother]
    exact registries_run (hsound.step _) later
  refine ⟨hlast.number?, ?_, ?_⟩
  · intro hagain
    rw [hlastRegistries, hwithout, Registration.enterAll_enter_of_again hagain]
  · intro hagain
    rw [hlastRegistries, hwithout, Registration.enterAll_enter_of_not_again hagain]

theorem modifier?_congr {session other : Session σ} (hholders : session.number? = other.number?)
    (hregistries : session.registries = other.registries) (holder : RegistryHolder)
    (name : String) :
    session.modifier? holder name = other.modifier? holder name := by
  simp only [modifier?, registry, hholders, hregistries]

theorem registry_of_enter {session other : Session σ} {registration : Registration σ}
    (h : session.registries = registration.enter other.registries) (number : RegistryNumber) :
    session.registry number =
      ((other.registries[number]?).map fun registry =>
        if registration.number = number then
          registry.register registration.name registration.modifier
        else registry).getD [] := by
  rw [registry, h, Registration.getElem?_enter]

/-- What has been entered is found by all who hold the registry. -/
theorem modifier?_of_enter {session other : Session σ} {registration : Registration σ}
    (h : session.registries = registration.enter other.registries) (hsound : session.Sound)
    {holder : RegistryHolder} (hholder : session.number? holder = some registration.number) :
    session.modifier? holder registration.name = some registration.modifier := by
  have hlt := hsound holder registration.number hholder
  rw [h, Registration.length_enter] at hlt
  rw [modifier?, hholder, Option.bind_some, registry_of_enter h, List.getElem?_eq_getElem hlt,
    Option.map_some, if_pos rfl]
  exact Entries.find?_insert_self _ _ _

/-- All else is found as it is without what has been entered. -/
theorem modifier?_of_enter_of_ne {session other : Session σ} {registration : Registration σ}
    (h : session.registries = registration.enter other.registries)
    (hholders : session.number? = other.number?) {holder : RegistryHolder} {name : String}
    (hne : session.number? holder ≠ some registration.number ∨ name ≠ registration.name) :
    session.modifier? holder name = other.modifier? holder name := by
  rw [modifier?, modifier?, ← hholders]
  cases hnumber : session.number? holder with
  | none => rfl
  | some number =>
      rw [Option.bind_some, Option.bind_some, registry_of_enter h, registry]
      cases other.registries[number]? with
      | none => rfl
      | some registry =>
          rw [Option.map_some, Option.getD_some, Option.getD_some]
          split
          · rename_i heq
            have hname : name ≠ registration.name := by
              refine hne.resolve_left ?_
              rw [hnumber, heq, not_not]
            exact Entries.find?_insert_of_ne hname _ _
          · rfl

/-- Acting on an environment needs no more of its registry than what is found in it. -/
theorem act_of_find? {session : Session σ} {name : String} {environment : Environment}
    (hfound : Entries.find? name session.environments = some environment) {registry : Registry σ}
    (h : ∀ wanted, Entries.find? wanted registry = session.modifier? (.environment name) wanted)
    (action : Action) :
    let acted := action.run ⟨session.engine.library, registry⟩ [session.steps]
      ⟨Scope.ofVariables environment.vars, session.host⟩
    (session.step (.act name action)).1 = .outcome acted.1 ∧
      (session.step (.act name action)).2.host = acted.2.host := by
  intro acted
  have hlookup : ∀ wanted, Entries.find? wanted registry =
      Entries.find? wanted (session.registry environment.registry) := by
    intro wanted
    rw [h, modifier?, number?_environment, hfound]
    rfl
  have hrun : acted =
      action.run ⟨session.engine.library, session.registry environment.registry⟩ [session.steps]
        ⟨Scope.ofVariables environment.vars, session.host⟩ :=
    Action.run_of_find? hlookup action _ _
  rw [hrun]
  constructor
  · simp only [Session.step, perform, act, hfound]
  · simp only [Session.step, perform, act, hfound]

/-- Behind the copying of an environment the original is as it was, and so is the copy. -/
theorem find?_copyEnvironment {session : Session σ} {original copy : String}
    {environment : Environment} (hne : original ≠ copy)
    (hfound : Entries.find? original session.environments = some environment) {name : String}
    (hname : name = original ∨ name = copy) :
    Entries.find? name (session.step (.copyEnvironment original copy)).2.environments =
      some environment := by
  simp only [Session.step, perform, copyEnvironment, hfound]
  rcases hname with rfl | rfl
  · exact (find?_putEnvironment_of_ne hne.symm session environment).trans hfound
  · exact Entries.find?_insert_self _ _ _

/-- A session holds registries, engines and environments in whatever way its steps make, copy
and switch them.  A modifier that is registered is found by exactly those who hold its registry
at the time, until another is registered under its name there, and all other lookups are as they
would be without it; acting on an environment depends on nothing else of a registry.  The answer
says whether the name was there.  The names of a registry are those that it began with and those
registered in it, in ascending order.  A copy of an environment stays on the registry of the
original, and a step leaves the original as it is unless it names it. -/
theorem registration_reaches_holders (host : σ) (steps : List (SessionStep σ)) :
    let session := ((start host).run steps).2
    (∀ holder number name modifier later, session.number? holder = some number →
      let registered := session.step (.register holder name modifier)
      let last := (registered.2.run later).2
      let without := ((session.step (.names holder)).2.run later).2
      let again := ∃ other ∈ registered.2.registrations later,
        number = other.number ∧ name = other.name
      registered.1 = .truth (decide (name ∈ Entries.names (session.registry number))) ∧
        last.number? = without.number? ∧
        (∀ other, last.number? other = some number → ¬ again →
          last.modifier? other name = some modifier) ∧
        (∀ other wanted, last.number? other ≠ some number ∨ wanted ≠ name ∨ again →
          last.modifier? other wanted = without.modifier? other wanted) ∧
        ∀ environmentName environment action registry,
          Entries.find? environmentName last.environments = some environment →
          (∀ wanted, Entries.find? wanted registry =
            last.modifier? (.environment environmentName) wanted) →
          let acted := Action.run ⟨last.engine.library, registry⟩ [last.steps] action
            ⟨Scope.ofVariables environment.vars, last.host⟩
          (last.step (.act environmentName action)).1 = .outcome acted.1 ∧
            (last.step (.act environmentName action)).2.host = acted.2.host) ∧
    (∀ holder number, session.number? holder = some number →
      ∃ withBuiltins names,
        (true :: steps.filterMap SessionStep.creation?)[number]? = some withBuiltins ∧
        (session.step (.names holder)).1 = .names names ∧ names.Pairwise (· < ·) ∧
        ∀ name, name ∈ names ↔ name ∈ namesAtFirst withBuiltins ∨
          ∃ registration ∈ (start host).registrations steps,
            registration.number = number ∧ registration.name = name) ∧
    ∀ original copy environment, original ≠ copy →
      Entries.find? original session.environments = some environment →
      let copied := (session.step (.copyEnvironment original copy)).2
      (∀ name, name = original ∨ name = copy →
        Entries.find? name copied.environments = some environment) ∧
      ∀ later,
        let last := (copied.run later).2
        ((∀ step ∈ later, ¬ step.Replaces original ∧ ¬ step.Replaces copy) →
          last.number? (.environment original) = some environment.registry ∧
            last.number? (.environment copy) = some environment.registry) ∧
        ∀ step : SessionStep σ, ¬ step.Targets original →
          Entries.find? original (last.step step).2.environments =
            Entries.find? original last.environments := by
  intro session
  have hsound : session.Sound := (sound_start host).run steps
  refine ⟨?_, ?_, ?_⟩
  · intro holder number name modifier later hnumber registered last without again
    obtain ⟨hholders, hagain, hnotAgain⟩ := run_register hsound hnumber name modifier later
    have hlast : last.Sound := (hsound.step _).run later
    refine ⟨?_, hholders, ?_, ?_, ?_⟩
    · simp only [registered, Session.step, perform, register, hnumber]
      rw [Entries.contains_eq_decide_mem]
    · intro other hother hnone
      exact modifier?_of_enter (hnotAgain hnone) hlast hother
    · intro other wanted hother
      by_cases h : again
      · exact modifier?_congr hholders (hagain h) other wanted
      · have hne : last.number? other ≠ some number ∨ wanted ≠ name := by
          rwa [← or_assoc, or_iff_left h] at hother
        exact modifier?_of_enter_of_ne (hnotAgain h) hholders hne
    · intro environmentName environment action registry hfound hlookup
      exact act_of_find? hfound hlookup action
  · intro holder number hnumber
    obtain ⟨withBuiltins, hkind, hascending, hnames⟩ :=
      names_run host steps (hsound holder number hnumber)
    refine ⟨withBuiltins, _, hkind, ?_, hascending, hnames⟩
    simp only [Session.step, perform, ask, hnumber]
    rfl
  · intro original copy environment hne hfound copied
    have hcopied : ∀ name, name = original ∨ name = copy →
        Entries.find? name copied.environments = some environment :=
      fun name hname => find?_copyEnvironment hne hfound hname
    refine ⟨hcopied, ?_⟩
    intro later last
    refine ⟨?_, fun step hstep => find?_environments_step hstep last⟩
    intro hkept
    constructor
    · refine (number?_environment_run (fun step hstep => (hkept step hstep).1) copied).trans ?_
      rw [number?_environment, hcopied original (.inl rfl), Option.map_some]
    · refine (number?_environment_run (fun step hstep => (hkept step hstep).2) copied).trans ?_
      rw [number?_environment, hcopied copy (.inr rfl), Option.map_some]

/-- A modifier is registered through one environment, and found through a copy that is made
later and through an environment that is switched later.  Another is registered under its name
elsewhere.  The copy gets a variable that the original does not have. -/
theorem registration_reaches_holders_switched :
    let shout : Modifier Unit := Modifier.ofFunction fun _ => .string "!"
    let steps : List (SessionStep Unit) :=
      [.newRegistry "own" false, .newEnvironment "first" (.withRegistry "own") [],
        .newEnvironment "other" .fresh []]
    let later : List (SessionStep Unit) :=
      [.copyEnvironment "first" "second", .useRegistry "other" "own",
        .register .engine "shout" (Modifier.ofFunction id)]
    let session := ((start ()).run steps).2
    let registered := session.step (.register (.environment "first") "shout" shout)
    let last := (registered.2.run later).2
    let without := ((session.step (.names (.environment "first"))).2.run later).2
    let copied := (session.step (.copyEnvironment "first" "second")).2
    let further := (copied.step (.act "second" (.set "row" (.string "new")))).2
    session.number? (.environment "first") = some 1 ∧ registered.1 = .truth false ∧
      last.modifier? (.environment "second") "shout" = some shout ∧
      last.modifier? (.environment "other") "shout" = some shout ∧
      last.modifier? .engine "shout" = without.modifier? .engine "shout" ∧
      (∃ names, (session.step (.names .engine)).1 = .names names ∧ names.Pairwise (· < ·)) ∧
      Entries.find? "first" further.environments = some ⟨[], 1⟩ := by
  intro shout steps later session registered last without copied further
  obtain ⟨hreach, hnames, hcopy⟩ := registration_reaches_holders () steps
  have hfirst : session.number? (.environment "first") = some 1 := by rfl
  obtain ⟨hanswer, -, hfound, hothers, -⟩ := hreach _ 1 "shout" shout later hfirst
  have honce : ¬ ∃ other ∈ registered.2.registrations later,
      1 = other.number ∧ "shout" = other.name := by
    have hregistrations : registered.2.registrations later =
        [⟨0, "shout", Modifier.ofFunction id⟩] := by rfl
    rw [hregistrations]
    simp
  have hsecond : last.number? (.environment "second") = some 1 := by rfl
  have hother : last.number? (.environment "other") = some 1 := by rfl
  have hengine : last.number? .engine ≠ some 1 := by
    rw [show last.number? .engine = some 0 from rfl]
    decide
  obtain ⟨withBuiltins, names, -, hlist, hascending, -⟩ := hnames .engine 0 rfl
  have henvironment : Entries.find? "first" session.environments = some ⟨[], 1⟩ := by rfl
  obtain ⟨hcopied, hrun⟩ := hcopy "first" "second" ⟨[], 1⟩ (by decide) henvironment
  refine ⟨hfirst, ?_, hfound _ hsecond honce, hfound _ hother honce,
    hothers .engine "shout" (.inl hengine), ⟨names, hlist, hascending⟩, ?_⟩
  · refine hanswer.trans ?_
    have hnone : Entries.names (session.registry 1) = [] := by rfl
    rw [hnone]
    rfl
  · have hstep :=
      (hrun []).2 (.act "second" (.set "row" (.string "new"))) (by simp [SessionStep.Targets])
    exact hstep.trans (hcopied "first" (.inl rfl))

end Session

end Stencil
