import Stencil.Session.Basic

/-!
# Who holds which registry

A step of a session puts at most one holder on a registry, enters at most one modifier, and
creates at most one registry.  The three together say all that a step does to registries and to
those who hold them.  What is rendered, and what the variables are, plays no part.

Every number that somebody holds belongs to a registry of the session.  So a new registry is
held by nobody but the one for whom it is created.
-/

namespace Stencil

/-- A modifier that is entered under a name in a registry. -/
structure Registration (σ : Type) where
  number : RegistryNumber
  name : String
  modifier : Modifier σ

variable {σ : Type}

/-- The registries with a modifier entered in one of them. -/
def Registration.enter (registration : Registration σ) (registries : List (Registry σ)) :
    List (Registry σ) :=
  registries.modify registration.number fun registry =>
    registry.register registration.name registration.modifier

/-- With what the registry begins that a step creates, if it creates one: whether with the built-in
modifiers. -/
def SessionStep.creation? : SessionStep σ → Option Bool
  | .newRegistry _ withBuiltins => some withBuiltins
  | .newEngine none => some true
  | .newEnvironment _ .fresh _ => some true
  | _ => none

/-- The registry that a new environment of a kind gets. -/
def EnvironmentKind.number? (session : Session σ) : EnvironmentKind → Option RegistryNumber
  | .fresh => some session.registries.length
  | .withRegistry name => session.number? (.named name)
  | .fromEngine => session.number? .engine

namespace Session

/-- What a step enters, if it registers a modifier and the registry can be found. -/
def registration? (session : Session σ) : SessionStep σ → Option (Registration σ)
  | .register holder name modifier =>
      (session.number? holder).map fun number => ⟨number, name, modifier⟩
  | _ => none

/-- Whether an environment can be made from bindings. -/
def canBuild (session : Session σ) (sources : List (String × BindingSource)) : Bool :=
  (Binding.toVariables (BindingSource.bindings [session.steps] 0 [] sources)).isOk

/-- Which holder a step puts on which registry, if it does so. -/
def handing? (session : Session σ) : SessionStep σ → Option (RegistryHolder × RegistryNumber)
  | .newRegistry name _ => some (.named name, session.registries.length)
  | .nameRegistry name holder => (session.number? holder).map (.named name, ·)
  | .newEngine none => some (.engine, session.registries.length)
  | .newEngine (some name) => (session.number? (.named name)).map (.engine, ·)
  | .keepEngine name => (session.number? .engine).map (.keptEngine name, ·)
  | .takeEngine name => (session.number? (.keptEngine name)).map (.engine, ·)
  | .newEnvironment name kind sources =>
      if session.canBuild sources then (kind.number? session).map (.environment name, ·) else none
  | .copyEnvironment name copy => (session.number? (.environment name)).map (.environment copy, ·)
  | .useRegistry name registry =>
      (session.number? (.environment name)).bind fun _ =>
        (session.number? (.named registry)).map (.environment name, ·)
  | _ => none

/-! ## What a step does to registries -/

theorem set_registry (session : Session σ) (number : RegistryNumber) (f : Registry σ → Registry σ) :
    session.registries.set number (f (session.registry number)) =
      session.registries.modify number f := by
  apply List.ext_getElem?
  intro position
  rw [List.getElem?_set, List.getElem?_modify, registry]
  by_cases h : number = position
  · subst h
    by_cases hlt : number < session.registries.length
    · simp [hlt]
    · simp [hlt]
  · simp [h]

theorem registries_buildEnvironment (session : Session σ) (name : String) (number : RegistryNumber)
    (sources : List (String × BindingSource)) :
    (session.buildEnvironment name number sources).2.registries = session.registries := by
  rw [buildEnvironment]
  split <;> rfl

/-- The registries behind a step: a modifier may have been entered, and a registry created. -/
theorem registries_step (session : Session σ) (step : SessionStep σ) :
    (session.step step).2.registries =
      (session.registration? step).elim session.registries (·.enter session.registries) ++
        (step.creation?.map Registry.create).toList := by
  cases step with
  | register holder name modifier =>
      simp only [Session.step, perform, register, registration?, SessionStep.creation?]
      cases session.number? holder with
      | none => exact (List.append_nil _).symm
      | some number =>
          simp only [set_registry session number fun registry => registry.register name modifier]
          exact (List.append_nil _).symm
  | newRegistry name withBuiltins => rfl
  | newEngine registry =>
      cases registry with
      | none => rfl
      | some name =>
          simp only [Session.step, perform, newEngine]
          split <;> exact (List.append_nil _).symm
  | newEnvironment name kind sources =>
      simp only [Session.step, perform, newEnvironment]
      cases kind with
      | fresh => exact registries_buildEnvironment _ name _ sources
      | withRegistry registry =>
          simp only
          split
          · rw [registries_buildEnvironment]
            exact (List.append_nil _).symm
          · exact (List.append_nil _).symm
      | fromEngine =>
          simp only [registries_buildEnvironment]
          exact (List.append_nil _).symm
  | nameRegistry name holder =>
      simp only [Session.step, perform, nameRegistry]
      split <;> exact (List.append_nil _).symm
  | names holder | has holder name | describe holder =>
      simp only [Session.step, perform, ask]
      split <;> exact (List.append_nil _).symm
  | apply holder name draft =>
      simp only [Session.step, perform, apply]
      split
      · split <;> exact (List.append_nil _).symm
      · exact (List.append_nil _).symm
  | takeEngine name =>
      simp only [Session.step, perform, takeEngine]
      split <;> exact (List.append_nil _).symm
  | addTemplate name source =>
      simp only [Session.step, perform, addTemplate]
      split <;> exact (List.append_nil _).symm
  | copyEnvironment name copy =>
      simp only [Session.step, perform, copyEnvironment]
      split <;> exact (List.append_nil _).symm
  | useRegistry name registry =>
      simp only [Session.step, perform, useRegistry]
      split <;> exact (List.append_nil _).symm
  | act name action =>
      simp only [Session.step, perform, act]
      split <;> exact (List.append_nil _).symm
  | keepEngine name | parse source | template name | takeHost fresh =>
      exact (List.append_nil _).symm

/-! ## What a step does to holders -/

/-- The registry that somebody holds when one holder has been put on another registry. -/
def afterHanding (handing : Option (RegistryHolder × RegistryNumber)) (holder : RegistryHolder)
    (before : Option RegistryNumber) : Option RegistryNumber :=
  handing.elim before fun handed => if holder = handed.1 then some handed.2 else before

theorem number?_named (session : Session σ) (name : String) :
    session.number? (.named name) = Entries.find? name session.registryNames :=
  rfl

theorem number?_environment (session : Session σ) (name : String) :
    session.number? (.environment name) =
      (Entries.find? name session.environments).map fun environment => environment.registry :=
  rfl

theorem number?_keptEngine (session : Session σ) (name : String) :
    session.number? (.keptEngine name) =
      (Entries.find? name session.engines).map fun engine => engine.registry :=
  rfl

theorem number?_insertName (session : Session σ) (name : String) (number : RegistryNumber)
    (holder : RegistryHolder) :
    { session with
        registryNames := Entries.insert name number session.registryNames }.number? holder =
      afterHanding (some (.named name, number)) holder (session.number? holder) := by
  cases holder with
  | named other =>
      by_cases h : other = name
      · subst h
        simp [number?, afterHanding, Entries.find?_insert_self]
      · simp [number?, afterHanding, Entries.find?_insert_of_ne h, h]
  | environment | engine | keptEngine => rfl

theorem number?_insertEngine (session : Session σ) (name : String) (engine : Engine)
    (holder : RegistryHolder) :
    { session with engines := Entries.insert name engine session.engines }.number? holder =
      afterHanding (some (.keptEngine name, engine.registry)) holder (session.number? holder) := by
  cases holder with
  | keptEngine other =>
      by_cases h : other = name
      · subst h
        simp [number?, afterHanding, Entries.find?_insert_self]
      · simp [number?, afterHanding, Entries.find?_insert_of_ne h, h]
  | named | environment | engine => rfl

theorem number?_putEnvironment (session : Session σ) (name : String) (environment : Environment)
    (holder : RegistryHolder) :
    (session.putEnvironment name environment).number? holder =
      afterHanding (some (.environment name, environment.registry)) holder
        (session.number? holder) := by
  cases holder with
  | environment other =>
      by_cases h : other = name
      · subst h
        simp [number?, putEnvironment, afterHanding, Entries.find?_insert_self]
      · simp [number?, putEnvironment, afterHanding, Entries.find?_insert_of_ne h, h]
  | named | engine | keptEngine => rfl

theorem number?_setEngine (session : Session σ) (engine : Engine) (holder : RegistryHolder) :
    { session with engine := engine }.number? holder =
      afterHanding (some (.engine, engine.registry)) holder (session.number? holder) := by
  cases holder <;> rfl

/-- Who holds what does not depend on registries, the host or the number of steps. -/
theorem number?_congr (session : Session σ) (registries : List (Registry σ)) (host : σ)
    (steps : Nat) :
    ({ session with registries := registries, host := host, steps := steps } : Session σ).number? =
      session.number? := by
  funext holder
  cases holder <;> rfl

theorem number?_buildEnvironment (session : Session σ) (name : String) (number : RegistryNumber)
    (sources : List (String × BindingSource)) (holder : RegistryHolder) :
    (session.buildEnvironment name number sources).2.number? holder =
      afterHanding
        (if session.canBuild sources then some (.environment name, number) else none) holder
        (session.number? holder) := by
  rw [buildEnvironment, canBuild]
  cases Binding.toVariables (BindingSource.bindings [session.steps] 0 [] sources) with
  | ok vars => exact number?_putEnvironment session name ⟨vars, number⟩ holder
  | error failures => rfl

/-- The holders behind a step: one of them may have been put on another registry. -/
theorem number?_step (session : Session σ) (step : SessionStep σ) (holder : RegistryHolder) :
    (session.step step).2.number? holder =
      afterHanding (session.handing? step) holder (session.number? holder) := by
  have hsteps : (session.step step).2.number? holder = (session.perform step).2.number? holder :=
    congrFun (number?_congr (session.perform step).2 _ _ _) holder
  rw [hsteps]
  cases step with
  | newRegistry name withBuiltins => exact number?_insertName (session.addRegistry _) name _ holder
  | nameRegistry name other =>
      simp only [perform, nameRegistry, handing?]
      cases session.number? other with
      | none => rfl
      | some number => exact number?_insertName session name number holder
  | newEngine registry =>
      cases registry with
      | none => exact number?_setEngine (session.addRegistry _) ⟨[], _⟩ holder
      | some name =>
          simp only [perform, newEngine, handing?, number?_named]
          cases Entries.find? name session.registryNames with
          | none => rfl
          | some number => exact number?_setEngine session ⟨[], number⟩ holder
  | keepEngine name => exact number?_insertEngine session name session.engine holder
  | takeEngine name =>
      simp only [perform, takeEngine, handing?, number?_keptEngine]
      cases Entries.find? name session.engines with
      | none => rfl
      | some engine => exact number?_setEngine session engine holder
  | newEnvironment name kind sources =>
      cases kind with
      | fresh => exact number?_buildEnvironment (session.addRegistry _) name _ sources holder
      | withRegistry registry =>
          simp only [perform, newEnvironment, handing?, EnvironmentKind.number?, number?_named]
          cases Entries.find? registry session.registryNames with
          | none => simp [afterHanding]
          | some number => exact number?_buildEnvironment session name number sources holder
      | fromEngine =>
          exact number?_buildEnvironment session name session.engine.registry sources holder
  | copyEnvironment name copy =>
      simp only [perform, copyEnvironment, handing?, number?_environment]
      cases Entries.find? name session.environments with
      | none => rfl
      | some environment => exact number?_putEnvironment session copy environment holder
  | useRegistry name registry =>
      simp only [perform, useRegistry, handing?, number?_environment, number?_named]
      cases Entries.find? name session.environments with
      | none => rfl
      | some environment =>
          cases Entries.find? registry session.registryNames with
          | none => rfl
          | some number =>
              exact number?_putEnvironment session name ⟨environment.vars, number⟩ holder
  | act name action =>
      simp only [perform, act, handing?]
      cases hfound : Entries.find? name session.environments with
      | none => rfl
      | some environment =>
          -- The environment is put back with the registry that it had.
          rw [number?_congr, number?_putEnvironment]
          by_cases h : holder = .environment name
          · subst h
            simp [afterHanding, number?_environment, hfound]
          · simp [afterHanding, h]
  | register other name modifier =>
      simp only [perform, register]
      split
      · exact congrFun (number?_congr session _ _ _) holder
      · rfl
  | names other | has other name | describe other =>
      simp only [perform, ask]
      split <;> rfl
  | apply other name draft =>
      simp only [perform, apply]
      split
      · split
        · exact congrFun (number?_congr session _ _ _) holder
        · rfl
      · rfl
  | addTemplate name source =>
      simp only [perform, addTemplate]
      split
      · cases holder <;> rfl
      · rfl
  | parse source | template name => rfl
  | takeHost fresh => exact congrFun (number?_congr session _ _ _) holder

/-- A holder is put on a registry that somebody holds already, or on the one that is created. -/
theorem handing?_cases {session : Session σ} {step : SessionStep σ}
    {handed : RegistryHolder × RegistryNumber} (h : session.handing? step = some handed) :
    (∃ holder, session.number? holder = some handed.2) ∨
      handed.2 = session.registries.length ∧
        ∃ withBuiltins, step.creation? = some withBuiltins := by
  have hheld (holder : RegistryHolder) {other : RegistryHolder}
      (hmap : (session.number? holder).map (other, ·) = some handed) :
      ∃ holder, session.number? holder = some handed.2 := by
    obtain ⟨number, hnumber, rfl⟩ := Option.map_eq_some_iff.mp hmap
    exact ⟨holder, hnumber⟩
  cases step with
  | newRegistry name withBuiltins =>
      cases h
      exact .inr ⟨rfl, withBuiltins, rfl⟩
  | newEngine registry =>
      cases registry with
      | none =>
          cases h
          exact .inr ⟨rfl, true, rfl⟩
      | some name => exact .inl (hheld (.named name) h)
  | newEnvironment name kind sources =>
      rw [handing?] at h
      split at h
      · cases kind with
        | fresh =>
            cases h
            exact .inr ⟨rfl, true, rfl⟩
        | withRegistry registry => exact .inl (hheld (.named registry) h)
        | fromEngine => exact .inl (hheld .engine h)
      · cases h
  | useRegistry name registry =>
      obtain ⟨number, -, hmap⟩ := Option.bind_eq_some_iff.mp h
      exact .inl (hheld (.named registry) hmap)
  | nameRegistry name holder => exact .inl (hheld holder h)
  | keepEngine name => exact .inl (hheld .engine h)
  | takeEngine name => exact .inl (hheld (.keptEngine name) h)
  | copyEnvironment name copy => exact .inl (hheld (.environment name) h)
  | register | names | has | describe | apply | addTemplate | parse | template | act | takeHost =>
      cases h

/-! ## Every registry that is held is there -/

/-- Every number that is held belongs to a registry. -/
def Sound (session : Session σ) : Prop :=
  ∀ holder number, session.number? holder = some number → number < session.registries.length

theorem sound_start (host : σ) : (start host).Sound := by
  intro holder number h
  cases holder with
  | engine =>
      cases h
      exact Nat.zero_lt_one
  | named | environment | keptEngine => cases h

theorem length_registries_step (session : Session σ) (step : SessionStep σ) :
    (session.step step).2.registries.length =
      session.registries.length + step.creation?.toList.length := by
  rw [registries_step, List.length_append]
  cases session.registration? step <;> cases step.creation? <;> simp [Registration.enter]

theorem Sound.step {session : Session σ} (hsound : session.Sound) (step : SessionStep σ) :
    (session.step step).2.Sound := by
  intro holder number hnumber
  rw [length_registries_step]
  have hbefore {other : RegistryHolder} (h : session.number? other = some number) :
      number < session.registries.length + step.creation?.toList.length :=
    Nat.lt_add_right _ (hsound other number h)
  rw [number?_step] at hnumber
  cases hhanding : session.handing? step with
  | none =>
      rw [hhanding] at hnumber
      exact hbefore hnumber
  | some handed =>
      rw [hhanding] at hnumber
      simp only [afterHanding, Option.elim_some] at hnumber
      split at hnumber
      · cases hnumber
        rcases handing?_cases hhanding with ⟨other, hother⟩ | ⟨hnew, withBuiltins, hcreation⟩
        · exact hbefore hother
        · rw [hnew, hcreation]
          exact Nat.lt_succ_self _
      · exact hbefore hnumber

theorem Sound.run {session : Session σ} (hsound : session.Sound) (steps : List (SessionStep σ)) :
    (session.run steps).2.Sound := by
  induction steps generalizing session with
  | nil => exact hsound
  | cons step rest ih => exact ih (hsound.step step)

/-! ## Sessions with the same holders -/

/-- Two sessions in which all hold the same, though the registries may hold other modifiers and the
environments other variables. -/
structure SameHolders (session other : Session σ) : Prop where
  number? : session.number? = other.number?
  count : session.registries.length = other.registries.length
  steps : session.steps = other.steps

namespace SameHolders

variable {session other : Session σ}

theorem registration? (h : session.SameHolders other) (step : SessionStep σ) :
    session.registration? step = other.registration? step := by
  cases step with
  | register holder name modifier => rw [Session.registration?, Session.registration?, h.number?]
  | _ => rfl

theorem handing? (h : session.SameHolders other) (step : SessionStep σ) :
    session.handing? step = other.handing? step := by
  have hbuild (sources : List (String × BindingSource)) :
      session.canBuild sources = other.canBuild sources := by
    rw [canBuild, canBuild, h.steps]
  have hkind (kind : EnvironmentKind) : kind.number? session = kind.number? other := by
    cases kind <;> simp only [EnvironmentKind.number?, h.number?, h.count]
  cases step with
  | newEngine registry =>
      cases registry <;> simp only [Session.handing?, h.number?, h.count]
  | _ => simp only [Session.handing?, h.number?, h.count, hbuild, hkind]

/-- The same step keeps the holders the same. -/
theorem step (h : session.SameHolders other) (step : SessionStep σ) :
    (session.step step).2.SameHolders (other.step step).2 where
  number? := by
    funext holder
    rw [number?_step, number?_step, h.handing? step, h.number?]
  count := by rw [length_registries_step, length_registries_step, h.count]
  steps := congrArg (· + 1) h.steps

end SameHolders

end Session

end Stencil
