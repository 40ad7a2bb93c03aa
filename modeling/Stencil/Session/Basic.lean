import Stencil.Environment.Binding
import Stencil.Modifier.Builtin
import Stencil.Session.Action

/-!
# Sessions

A session is all that a host sets up around its templates: registries of modifiers, engines and
environments.  A registry is shared by all that hold its number, so a modifier registered
through one of them is found by all.  A copy of an environment has variables of its own and
shares the registry.

One engine is at hand, and the others are put aside under names until they are taken up again.
-/

namespace Stencil

/-- The number of a registry in a session. -/
abbrev RegistryNumber := Nat

/-- Variables with the registry in which modifiers are looked up. -/
structure Environment where
  vars : Variables
  registry : RegistryNumber

/-- Templates with the registry that environments get from their engine. -/
structure Engine where
  library : Library
  registry : RegistryNumber

/-- Where a registry is to be found: under its name, with an environment, with the engine at
hand, or with one that is kept. -/
inductive RegistryHolder
  | named (name : String)
  | environment (name : String)
  | engine
  | keptEngine (name : String)
  deriving DecidableEq

/-- Which registry a new environment gets. -/
inductive EnvironmentKind
  | fresh
  | withRegistry (name : String)
  | fromEngine

/-- What a host does in a session. -/
inductive SessionStep (σ : Type)
  | newRegistry (name : String) (withBuiltins : Bool)
  | nameRegistry (name : String) (holder : RegistryHolder)
  | register (holder : RegistryHolder) (name : String) (modifier : Modifier σ)
  | names (holder : RegistryHolder)
  | has (holder : RegistryHolder) (name : String)
  | describe (holder : RegistryHolder)
  | apply (holder : RegistryHolder) (name : String) (value : Draft)
  | newEngine (registry : Option String)
  | keepEngine (name : String)
  | takeEngine (name : String)
  | addTemplate (name source : String)
  | parse (source : String)
  | template (name : String)
  | newEnvironment
      (name : String) (kind : EnvironmentKind) (bindings : List (String × BindingSource))
  | copyEnvironment (name copy : String)
  | useRegistry (environment registry : String)
  | act (environment : String) (action : Action)
  | takeHost (fresh : σ)

/-- What a host is told when it has done something in a session. -/
inductive SessionAnswer (σ : Type)
  | done
  | unknown (name : String)
  | truth (flag : Bool)
  | names (names : List String)
  | description (text : Option String)
  | value (value : Option Value)
  | added (result : Except TemplateError Unit)
  | built (result : Except (List BindingFailure) Unit)
  | outcome (outcome : Outcome)
  | host (state : σ)

/-- All that a host has set up, the state of the host, and how many steps have been taken. -/
structure Session (σ : Type) where
  registries : List (Registry σ)
  registryNames : Entries RegistryNumber
  engine : Engine
  engines : Entries Engine
  environments : Entries Environment
  host : σ
  steps : Nat

namespace Session

variable {σ : Type}

/-- The session that a host begins with: an engine whose registry holds the built-in modifiers. -/
def start (host : σ) : Session σ :=
  ⟨[Registry.builtin], [], ⟨[], 0⟩, [], [], host, 0⟩

/-- The registry with a number. -/
def registry (session : Session σ) (number : RegistryNumber) : Registry σ :=
  (session.registries[number]?).getD []

/-- The session with one more registry, which has the next number. -/
def addRegistry (session : Session σ) (registry : Registry σ) : Session σ :=
  { session with registries := session.registries ++ [registry] }

/-- The number of the registry that is found somewhere. -/
def number? (session : Session σ) : RegistryHolder → Option RegistryNumber
  | .named name => Entries.find? name session.registryNames
  | .environment name =>
      (Entries.find? name session.environments).map fun environment => environment.registry
  | .engine => some session.engine.registry
  | .keptEngine name => (Entries.find? name session.engines).map fun engine => engine.registry

/-- What is said of a registry that cannot be found. -/
def unknownHolder : RegistryHolder → SessionAnswer σ
  | .named name => .unknown name
  | .environment name => .unknown name
  | .engine => .done
  | .keptEngine name => .unknown name

/-- Asks something of a registry. -/
def ask
    (session : Session σ) (holder : RegistryHolder) (question : Registry σ → SessionAnswer σ) :
    SessionAnswer σ × Session σ :=
  match session.number? holder with
  | some number => (question (session.registry number), session)
  | none => (unknownHolder holder, session)

/-- Registers a modifier, and says whether it has taken the place of another. -/
def register
    (session : Session σ) (holder : RegistryHolder) (name : String) (modifier : Modifier σ) :
    SessionAnswer σ × Session σ :=
  match session.number? holder with
  | some number =>
      let registry := session.registry number
      (.truth (Entries.contains name registry),
        { session with
          registries := session.registries.set number (registry.register name modifier) })
  | none => (unknownHolder holder, session)

/-- Sends a value through a modifier of a registry, if it has one of the name. -/
def apply
    (session : Session σ) (holder : RegistryHolder) (name : String) (draft : Draft) :
    SessionAnswer σ × Session σ :=
  match session.number? holder with
  | some number =>
      let registry := session.registry number
      if Entries.contains name registry then
        let result := registry.apply name (draft.build [] [session.steps]) session.host
        (.value (some result.1), { session with host := result.2 })
      else (.value none, session)
  | none => (unknownHolder holder, session)

/-- Makes an engine on a registry. -/
def setEngine (session : Session σ) (number : RegistryNumber) : SessionAnswer σ × Session σ :=
  (.names (Entries.names (session.registry number)), { session with engine := ⟨[], number⟩ })

/-- Makes a new engine, on a named registry or on one of its own with the built-in modifiers. -/
def newEngine (session : Session σ) : Option String → SessionAnswer σ × Session σ
  | none => (session.addRegistry Registry.builtin).setEngine session.registries.length
  | some name =>
      match Entries.find? name session.registryNames with
      | some number => session.setEngine number
      | none => (.unknown name, session)

/-- Makes a new registry and names it. -/
def newRegistry (session : Session σ) (name : String) (withBuiltins : Bool) :
    SessionAnswer σ × Session σ :=
  let registry := Registry.create withBuiltins
  (.names (Entries.names registry),
    { session.addRegistry registry with
      registryNames := Entries.insert name session.registries.length session.registryNames })

/-- Gives a further name to a registry. -/
def nameRegistry (session : Session σ) (name : String) (holder : RegistryHolder) :
    SessionAnswer σ × Session σ :=
  match session.number? holder with
  | some number =>
      (.done, { session with registryNames := Entries.insert name number session.registryNames })
  | none => (unknownHolder holder, session)

/-- Puts the engine at hand aside under a name, with the templates that it has now.  This stands
for a host that goes on with another engine, which it makes or takes up next.  A host does not
copy an engine: to go on with this one all the same, or to take up twice what has been put aside
once, is more than a host can do, and what is proved of all steps holds of such steps as well. -/
def keepEngine (session : Session σ) (name : String) : SessionAnswer σ × Session σ :=
  (.done, { session with engines := Entries.insert name session.engine session.engines })

/-- Goes on with an engine that has been put aside. -/
def takeEngine (session : Session σ) (name : String) : SessionAnswer σ × Session σ :=
  match Entries.find? name session.engines with
  | some engine => (.done, { session with engine := engine })
  | none => (.unknown name, session)

/-- Adds a template to the engine. -/
def addTemplate (session : Session σ) (name source : String) : SessionAnswer σ × Session σ :=
  match session.engine.library.add name source with
  | .ok library =>
      (.added (.ok ()), { session with engine := { session.engine with library := library } })
  | .error error => (.added (.error error), session)

/-- Reads a template without adding it, and shows it.  A source that cannot be read is refused as it
is where it is to be added. -/
def parsed (source : String) : SessionAnswer σ :=
  match Template.parse source with
  | .ok template => .description (some template.describe)
  | .error diagnostics => .added (.error (.parse diagnostics))

/-- Puts an environment under a name. -/
def putEnvironment (session : Session σ) (name : String) (environment : Environment) :
    Session σ :=
  { session with environments := Entries.insert name environment session.environments }

/-- Makes an environment on a registry from bindings, or reports all bindings that have failed. -/
def buildEnvironment
    (session : Session σ) (name : String) (number : RegistryNumber)
    (sources : List (String × BindingSource)) : SessionAnswer σ × Session σ :=
  match Binding.toVariables (BindingSource.bindings [session.steps] 0 [] sources) with
  | .ok vars => (.built (.ok ()), session.putEnvironment name ⟨vars, number⟩)
  | .error failures => (.built (.error failures), session)

/-- Makes a new environment on the registry of its kind. -/
def newEnvironment
    (session : Session σ) (name : String) (kind : EnvironmentKind)
    (sources : List (String × BindingSource)) : SessionAnswer σ × Session σ :=
  match kind with
  | .fresh =>
      (session.addRegistry Registry.builtin).buildEnvironment name session.registries.length
        sources
  | .withRegistry registry =>
      match Entries.find? registry session.registryNames with
      | some number => session.buildEnvironment name number sources
      | none => (.unknown registry, session)
  | .fromEngine => session.buildEnvironment name session.engine.registry sources

/-- Copies an environment, which shares its registry with the copy. -/
def copyEnvironment (session : Session σ) (name copy : String) : SessionAnswer σ × Session σ :=
  match Entries.find? name session.environments with
  | some environment => (.done, session.putEnvironment copy environment)
  | none => (.unknown name, session)

/-- Puts an environment on another registry. -/
def useRegistry (session : Session σ) (name registry : String) : SessionAnswer σ × Session σ :=
  match Entries.find? name session.environments, Entries.find? registry session.registryNames with
  | some environment, some number =>
      (.done, session.putEnvironment name { environment with registry := number })
  | none, _ => (.unknown name, session)
  | some _, none => (.unknown registry, session)

/-- Acts on an environment. -/
def act (session : Session σ) (name : String) (action : Action) :
    SessionAnswer σ × Session σ :=
  match Entries.find? name session.environments with
  | some environment =>
      let equipment := ⟨session.engine.library, session.registry environment.registry⟩
      let result :=
        action.run equipment [session.steps]
          ⟨Scope.ofVariables environment.vars, session.host⟩
      (.outcome result.1,
        { session.putEnvironment name
            { environment with vars := result.2.scope.vars } with
          host := result.2.host })
  | none => (.unknown name, session)

/-- Does what a host asks for. -/
def perform (session : Session σ) : SessionStep σ → SessionAnswer σ × Session σ
  | .newRegistry name withBuiltins => session.newRegistry name withBuiltins
  | .nameRegistry name holder => session.nameRegistry name holder
  | .register holder name modifier => session.register holder name modifier
  | .names holder => session.ask holder fun registry => .names (Entries.names registry)
  | .has holder name => session.ask holder fun registry => .truth (Entries.contains name registry)
  | .describe holder => session.ask holder fun registry => .description (some registry.describe)
  | .apply holder name draft => session.apply holder name draft
  | .newEngine registry => session.newEngine registry
  | .keepEngine name => session.keepEngine name
  | .takeEngine name => session.takeEngine name
  | .addTemplate name source => session.addTemplate name source
  | .parse source => (parsed source, session)
  | .template name =>
      (.description ((Entries.find? name session.engine.library).map Template.describe), session)
  | .newEnvironment name kind sources => session.newEnvironment name kind sources
  | .copyEnvironment name copy => session.copyEnvironment name copy
  | .useRegistry name registry => session.useRegistry name registry
  | .act name action => session.act name action
  | .takeHost fresh => (.host session.host, { session with host := fresh })

/-- Takes one step. -/
def step (session : Session σ) (step : SessionStep σ) : SessionAnswer σ × Session σ :=
  let result := session.perform step
  (result.1, { result.2 with steps := session.steps + 1 })

/-- Takes steps one after the other. -/
def run (session : Session σ) : List (SessionStep σ) → List (SessionAnswer σ) × Session σ
  | [] => ([], session)
  | step :: rest =>
      let result := session.step step
      let further := run result.2 rest
      (result.1 :: further.1, further.2)

end Session

end Stencil
