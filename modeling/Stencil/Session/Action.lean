import Stencil.Render.Library

/-!
# Actions on an environment

A host reads, sets and removes variables of an environment, renders templates with them, and
opens scopes, in which it does the same and also binds names.  Closing a scope puts back what
was bound through it.
-/

namespace Stencil

/-- What a host does to an environment. -/
inductive Action
  | get (name : String)
  | contains (name : String)
  | set (name : String) (value : Draft)
  | remove (name : String)
  | bind (name : String) (value : Draft)
  | render (name : String)
  | renderSource (source : String)
  | scope (actions : List Action)

instance : Inhabited Action := ⟨.scope []⟩

/-- What a host is told when it has done something to an environment. -/
inductive Outcome
  | done
  | truth (flag : Bool)
  | value (value : Option Value)
  | rendered (result : Except TemplateError String)
  | outcomes (outcomes : List Outcome)

/-- The templates and modifiers that are at hand while a host acts on an environment. -/
structure Equipment (σ : Type) where
  library : Library
  registry : Registry σ

/-- An environment on which a host acts, with the innermost open scope, and the state of the
host. -/
structure Acting (σ : Type) where
  scope : Scope
  host : σ

namespace Acting

variable {σ : Type}

/-- The variables and the state of the host. -/
def surroundings (acting : Acting σ) : Surroundings σ :=
  ⟨acting.scope.vars, acting.host⟩

/-- Puts variables in place of the ones there are; the scope is not told. -/
def withVariables (acting : Acting σ) (vars : Variables) : Acting σ :=
  { acting with scope := { acting.scope with vars := vars } }

/-- Puts the surroundings that rendering leaves in place of the ones there were. -/
def afterRendering
    (acting : Acting σ) (result : Except TemplateError String × Surroundings σ) :
    Outcome × Acting σ :=
  (.rendered result.1, { acting.withVariables result.2.vars with host := result.2.host })

/-- The value of a name. -/
def find? (acting : Acting σ) (name : String) : Option Value :=
  Entries.find? name acting.scope.vars

end Acting

namespace Action

variable {σ : Type}

mutual

/-- Does one action.  What it builds is labelled under a path. -/
def run (equipment : Equipment σ) (path : List Nat) :
    Action → Acting σ → Outcome × Acting σ
  | get name, acting => (.value (acting.find? name), acting)
  | contains name, acting => (.truth (acting.find? name).isSome, acting)
  | set name draft, acting =>
      let value := draft.build acting.scope.vars path
      (.value (acting.find? name),
        acting.withVariables (Entries.insert name value acting.scope.vars))
  | remove name, acting =>
      (.value (acting.find? name),
        acting.withVariables (Entries.erase name acting.scope.vars))
  | bind name draft, acting =>
      let value := draft.build acting.scope.vars path
      (.done, { acting with scope := acting.scope.bind name value })
  | render name, acting =>
      acting.afterRendering
        (equipment.library.render name equipment.registry acting.surroundings)
  | renderSource source, acting =>
      acting.afterRendering (Library.renderSource source equipment.registry acting.surroundings)
  | scope actions, acting =>
      let opened := { acting with scope := Scope.ofVariables acting.scope.vars }
      let result := runAll equipment path 0 actions opened
      (.outcomes result.1,
        { acting.withVariables result.2.scope.close with host := result.2.host })

/-- Does actions from a position on, one after the other. -/
def runAll (equipment : Equipment σ) (path : List Nat) :
    Nat → List Action → Acting σ → List Outcome × Acting σ
  | _, [], acting => ([], acting)
  | position, action :: rest, acting =>
      let result := action.run equipment (position :: path) acting
      let further := runAll equipment path (position + 1) rest result.2
      (result.1 :: further.1, further.2)

end

end Action

end Stencil
