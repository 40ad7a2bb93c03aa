import Stencil.Proofs.Render.Agreement

/-!
# Optional layers

A host can hand a value to a template in any number of optional layers, or not at all.  To the
template this makes no difference: whatever looks at a value looks at what is inside its layers,
and so do the built-in modifiers.  A host's own modifier need not; then it has to give results
that are alike where it is given values that are.
-/

namespace Stencil

namespace Value

/-- Two values that are one value inside their optional layers; a layer without a value is null. -/
def Alike (value other : Value) : Prop :=
  value.unwrapped = other.unwrapped

variable {value other : Value} (h : value.Alike other)

include h

theorem toText?_of_alike : value.toText? = other.toText? := by
  rw [toText?, h, toText?]

theorem toNumber?_of_alike : value.toNumber? = other.toNumber? := by
  rw [toNumber?, h, toNumber?]

end Value

namespace Modifier

variable {σ : Type}

/-- A modifier that looks through optional layers: from values that are alike it makes values
that are alike, and it does the same to the host. -/
def LooksThrough (modifier : Modifier σ) : Prop :=
  ∀ {value other : Value} (host : σ), value.Alike other →
    (modifier value host).1.Alike (modifier other host).1 ∧
      (modifier value host).2 = (modifier other host).2

/-- One of the built-in modifiers. -/
def IsBuiltin (modifier : Modifier σ) : Prop :=
  ∃ entry ∈ builtins, modifier = ofFunction entry.2

theorem onText_of_alike {value other : Value} (h : value.Alike other)
    (f : List Char → List Char) : onText f value = onText f other := by
  rw [onText, Value.toText?_of_alike h, onText]

theorem formatNumber_of_alike {value other : Value} (h : value.Alike other) :
    formatNumber value = formatNumber other := by
  rw [formatNumber, Value.toNumber?_of_alike h, formatNumber]

/-- The built-in modifiers make the same of values that are alike. -/
theorem builtins_of_alike {value other : Value} (h : value.Alike other) :
    ∀ entry ∈ builtins, entry.2 value = entry.2 other := by
  simp only [builtins, List.forall_mem_cons]
  exact ⟨onText_of_alike h _, onText_of_alike h _, onText_of_alike h _, onText_of_alike h _,
    formatNumber_of_alike h, onText_of_alike h _, nofun⟩

theorem IsBuiltin.looksThrough {modifier : Modifier σ} (h : modifier.IsBuiltin) :
    modifier.LooksThrough := by
  obtain ⟨entry, hentry, rfl⟩ := h
  intro value other host halike
  exact ⟨congrArg Value.unwrapped (builtins_of_alike halike entry hentry), rfl⟩

end Modifier

namespace Registry

variable {σ : Type}

theorem isBuiltin_of_mem_builtin {entry : String × Modifier σ}
    (h : entry ∈ (builtin : Registry σ)) : Modifier.IsBuiltin entry.2 := by
  obtain ⟨named, hnamed, rfl⟩ := List.mem_map.mp h
  exact ⟨named, hnamed, rfl⟩

/-- If all modifiers of a registry look through optional layers, templates do. -/
theorem respects_alike {registry : Registry σ}
    (h : ∀ entry ∈ registry, Modifier.LooksThrough entry.2) : registry.Respects Value.Alike where
  refl := fun _ => rfl
  unwrapped := id
  apply := by
    intro name value other host halike
    unfold apply
    split
    · rename_i modifier hfind
      exact h _ (Entries.mem_of_find? hfind) host halike
    · exact ⟨rfl, rfl⟩

end Registry

variable {σ : Type}

/-- Where two hosts give every name values that are alike, a template puts out the same text and
does the same to the modifiers. -/
theorem Template.render_eq_of_alike (template : Template) {registry : Registry σ}
    (hregistry : ∀ entry ∈ registry, Modifier.IsBuiltin entry.2 ∨ Modifier.LooksThrough entry.2)
    {vars others : Variables} (host : σ)
    (h : ∀ name, (Variables.value vars name).Alike (Variables.value others name)) :
    (template.render registry ⟨vars, host⟩).1 = (template.render registry ⟨others, host⟩).1 ∧
      (template.render registry ⟨vars, host⟩).2.host =
        (template.render registry ⟨others, host⟩).2.host := by
  have hall : ∀ entry ∈ registry, Modifier.LooksThrough entry.2 := by
    intro entry hentry
    rcases hregistry entry hentry with hbuiltin | hthrough
    · exact hbuiltin.looksThrough
    · exact hthrough
  exact Node.renderAll_congr (Registry.respects_alike hall) template.nodes 0 host
    (fun _ _ => trivial) (fun name _ => h name)

/-- An array in two layers, a name that is bound to nothing, and a modifier of the host's own. -/
theorem Template.render_eq_of_alike_layers :
    let template : Template :=
      ⟨[.loop ⟨.variable "rows", "row", none, some "table"⟩
          [.action (.pipe (.variable "row") "upper")] none,
        .action (.variable "nick"),
        .conditional
          (.binary (.variable "rows") .equal (.variable "again")) [.text "same"] .nothing,
        .action (.pipe (.variable "rows") "filled")]⟩
    let registry : Registry Unit :=
      Registry.builtin.register "filled" (Modifier.ofFunction fun value => .boolean value.isTruthy)
    let rows := Value.array (.host [0]) [.string "a", .string "b"]
    let plain : Variables := [("again", rows), ("rows", rows)]
    let layered : Variables :=
      [("again", rows), ("nick", .present .absent), ("rows", .present (.present rows))]
    (∀ entry ∈ registry, Modifier.IsBuiltin entry.2 ∨ Modifier.LooksThrough entry.2) ∧
      (∀ name, (plain.value name).Alike (layered.value name)) ∧
      (template.render registry ⟨plain, ()⟩).1 = "ABsametrue" ∧
      (template.render registry ⟨layered, ()⟩).1 = "ABsametrue" := by
  intro template registry rows plain layered
  have hregistry : ∀ entry ∈ registry,
      Modifier.IsBuiltin entry.2 ∨ Modifier.LooksThrough entry.2 := by
    intro entry hentry
    rcases Entries.mem_of_mem_insert hentry with rfl | hbuiltin
    · refine .inr fun host h => ⟨?_, rfl⟩
      exact congrArg (fun flag => (Value.boolean flag).unwrapped) (Value.isTruthy_of_unwrapped h)
    · exact .inl (Registry.isBuiltin_of_mem_builtin hbuiltin)
  have halike : ∀ name, (plain.value name).Alike (layered.value name) := by
    intro name
    by_cases hrows : name = "rows"
    · subst hrows
      rfl
    · by_cases hnick : name = "nick"
      · subst hnick
        rfl
      · simp [Variables.value, plain, layered, Entries.find?, hrows, hnick, Value.Alike]
  have hplain : (template.render registry ⟨plain, ()⟩).1 = "ABsametrue" := by
    simp only [template, registry, plain, rows]
    decide +kernel
  obtain ⟨htext, -⟩ := template.render_eq_of_alike hregistry () halike
  exact ⟨hregistry, halike, hplain, htext.symm.trans hplain⟩

end Stencil
