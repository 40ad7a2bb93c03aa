import Stencil.Session.Basic

/-!
# Which templates an engine has

Steps change the templates of the engine at hand in one way: a source that can be read is put
under its name.  A source that cannot be read is refused with all its diagnostics and leaves the
whole session as it is, and so does one that is read but not added.  So under a name is always
the last source that was added there and could be read, however many have been refused since,
and rendering the name is the same as rendering that source.
-/

namespace Stencil

/-- The template that a source is read as, with whatever could be kept of a source with
something wrong. -/
def Template.ofSource (source : String) : Template :=
  ⟨(readSource source).1⟩

theorem Template.parse_of_clean {source : String} (h : (readSource source).2 = []) :
    parse source = .ok (ofSource source) := by
  have hread : readSource source = ((readSource source).1, []) := Prod.ext rfl h
  rw [parse, hread, ofSource]

theorem Template.parse_of_faulty {source : String} (h : (readSource source).2 ≠ []) :
    parse source = .error (readSource source).2 := by
  rw [parse]
  split
  · rename_i hread
    rw [hread] at h
    exact absurd rfl h
  · rename_i hread
    rw [hread]

variable {σ : Type}

namespace SessionStep

/-- Whether a step leaves the engine at hand in place. -/
def StaysOnEngine : SessionStep σ → Prop
  | .newEngine _ => False
  | .takeEngine _ => False
  | _ => True

/-- The source that a step puts under a name, if it adds one that can be read. -/
def goodSource? (name : String) : SessionStep σ → Option String
  | .addTemplate other source =>
      if other = name ∧ (readSource source).2 = [] then some source else none
  | _ => none

end SessionStep

/-- The last source that steps put under a name. -/
def lastGoodSource? (name : String) : List (SessionStep σ) → Option String
  | [] => none
  | step :: rest => (lastGoodSource? name rest).or (step.goodSource? name)

namespace Session

theorem engine_buildEnvironment (session : Session σ) (name : String) (number : RegistryNumber)
    (sources : List (String × BindingSource)) :
    (session.buildEnvironment name number sources).2.engine = session.engine := by
  rw [buildEnvironment]
  split <;> rfl

theorem addTemplate_of_clean (session : Session σ) (name : String) {source : String}
    (h : (readSource source).2 = []) :
    session.addTemplate name source =
      (.added (.ok ()),
        { session with
          engine :=
            { session.engine with
              library :=
                Entries.insert name (Template.ofSource source) session.engine.library } }) := by
  rw [addTemplate, Library.add, Template.parse_of_clean h]

theorem addTemplate_of_faulty (session : Session σ) (name : String) {source : String}
    (h : (readSource source).2 ≠ []) :
    session.addTemplate name source =
      (.added (.error (.parse (readSource source).2)), session) := by
  rw [addTemplate, Library.add, Template.parse_of_faulty h]

/-- The template under a name behind a step: the one that the step adds, or the one that was
there. -/
theorem find?_library_step (session : Session σ) {step : SessionStep σ} (h : step.StaysOnEngine)
    (name : String) :
    Entries.find? name (session.step step).2.engine.library =
      ((step.goodSource? name).map Template.ofSource).or
        (Entries.find? name session.engine.library) := by
  cases step with
  | addTemplate other source =>
      simp only [Session.step, perform, SessionStep.goodSource?]
      by_cases hclean : (readSource source).2 = []
      · rw [addTemplate_of_clean session other hclean]
        by_cases hname : other = name
        · subst hname
          simp [hclean, Entries.find?_insert_self]
        · simp [hname, Entries.find?_insert_of_ne (Ne.symm hname)]
      · rw [addTemplate_of_faulty session other hclean, if_neg fun hboth => hclean hboth.2]
        rfl
  | newEngine registry => exact h.elim
  | takeEngine other => exact h.elim
  | newEnvironment other kind sources =>
      simp only [Session.step, perform, newEnvironment]
      cases kind with
      | fresh => rw [engine_buildEnvironment]; rfl
      | withRegistry registry =>
          simp only
          split
          · rw [engine_buildEnvironment]; rfl
          · rfl
      | fromEngine => rw [engine_buildEnvironment]; rfl
  | register holder other modifier =>
      simp only [Session.step, perform, register]
      split <;> rfl
  | nameRegistry other holder =>
      simp only [Session.step, perform, nameRegistry]
      split <;> rfl
  | names holder | has holder other | describe holder =>
      simp only [Session.step, perform, ask]
      split <;> rfl
  | apply holder other draft =>
      simp only [Session.step, perform, apply]
      split
      · split <;> rfl
      · rfl
  | copyEnvironment other copy =>
      simp only [Session.step, perform, copyEnvironment]
      split <;> rfl
  | useRegistry other registry =>
      simp only [Session.step, perform, useRegistry]
      split <;> rfl
  | act other action =>
      simp only [Session.step, perform, act]
      split <;> rfl
  | newRegistry other withBuiltins | keepEngine other | parse source | template other
  | takeHost fresh => rfl

/-- The template under a name behind a run: the last one that the run adds, or the one that was
there. -/
theorem find?_library_run {steps : List (SessionStep σ)} (session : Session σ)
    (h : ∀ step ∈ steps, step.StaysOnEngine) (name : String) :
    Entries.find? name (session.run steps).2.engine.library =
      ((lastGoodSource? name steps).map Template.ofSource).or
        (Entries.find? name session.engine.library) := by
  induction steps generalizing session with
  | nil => rfl
  | cons step rest ih =>
      obtain ⟨hstep, hrest⟩ := List.forall_mem_cons.mp h
      have hbehind := ih (session.step step).2 hrest
      rw [find?_library_step session hstep, ← Option.or_assoc, ← Option.map_or] at hbehind
      exact hbehind

end Session

/-! ## Rendering by name -/

namespace Action

variable {library : Library} {name source : String}

/-- Where a source has been put under a name, rendering the name is rendering the source. -/
theorem run_render_of_source (hfind : Entries.find? name library = some (Template.ofSource source))
    (hclean : (readSource source).2 = []) (registry : Registry σ) (path : List Nat)
    (acting : Acting σ) :
    (render name).run ⟨library, registry⟩ path acting =
      (renderSource source).run ⟨library, registry⟩ path acting := by
  simp only [run, Library.render, Library.renderSource, hfind, Template.parse_of_clean hclean]

theorem exists_text_of_run_render {template : Template}
    (hfind : Entries.find? name library = some template) (registry : Registry σ) (path : List Nat)
    (acting : Acting σ) :
    ∃ text, ((render name).run ⟨library, registry⟩ path acting).1 = .rendered (.ok text) := by
  simp only [run, Library.render, hfind]
  exact ⟨_, rfl⟩

theorem run_render_of_none (hfind : Entries.find? name library = none) (registry : Registry σ)
    (path : List Nat) (acting : Acting σ) :
    (render name).run ⟨library, registry⟩ path acting =
      (.rendered (.error (.notFound name)), acting) := by
  simp only [run, Library.render, hfind]
  rfl

end Action

theorem clean_of_lastGoodSource? {name source : String} {steps : List (SessionStep σ)}
    (h : lastGoodSource? name steps = some source) : (readSource source).2 = [] := by
  induction steps with
  | nil => cases h
  | cons step rest ih =>
      rw [lastGoodSource?, Option.or_eq_some_iff] at h
      rcases h with hrest | ⟨-, hstep⟩
      · exact ih hrest
      · cases step with
        | addTemplate other added =>
            rw [SessionStep.goodSource?] at hstep
            split at hstep
            · rename_i hboth
              cases hstep
              exact hboth.2
            · cases hstep
        | _ => cases hstep

namespace Session

/-- Behind a run on a new engine, under a name is the template of the last source that was added
there and can be read, if there is one.  A source that cannot be read is refused with all its
diagnostics, and nothing changes.  Wherever the name is rendered, that does what rendering the
source does; the name is not found exactly if no such source has been added, and then nothing is
touched. -/
theorem templates_of_run {session : Session σ} (hnew : session.engine.library = [])
    {steps : List (SessionStep σ)} (hstay : ∀ step ∈ steps, step.StaysOnEngine) (name : String) :
    let last := (session.run steps).2
    Entries.find? name last.engine.library = (lastGoodSource? name steps).map Template.ofSource ∧
      (∀ source, (readSource source).2 = [] →
        (last.step (.addTemplate name source)).1 = .added (.ok ())) ∧
      (∀ source, (readSource source).2 ≠ [] →
        last.step (.addTemplate name source) =
          (.added (.error (.parse (readSource source).2)), { last with steps := last.steps + 1 })) ∧
      ∀ (registry : Registry σ) (path : List Nat) (acting : Acting σ),
        let rendered := (Action.render name).run ⟨last.engine.library, registry⟩ path acting
        (∀ source, lastGoodSource? name steps = some source →
          rendered = (Action.renderSource source).run ⟨last.engine.library, registry⟩ path acting ∧
            ∃ text, rendered.1 = .rendered (.ok text)) ∧
        (rendered.1 = .rendered (.error (.notFound name)) ↔ lastGoodSource? name steps = none) ∧
        (lastGoodSource? name steps = none → rendered.2 = acting) := by
  intro last
  have hfind : Entries.find? name last.engine.library =
      (lastGoodSource? name steps).map Template.ofSource := by
    have hrun := find?_library_run session hstay name
    rw [hnew] at hrun
    exact hrun.trans (Option.or_none)
  refine ⟨hfind, ?_, ?_, ?_⟩
  · intro source hclean
    rw [Session.step, perform, addTemplate_of_clean last name hclean]
  · intro source hfaulty
    rw [Session.step, perform, addTemplate_of_faulty last name hfaulty]
  · intro registry path acting rendered
    cases hsource : lastGoodSource? name steps with
    | none =>
        rw [hsource] at hfind
        have hrendered : rendered = (.rendered (.error (.notFound name)), acting) :=
          Action.run_render_of_none hfind registry path acting
        rw [hrendered]
        exact ⟨nofun, by simp, fun _ => rfl⟩
    | some source =>
        rw [hsource] at hfind
        obtain ⟨text, htext⟩ := Action.exists_text_of_run_render hfind registry path acting
        refine ⟨?_, ?_, nofun⟩
        · rintro _ ⟨⟩
          have hclean := clean_of_lastGoodSource? hsource
          exact ⟨Action.run_render_of_source hfind hclean registry path acting, text, htext⟩
        · rw [htext]
          simp

/-- A template that is rendered, a source for it that is refused, and a name under which nothing
else has been added. -/
theorem templates_of_run_refused :
    let session : Session Unit := start ()
    let steps : List (SessionStep Unit) :=
      [.addTemplate "page" "old",
        .newEnvironment "env" .fromEngine [("x", .draft (.string "kept"))],
        .addTemplate "page" "\x7b$x\x7d!", .parse "list", .addTemplate "page" "\x7bif $x\x7d",
        .addTemplate "list" "\x7b$", .act "env" (.render "page"), .parse "\x7b$"]
    let last := (session.run steps).2
    let acting : Acting Unit := ⟨Scope.ofVariables [("x", .string "kept")], ()⟩
    let rendered := fun name : String =>
      (Action.render name).run ⟨last.engine.library, Registry.builtin⟩ [] acting
    session.engine.library = [] ∧ (∀ step ∈ steps, step.StaysOnEngine) ∧
      lastGoodSource? "page" steps = some "\x7b$x\x7d!" ∧ lastGoodSource? "list" steps = none ∧
      Entries.find? "page" last.engine.library = some (Template.ofSource "\x7b$x\x7d!") ∧
      last.step (.addTemplate "page" "\x7bif $x\x7d") =
        (.added (.error (.parse [⟨.unterminatedIf, ⟨1, 2⟩⟩])),
          { last with steps := last.steps + 1 }) ∧
      (rendered "page").1 = .rendered (.ok "kept!") ∧
      rendered "list" = (.rendered (.error (.notFound "list")), acting) := by
  intro session steps last acting rendered
  have hstay : ∀ step ∈ steps, step.StaysOnEngine := by
    simp [steps, SessionStep.StaysOnEngine]
  have hpage : lastGoodSource? "page" steps = some "\x7b$x\x7d!" := by
    decide +kernel
  have hlist : lastGoodSource? "list" steps = none := by
    decide +kernel
  have hfaulty : (readSource "\x7bif $x\x7d").2 = [⟨.unterminatedIf, ⟨1, 2⟩⟩] := by
    decide +kernel
  have hnew : session.engine.library = [] := rfl
  obtain ⟨hfind, -, hrefused, hrender⟩ := templates_of_run hnew hstay "page"
  obtain ⟨-, -, -, hmissing⟩ := templates_of_run hnew hstay "list"
  obtain ⟨hsource, -, -⟩ := hrender Registry.builtin [] acting
  obtain ⟨-, hnotFound, huntouched⟩ := hmissing Registry.builtin [] acting
  rw [hpage] at hfind
  refine ⟨hnew, hstay, hpage, hlist, hfind, ?_, ?_, ?_⟩
  · rw [← hfaulty]
    exact hrefused _ (by rw [hfaulty]; exact nofun)
  · have hdirect : rendered "page" =
        (Action.renderSource "\x7b$x\x7d!").run ⟨last.engine.library, Registry.builtin⟩ [] acting :=
      (hsource _ hpage).1
    rw [hdirect]
    with_unfolding_all rfl
  · exact Prod.ext (hnotFound.mpr hlist) (huntouched hlist)

end Session

end Stencil
