import Stencil.Proofs.Render.Calls
import Stencil.Proofs.Template.RoundTrip
import Stencil.Proofs.Template.Shape
import Stencil.Render.Library

/-!
# Pipelines

A variable that is sent through modifiers is written with a bar in front of each of them, and
there may be blanks on both sides of a bar.  The source is scanned stage by stage, and each
stage puts one more modifier around the expression that has been read: the first stage is
innermost.  So evaluation sends the value through the modifiers in the order in which they are
written, which an induction on the stages shows for any expression in front of them.
-/

namespace Stencil

open Scanner

/-! ## Words -/

/-- A text that is read inside a tag as one token and nothing else, of a kind that may stand for
a name. -/
def ReadsAsWord (text : String) : Prop :=
  ∃ word ending, (Scanner.mk text.toList .start .tag (.openTag, .dollar)).tokens = [word, ending] ∧
    word.kind.isWord = true ∧ word.literal = text ∧ ending.kind = .endOfInput

/-- A source may end inside a tag, with or without blanks in front of its end. -/
theorem Scanner.InTag.tokens_of_ended {scanner : Scanner} (h : scanner.InTag []) :
    ∃ ending, scanner.tokens = [ending] ∧ ending.kind = .endOfInput := by
  have hend : scanner.token.kind = .endOfInput := by
    rw [token, cut, h.mode]
    simp only [h.rest]
    rfl
  exact ⟨scanner.token, by rw [tokens, if_pos hend], hend⟩

/-- What is read as one word is what can stand for a name anywhere. -/
theorem readsAsWord_iff {text : String} : ReadsAsWord text ↔ IsName text := by
  let scanner : Scanner := ⟨text.toList, .start, .tag, (.openTag, .dollar)⟩
  constructor
  · rintro ⟨word, ending, htokens, hword, hliteral, -⟩
    have hfirst : scanner.token = word := by
      rw [tokens] at htokens
      split at htokens
      · exact (List.cons.inj htokens).1
      · exact (List.cons.inj htokens).1
    have hcarries := (Cut.carries_ofTag scanner.recent (scanner.rest.dropWhile Cut.isBlank)).word
    rw [← hliteral, ← hfirst]
    apply hcarries
    rw [← hfirst] at hword
    exact hword
  · intro h
    have hstop : Cut.Stops [] := by
      rintro _ ⟨⟩
    have htag : scanner.InTag (text.toList ++ []) := by
      have hlast : TokenKind.dollar ≠ .openTag := by decide
      have hnotLiteral : (TokenKind.openTag, TokenKind.dollar) ≠ (.openTag, .literalWord) := by
        decide
      rw [List.append_nil]
      exact ⟨⟨rfl, hlast, hnotLiteral⟩, rfl⟩
    obtain ⟨ts, last, hyields, ⟨word, rfl, hword, hliteral⟩, hlast⟩ :=
      scans_name h hstop scanner htag
    obtain ⟨ending, hended, hending⟩ := hlast.tokens_of_ended
    refine ⟨word, ending, ?_, hword, hliteral, hending⟩
    rw [hyields.tokens_eq, hended]
    rfl

/-! ## Stages -/

/-- A modifier in a pipeline, with the bar in front of it and the blanks around the bar. -/
structure Stage where
  before : String
  after : String
  name : String

namespace Stage

/-- How a stage is written. -/
def source (stage : Stage) : String :=
  stage.before ++ "|" ++ stage.after ++ stage.name

/-- There is nothing but blanks around the bar, and the name is a word. -/
structure IsReadable (stage : Stage) : Prop where
  before : ∀ c ∈ stage.before.toList, Cut.isBlank c = true
  after : ∀ c ∈ stage.after.toList, Cut.isBlank c = true
  name : ReadsAsWord stage.name

end Stage

namespace Cut

theorem not_isWordPart_of_isBlank {c : Char} (h : isBlank c = true) : isWordPart c = false := by
  rw [isBlank, Bool.or_eq_true, Bool.or_eq_true, Bool.or_eq_true] at h
  rcases h with ((h | h) | h) | h <;> rw [of_decide_eq_true h] <;> decide

theorem stops_blanks {blanks text : List Char} (hblanks : ∀ c ∈ blanks, isBlank c = true)
    (h : Stops text) : Stops (blanks ++ text) := by
  cases blanks with
  | nil => exact h
  | cons c rest =>
      exact stops_cons c (not_isWordPart_of_isBlank (hblanks c List.mem_cons_self)) (rest ++ text)

end Cut

variable {stage : Stage} {stages : List Stage}

theorem Stage.toList_source (stage : Stage) :
    stage.source.toList =
      stage.before.toList ++ (['|'] ++ (stage.after.toList ++ stage.name.toList)) := by
  rw [source, String.toList_append, String.toList_append, String.toList_append, List.append_assoc,
    List.append_assoc]
  rfl

theorem Stage.IsReadable.stops (h : stage.IsReadable) (rest : List Char) :
    Cut.Stops (stage.source.toList ++ rest) := by
  rw [Stage.toList_source, List.append_assoc]
  exact Cut.stops_blanks h.before (Cut.stops_cons '|' (by decide) _)

theorem scans_stage (h : stage.IsReadable) {rest : List Char} (hstop : Cut.Stops rest) :
    Scans (Joined (IsToken .pipe "|") (IsNameToken stage.name)) stage.source.toList rest := by
  have hbar : Cut.punctuation? '|' = some .pipe := rfl
  have hname := (scans_name (readsAsWord_iff.mp h.name) hstop).blanks h.after
  rw [Stage.toList_source]
  exact ((scans_punctuation hbar _).append hname).blanks h.before

/-- An expression that is sent through modifiers, the first one innermost. -/
def Expr.pipes (input : Expr) (names : List String) : Expr :=
  names.foldl Expr.pipe input

theorem Expr.BeginsWithVariable.pipes {input : Expr} (h : input.BeginsWithVariable)
    (names : List String) : (input.pipes names).BeginsWithVariable := by
  induction names generalizing input with
  | nil => exact h
  | cons name rest ih =>
      have hpiped : (input.pipe name).BeginsWithVariable := h
      exact ih hpiped

/-- Stages behind an expression put their modifiers around it, from the first to the last. -/
theorem scans_stages {start : Scanner → List Char → Prop} {input : Expr} {front : List Char}
    (hfront : ∀ rest, Cut.Stops rest → ScansBetween start InTag input.DerivesPipeline front rest)
    (h : ∀ stage ∈ stages, stage.IsReadable) {rest : List Char} (hstop : Cut.Stops rest) :
    ScansBetween start InTag (input.pipes (stages.map Stage.name)).DerivesPipeline
      (front ++ (String.join (stages.map Stage.source)).toList) rest := by
  induction stages generalizing input front with
  | nil =>
      rw [List.map_nil, List.map_nil, String.join_nil, String.toList_empty, List.append_nil]
      exact hfront rest hstop
  | cons stage further ih =>
      obtain ⟨hstage, hfurther⟩ := List.forall_mem_cons.mp h
      rw [List.map_cons, List.map_cons, String.join_cons, String.toList_append, ← List.append_assoc]
      refine ih ?_ hfurther
      intro behind hbehind
      refine ((hfront _ (hstage.stops behind)).append (scans_stage hstage hbehind)).imp ?_
      rintro _ ⟨ts, _, rfl, hts, _, _, rfl, ⟨bar, rfl, hkind, -⟩, token, rfl, htoken, hliteral⟩
      rw [← hliteral]
      exact .pipe hts hkind htoken

/-- A variable with the stages behind it, between the braces of a tag. -/
def pipelineSource (variableName : String) (stages : List Stage) : String :=
  "\x7b$" ++ variableName ++ String.join (stages.map Stage.source) ++ "\x7d"

theorem readSource_pipelineSource {variableName : String} (hvariable : ReadsAsWord variableName)
    (h : ∀ stage ∈ stages, stage.IsReadable) :
    readSource (pipelineSource variableName stages) =
      ([.action ((Expr.variable variableName).pipes (stages.map Stage.name))], []) := by
  have hcanonical : (Expr.variable variableName).Canonical := readsAsWord_iff.mp hvariable
  have hbegins : (Expr.variable variableName).BeginsWithVariable := trivial
  have hfront (rest : List Char) (hstop : Cut.Stops rest) :
      ScansBetween AtBrace InTag (Expr.variable variableName).DerivesPipeline
        ('$' :: variableName.toList) rest :=
    (Expr.scans hcanonical (.inr ⟨rfl, hbegins⟩) hstop).imp fun ts hts => .expr hts
  have hsource : (pipelineSource variableName stages).toList =
      '\x7b' :: (('$' :: variableName.toList ++ (String.join (stages.map Stage.source)).toList) ++
        ['\x7d']) := by
    rw [pipelineSource, String.toList_append, String.toList_append, String.toList_append]
    simp
  have hscans :
      ScansPhrase (.node (.action ((Expr.variable variableName).pipes (stages.map Stage.name))))
        (pipelineSource variableName stages).toList [] := by
    rw [hsource]
    exact scans_actionTag (hbegins.pipes (stages.map Stage.name))
      (scans_stages hfront h (Cut.stops_cons '\x7d' (by decide) []))
  obtain ⟨ts, ending, htokens, hending, hderives⟩ := tokens_of_scans hscans
  exact readSource_of_derives nofun htokens hending (.add .nil hderives)

/-! ## Modifiers one after the other -/

variable {σ : Type}

namespace Registry

/-- What becomes of a value that is sent through the modifiers of names in order, and of the
state of the host.  A name without a modifier makes null of it and leaves the host alone. -/
def through (registry : Registry σ) : List String → Value → σ → Value × σ
  | [], value, host => (value, host)
  | name :: rest, value, host =>
      match Entries.find? name registry with
      | some modifier => registry.through rest (modifier value host).1 (modifier value host).2
      | none => registry.through rest .null host

/-- The calls that are made on the way: one of each modifier, with what the value has become by
then. -/
def callsThrough (registry : Registry σ) : List String → Value → σ → List Call
  | [], _, _ => []
  | name :: rest, value, host =>
      match Entries.find? name registry with
      | some modifier =>
          ⟨name, value⟩ ::
            registry.callsThrough rest (modifier value host).1 (modifier value host).2
      | none => registry.callsThrough rest .null host

/-- The modifiers that are called are those of the names that have one, in order. -/
theorem map_modifier_callsThrough (registry : Registry σ) (names : List String) (value : Value)
    (host : σ) :
    (registry.callsThrough names value host).map Call.modifier =
      names.filter fun name => Entries.contains name registry := by
  induction names generalizing value host with
  | nil => rfl
  | cons name rest ih =>
      rw [callsThrough, List.filter_cons, Entries.contains]
      cases Entries.find? name registry with
      | none => exact ih _ _
      | some modifier => exact congrArg (name :: ·) (ih _ _)

/-- A registry that notes its calls makes the same of a value and notes those that are made on
the way. -/
theorem through_noting (registry : Registry σ) (names : List String) (value : Value) (host : σ)
    (before : List Call) :
    registry.noting.through names value (host, before) =
      ((registry.through names value host).1, (registry.through names value host).2,
        before ++ registry.callsThrough names value host) := by
  induction names generalizing value host before with
  | nil => rw [through, through, callsThrough, List.append_nil]
  | cons name rest ih =>
      rw [through, through, callsThrough, find?_noting]
      cases Entries.find? name registry with
      | none => exact ih _ _ _
      | some modifier =>
          refine (ih _ _ _).trans ?_
          rw [List.append_assoc, List.singleton_append]

end Registry

/-- Evaluation sends the value of an expression through its modifiers from the first to the last. -/
theorem Expr.eval_pipes (registry : Registry σ) (vars : Variables) (input : Expr)
    (names : List String) (host : σ) :
    (input.pipes names).eval registry vars host =
      registry.through names (input.eval registry vars host).1
        (input.eval registry vars host).2 := by
  induction names generalizing input with
  | nil => rfl
  | cons name rest ih =>
      refine (ih (input.pipe name)).trans ?_
      rw [eval, Registry.apply, Registry.through]
      cases Entries.find? name registry <;> rfl

theorem Value.text_unwrapped (value : Value) : value.unwrapped.text = value.text := by
  induction value using unwrapped.induct with
  | case1 inner ih => exact ih
  | case2 => rfl
  | case3 other hpresent habsent => rw [unwrapped.eq_3 other hpresent habsent]

theorem Value.output_eq (value : Value) :
    value.output = if value.isNull then "" else value.text := by
  rw [output, text_unwrapped]

theorem Node.renderAll_action (registry : Registry σ) (expr : Expr) (depth : Nat)
    (state : Surroundings σ) :
    renderAll registry [.action expr] depth state =
      ((expr.eval registry state.vars state.host).1.output,
        ⟨state.vars, (expr.eval registry state.vars state.host).2⟩) := by
  rw [renderAll, renderAll, eval, String.append_empty]

/-- A variable with modifiers behind it is read without diagnostics and puts out the text of
what becomes of its value on the way through the modifiers, or nothing if that is null.  A name
that is unbound is null, and so is what comes out under a name without a modifier.  Each
modifier is called once, in the order of the names, with what the value has become by then. -/
theorem renderSource_pipelineSource {variableName : String} (hvariable : ReadsAsWord variableName)
    (hstages : ∀ stage ∈ stages, stage.IsReadable) (registry : Registry σ)
    (state : Surroundings σ) :
    let source := pipelineSource variableName stages
    let names := stages.map Stage.name
    let value := (Entries.find? variableName state.vars).getD .null
    let result := registry.through names value state.host
    let calls := Node.calls registry (readSource source).1 0 state
    (readSource source).2 = [] ∧
      Library.renderSource source registry state =
        (.ok (if result.1.isNull then "" else result.1.text), ⟨state.vars, result.2⟩) ∧
      calls = registry.callsThrough names value state.host ∧
      calls.map Call.modifier = names.filter fun name => Entries.contains name registry := by
  intro source names value result calls
  have hread := readSource_pipelineSource hvariable hstages
  have hcalls : calls = registry.callsThrough names value state.host := by
    simp only [calls, source, Node.calls, hread, Node.renderAll_action, Expr.eval_pipes]
    exact congrArg (fun result => result.2.2) (registry.through_noting names value state.host [])
  refine ⟨by rw [hread], ?_, hcalls, ?_⟩
  · rw [Library.renderSource, Template.parse, hread]
    simp only [Template.render, Node.renderAll_action, Expr.eval_pipes, Value.output_eq]
    rfl
  · rw [hcalls, Registry.map_modifier_callsThrough]

/-- Keywords name modifiers as other words do.  What follows a word that names none is called
with null. -/
theorem renderSource_pipelineSource_keywords :
    let stages : List Stage :=
      [⟨" ", "", "if"⟩, ⟨"", "\t\n", "if"⟩, ⟨"\r", " ", "old"⟩, ⟨"", "", "or"⟩]
    let registry : Registry Nat :=
      [("if", fun value host => (.string (value.text ++ "!"), host + 1)),
        ("or", fun value host => (.boolean value.isNull, host + 1))]
    let state : Surroundings Nat := ⟨[("end", .string "old")], 0⟩
    Library.renderSource "\x7b$end |if|\t\nif\r| old|or\x7d" registry state =
        (.ok "true", ⟨state.vars, 3⟩) ∧
      Node.calls registry (readSource (pipelineSource "end" stages)).1 0 state =
        [⟨"if", .string "old"⟩, ⟨"if", .string "old!"⟩, ⟨"or", .null⟩] := by
  intro stages registry state
  have hword {text : String} (h : IsName text) : ReadsAsWord text :=
    readsAsWord_iff.mpr h
  have hreadable {stage : Stage} (hbefore : stage.before.toList.all Cut.isBlank = true)
      (hafter : stage.after.toList.all Cut.isBlank = true) (hname : IsName stage.name) :
      stage.IsReadable :=
    ⟨List.all_eq_true.mp hbefore, List.all_eq_true.mp hafter, hword hname⟩
  have hstages : ∀ stage ∈ stages, stage.IsReadable := by
    simp only [stages, List.forall_mem_cons]
    exact ⟨hreadable (by decide) (by decide) (by decide),
      hreadable (by decide) (by decide) (by decide),
      hreadable (by decide) (by decide) (by decide), hreadable (by decide) (by decide) (by decide),
      List.forall_mem_nil _⟩
  have hvariable : ReadsAsWord "end" := hword (by decide)
  obtain ⟨-, hrender, hcalls, -⟩ := renderSource_pipelineSource hvariable hstages registry state
  exact ⟨hrender, hcalls⟩

end Stencil
