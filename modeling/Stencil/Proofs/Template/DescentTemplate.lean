import Stencil.Proofs.Template.DescentProgress
import Stencil.Proofs.Template.DescentTag
import Stencil.Proofs.Template.ParseTemplate
import Stencil.Proofs.Template.Recovery

/-!
# Templates by descent are read the same

The machine for templates keeps the conditions and loops around the innermost block on a stack,
a reader by descent in the calls that it is inside of.  A block of the reader ends in front of
the tags with which the innermost condition or loop goes on, or where the source ends.  There
the reader leaves its calls one by one and reports what has not come to its end, as the machine
does with its stack.

So both come to the same nodes and diagnostics, with every source and as soon as the reader may
go as deep as there are tokens.
-/

namespace Stencil

open Progress Reader OpenTemplate

/-! ## Tags of keywords -/

namespace Reader

variable {reader : Reader} {nodes further : List Node} {frames others : List Frame}

/-- The brace that closes the tag of a keyword. -/
theorem outcome_keyword {effect : TagEffect} (hmode : modeBehind effect = .text)
    (hperform : ∀ mode diagnostics, perform ⟨mode, nodes, frames, diagnostics⟩ effect =
      ⟨mode, further, others, diagnostics⟩) :
    reader.outcome (.keyword effect) nodes frames =
      reader.closeTag.outcome .text further others := by
  rw [closeTag]
  rcases closing_cases () reader with ⟨hkind, hbrace⟩ | ⟨hkind, hbrace⟩
  · rw [hbrace]
    refine outcome_of_step (ne_end_of_kind hkind (by decide)) ?_
    simp only [step, stepKeyword, if_pos hkind, hperform, hmode]
    rfl
  · rw [hbrace]
    refine outcome_of_failed ?_
    simp only [step, stepKeyword, if_neg hkind]
    change goOnBehind (perform ⟨_, nodes, frames, reader.diagnostics ++ [_]⟩ effect) _ = _
    rw [hperform]
    rfl

theorem outcome_openTag (h : reader.current.kind = .openTag) :
    reader.outcome .text nodes frames = reader.advance.outcome .brace nodes frames :=
  outcome_of_step (ne_end_of_kind h (by decide)) (step_openTag h)

/-- A tag with which the innermost condition or loop goes on. -/
theorem outcome_continuation {frame : Frame} {kind : TokenKind} {mode : ReadingMode}
    (hopening : reader.current.kind = .openTag) (hkind : reader.peek.kind = kind)
    (hcontinuation : frame.continuation? kind = some mode) (hend : kind ≠ .endOfInput) :
    reader.outcome .text nodes (frame :: frames) =
      reader.advance.advance.outcome mode nodes (frame :: frames) := by
  have hword : reader.advance.current.kind = kind := hkind
  rw [outcome_openTag hopening]
  refine outcome_of_step (by rwa [hword]) ?_
  exact step_continuation (by rw [hword]; exact hcontinuation)

/-- A tag that begins a node of its own in any block. -/
theorem outcome_opens {kind : TokenKind} {mode : ReadingMode}
    (hopening : reader.current.kind = .openTag) (hkind : reader.peek.kind = kind)
    (hopens : Opens kind)
    (hstep : ∀ diagnostics, step ⟨.brace, nodes, frames, diagnostics⟩ reader.peek =
      ⟨mode, nodes, frames, diagnostics⟩) :
    reader.outcome .text nodes frames = reader.advance.advance.outcome mode nodes frames := by
  have hword : reader.advance.current.kind = kind := hkind
  rw [outcome_openTag hopening]
  refine outcome_of_step ?_ (hstep _)
  rw [hword]
  rcases hopens with rfl | rfl | rfl | rfl <;> decide

/-! ## Literal blocks -/

theorem stepText_goOn (template : OpenTemplate) (mode : ReadingMode) (token : Token) :
    (template.goOn mode).stepText token = template.stepText token := by
  rw [stepText, stepText]
  split <;> rfl

theorem stepBrace_goOn (template : OpenTemplate) (mode : ReadingMode) (token : Token) :
    (template.goOn mode).stepBrace token = template.stepBrace token := by
  have hframes : (template.goOn mode).frames = template.frames := rfl
  rw [stepBrace, stepBrace, hframes]
  cases template.frames.head?.bind fun frame => frame.continuation? token.kind with
  | some next => rfl
  | none =>
      dsimp only
      split
      · rfl
      · rfl
      · rfl
      · rfl
      · rfl
      · exact stepText_goOn (template.report _) mode token

theorem outcome_rawText (tag : Position) (body : String) (reader : Reader) :
    reader.outcome (.literal tag body) nodes frames =
      (reader.rawText body).2.outcome (.literal tag (reader.rawText body).1) nodes frames := by
  induction body, reader using rawText.induct with
  | case1 body reader htext ih =>
      rw [rawText, if_pos htext, ← ih]
      refine outcome_of_step (ne_end_of_kind htext (by decide)) ?_
      simp only [step, stepLiteral, htext]
      rfl
  | case2 body reader htext => rw [rawText, if_neg htext]

theorem current_rawText (body : String) (reader : Reader) :
    (reader.rawText body).2.current.kind ≠ .text := by
  induction body, reader using rawText.induct with
  | case1 body reader htext ih => rwa [rawText, if_pos htext]
  | case2 body reader htext => rwa [rawText, if_neg htext]

/-- A literal block whose end mark is missing ends in front of what stands there. -/
theorem outcome_abandoned (tag : Position) (body : String) (htext : reader.current.kind ≠ .text)
    (hmark : ¬ (reader.current.kind = .openTag ∧ reader.peek.kind = .endLiteralWord)) :
    reader.outcome (.literal tag body) nodes frames =
      (reader.report ⟨.unterminatedLiteral, tag⟩).outcome .text (nodes ++ [.text body]) frames := by
  by_cases hopening : reader.current.kind = .openTag
  · have hword : reader.advance.current.kind ≠ .endLiteralWord :=
      fun hkind => hmark ⟨hopening, hkind⟩
    have hbrace : reader.outcome (.literal tag body) nodes frames =
        reader.advance.outcome (.literalBrace tag body) nodes frames := by
      refine outcome_of_step (ne_end_of_kind hopening (by decide)) ?_
      simp only [step, stepLiteral, hopening]
      rfl
    have hreported :
        (reader.report ⟨.unterminatedLiteral, tag⟩).outcome .text (nodes ++ [.text body]) frames =
          (reader.report ⟨.unterminatedLiteral, tag⟩).advance.outcome .brace
            (nodes ++ [.text body]) frames :=
      outcome_openTag hopening
    have hsame := stepBrace_goOn ⟨.brace, nodes ++ [.text body], frames,
      reader.diagnostics ++ [⟨.unterminatedLiteral, tag⟩]⟩ (.literalBrace tag body)
        reader.advance.current
    rw [hbrace, hreported, outcome_eq_step, outcome_eq_step]
    simp only [step, stepLiteralBrace, if_neg hword]
    exact congrArg (comesTo · reader.advance.left.tail) hsame
  · rw [outcome_eq_step, outcome_eq_step]
    have hstep : step ⟨.literal tag body, nodes, frames, reader.diagnostics⟩ reader.current =
        (abandonLiteral ⟨.literal tag body, nodes, frames, reader.diagnostics⟩ tag body).stepText
          reader.current := by
      change stepLiteral _ tag body _ = _
      rw [stepLiteral]
      split
      · exact absurd ‹_› htext
      · exact absurd ‹_› hopening
      · rfl
    have hsame := stepText_goOn ⟨.text, nodes ++ [.text body], frames,
      reader.diagnostics ++ [⟨.unterminatedLiteral, tag⟩]⟩ (.literal tag body) reader.current
    rw [hstep]
    exact congrArg (comesTo · reader.left.tail) hsame

theorem outcome_literal (hopening : reader.current.kind = .openTag)
    (hkind : reader.peek.kind = .literalWord) :
    reader.outcome .text nodes frames =
      reader.literal.2.outcome .text (nodes ++ reader.literal.1.toList) frames := by
  rw [outcome_opens hopening hkind (.inr (.inr (.inr rfl))) fun _ => step_literalWord hkind,
    literal]
  rcases closing_cases () reader.advance.advance with ⟨hclose, hbrace⟩ | ⟨hclose, hbrace⟩
  · rw [hbrace]
    dsimp only
    have hopened :
        reader.advance.advance.outcome (.keyword (.literal reader.peek.position)) nodes frames =
          reader.advance.advance.advance.outcome (.literal reader.peek.position "") nodes
            frames := by
      refine outcome_of_step (ne_end_of_kind hclose (by decide)) ?_
      simp only [step, stepKeyword, if_pos hclose]
      rfl
    rw [hopened, outcome_rawText]
    have htext := current_rawText "" reader.advance.advance.advance
    generalize reader.advance.advance.advance.rawText "" = outcome at htext ⊢
    obtain ⟨body, inside⟩ := outcome
    dsimp only at htext ⊢
    by_cases hmark : inside.current.kind = .openTag ∧ inside.peek.kind = .endLiteralWord
    · obtain ⟨hbrace, hword⟩ := hmark
      have hending : inside.outcome (.literal reader.peek.position body) nodes frames =
          inside.advance.outcome (.literalBrace reader.peek.position body) nodes frames := by
        refine outcome_of_step (ne_end_of_kind hbrace (by decide)) ?_
        simp only [step, stepLiteral, hbrace]
        rfl
      have hkeyword : inside.advance.current.kind = .endLiteralWord := hword
      have hended : inside.advance.outcome (.literalBrace reader.peek.position body) nodes frames =
          inside.advance.advance.outcome (.keyword (.endLiteral body)) nodes frames := by
        refine outcome_of_step (ne_end_of_kind hkeyword (by decide)) ?_
        simp only [step, stepLiteralBrace, if_pos hkeyword]
        rfl
      rw [if_pos ⟨hbrace, hword⟩, hending, hended]
      exact outcome_keyword rfl fun _ _ => rfl
    · rw [if_neg hmark]
      exact outcome_abandoned reader.peek.position body htext hmark
  · rw [hbrace, Option.toList_none, List.append_nil]
    refine outcome_of_failed ?_
    simp only [step, stepKeyword, if_neg hclose]
    rfl

end Reader

/-! ## Conditions -/

namespace Arm

theorem node?_append_none (arms : List Arm) (block : List Node) (otherwise : Alternative) :
    node? (arms ++ [(none, block)]) otherwise = none := by
  have hchain : chain? (arms ++ [(none, block)]) otherwise = none := by
    induction arms with
    | nil => rfl
    | cons arm rest ih =>
        obtain ⟨_ | condition, nodes⟩ := arm
        · rfl
        · rw [List.cons_append, chain?, ih]
          rfl
  rw [node?, hchain]

end Arm

namespace Conditional

/-- Parts of a condition that stand for arms that have been read. -/
def StandsFor (parts : Conditional) (arms : List Arm) : Prop :=
  ∀ otherwise, Arm.node? arms otherwise = parts.nodeWith? otherwise

theorem standsFor_begin (condition : Option Expr) (consequence : List Node) :
    (begin condition consequence).StandsFor [(condition, consequence)] := by
  intro otherwise
  cases condition with
  | none => rfl
  | some condition => rfl

theorem StandsFor.elseIf {parts : Conditional} {arms : List Arm} (h : parts.StandsFor arms)
    (condition : Option Expr) (block : List Node) :
    (parts.elseIf condition block).StandsFor (arms ++ [(condition, block)]) := by
  intro otherwise
  cases condition with
  | none =>
      rw [Arm.node?_append_none]
      rfl
  | some condition =>
      rw [Arm.node?_append, h]
      simp only [nodeWith?, Conditional.elseIf, List.foldr_append, List.foldr_cons, List.foldr_nil]

/-- Parts of a condition that stand for a frame with the block that has been read last. -/
inductive Fills (parts : Conditional) (tag : Position) : Frame → List Node → Prop
  | arm {above block : List Node} {arms : List Arm} {condition : Option Expr}
      (halternative : parts.alternative = none)
      (harms : parts.StandsFor (arms ++ [(condition, block)])) :
      Fills parts tag (.arm tag above arms condition) block
  | otherwise {above block : List Node} {arms : List Arm}
      (halternative : parts.alternative = some block) (harms : parts.StandsFor arms) :
      Fills parts tag (.otherwise tag above arms) block

theorem Fills.node?_eq {parts : Conditional} {tag : Position} {frame : Frame} {block : List Node}
    (h : parts.Fills tag frame block) : frame.node? block = parts.node? := by
  cases h with
  | arm halternative harms =>
      rw [node?, halternative]
      exact harms .nothing
  | otherwise halternative harms =>
      rw [node?, halternative]
      exact harms (.block block)

theorem Fills.unterminated_eq {parts : Conditional} {tag : Position} {frame : Frame}
    {block : List Node}
    (h : parts.Fills tag frame block) : frame.unterminated = ⟨.unterminatedIf, tag⟩ := by
  cases h with
  | arm _ _ => rfl
  | otherwise _ _ => rfl

end Conditional

namespace Descent

open Conditional

/-- The keywords with which the innermost condition or loop goes on. -/
def Continues (innermost : Option Frame) (terminators : List TokenKind) : Prop :=
  ∀ kind, kind ∈ terminators ↔ ((innermost.bind fun frame => frame.continuation? kind) ≠ none)

theorem continues_nothing : Continues none [] := by
  intro kind
  simp

theorem continues_arm (tag : Position) (above : List Node) (arms : List Arm)
    (condition : Option Expr) :
    Continues (some (.arm tag above arms condition)) armTerminators := by
  intro kind
  cases kind <;> simp [armTerminators, Frame.continuation?]

theorem continues_otherwise (tag : Position) (above : List Node) (arms : List Arm) :
    Continues (some (.otherwise tag above arms)) [.endIfWord] := by
  intro kind
  cases kind <;> simp [Frame.continuation?]

theorem continues_body (tag : Position) (above : List Node) (header : Option LoopHeader) :
    Continues (some (.body tag above header)) bodyTerminators := by
  intro kind
  cases kind <;> simp [bodyTerminators, Frame.continuation?]

theorem continues_ifEmpty (tag : Position) (above : List Node) (header : Option LoopHeader)
    (body : List Node) : Continues (some (.ifEmpty tag above header body)) [.endForeachWord] := by
  intro kind
  cases kind <;> simp [Frame.continuation?]

theorem mem_armTerminators {parts : Conditional} {tag : Position} {frame : Frame}
    {block : List Node} {kind : TokenKind} (h : parts.Fills tag frame block)
    (hkind : frame.continuation? kind ≠ none) :
    kind ∈ armTerminators := by
  cases h with
  | arm => exact (continues_arm _ _ _ _ kind).mpr hkind
  | otherwise =>
      have hmem := (continues_otherwise _ _ _ kind).mpr hkind
      rw [List.mem_singleton.mp hmem]
      decide

/-- A reader that has come to the end of a block of a condition, with the frame and the block
that it is for the machine. -/
structure EndsArm (tag : Position) (state : Conditional × Option TokenKind) (reader : Reader)
    (frame : Frame) (block : List Node) : Prop where
  stops : ∃ terminators, Continues (some frame) terminators ∧ StopsAt terminators reader state.2
  fills : state.1.Fills tag frame block

theorem StopsAt.of_some {terminators : List TokenKind} {kind : TokenKind} {reader : Reader}
    (h : StopsAt terminators reader (some kind)) :
    reader.current.kind = .openTag ∧ reader.peek.kind = kind ∧ kind ∈ terminators := by
  cases h with
  | tag hopening hmem => exact ⟨hopening, rfl, hmem⟩

theorem EndsArm.continues {tag : Position} {parts : Conditional} {kind : TokenKind}
    {reader : Reader} {frame : Frame} {block : List Node}
    (h : EndsArm tag (parts, some kind) reader frame block) :
    reader.current.kind = .openTag ∧ reader.peek.kind = kind ∧ frame.continuation? kind ≠ none := by
  obtain ⟨terminators, hcontinues, hstop⟩ := h.stops
  obtain ⟨hopening, hkind, hmem⟩ := hstop.of_some
  exact ⟨hopening, hkind, (hcontinues kind).mp hmem⟩

/-- Functions that read what the machine for templates reads. -/
structure ReadsTemplate (calls : Descent) : Prop extends ReadsExpr calls where
  modifiers (input : Expr) (reader : Reader) :
    Ensures (calls.modifiers input reader) (ModifiersRead reader input)
  attributes (attributes : LoopAttributes) (reader : Reader) :
    Ensures (calls.attributes attributes reader) (AttributesRead reader attributes)
  block (terminators : List TokenKind) (nodes : List Node) (reader : Reader) :
    Ensures (calls.block terminators nodes reader) fun result behind =>
      StopsAt terminators behind result.2 ∧
        ∀ frames : List Frame, Continues frames.head? terminators →
          reader.outcome .text nodes frames = behind.outcome .text result.1 frames
  arms (tag : Position) (state : Conditional × Option TokenKind) (reader : Reader) :
    Ensures (calls.arms tag state reader) fun whole behind =>
      ∀ frame block outer, EndsArm tag state reader frame block →
        reader.outcome .text block (frame :: outer) =
          behind.outcome .text (frame.above ++ whole.node?.toList) outer

variable {calls : Descent} {reader : Reader}

/-! ## Conditions and loops -/

/-- Where the source ends, the innermost condition or loop is reported and closed. -/
theorem outcome_ended {frame : Frame} {block : List Node} {outer : List Frame}
    (hend : reader.current.kind = .endOfInput) :
    reader.outcome .text block (frame :: outer) =
      (reader.report frame.unterminated).outcome .text
        (frame.above ++ (frame.node? block).toList) outer := by
  have hreported : (reader.report frame.unterminated).left = [reader.current] := left_of_ended hend
  rw [outcome, outcome, hreported, left_of_ended hend]
  simp only [comesTo, OpenTemplate.read, List.foldl_cons, List.foldl_nil, step, stepText, hend]
  rfl

/-- A condition is read with all its blocks and added to the nodes in front of it. -/
theorem outcome_conditional (hcalls : calls.ReadsTemplate)
    (hopening : reader.current.kind = .openTag) (hkind : reader.peek.kind = .ifWord) :
    Ensures (calls.conditional reader) fun node behind => ∀ nodes frames,
      reader.outcome .text nodes frames = behind.outcome .text (nodes ++ node.toList) frames := by
  refine (outcome_tagExpression hcalls.toReadsExpr).bind ?_
  intro condition inside hcondition
  refine (hcalls.block armTerminators [] inside).bind ?_
  rintro ⟨consequence, terminator⟩ middle ⟨hstop, hblock⟩
  have hreads := hcalls.arms reader.peek.position (.begin condition consequence, terminator) middle
  refine hreads.bind ?_
  intro parts behind harms
  refine .result ?_
  intro nodes frames
  have hcontinues := continues_arm reader.peek.position nodes [] condition
  rw [outcome_opens hopening hkind (.inr (.inl rfl)) fun _ => step_ifWord hkind,
    hcondition _ _ _ _ (opensBlock_ifTag reader.peek.position nodes frames),
    hblock (_ :: _) hcontinues]
  exact harms _ consequence frames
    ⟨⟨armTerminators, hcontinues, hstop⟩, .arm rfl (standsFor_begin condition consequence)⟩

/-- What a round over the blocks of a condition reads: the block of a further arm, or the end. -/
def ArmRead (tag : Position) (state : Conditional × Option TokenKind) (reader : Reader) :
    LoopRound (Conditional × Option TokenKind) Conditional → Reader → Prop
  | .goesOn next, behind => ∀ frame block outer, EndsArm tag state reader frame block →
      ∃ follower inner, EndsArm tag next behind follower inner ∧ follower.above = frame.above ∧
        reader.outcome .text block (frame :: outer) = behind.outcome .text inner (follower :: outer)
  | .ends whole, behind => ∀ frame block outer, EndsArm tag state reader frame block →
      reader.outcome .text block (frame :: outer) =
        behind.outcome .text (frame.above ++ whole.node?.toList) outer

theorem armRead_armRound (hcalls : calls.ReadsTemplate) (tag : Position)
    (state : Conditional × Option TokenKind) (reader : Reader) :
    Ensures (calls.armRound tag state reader) (ArmRead tag state reader) := by
  rw [armRound.eq_def]
  split
  · refine (outcome_tagExpression hcalls.toReadsExpr).bind ?_
    intro condition inside hcondition
    refine (hcalls.block armTerminators [] inside).bind ?_
    rintro ⟨inner, terminator⟩ behind ⟨hstop, hblock⟩
    refine .result ?_
    intro frame block outer hends
    obtain ⟨hopening, hkind, hframe⟩ := hends.continues
    cases hends.fills with
    | otherwise => exact absurd rfl hframe
    | @arm above _ arms previous halternative harms =>
        have hcontinues := continues_arm tag above (arms ++ [(previous, block)]) condition
        refine ⟨.arm tag above (arms ++ [(previous, block)]) condition, inner,
          ⟨⟨armTerminators, hcontinues, hstop⟩, .arm ?_ (harms.elseIf condition inner)⟩, rfl, ?_⟩
        · cases condition with
          | none => exact halternative
          | some condition => exact halternative
        · rw [outcome_continuation hopening hkind rfl (by decide),
            hcondition _ _ _ _ (opensBlock_elseIfTag tag above arms previous block outer)]
          exact hblock _ hcontinues
  · refine (hcalls.block [.endIfWord] [] reader.advance.advance.closeTag).bind ?_
    rintro ⟨inner, terminator⟩ behind ⟨hstop, hblock⟩
    refine .result ?_
    intro frame block outer hends
    obtain ⟨hopening, hkind, hframe⟩ := hends.continues
    cases hends.fills with
    | otherwise => exact absurd rfl hframe
    | @arm above _ arms previous halternative harms =>
        have hcontinues := continues_otherwise tag above (arms ++ [(previous, block)])
        refine ⟨.otherwise tag above (arms ++ [(previous, block)]), inner,
          ⟨⟨[.endIfWord], hcontinues, hstop⟩, .otherwise rfl harms⟩, rfl, ?_⟩
        have helse : reader.advance.advance.outcome (.keyword .elseBlock) block
            (.arm tag above arms previous :: outer) =
              reader.advance.advance.closeTag.outcome .text []
                (.otherwise tag above (arms ++ [(previous, block)]) :: outer) :=
          outcome_keyword rfl fun _ _ => rfl
        rw [outcome_continuation hopening hkind rfl (by decide), helse]
        exact hblock _ hcontinues
  · refine .result ?_
    intro frame block outer hends
    obtain ⟨hopening, hkind, -⟩ := hends.continues
    have hcontinuation : frame.continuation? .endIfWord = some (.keyword .endIf) := by
      cases hends.fills with
      | arm => rfl
      | otherwise => rfl
    rw [outcome_continuation hopening hkind hcontinuation (by decide), ← hends.fills.node?_eq]
    exact outcome_keyword rfl fun _ _ => rfl
  · rename_i parts terminator helseIf helse hendIf
    refine .result ?_
    intro frame block outer hends
    cases terminator with
    | none =>
        obtain ⟨terminators, -, hstop⟩ := hends.stops
        cases hstop with
        | ended hend =>
            rw [outcome_ended hend, hends.fills.unterminated_eq, hends.fills.node?_eq]
    | some kind =>
        have hmem := mem_armTerminators hends.fills hends.continues.2.2
        simp only [armTerminators, List.mem_cons, List.not_mem_nil, or_false] at hmem
        rcases hmem with rfl | rfl | rfl
        · exact absurd rfl helseIf
        · exact absurd rfl helse
        · exact absurd rfl hendIf

/-- The last block of a loop ends with the tag that ends the loop, or where the source ends. -/
theorem outcome_endLoop {tag : Position} {frame : Frame} {block : List Node} {outer : List Frame}
    {terminators : List TokenKind} {terminator : Option TokenKind}
    (hcontinuation : frame.continuation? .endForeachWord = some (.keyword .endForeach))
    (hunterminated : frame.unterminated = ⟨.unterminatedForeach, tag⟩)
    (hstop : StopsAt terminators reader terminator)
    (hlast : ∀ kind ∈ terminators, terminator = some kind → kind = .endForeachWord) :
    reader.outcome .text block (frame :: outer) =
      (reader.endLoop tag terminator).outcome .text
        (frame.above ++ (frame.node? block).toList) outer := by
  cases hstop with
  | ended hend =>
      rw [outcome_ended hend, hunterminated]
      rfl
  | tag hopening hmem =>
      have hkind := hlast _ hmem rfl
      rw [outcome_continuation hopening hkind hcontinuation (by decide), endLoop,
        if_pos (congrArg some hkind)]
      exact outcome_keyword rfl fun _ _ => rfl

theorem outcome_loop (hcalls : calls.ReadsTemplate) (hopening : reader.current.kind = .openTag)
    (hkind : reader.peek.kind = .foreachWord) :
    Ensures (calls.loop reader) fun node behind => ∀ nodes frames,
      reader.outcome .text nodes frames = behind.outcome .text (nodes ++ node.toList) frames := by
  refine (outcome_loopHeader hcalls.attributes reader.peek.position).bind ?_
  intro header inside hheader
  refine (hcalls.block bodyTerminators [] inside).bind ?_
  rintro ⟨body, terminator⟩ middle ⟨hstop, hbody⟩
  have hopened (nodes : List Node) (frames : List Frame) :
      reader.outcome .text nodes frames =
        middle.outcome .text body (.body reader.peek.position nodes header :: frames) := by
    rw [outcome_opens hopening hkind (.inr (.inr (.inl rfl))) fun _ => step_foreachWord hkind,
      hheader]
    exact hbody _ (continues_body _ _ _)
  dsimp only at hstop ⊢
  by_cases helse : terminator = some .foreachElseWord
  · rw [if_pos helse]
    rw [helse] at hstop
    obtain ⟨hbrace, hword, -⟩ := hstop.of_some
    refine (hcalls.block [.endForeachWord] [] _).bind ?_
    rintro ⟨block, last⟩ behind ⟨hlast, hblock⟩
    refine .result ?_
    intro nodes frames
    have hkeyword : middle.advance.advance.outcome (.keyword .emptyBlock) body
        (.body reader.peek.position nodes header :: frames) =
          middle.advance.advance.closeTag.outcome .text []
            (.ifEmpty reader.peek.position nodes header body :: frames) :=
      outcome_keyword rfl fun _ _ => rfl
    rw [hopened, outcome_continuation hbrace hword rfl (by decide), hkeyword,
      hblock (_ :: _) (continues_ifEmpty _ _ _ _), outcome_endLoop rfl rfl hlast]
    · cases header with
      | none => rfl
      | some header => rfl
    · intro kind hmem _
      exact List.mem_singleton.mp hmem
  · rw [if_neg helse]
    refine .result ?_
    intro nodes frames
    rw [hopened, outcome_endLoop rfl rfl hstop]
    · cases header with
      | none => rfl
      | some header => rfl
    · intro kind hmem hterminator
      simp only [bodyTerminators, List.mem_cons, List.not_mem_nil, or_false] at hmem
      rcases hmem with rfl | rfl
      · exact absurd hterminator helse
      · rfl

/-- A tag with which the innermost condition or loop does not go on adds a node, unless it fails. -/
theorem outcome_tag (hcalls : calls.ReadsTemplate) (hopening : reader.current.kind = .openTag) :
    Ensures (calls.tag reader) fun node behind => ∀ nodes frames,
      (frames.head?.bind fun frame => frame.continuation? reader.peek.kind) = none →
        reader.outcome .text nodes frames = behind.outcome .text (nodes ++ node.toList) frames := by
  rw [tag]
  split
  · rename_i hkind
    refine (outcome_action hcalls.toReadsExpr hcalls.modifiers).mono ?_
    intro node behind hread nodes frames _
    have hdollar : reader.advance.current.kind = .dollar := hkind
    have hbegun : reader.advance.outcome (.action (.expr .start)) nodes frames =
        reader.advance.advance.outcome (.action .start) nodes frames := by
      refine outcome_of_step (ne_end_of_kind hdollar (by decide)) ?_
      simp only [step, stepAction, OpenAction.step, OpenExpr.step, OpenExpr.start,
        OpenExpr.stepOperand, hdollar]
      rfl
    rw [outcome_opens hopening hkind (.inl rfl) fun _ => step_dollar hkind, ← hbegun]
    exact hread nodes frames
  · rename_i hkind
    exact (outcome_conditional hcalls hopening hkind).mono fun _ _ hread nodes frames _ =>
      hread nodes frames
  · rename_i hkind
    exact (outcome_loop hcalls hopening hkind).mono fun _ _ hread nodes frames _ =>
      hread nodes frames
  · rename_i hkind
    exact .result fun _ _ _ => outcome_literal hopening hkind
  · rename_i hkind
    refine .result ?_
    intro nodes frames hnone
    have hword : reader.advance.current.kind = .foreachElseWord := hkind
    rw [hkind] at hnone
    rw [outcome_openTag hopening, Option.toList_none, List.append_nil]
    refine outcome_of_failed ?_
    simp only [step, stepBrace, hword, hnone, goOnBehind]
    rfl
  · rename_i hdollar hif hforeach hliteral helse
    refine .result ?_
    intro nodes frames hnone
    have htag : BeginsNoTag ⟨.brace, nodes, frames, reader.diagnostics⟩ reader.peek.kind := by
      refine ⟨?_, hnone⟩
      simp only [tagKinds, List.mem_cons, List.not_mem_nil, or_false, not_or]
      exact ⟨hdollar, hif, hforeach, hliteral, helse⟩
    have hsame := stepText_goOn ⟨.text, nodes, frames,
      reader.diagnostics ++ [⟨.unknownTag reader.peek, reader.peek.position⟩]⟩ .brace reader.peek
    rw [outcome_openTag hopening, Option.toList_none, List.append_nil, outcome_eq_step,
      outcome_eq_step]
    exact congrArg (comesTo · reader.advance.left.tail)
      ((stepBrace_of_beginsNoTag htag).trans hsame)

/-! ## Blocks -/

/-- What a round over a block reads: what comes next, or the end of the block. -/
def BlockRead (terminators : List TokenKind) (nodes : List Node) (reader : Reader) :
    LoopRound (List Node) (List Node × Option TokenKind) → Reader → Prop
  | .goesOn further, behind => ∀ frames : List Frame, Continues frames.head? terminators →
      reader.outcome .text nodes frames = behind.outcome .text further frames
  | .ends result, behind => StopsAt terminators behind result.2 ∧
      ∀ frames : List Frame, Continues frames.head? terminators →
        reader.outcome .text nodes frames = behind.outcome .text result.1 frames

theorem blockRead_blockRound (hcalls : calls.ReadsTemplate) (terminators : List TokenKind)
    (nodes : List Node) (reader : Reader) :
    Ensures (calls.blockRound terminators nodes reader) (BlockRead terminators nodes reader) := by
  rw [blockRound]
  split
  · rename_i hend
    exact .result ⟨.ended hend, fun _ _ => rfl⟩
  · rename_i htext
    refine .result ?_
    intro frames _
    refine outcome_of_step (ne_end_of_kind htext (by decide)) ?_
    simp only [step, stepText, htext]
    rfl
  · rename_i hopening
    split
    · rename_i hmem
      exact .result ⟨.tag hopening hmem, fun _ _ => rfl⟩
    · rename_i hmem
      refine (outcome_tag hcalls hopening).bind ?_
      intro node behind hread
      refine .result ?_
      intro frames hcontinues
      exact hread nodes frames (not_not.mp fun hne => hmem ((hcontinues _).mpr hne))
  · rename_i hend htext hopening
    refine .result ?_
    intro frames _
    refine outcome_of_step hend ?_
    exact stepText_of_isPassedOver ⟨htext, hopening⟩ ⟨.text, nodes, frames, reader.diagnostics⟩

theorem ReadsTemplate.deeper (hcalls : calls.ReadsTemplate) : calls.deeper.ReadsTemplate where
  toReadsExpr := hcalls.toReadsExpr.deeper
  modifiers := modifiersRead_deeper hcalls.modifiers
  attributes := attributesRead_deeper hcalls.toReadsExpr hcalls.attributes
  block terminators nodes reader := by
    refine (blockRead_blockRound hcalls terminators nodes reader).bind ?_
    rintro (further | result) behind hround
    · refine (hcalls.block terminators further behind).mono ?_
      intro result last hlast
      refine ⟨hlast.1, ?_⟩
      intro frames hcontinues
      rw [hround frames hcontinues, hlast.2 frames hcontinues]
    · exact .result hround
  arms tag state reader := by
    refine (armRead_armRound hcalls tag state reader).bind ?_
    rintro (next | whole) behind hround
    · refine (hcalls.arms tag next behind).mono ?_
      intro whole last hlast frame block outer hends
      obtain ⟨follower, inner, hnext, habove, houtcome⟩ := hround frame block outer hends
      rw [houtcome, hlast follower inner outer hnext, habove]
    · exact .result hround

theorem readsTemplate_within (depth : ℕ) : (within depth).ReadsTemplate := by
  induction depth with
  | zero =>
      refine ⟨readsExpr_within 0, ?_, ?_, ?_, ?_⟩ <;> intros <;> exact .nothing
  | succ depth ih => exact ih.deeper

/-! ## Sources -/

theorem left_ofSource (source : String) :
    (Reader.ofSource source).left = (Scanner.ofSource source).tokens :=
  List.dropLast_append_getLast _

/-- A program ends where the source does, with what the machine comes to. -/
theorem outcome_program (hcalls : calls.ReadsTemplate) (reader : Reader) :
    Ensures (calls.program reader) fun nodes behind =>
      behind.current.kind = .endOfInput ∧
        reader.outcome .text [] [] = (nodes, behind.diagnostics) := by
  refine (hcalls.block [] [] reader).bind ?_
  rintro ⟨nodes, terminator⟩ behind ⟨hstop, hblock⟩
  refine .result ?_
  cases hstop with
  | tag _ hmem => cases hmem
  | ended hend =>
      refine ⟨hend, ?_⟩
      rw [hblock [] continues_nothing, outcome, left_of_ended hend]
      simp only [comesTo, OpenTemplate.read, List.foldl_cons, List.foldl_nil, step, stepText, hend]
      rfl

/-- A reader that may go as deep as there are tokens left has a result wherever it stands, and
all of its rounds and tags take it further.  In front of a source it comes to the nodes and
diagnostics of the source, and it stops at the end, where it has gone over all tokens but the
one that says so, each of them once. -/
theorem progress_on_every_source :
    (∀ depth, (within depth).Serves depth) ∧
      (∀ (reader : Reader) (more : ℕ), (within (reader.ahead.length + more)).Progresses reader) ∧
      ∀ (source : String) (more : ℕ), ∃ behind : Reader,
        (within ((Scanner.ofSource source).tokens.length + more)).program (Reader.ofSource source) =
            some ((readSource source).1, behind) ∧
          behind.diagnostics = (readSource source).2 ∧ behind.current.kind = .endOfInput ∧
          behind.taken ++ [behind.current] = (Scanner.ofSource source).tokens := by
  refine ⟨serves_within, ?_, ?_⟩
  · intro reader more
    exact (serves_within _).progresses (Nat.le_add_right _ _)
  · intro source more
    have hbound : (Reader.ofSource source).ahead.length <
        (Scanner.ofSource source).tokens.length + more := by
      rw [← left_ofSource, left, List.length_append]
      exact Nat.lt_add_right more (Nat.lt_succ_self _)
    obtain ⟨⟨nodes, terminator⟩, behind, hblock, hreach, -⟩ :=
      (serves_within _).block [] [] (Reader.ofSource source) hbound
    have hprogram : (within ((Scanner.ofSource source).tokens.length + more)).program
        (Reader.ofSource source) = some (nodes, behind) := by
      rw [program, hblock]
      rfl
    obtain ⟨hend, houtcome⟩ := outcome_program (readsTemplate_within _) _ nodes behind hprogram
    have hsource : readSource source = (nodes, behind.diagnostics) := by
      rw [← houtcome, outcome, left_ofSource]
      rfl
    have htokens := hreach.taken_append_left
    rw [left_of_ended hend, left_ofSource] at htokens
    refine ⟨behind, ?_, ?_, hend, htokens⟩
    · rw [hsource]
      exact hprogram
    · rw [hsource]

end Descent

end Stencil
