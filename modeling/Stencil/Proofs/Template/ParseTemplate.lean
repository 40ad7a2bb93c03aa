import Stencil.Proofs.Template.ParseTag
import Stencil.Proofs.Template.ReadTemplate
import Stencil.Template.Basic

/-!
# Derived templates are read

Tokens from which a block is derived add its nodes to the block that is being read and change
nothing else.  The induction is on the derivation.  It needs a statement for every phrase: a
node is added to its block, and what ends a condition closes it, with the arms that have been
read in front of it made into one node.
-/

namespace Stencil

open Progress

namespace OpenTemplate

theorem read_tag (template : OpenTemplate) (left word right : Token) (content : List Token) :
    template.read (left :: word :: content ++ [right]) =
      (((template.step left).step word).read content).step right :=
  read_append template (left :: word :: content) [right]

/-! ## Single steps -/

section Steps

variable {nodes : List Node} {frames : List Frame} {diagnostics : List Diagnostic} {token : Token}

theorem step_openTag (h : token.kind = .openTag) :
    step ⟨.text, nodes, frames, diagnostics⟩ token = ⟨.brace, nodes, frames, diagnostics⟩ := by
  simp [step, stepText, h, goOn]

theorem step_continuation {frame : Frame} {mode : ReadingMode}
    (h : frame.continuation? token.kind = some mode) :
    step ⟨.brace, nodes, frame :: frames, diagnostics⟩ token =
      ⟨mode, nodes, frame :: frames, diagnostics⟩ := by
  simp [step, stepBrace, h, goOn]

/-- The words that begin a node of their own in any block. -/
def Opens (kind : TokenKind) : Prop :=
  kind = .dollar ∨ kind = .ifWord ∨ kind = .foreachWord ∨ kind = .literalWord

theorem continuation?_of_opens {kind : TokenKind} (h : Opens kind) (frames : List Frame) :
    (frames.head?.bind fun frame => frame.continuation? kind) = none := by
  cases frames with
  | nil => rfl
  | cons frame outer =>
      rcases h with rfl | rfl | rfl | rfl <;> cases frame <;> rfl

theorem step_dollar (h : token.kind = .dollar) :
    step ⟨.brace, nodes, frames, diagnostics⟩ token =
      ⟨.action .start, nodes, frames, diagnostics⟩ := by
  have hnone := continuation?_of_opens (Or.inl rfl) frames
  simp [step, stepBrace, h, hnone, goOn]

theorem step_ifWord (h : token.kind = .ifWord) :
    step ⟨.brace, nodes, frames, diagnostics⟩ token =
      ⟨.ifTag token.position .start, nodes, frames, diagnostics⟩ := by
  have hnone := continuation?_of_opens (Or.inr (Or.inl rfl)) frames
  simp [step, stepBrace, h, hnone, goOn]

theorem step_foreachWord (h : token.kind = .foreachWord) :
    step ⟨.brace, nodes, frames, diagnostics⟩ token =
      ⟨.foreachTag token.position .start, nodes, frames, diagnostics⟩ := by
  have hnone := continuation?_of_opens (Or.inr (Or.inr (Or.inl rfl))) frames
  simp [step, stepBrace, h, hnone, goOn]

theorem step_literalWord (h : token.kind = .literalWord) :
    step ⟨.brace, nodes, frames, diagnostics⟩ token =
      ⟨.keyword (.literal token.position), nodes, frames, diagnostics⟩ := by
  have hnone := continuation?_of_opens (Or.inr (Or.inr (Or.inr rfl))) frames
  simp [step, stepBrace, h, hnone, goOn]

theorem step_keyword (effect : TagEffect) (h : token.kind = .closeTag) :
    step ⟨.keyword effect, nodes, frames, diagnostics⟩ token =
      (perform ⟨.keyword effect, nodes, frames, diagnostics⟩ effect).goOn (modeBehind effect) := by
  simp [step, stepKeyword, h]

/-- The machine of a tag takes the template along. -/
theorem read_of_run {State Result : Type} {inside : State → Token → Progress State Result}
    {mode : State → ReadingMode}
    (hmode : ∀ state token next, inside state token = .more next →
      step ⟨mode state, nodes, frames, diagnostics⟩ token =
        ⟨mode next, nodes, frames, diagnostics⟩)
    {state last : State} {ts : List Token} (h : Run inside state ts last) :
    read ⟨mode state, nodes, frames, diagnostics⟩ ts =
      ⟨mode last, nodes, frames, diagnostics⟩ := by
  induction h with
  | nil => rfl
  | cons hstep hrun ih =>
      rw [read_cons, hmode _ _ _ hstep]
      exact ih

end Steps

/-! ## Tags -/

section Tags

variable {nodes : List Node} {frames : List Frame} {diagnostics : List Diagnostic} {ts : List Token}

theorem read_action {expr : Expr} {left dollar right : Token} {us : List Token}
    (hleft : left.kind = .openTag) (hdollar : dollar.kind = .dollar)
    (hexpr : expr.DerivesPipeline (dollar :: us)) (hright : right.kind = .closeTag) :
    read ⟨.text, nodes, frames, diagnostics⟩ (left :: dollar :: us ++ [right]) =
      ⟨.text, nodes ++ [.action expr], frames, diagnostics⟩ := by
  obtain ⟨last, hrun, hlast⟩ := OpenAction.run_start_of_derivesPipeline hdollar hexpr
  have hinside : read ⟨.action .start, nodes, frames, diagnostics⟩ us =
      ⟨.action last, nodes, frames, diagnostics⟩ := by
    refine read_of_run ?_ hrun
    intro part token next hstep
    simp [step, stepAction, hstep, goOn]
  have hend : step ⟨.action last, nodes, frames, diagnostics⟩ right =
      ⟨.text, nodes ++ [.action expr], frames, diagnostics⟩ := by
    simp [step, stepAction, hlast right hright, push, goOn]
  rw [read_tag, step_openTag hleft, step_dollar hdollar, hinside]
  exact hend

/-- A tag with a condition opens the block behind it. -/
theorem read_ifTag (nodes : List Node) (frames : List Frame) (diagnostics : List Diagnostic)
    {condition : Expr} {cs : List Token} (htag : IsTag .ifWord cs ts)
    (hcondition : condition.Derives cs) :
    ∃ tag, read ⟨.text, nodes, frames, diagnostics⟩ ts =
      ⟨.text, [], .arm tag nodes [] (some condition) :: frames, diagnostics⟩ := by
  obtain @⟨left, word, right, hleft, hword, hright⟩ := htag
  obtain ⟨last, hrun, hlast⟩ := OpenCondition.run_of_derives hcondition
  have hinside : read ⟨.ifTag word.position .start, nodes, frames, diagnostics⟩ cs =
      ⟨.ifTag word.position last, nodes, frames, diagnostics⟩ := by
    refine read_of_run ?_ hrun
    intro part token next hstep
    simp [step, stepCondition, hstep, goOn]
  have hend : step ⟨.ifTag word.position last, nodes, frames, diagnostics⟩ right =
      ⟨.text, [], .arm word.position nodes [] (some condition) :: frames, diagnostics⟩ := by
    simp [step, stepCondition, hlast right hright, openFrame, goOn]
  refine ⟨word.position, ?_⟩
  rw [read_tag, step_openTag hleft, step_ifWord hword, hinside]
  exact hend

/-- A tag with a further condition completes the arm in front of it. -/
theorem read_elseIfTag {tag : Position} {above : List Node} {arms : List Arm}
    {previous : Option Expr} {condition : Expr} {cs : List Token}
    (htag : IsTag .elseIfWord cs ts) (hcondition : condition.Derives cs) :
    read ⟨.text, nodes, .arm tag above arms previous :: frames, diagnostics⟩ ts =
      ⟨.text, [], .arm tag above (arms ++ [(previous, nodes)]) (some condition) :: frames,
        diagnostics⟩ := by
  obtain @⟨left, word, right, hleft, hword, hright⟩ := htag
  obtain ⟨last, hrun, hlast⟩ := OpenCondition.run_of_derives hcondition
  have hcontinuation :
      (Frame.arm tag above arms previous).continuation? word.kind = some (.elseIfTag .start) := by
    rw [hword]
    rfl
  have hinside :
      read ⟨.elseIfTag .start, nodes, .arm tag above arms previous :: frames, diagnostics⟩ cs =
        ⟨.elseIfTag last, nodes, .arm tag above arms previous :: frames, diagnostics⟩ := by
    refine read_of_run ?_ hrun
    intro part token next hstep
    simp [step, stepCondition, hstep, goOn]
  rw [read_tag, step_openTag hleft, step_continuation hcontinuation, hinside]
  simp [step, stepCondition, hlast right hright, nextArm, goOn]

theorem read_foreachTag (nodes : List Node) (frames : List Frame)
    (diagnostics : List Diagnostic) {header : LoopHeader} {hs : List Token}
    (htag : IsTag .foreachWord hs ts) (hheader : header.Derives hs) :
    ∃ tag, read ⟨.text, nodes, frames, diagnostics⟩ ts =
      ⟨.text, [], .body tag nodes (some header) :: frames, diagnostics⟩ := by
  obtain @⟨left, word, right, hleft, hword, hright⟩ := htag
  obtain ⟨last, hrun, hlast⟩ := OpenLoop.run_of_header_derives word.position hheader
  have hinside : read ⟨.foreachTag word.position .start, nodes, frames, diagnostics⟩ hs =
      ⟨.foreachTag word.position last, nodes, frames, diagnostics⟩ := by
    refine read_of_run ?_ hrun
    intro part token next hstep
    simp [step, stepForeach, hstep, goOn]
  refine ⟨word.position, ?_⟩
  rw [read_tag, step_openTag hleft, step_foreachWord hword, hinside]
  simp [step, stepForeach, hlast right hright, openFrame, goOn]

/-- A keyword on its own goes on with the innermost condition or loop or ends it. -/
theorem read_keywordTag {frame : Frame} {keyword : TokenKind} (effect : TagEffect)
    (htag : IsTag keyword [] ts) (h : frame.continuation? keyword = some (.keyword effect)) :
    read ⟨.text, nodes, frame :: frames, diagnostics⟩ ts =
      (perform ⟨.keyword effect, nodes, frame :: frames, diagnostics⟩ effect).goOn
        (modeBehind effect) := by
  obtain @⟨left, word, right, hleft, hword, hright⟩ := htag
  rw [← hword] at h
  rw [read_tag, step_openTag hleft, step_continuation h]
  exact step_keyword effect hright

theorem read_foreachElseTag {tag : Position} {above : List Node} {header : Option LoopHeader}
    (htag : IsTag .foreachElseWord [] ts) :
    read ⟨.text, nodes, .body tag above header :: frames, diagnostics⟩ ts =
      ⟨.text, [], .ifEmpty tag above header nodes :: frames, diagnostics⟩ :=
  read_keywordTag .emptyBlock htag rfl

theorem read_endForeachTag {frame : Frame} (htag : IsTag .endForeachWord [] ts)
    (h : frame.continuation? .endForeachWord = some (.keyword .endForeach)) :
    read ⟨.text, nodes, frame :: frames, diagnostics⟩ ts =
      ⟨.text, frame.above ++ (frame.node? nodes).toList, frames, diagnostics⟩ :=
  read_keywordTag .endForeach htag h

theorem read_elseTag {tag : Position} {above : List Node} {arms : List Arm}
    {previous : Option Expr} (htag : IsTag .elseWord [] ts) :
    read ⟨.text, nodes, .arm tag above arms previous :: frames, diagnostics⟩ ts =
      ⟨.text, [], .otherwise tag above (arms ++ [(previous, nodes)]) :: frames, diagnostics⟩ :=
  read_keywordTag .elseBlock htag rfl

theorem read_endIfTag {frame : Frame} (htag : IsTag .endIfWord [] ts)
    (h : frame.continuation? .endIfWord = some (.keyword .endIf)) :
    read ⟨.text, nodes, frame :: frames, diagnostics⟩ ts =
      ⟨.text, frame.above ++ (frame.node? nodes).toList, frames, diagnostics⟩ :=
  read_keywordTag .endIf htag h

theorem read_literalTag (nodes : List Node) (frames : List Frame)
    (diagnostics : List Diagnostic) (htag : IsTag .literalWord [] ts) :
    ∃ tag, read ⟨.text, nodes, frames, diagnostics⟩ ts =
      ⟨.literal tag "", nodes, frames, diagnostics⟩ := by
  obtain @⟨left, word, right, hleft, hword, hright⟩ := htag
  refine ⟨word.position, ?_⟩
  rw [read_tag, step_openTag hleft, step_literalWord hword]
  exact step_keyword (.literal word.position) hright

theorem read_literalBody {tag : Position} {body : String} (hbody : IsLiteralBody body ts) :
    read ⟨.literal tag "", nodes, frames, diagnostics⟩ ts =
      ⟨.literal tag body, nodes, frames, diagnostics⟩ := by
  cases hbody with
  | empty => rfl
  | text htext => simp [read, step, stepLiteral, htext, goOn]

theorem read_endLiteralTag {tag : Position} {body : String} (htag : IsTag .endLiteralWord [] ts) :
    read ⟨.literal tag body, nodes, frames, diagnostics⟩ ts =
      ⟨.text, nodes ++ [.text body], frames, diagnostics⟩ := by
  obtain @⟨left, word, right, hleft, hword, hright⟩ := htag
  have hmark : step ⟨.literal tag body, nodes, frames, diagnostics⟩ left =
      ⟨.literalBrace tag body, nodes, frames, diagnostics⟩ := by
    simp [step, stepLiteral, hleft, goOn]
  have hending : step ⟨.literalBrace tag body, nodes, frames, diagnostics⟩ word =
      ⟨.keyword (.endLiteral body), nodes, frames, diagnostics⟩ := by
    simp [step, stepLiteralBrace, hword, goOn]
  rw [read_tag, hmark, hending]
  exact step_keyword (.endLiteral body) hright

end Tags

/-! ## Phrases -/

/-- What reading the tokens of a phrase does: a node or a block is added to the block that is
being read, and what ends a condition closes it. -/
def Reads (ts : List Token) : Phrase → Prop
  | .node node => ∀ nodes frames diagnostics,
      read ⟨.text, nodes, frames, diagnostics⟩ ts = ⟨.text, nodes ++ [node], frames, diagnostics⟩
  | .block block => ∀ nodes frames diagnostics,
      read ⟨.text, nodes, frames, diagnostics⟩ ts = ⟨.text, nodes ++ block, frames, diagnostics⟩
  | .ending otherwise => ∀ nodes tag above arms condition outer diagnostics,
      read ⟨.text, nodes, .arm tag above arms (some condition) :: outer, diagnostics⟩ ts =
        ⟨.text, above ++ (Arm.node? (arms ++ [(some condition, nodes)]) otherwise).toList, outer,
          diagnostics⟩

theorem reads_of_derives {passedOver : TokenKind → Prop}
    (hpassed : ∀ kind, passedOver kind → kind ≠ .text ∧ kind ≠ .openTag)
    {phrase : Phrase} {ts : List Token} (h : phrase.Derives passedOver ts) : Reads ts phrase := by
  induction h with
  | text htext =>
      intro nodes frames diagnostics
      simp [read, step, stepText, htext, push, goOn]
  | literal hopening hbody hend =>
      intro nodes frames diagnostics
      obtain ⟨tag, hopened⟩ := read_literalTag nodes frames diagnostics hopening
      rw [read_append, read_append, hopened, read_literalBody hbody, read_endLiteralTag hend]
  | action hleft hdollar hexpr hright =>
      intro nodes frames diagnostics
      exact read_action hleft hdollar hexpr hright
  | conditional htag hcondition hblock hotherwise ihBlock ihOtherwise =>
      intro nodes frames diagnostics
      obtain ⟨tag, hopened⟩ := read_ifTag nodes frames diagnostics htag hcondition
      rw [read_append, read_append, hopened, ihBlock, ihOtherwise]
      rfl
  | loop htag hheader hbody hend ihBody =>
      intro nodes frames diagnostics
      obtain ⟨tag, hopened⟩ := read_foreachTag nodes frames diagnostics htag hheader
      rw [read_append, read_append, hopened, ihBody, read_endForeachTag hend rfl]
      rfl
  | loopOrEmpty htag hheader hbody helse hifEmpty hend ihBody ihEmpty =>
      intro nodes frames diagnostics
      obtain ⟨tag, hopened⟩ := read_foreachTag nodes frames diagnostics htag hheader
      rw [read_append, read_append, read_append, read_append, hopened, ihBody,
        read_foreachElseTag helse, ihEmpty, read_endForeachTag hend rfl]
      rfl
  | nil =>
      intro nodes frames diagnostics
      rw [List.append_nil]
      rfl
  | add hnodes hnode ihNodes ihNode =>
      intro nodes frames diagnostics
      rw [read_append, ihNodes, ihNode, List.append_assoc]
  | skip hnodes htoken ihNodes =>
      intro nodes frames diagnostics
      obtain ⟨htext, hbrace⟩ := hpassed _ htoken
      rw [read_append, ihNodes]
      simp [read, step, stepText, goOn]
  | nothing hend =>
      intro nodes tag above arms condition outer diagnostics
      rw [read_endIfTag hend rfl]
      rfl
  | block helse hnodes hend ihNodes =>
      intro nodes tag above arms condition outer diagnostics
      rw [read_append, read_append, read_elseTag helse, ihNodes, read_endIfTag hend rfl]
      rfl
  | elseIf htag hcondition hblock hotherwise ihBlock ihOtherwise =>
      intro nodes tag above arms condition outer diagnostics
      rw [read_append, read_append, read_elseIfTag htag hcondition, ihBlock, ihOtherwise,
        List.nil_append, Arm.node?_append]

end OpenTemplate

/-- A source whose tokens derive a block is read as that block, without diagnostics. -/
theorem readSource_of_derives {passedOver : TokenKind → Prop}
    (hpassed : ∀ kind, passedOver kind → kind ≠ .text ∧ kind ≠ .openTag)
    {source : String} {nodes : List Node} {ts : List Token} {ending : Token}
    (htokens : (Scanner.ofSource source).tokens = ts ++ [ending])
    (hending : ending.kind = .endOfInput) (h : (Phrase.block nodes).Derives passedOver ts) :
    readSource source = (nodes, []) := by
  have hread : OpenTemplate.start.read ts = ⟨.text, nodes, [], []⟩ :=
    OpenTemplate.reads_of_derives hpassed h [] [] []
  have hclosed : (OpenTemplate.start.read (ts ++ [ending])).closeAll = ⟨.text, nodes, [], []⟩ := by
    rw [OpenTemplate.read_append, hread]
    simp [OpenTemplate.read, OpenTemplate.step, OpenTemplate.stepText, hending,
      OpenTemplate.goOn, OpenTemplate.closeAll]
  simp only [readSource]
  rw [htokens, hclosed]

end Stencil
