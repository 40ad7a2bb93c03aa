import Stencil.Proofs.Template.Alignment

/-!
# Accepted sources are derived

What has been read of a template is written by the tokens that have been taken: the conditions
and loops that wait, the nodes of the innermost block and the tag at hand each have tokens of
their own, in this order.  A clean step keeps this, provided that no two tokens of text follow
one another and that outside tags there are only tokens that can stand there; the scanner grants
both.

So nothing is passed over without being recorded but comments between nodes, and a source
without diagnostics is a derivation of its tree.
-/

namespace Stencil

/-- Tokens that write a phrase, with comments between nodes. -/
abbrev Phrase.Commented (phrase : Phrase) (ts : List Token) : Prop :=
  phrase.Derives (· = .comment) ts

namespace Arm

/-- Tokens that have been read of the arms of a condition, up to the tag of the last one. -/
inductive Read : List Arm → Expr → List Token → Prop
  | first {condition : Expr} {cs ts : List Token}
      (htag : IsTag .ifWord cs ts) (hcondition : condition.Derives cs) :
      Read [] condition ts
  | further {arms : List Arm} {previous condition : Expr} {block : List Node}
      {cs ts us vs : List Token}
      (harms : Read arms previous ts) (hblock : (Phrase.block block).Commented us)
      (htag : IsTag .elseIfWord cs vs) (hcondition : condition.Derives cs) :
      Read (arms ++ [(some previous, block)]) condition (ts ++ us ++ vs)

theorem chain?_append
    (arms : List Arm) (condition : Expr) (block : List Node) (otherwise : Alternative) :
    chain? (arms ++ [(some condition, block)]) otherwise =
      chain? arms (.elseIf condition block otherwise) := by
  induction arms with
  | nil => rfl
  | cons arm rest ih =>
      obtain ⟨_ | first, nodes⟩ := arm
      · rfl
      · simp [chain?, ih]

/-- The last arm may as well be counted to what follows the others. -/
theorem node?_append
    (arms : List Arm) (condition : Expr) (block : List Node) (otherwise : Alternative) :
    node? (arms ++ [(some condition, block)]) otherwise =
      node? arms (.elseIf condition block otherwise) := by
  rw [node?, chain?_append, node?]

/-- With a last block and what follows it, arms make a node that is derived from all their
tokens. -/
theorem node?_of_read
    {arms : List Arm} {condition : Expr} {ts : List Token} (harms : Read arms condition ts)
    {block : List Node} {otherwise : Alternative} {us vs : List Token}
    (hblock : (Phrase.block block).Commented us)
    (hotherwise : (Phrase.ending otherwise).Commented vs) :
    ∃ node, node? (arms ++ [(some condition, block)]) otherwise = some node ∧
      (Phrase.node node).Commented (ts ++ us ++ vs) := by
  induction harms generalizing block otherwise us vs with
  | first htag hcondition =>
      exact ⟨.conditional _ block otherwise, rfl,
        .conditional htag hcondition hblock hotherwise⟩
  | further harms hprevious htag hcondition ih =>
      obtain ⟨node, hnode, hderives⟩ :=
        ih hprevious (.elseIf htag hcondition hblock hotherwise)
      refine ⟨node, ?_, by simpa using hderives⟩
      rw [node?_append]
      exact hnode

end Arm

namespace Frame

/-- Tokens that have been read of a condition or loop that waits, behind the nodes in front of
it. -/
inductive Read : Frame → List Token → Prop
  | arm {tag : Position} {above : List Node} {arms : List Arm} {condition : Expr}
      {ts : List Token} (harms : Arm.Read arms condition ts) :
      Read (.arm tag above arms (some condition)) ts
  | otherwise {tag : Position} {above : List Node} {arms : List Arm} {condition : Expr}
      {block : List Node} {ts us vs : List Token}
      (harms : Arm.Read arms condition ts) (hblock : (Phrase.block block).Commented us)
      (helse : IsTag .elseWord [] vs) :
      Read (.otherwise tag above (arms ++ [(some condition, block)])) (ts ++ us ++ vs)
  | body {tag : Position} {above : List Node} {header : LoopHeader} {hs ts : List Token}
      (htag : IsTag .foreachWord hs ts) (hheader : header.Derives hs) :
      Read (.body tag above (some header)) ts
  | ifEmpty {tag : Position} {above body : List Node} {header : LoopHeader}
      {hs ts us vs : List Token}
      (htag : IsTag .foreachWord hs ts) (hheader : header.Derives hs)
      (hbody : (Phrase.block body).Commented us) (helse : IsTag .foreachElseWord [] vs) :
      Read (.ifEmpty tag above (some header) body) (ts ++ us ++ vs)

/-- Tokens that have been read of all conditions and loops that wait, the outermost first. -/
inductive ReadAll : List Frame → List Token → Prop
  | nil : ReadAll [] []
  | cons {frame : Frame} {outer : List Frame} {ts us vs : List Token}
      (houter : ReadAll outer ts) (habove : (Phrase.block frame.above).Commented us)
      (hframe : frame.Read vs) :
      ReadAll (frame :: outer) (ts ++ us ++ vs)

/-- The keyword that ends a condition or loop. -/
def endWord : Frame → TokenKind
  | arm .. => .endIfWord
  | otherwise .. => .endIfWord
  | body .. => .endForeachWord
  | ifEmpty .. => .endForeachWord

/-- With a last block and the tag that ends it, a condition or loop makes a node that is derived
from all its tokens. -/
theorem node?_of_read
    {frame : Frame} {ts us vs : List Token} {block : List Node}
    (hframe : frame.Read ts) (hblock : (Phrase.block block).Commented us)
    (hend : IsTag frame.endWord [] vs) :
    ∃ node, frame.node? block = some node ∧ (Phrase.node node).Commented (ts ++ us ++ vs) := by
  cases hframe with
  | arm harms => exact Arm.node?_of_read harms hblock (.nothing hend)
  | otherwise harms hbefore helse =>
      have hending := Phrase.Derives.block helse hblock hend
      obtain ⟨node, hnode, hderives⟩ := Arm.node?_of_read harms hbefore hending
      exact ⟨node, hnode, by simpa using hderives⟩
  | body htag hheader => exact ⟨_, rfl, .loop htag hheader hblock hend⟩
  | ifEmpty htag hheader hbody helse =>
      exact ⟨_, rfl, .loopOrEmpty htag hheader hbody helse hblock hend⟩

end Frame

namespace ReadingMode

/-- Tokens that have been read of a tag or a literal block, inside the conditions and loops that
wait. -/
inductive Read (frames : List Frame) : ReadingMode → List Token → Prop
  | text : Read frames .text []
  | brace {left : Token} (hleft : left.kind = .openTag) : Read frames .brace [left]
  | action {part : OpenAction} {us : List Token} {left dollar : Token}
      (hleft : left.kind = .openTag) (hdollar : dollar.kind = .dollar)
      (hpart : part.Read (dollar :: us)) :
      Read frames (.action part) (left :: dollar :: us)
  | ifTag {tag : Position} {part : OpenCondition} {us : List Token} {left word : Token}
      (hleft : left.kind = .openTag) (hword : word.kind = .ifWord) (hpart : part.Read us) :
      Read frames (.ifTag tag part) (left :: word :: us)
  | elseIfTag {part : OpenCondition} {frame : Frame} {outer : List Frame} {us : List Token}
      {left word : Token}
      (hleft : left.kind = .openTag) (hframes : frames = frame :: outer)
      (hcontinuation : frame.continuation? word.kind = some (.elseIfTag .start))
      (hpart : part.Read us) :
      Read frames (.elseIfTag part) (left :: word :: us)
  | foreachTag {tag : Position} {part : OpenLoop} {us : List Token} {left word : Token}
      (hleft : left.kind = .openTag) (hword : word.kind = .foreachWord) (hpart : part.Read us) :
      Read frames (.foreachTag tag part) (left :: word :: us)
  | keyword {effect : TagEffect} {frame : Frame} {outer : List Frame} {left word : Token}
      (hleft : left.kind = .openTag) (hframes : frames = frame :: outer)
      (hcontinuation : frame.continuation? word.kind = some (.keyword effect)) :
      Read frames (.keyword effect) [left, word]
  | literalTag {tag : Position} {left word : Token}
      (hleft : left.kind = .openTag) (hword : word.kind = .literalWord) :
      Read frames (.keyword (.literal tag)) [left, word]
  | literal {tag : Position} {body : String} {ts us : List Token}
      (hopening : IsTag .literalWord [] ts) (hbody : IsLiteralBody body us) :
      Read frames (.literal tag body) (ts ++ us)
  | literalBrace {tag : Position} {body : String} {ts us : List Token} {left : Token}
      (hopening : IsTag .literalWord [] ts) (hbody : IsLiteralBody body us)
      (hleft : left.kind = .openTag) :
      Read frames (.literalBrace tag body) (ts ++ us ++ [left])
  | endLiteral {body : String} {ts us : List Token} {left word : Token}
      (hopening : IsTag .literalWord [] ts) (hbody : IsLiteralBody body us)
      (hleft : left.kind = .openTag) (hword : word.kind = .endLiteralWord) :
      Read frames (.keyword (.endLiteral body)) (ts ++ us ++ [left, word])

end ReadingMode

namespace OpenTemplate

/-- Tokens that have been read of a template. -/
def Read (template : OpenTemplate) (ts : List Token) : Prop :=
  ∃ us vs ws, Frame.ReadAll template.frames us ∧ (Phrase.block template.nodes).Commented vs ∧
    template.mode.Read template.frames ws ∧ ts = us ++ vs ++ ws

theorem read_start : start.Read [] :=
  ⟨[], [], [], .nil, .nil, .text, rfl⟩

/-! ## Steps that change the blocks -/

section Blocks

variable {template : OpenTemplate} {frame : Frame} {outer : List Frame} {us vs ws : List Token}

theorem read_push
    {node : Node}
    (hframes : Frame.ReadAll template.frames us)
    (hnodes : (Phrase.block template.nodes).Commented vs)
    (hnode : (Phrase.node node).Commented ws) :
    ((template.push node).goOn .text).Read (us ++ vs ++ ws) :=
  ⟨us, vs ++ ws, [], hframes, .add hnodes hnode, .text, by simp⟩

theorem read_openFrame
    (hframes : Frame.ReadAll template.frames us)
    (hnodes : (Phrase.block template.nodes).Commented vs)
    (habove : frame.above = template.nodes) (hframe : frame.Read ws) :
    ((template.openFrame frame).goOn .text).Read (us ++ vs ++ ws) := by
  rw [← habove] at hnodes
  exact ⟨us ++ vs ++ ws, [], [], .cons hframes hnodes hframe, .nil, .text, by simp⟩

theorem read_closeFrame
    (h : template.frames = frame :: outer)
    (hframes : Frame.ReadAll template.frames us)
    (hnodes : (Phrase.block template.nodes).Commented vs)
    (hend : IsTag frame.endWord [] ws) :
    (template.closeFrame.goOn .text).Read (us ++ vs ++ ws) := by
  rw [h] at hframes
  cases hframes with
  | @cons _ _ ts bs fs houter habove hframe =>
      obtain ⟨node, hnode, hderives⟩ := Frame.node?_of_read hframe hnodes hend
      have hblock := Phrase.Derives.add habove hderives
      rw [closeFrame_eq h, hnode]
      exact ⟨ts, bs ++ (fs ++ vs ++ ws), [], houter, hblock, .text, by simp⟩

/-- The innermost frame gives way to another one that has taken in the block and the tag. -/
theorem read_replaceFrame
    {further : Frame}
    (hframes : Frame.ReadAll (frame :: outer) us) (habove : further.above = frame.above)
    (hfurther : ∀ fs, frame.Read fs → further.Read (fs ++ vs ++ ws)) :
    Frame.ReadAll (further :: outer) (us ++ vs ++ ws) := by
  cases hframes with
  | @cons _ _ ts bs fs houter hbefore hframe =>
      rw [← habove] at hbefore
      simpa using Frame.ReadAll.cons houter hbefore (hfurther fs hframe)

theorem read_nextArm
    {kind : TokenKind} {condition : Expr} {cs : List Token}
    (h : template.frames = frame :: outer)
    (hframes : Frame.ReadAll template.frames us)
    (hnodes : (Phrase.block template.nodes).Commented vs)
    (hcontinuation : frame.continuation? kind = some (.elseIfTag .start))
    (htag : IsTag kind cs ws) (hcondition : condition.Derives cs) :
    ((template.nextArm (some condition)).goOn .text).Read (us ++ vs ++ ws) := by
  rw [Frame.continuation?.eq_def] at hcontinuation
  split at hcontinuation <;> cases hcontinuation
  rw [h] at hframes
  rw [nextArm_eq h]
  refine ⟨us ++ vs ++ ws, [], [], read_replaceFrame hframes rfl ?_, .nil, .text, by simp⟩
  intro fs hframe
  cases hframe with
  | arm harms => exact .arm (.further harms hnodes htag hcondition)

theorem read_elseArm
    {kind : TokenKind}
    (h : template.frames = frame :: outer)
    (hframes : Frame.ReadAll template.frames us)
    (hnodes : (Phrase.block template.nodes).Commented vs)
    (hcontinuation : frame.continuation? kind = some (.keyword .elseBlock))
    (htag : IsTag kind [] ws) :
    (template.elseArm.goOn .text).Read (us ++ vs ++ ws) := by
  rw [Frame.continuation?.eq_def] at hcontinuation
  split at hcontinuation <;> cases hcontinuation
  rw [h] at hframes
  rw [elseArm_eq h]
  refine ⟨us ++ vs ++ ws, [], [], read_replaceFrame hframes rfl ?_, .nil, .text, by simp⟩
  intro fs hframe
  cases hframe with
  | arm harms => exact .otherwise harms hnodes htag

theorem read_emptyArm
    {kind : TokenKind}
    (h : template.frames = frame :: outer)
    (hframes : Frame.ReadAll template.frames us)
    (hnodes : (Phrase.block template.nodes).Commented vs)
    (hcontinuation : frame.continuation? kind = some (.keyword .emptyBlock))
    (htag : IsTag kind [] ws) :
    (template.emptyArm.goOn .text).Read (us ++ vs ++ ws) := by
  rw [Frame.continuation?.eq_def] at hcontinuation
  split at hcontinuation <;> cases hcontinuation
  rw [h] at hframes
  rw [emptyArm_eq h]
  refine ⟨us ++ vs ++ ws, [], [], read_replaceFrame hframes rfl ?_, .nil, .text, by simp⟩
  intro fs hframe
  cases hframe with
  | body hopening hheader => exact .ifEmpty hopening hheader hnodes htag

theorem endWord_of_continuation?
    {kind : TokenKind}
    (hcontinuation : frame.continuation? kind = some (.keyword .endIf) ∨
      frame.continuation? kind = some (.keyword .endForeach)) :
    kind = frame.endWord := by
  rw [Frame.continuation?.eq_def] at hcontinuation
  split at hcontinuation <;> simp_all [Frame.endWord]

/-- A keyword tag does to the blocks what its tokens say. -/
theorem read_perform
    {kind : TokenKind} {effect : TagEffect}
    (h : template.frames = frame :: outer)
    (hframes : Frame.ReadAll template.frames us)
    (hnodes : (Phrase.block template.nodes).Commented vs)
    (hcontinuation : frame.continuation? kind = some (.keyword effect))
    (htag : IsTag kind [] ws) :
    ((template.perform effect).goOn (modeBehind effect)).Read (us ++ vs ++ ws) := by
  cases effect with
  | elseBlock => exact read_elseArm h hframes hnodes hcontinuation htag
  | emptyBlock => exact read_emptyArm h hframes hnodes hcontinuation htag
  | endIf =>
      rw [endWord_of_continuation? (.inl hcontinuation)] at htag
      exact read_closeFrame h hframes hnodes htag
  | endForeach =>
      rw [endWord_of_continuation? (.inr hcontinuation)] at htag
      exact read_closeFrame h hframes hnodes htag
  | literal tag =>
      rw [Frame.continuation?.eq_def] at hcontinuation
      split at hcontinuation <;> cases hcontinuation
  | endLiteral body =>
      rw [Frame.continuation?.eq_def] at hcontinuation
      split at hcontinuation <;> cases hcontinuation

end Blocks

/-! ## One step -/

theorem read_goOn
    {template : OpenTemplate} {mode : ReadingMode} {us vs ws : List Token}
    (hframes : Frame.ReadAll template.frames us)
    (hnodes : (Phrase.block template.nodes).Commented vs)
    (hmode : mode.Read template.frames ws) :
    (template.goOn mode).Read (us ++ vs ++ ws) :=
  ⟨us, vs, ws, hframes, hnodes, hmode, rfl⟩

/-- Text in a literal block follows the tag of the block, and not a token of text. -/
theorem isLiteralBody_add
    {body : String} {ts us vs : List Token} {token : Token}
    (hbody : IsLiteralBody body us) (hkind : token.kind = .text)
    (hadjacent : ∀ last ∈ (ts ++ (vs ++ us)).getLast?, last.kind = .text → token.kind ≠ .text) :
    IsLiteralBody (body ++ token.literal) (us ++ [token]) := by
  cases hbody with
  | empty => simpa using IsLiteralBody.text hkind
  | @text last hlast => exact (hadjacent last (by simp) hlast hkind).elim

/-- The brace behind a keyword completes a tag of its own. -/
theorem read_keywordEnd
    {template : OpenTemplate} {effect : TagEffect} {us vs ws : List Token} {token : Token}
    (hframes : Frame.ReadAll template.frames us)
    (hnodes : (Phrase.block template.nodes).Commented vs)
    (hread : (ReadingMode.keyword effect).Read template.frames ws)
    (hkind : token.kind = .closeTag) :
    ((template.perform effect).goOn (modeBehind effect)).Read (us ++ vs ++ (ws ++ [token])) := by
  cases hread with
  | @keyword _ _ _ left word hleft hfirst hcontinuation =>
      have htag : IsTag word.kind [] [left, word, token] := .mk hleft rfl hkind
      exact read_perform hfirst hframes hnodes hcontinuation htag
  | @literalTag tag left word hleft hword =>
      have htag : IsTag .literalWord [] [left, word, token] := .mk hleft hword hkind
      have hopened : (ReadingMode.literal tag "").Read template.frames
          ([left, word, token] ++ []) := .literal htag .empty
      exact read_goOn hframes hnodes hopened
  | @endLiteral body os bs left word hopening hbody hleft hword =>
      have htag : IsTag .endLiteralWord [] [left, word, token] := .mk hleft hword hkind
      have hnode : (Phrase.node (.text body)).Commented (os ++ bs ++ [left, word, token]) :=
        .literal hopening hbody htag
      have hread := read_push hframes hnodes hnode
      rw [List.append_assoc _ _ [token]]
      exact hread

/-- A clean step takes its token to those that have been read. -/
theorem read_of_cleanStep
    {template next : OpenTemplate} {token : Token} {ts : List Token}
    (h : template.Read ts) (hstep : CleanStep template token next)
    (houter : template.mode = .text → token.kind.isOuter = true)
    (hend : token.kind ≠ .endOfInput)
    (hadjacent : ∀ last ∈ ts.getLast?, last.kind = .text → token.kind ≠ .text) :
    next.Read (ts ++ [token]) := by
  obtain ⟨us, vs, ws, hframes, hnodes, hread, rfl⟩ := h
  rw [List.append_assoc]
  cases hstep with
  | text hmode hkind =>
      rw [hmode] at hread
      cases hread
      exact read_push hframes hnodes (.text hkind)
  | brace hmode hkind =>
      rw [hmode] at hread
      cases hread
      exact read_goOn hframes hnodes (.brace hkind)
  | stray hmode htext hbrace =>
      rw [hmode] at hread
      cases hread
      have hcomment := TokenKind.eq_comment_of_isOuter (houter hmode) htext hbrace hend
      exact ⟨us, vs ++ [token], [], hframes, .skip hnodes hcomment, .text, by simp⟩
  | continuation hmode hfirst hcontinuation =>
      rw [hmode] at hread
      cases hread with
      | brace hleft =>
          obtain ⟨-, -, rfl | ⟨effect, rfl, -⟩⟩ := Frame.continuation?_cases hcontinuation
          · have hpart : OpenCondition.start.Read [] := OpenExpr.read_start
            exact read_goOn hframes hnodes (.elseIfTag hleft hfirst hcontinuation hpart)
          · exact read_goOn hframes hnodes (.keyword hleft hfirst hcontinuation)
  | dollar hmode hkind =>
      rw [hmode] at hread
      cases hread with
      | brace hleft =>
          have hpart := OpenAction.Read.expr (OpenExpr.read_startVariable hkind)
          exact read_goOn hframes hnodes (.action hleft hkind hpart)
  | ifWord hmode hkind =>
      rw [hmode] at hread
      cases hread with
      | brace hleft =>
          have hpart : OpenCondition.start.Read [] := OpenExpr.read_start
          exact read_goOn hframes hnodes (.ifTag hleft hkind hpart)
  | foreachWord hmode hkind =>
      rw [hmode] at hread
      cases hread with
      | brace hleft =>
          exact read_goOn hframes hnodes (.foreachTag hleft hkind OpenLoop.read_start)
  | literalWord hmode hkind =>
      rw [hmode] at hread
      cases hread with
      | brace hleft => exact read_goOn hframes hnodes (.literalTag hleft hkind)
  | action hmode hstep =>
      rw [hmode] at hread
      cases hread with
      | action hleft hdollar hpart =>
          have hnext := OpenAction.read_of_step_more hpart hstep
          exact read_goOn hframes hnodes (.action hleft hdollar hnext)
  | actionEnd hmode hstep =>
      rw [hmode] at hread
      cases hread with
      | action hleft hdollar hpart =>
          have hexpr := OpenAction.derives_of_step_done hpart hstep
          have hright := OpenAction.kind_of_step_done hstep
          exact read_push hframes hnodes (.action hleft hdollar hexpr hright)
  | ifTag hmode hstep =>
      rw [hmode] at hread
      cases hread with
      | ifTag hleft hword hpart =>
          have hnext := OpenCondition.read_of_step_more hpart hstep
          exact read_goOn hframes hnodes (.ifTag hleft hword hnext)
  | ifTagEnd hmode hstep =>
      rw [hmode] at hread
      cases hread with
      | @ifTag _ _ cs left word hleft hword hpart =>
          have hcondition := OpenCondition.derives_of_step_done hpart hstep
          have htag : IsTag .ifWord cs (left :: word :: cs ++ [token]) :=
            .mk hleft hword (OpenCondition.kind_of_step_done hstep)
          exact read_openFrame hframes hnodes rfl (.arm (.first htag hcondition))
  | elseIfTag hmode hstep =>
      rw [hmode] at hread
      cases hread with
      | elseIfTag hleft hfirst hcontinuation hpart =>
          have hnext := OpenCondition.read_of_step_more hpart hstep
          exact read_goOn hframes hnodes (.elseIfTag hleft hfirst hcontinuation hnext)
  | elseIfTagEnd hmode hstep =>
      rw [hmode] at hread
      cases hread with
      | @elseIfTag _ _ _ cs left word hleft hfirst hcontinuation hpart =>
          have hcondition := OpenCondition.derives_of_step_done hpart hstep
          have htag : IsTag word.kind cs (left :: word :: cs ++ [token]) :=
            .mk hleft rfl (OpenCondition.kind_of_step_done hstep)
          exact read_nextArm hfirst hframes hnodes hcontinuation htag hcondition
  | foreachTag hmode hstep =>
      rw [hmode] at hread
      cases hread with
      | foreachTag hleft hword hpart =>
          have hnext := OpenLoop.read_of_step_more hpart hstep
          exact read_goOn hframes hnodes (.foreachTag hleft hword hnext)
  | foreachTagEnd hmode hstep =>
      rw [hmode] at hread
      cases hread with
      | @foreachTag _ _ hs left word hleft hword hpart =>
          have hheader := OpenLoop.derives_of_step_done hpart hstep
          have htag : IsTag .foreachWord hs (left :: word :: hs ++ [token]) :=
            .mk hleft hword (OpenLoop.kind_of_step_done hstep)
          exact read_openFrame hframes hnodes rfl (.body htag hheader)
  | keyword hmode hkind =>
      rw [hmode] at hread
      exact read_keywordEnd hframes hnodes hread hkind
  | skipping hmode hkind =>
      rw [hmode] at hread
      cases hread
  | skippingEnd hmode hkind =>
      rw [hmode] at hread
      cases hread
  | literal hmode hkind =>
      rw [hmode] at hread
      cases hread with
      | literal hopening hbody =>
          have hnext := isLiteralBody_add hbody hkind hadjacent
          simpa using read_goOn hframes hnodes (.literal hopening hnext)
  | literalBrace hmode hkind =>
      rw [hmode] at hread
      cases hread with
      | literal hopening hbody =>
          exact read_goOn hframes hnodes (.literalBrace hopening hbody hkind)
  | endLiteral hmode hkind =>
      rw [hmode] at hread
      cases hread with
      | literalBrace hopening hbody hleft =>
          simpa using read_goOn hframes hnodes (.endLiteral hopening hbody hleft hkind)

end OpenTemplate

end Stencil
