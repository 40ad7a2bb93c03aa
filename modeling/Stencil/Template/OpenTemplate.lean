import Stencil.Template.OpenTag
import Stencil.Token.Scanner

/-!
# Reading templates

A template is read in one pass over its tokens.  What has been read so far are the nodes of the
innermost block, the conditions and loops around it that still wait for their end, and the
diagnostics.  A tag that cannot be read costs one diagnostic: reading goes on behind its closing
brace, or right behind the opening one if there is no such tag at all.  The nodes around it are
kept.

At the end of the source everything that still waits is closed as if its end were there, and
reported.
-/

namespace Stencil

/-- What a keyword tag does once its closing brace has been reached. -/
inductive TagEffect
  | elseBlock
  | endIf
  | emptyBlock
  | endForeach
  | literal (tag : Position)
  | endLiteral (body : String)

/-- What is being read: the text between tags, a tag whose opening brace alone has been read, a
tag of one of the kinds, what is left of a tag that has failed, or the inside of a literal
block. -/
inductive ReadingMode
  | text
  | brace
  | action (part : OpenAction)
  | ifTag (tag : Position) (part : OpenCondition)
  | elseIfTag (part : OpenCondition)
  | foreachTag (tag : Position) (part : OpenLoop)
  | keyword (effect : TagEffect)
  | skipping
  | literal (tag : Position) (body : String)
  | literalBrace (tag : Position) (body : String)

/-- The block of a condition with its condition, which is missing if its tag could not be read. -/
abbrev Arm := Option Expr × List Node

/-- A condition or a loop that waits for its end: the place of its tag, the nodes in front of
it, and its parts that are complete. -/
inductive Frame
  | arm (tag : Position) (above : List Node) (arms : List Arm) (condition : Option Expr)
  | otherwise (tag : Position) (above : List Node) (arms : List Arm)
  | body (tag : Position) (above : List Node) (header : Option LoopHeader)
  | ifEmpty (tag : Position) (above : List Node) (header : Option LoopHeader) (body : List Node)

namespace Arm

/-- The conditions and blocks of arms, one after the other, if no condition is missing. -/
def chain? : List Arm → Alternative → Option Alternative
  | [], otherwise => some otherwise
  | (some condition, block) :: rest, otherwise =>
      (chain? rest otherwise).map fun further => .elseIf condition block further
  | (none, _) :: _, _ => none

/-- The node that arms make, if no condition is missing. -/
def node? (arms : List Arm) (otherwise : Alternative) : Option Node :=
  match chain? arms otherwise with
  | some (.elseIf condition block further) => some (.conditional condition block further)
  | _ => none

end Arm

namespace Frame

/-- The nodes in front of a condition or loop. -/
def above : Frame → List Node
  | arm _ above _ _ => above
  | otherwise _ above _ => above
  | body _ above _ => above
  | ifEmpty _ above _ _ => above

/-- The node that a condition or loop makes when the block that is being read is its last. -/
def node? (block : List Node) : Frame → Option Node
  | arm _ _ arms condition => Arm.node? (arms ++ [(condition, block)]) .nothing
  | otherwise _ _ arms => Arm.node? arms (.block block)
  | body _ _ header => header.map fun header => .loop header block none
  | ifEmpty _ _ header inner => header.map fun header => .loop header inner (some block)

/-- The diagnostic of a condition or loop whose end is missing. -/
def unterminated : Frame → Diagnostic
  | arm tag _ _ _ => ⟨.unterminatedIf, tag⟩
  | otherwise tag _ _ => ⟨.unterminatedIf, tag⟩
  | body tag _ _ => ⟨.unterminatedForeach, tag⟩
  | ifEmpty tag _ _ _ => ⟨.unterminatedForeach, tag⟩

/-- What a keyword begins in the block of a condition or loop, if it goes on with it or ends it. -/
def continuation? : Frame → TokenKind → Option ReadingMode
  | arm .., .elseIfWord => some (.elseIfTag .start)
  | arm .., .elseWord => some (.keyword .elseBlock)
  | arm .., .endIfWord => some (.keyword .endIf)
  | otherwise .., .endIfWord => some (.keyword .endIf)
  | body .., .foreachElseWord => some (.keyword .emptyBlock)
  | body .., .endForeachWord => some (.keyword .endForeach)
  | ifEmpty .., .endForeachWord => some (.keyword .endForeach)
  | _, _ => none

end Frame

/-- What has been read of a template. -/
structure OpenTemplate where
  mode : ReadingMode
  nodes : List Node
  frames : List Frame
  diagnostics : List Diagnostic

namespace OpenTemplate

/-- A template of which nothing has been read. -/
def start : OpenTemplate := ⟨.text, [], [], []⟩

/-- Adds a node to the innermost block. -/
def push (template : OpenTemplate) (node : Node) : OpenTemplate :=
  { template with nodes := template.nodes ++ [node] }

/-- Records a diagnostic. -/
def report (template : OpenTemplate) (diagnostic : Diagnostic) : OpenTemplate :=
  { template with diagnostics := template.diagnostics ++ [diagnostic] }

/-- Goes on reading in a mode. -/
def goOn (template : OpenTemplate) (mode : ReadingMode) : OpenTemplate :=
  { template with mode := mode }

/-- Goes on behind the tag in which a token could not stand. -/
def goOnBehind (template : OpenTemplate) (token : Token) : OpenTemplate :=
  template.goOn (if token.kind = .closeTag then .text else .skipping)

/-- Opens the block of a condition or loop. -/
def openFrame (template : OpenTemplate) (frame : Frame) : OpenTemplate :=
  { template with nodes := [], frames := frame :: template.frames }

/-- Closes the innermost condition or loop, whose last block is complete. -/
def closeFrame (template : OpenTemplate) : OpenTemplate :=
  match template.frames with
  | frame :: outer =>
      { template with
        nodes := frame.above ++ (frame.node? template.nodes).toList
        frames := outer }
  | [] => template

/-- Completes the block of the innermost arm and opens that of a further one. -/
def nextArm (template : OpenTemplate) (condition : Option Expr) : OpenTemplate :=
  match template.frames with
  | .arm tag above arms previous :: outer =>
      { template with
        nodes := []
        frames := .arm tag above (arms ++ [(previous, template.nodes)]) condition :: outer }
  | _ => template

/-- Completes the block of the innermost arm and opens the one that needs no condition. -/
def elseArm (template : OpenTemplate) : OpenTemplate :=
  match template.frames with
  | .arm tag above arms previous :: outer =>
      { template with
        nodes := []
        frames := .otherwise tag above (arms ++ [(previous, template.nodes)]) :: outer }
  | _ => template

/-- Completes the body of the innermost loop and opens the block for a loop that is never
entered. -/
def emptyArm (template : OpenTemplate) : OpenTemplate :=
  match template.frames with
  | .body tag above header :: outer =>
      { template with
        nodes := []
        frames := .ifEmpty tag above header template.nodes :: outer }
  | _ => template

/-- What a keyword tag does to the blocks.  The one that opens a literal block does nothing to
them. -/
def perform (template : OpenTemplate) : TagEffect → OpenTemplate
  | .elseBlock => template.elseArm
  | .endIf => template.closeFrame
  | .emptyBlock => template.emptyArm
  | .endForeach => template.closeFrame
  | .literal _ => template
  | .endLiteral body => template.push (.text body)

/-- The mode behind a keyword tag. -/
def modeBehind : TagEffect → ReadingMode
  | .literal tag => .literal tag ""
  | _ => .text

/-- Takes a keyword tag to the brace that has to close it. -/
def stepKeyword (template : OpenTemplate) (effect : TagEffect) (token : Token) : OpenTemplate :=
  if token.kind = .closeTag then (template.perform effect).goOn (modeBehind effect)
  else
    ((template.report (.expected (.token .closeTag) token)).perform effect).goOnBehind token

/-- Takes the text between tags one token further.  Comments and what is left of unknown tags
are passed over. -/
def stepText (template : OpenTemplate) (token : Token) : OpenTemplate :=
  match token.kind with
  | .text => (template.push (.text token.literal)).goOn .text
  | .openTag => template.goOn .brace
  | _ => template.goOn .text

/-- Takes a tag to the token that decides what it is. -/
def stepBrace (template : OpenTemplate) (token : Token) : OpenTemplate :=
  match template.frames.head?.bind fun frame => frame.continuation? token.kind with
  | some mode => template.goOn mode
  | none =>
      match token.kind with
      | .dollar => template.goOn (.action .start)
      | .ifWord => template.goOn (.ifTag token.position .start)
      | .foreachWord => template.goOn (.foreachTag token.position .start)
      | .literalWord => template.goOn (.keyword (.literal token.position))
      | .foreachElseWord =>
          (template.report ⟨.misplacedForeachElse, token.position⟩).goOn .skipping
      | _ => (template.report ⟨.unknownTag token, token.position⟩).stepText token

/-- Takes an expression to put out one token further. -/
def stepAction (template : OpenTemplate) (part : OpenAction) (token : Token) : OpenTemplate :=
  match part.step token with
  | .more next => template.goOn (.action next)
  | .done expr => (template.push (.action expr)).goOn .text
  | .failed diagnostic => (template.report diagnostic).goOnBehind token

/-- Takes a condition one token further; once it is complete or has failed, its block is opened. -/
def stepCondition
    (template : OpenTemplate) (mode : OpenCondition → ReadingMode)
    (opened : OpenTemplate → Option Expr → OpenTemplate)
    (part : OpenCondition) (token : Token) : OpenTemplate :=
  match part.step token with
  | .more next => template.goOn (mode next)
  | .done condition => (opened template (some condition)).goOn .text
  | .failed diagnostic => (opened (template.report diagnostic) none).goOnBehind token

/-- Takes the attributes of a loop one token further; once they are complete or have failed, its
body is opened. -/
def stepForeach
    (template : OpenTemplate) (tag : Position) (part : OpenLoop) (token : Token) : OpenTemplate :=
  match part.step tag token with
  | .more next => template.goOn (.foreachTag tag next)
  | .done header => (template.openFrame (.body tag template.nodes (some header))).goOn .text
  | .failed diagnostic =>
      ((template.report diagnostic).openFrame (.body tag template.nodes none)).goOnBehind token

/-- Ends a literal block whose end mark is missing. -/
def abandonLiteral (template : OpenTemplate) (tag : Position) (body : String) : OpenTemplate :=
  (template.report ⟨.unterminatedLiteral, tag⟩).push (.text body)

/-- Takes a literal block one token further. -/
def stepLiteral
    (template : OpenTemplate) (tag : Position) (body : String) (token : Token) : OpenTemplate :=
  match token.kind with
  | .text => template.goOn (.literal tag (body ++ token.literal))
  | .openTag => template.goOn (.literalBrace tag body)
  | _ => (template.abandonLiteral tag body).stepText token

/-- Takes a literal block to the word behind a brace, which has to be the one that ends it. -/
def stepLiteralBrace
    (template : OpenTemplate) (tag : Position) (body : String) (token : Token) : OpenTemplate :=
  if token.kind = .endLiteralWord then template.goOn (.keyword (.endLiteral body))
  else (template.abandonLiteral tag body).stepBrace token

/-- Takes a template one token further. -/
def step (template : OpenTemplate) (token : Token) : OpenTemplate :=
  match template.mode with
  | .text => template.stepText token
  | .brace => template.stepBrace token
  | .action part => template.stepAction part token
  | .ifTag tag part =>
      template.stepCondition (.ifTag tag)
        (fun template condition => template.openFrame (.arm tag template.nodes [] condition))
        part token
  | .elseIfTag part => template.stepCondition .elseIfTag nextArm part token
  | .foreachTag tag part => template.stepForeach tag part token
  | .keyword effect => template.stepKeyword effect token
  | .skipping => if token.kind = .closeTag then template.goOn .text else template
  | .literal tag body => template.stepLiteral tag body token
  | .literalBrace tag body => template.stepLiteralBrace tag body token

/-- Reads tokens. -/
def read (template : OpenTemplate) (tokens : List Token) : OpenTemplate :=
  tokens.foldl step template

theorem read_cons (template : OpenTemplate) (token : Token) (ts : List Token) :
    template.read (token :: ts) = (template.step token).read ts :=
  rfl

theorem read_append (template : OpenTemplate) (ts us : List Token) :
    template.read (ts ++ us) = (template.read ts).read us :=
  List.foldl_append

/-- Closes one condition or loop whose end is missing. -/
def abandonFrame (template : OpenTemplate) (frame : Frame) : OpenTemplate :=
  (template.report frame.unterminated).closeFrame

/-- Closes all conditions and loops that still wait for their end, the innermost first. -/
def closeAll (template : OpenTemplate) : OpenTemplate :=
  template.frames.foldl abandonFrame template

end OpenTemplate

end Stencil
