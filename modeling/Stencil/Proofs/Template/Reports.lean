import Stencil.Proofs.Template.Recovery
import Stencil.Proofs.Token.Ascending

/-!
# The order of diagnostics

A diagnostic stands at the token at which reading has stopped, or at the word that opens the
construct of which something is missing.  Each token is the one at hand once, and is reported at
most once while it is.  A word that opens a tag or a literal block is kept until that is
complete, and then, if it has opened a condition or a loop, until the end of that; so it is
reported at most once for what is missing in the tag and once for a missing end.

Hence the places of the tokens, in order, contain those of the diagnostics of either kind, and
the words that are kept.  One step adds the place of its token to each of these lists and may
leave out others.
-/

namespace Stencil

/-! ## Problems with an opening -/

namespace Problem

/-- The problems that are reported at the word that opens a construct. -/
def openings : List Problem :=
  [unterminatedIf, unterminatedForeach, unterminatedLiteral, missingSource, missingItem]

/-- The problems that a construct without its end has. -/
def missingEnds : List Problem :=
  [unterminatedIf, unterminatedForeach]

/-- The problems that name nothing of the source. -/
def fixed : List Problem :=
  openings ++ [misplacedForeachElse, unterminatedForeachTag]

/-- How the problems that name something of the source begin. -/
def phrases : List String :=
  ["expected ", "unknown tag: ", "unsupported foreach attribute `", "duplicate foreach attribute `"]

theorem exists_phrase {problem : Problem} (h : problem ∉ fixed) :
    ∃ phrase ∈ phrases, ∃ rest, problem.message = phrase ++ rest := by
  cases problem with
  | expected what found =>
      refine ⟨"expected ", by decide, what.text ++ (", got " ++ found.describe), ?_⟩
      rw [← String.append_assoc, ← String.append_assoc]
      rfl
  | unknownTag found => exact ⟨"unknown tag: ", by decide, found.describe, rfl⟩
  | unsupportedAttribute name =>
      exact ⟨"unsupported foreach attribute `", by decide, name ++ "`", String.append_assoc ..⟩
  | duplicateAttribute name =>
      exact ⟨"duplicate foreach attribute `", by decide, name ++ "`", String.append_assoc ..⟩
  | _ => exact absurd (by decide) h

/-- A problem with an opening is worded like no other problem. -/
theorem eq_of_message_eq {problem other : Problem} (hproblem : problem ∈ openings)
    (h : problem.message = other.message) : problem = other := by
  by_cases hother : other ∈ fixed
  · have hdistinct : ∀ problem ∈ openings, ∀ other ∈ fixed,
        problem.message = other.message → problem = other := by
      decide
    exact hdistinct problem hproblem other hother h
  · have hphrases : ∀ problem ∈ openings, ∀ phrase ∈ phrases,
        ¬ phrase.toList <+: problem.message.toList := by
      decide
    obtain ⟨phrase, hphrase, rest, hmessage⟩ := exists_phrase hother
    refine absurd ?_ (hphrases problem hproblem phrase hphrase)
    rw [h, hmessage, String.toList_append]
    exact List.prefix_append _ _

end Problem

namespace Diagnostic

/-- Whether a diagnostic stands at the word that opens a construct. -/
def isAtOpening (diagnostic : Diagnostic) : Bool :=
  diagnostic.problem ∈ Problem.openings

/-- The places of the diagnostics that stand at the word that opens a construct. -/
def openingPlaces (diagnostics : List Diagnostic) : List Position :=
  (diagnostics.filter isAtOpening).map position

/-- The places of all other diagnostics. -/
def readingPlaces (diagnostics : List Diagnostic) : List Position :=
  (diagnostics.filter fun diagnostic => !diagnostic.isAtOpening).map position

end Diagnostic

/-! ## Words that are kept -/

/-- The place of the word that opens a condition or loop. -/
def Frame.tag : Frame → Position
  | arm tag _ _ _ => tag
  | otherwise tag _ _ => tag
  | body tag _ _ => tag
  | ifEmpty tag _ _ _ => tag

/-- The place of the word that opens the tag or literal block that is being read, if it is kept. -/
def ReadingMode.tag? : ReadingMode → Option Position
  | ifTag tag _ => some tag
  | foreachTag tag _ => some tag
  | keyword (.literal tag) => some tag
  | literal tag _ => some tag
  | literalBrace tag _ => some tag
  | _ => none

namespace OpenTemplate

/-- The places of the words that are kept, the latest first. -/
def keptTags (template : OpenTemplate) : List Position :=
  template.mode.tag?.toList ++ template.frames.map Frame.tag

/-- The places at which something with an opening has been reported, and the one at which it
still may be. -/
def openingTags (template : OpenTemplate) : List Position :=
  Diagnostic.openingPlaces template.diagnostics ++ template.mode.tag?.toList

/-- What has been read further, with the places of the tokens taken: each list has got some of
them and may have lost others.  No missing end has been reported. -/
structure Advances (template : OpenTemplate) (places : List Position) (next : OpenTemplate) :
    Prop where
  kept : next.keptTags.Sublist (places.reverse ++ template.keptTags)
  opening : next.openingTags.Sublist (template.openingTags ++ places)
  reading : (Diagnostic.readingPlaces next.diagnostics).Sublist
    (Diagnostic.readingPlaces template.diagnostics ++ places)
  ends : ∀ diagnostic ∈ next.diagnostics, diagnostic ∈ template.diagnostics ∨
    diagnostic.problem ∉ Problem.missingEnds

theorem Advances.trans {template middle next : OpenTemplate} {places others : List Position}
    (h : template.Advances places middle) (hnext : middle.Advances others next) :
    template.Advances (places ++ others) next where
  kept := by
    rw [List.reverse_append, List.append_assoc]
    exact hnext.kept.trans (h.kept.append_left _)
  opening := by
    rw [← List.append_assoc]
    exact hnext.opening.trans (h.opening.append_right _)
  reading := by
    rw [← List.append_assoc]
    exact hnext.reading.trans (h.reading.append_right _)
  ends := by
    intro diagnostic hdiagnostic
    rcases hnext.ends diagnostic hdiagnostic with hmiddle | hproblem
    · exact h.ends diagnostic hmiddle
    · exact .inr hproblem

theorem Advances.refl (template : OpenTemplate) : template.Advances [] template where
  kept := List.Sublist.refl _
  opening := (List.sublist_append_left _ _)
  reading := (List.sublist_append_left _ _)
  ends := fun _ => .inl

/-- A token need not leave its place anywhere. -/
theorem Advances.weaken {template next : OpenTemplate} (h : template.Advances [] next)
    (place : Position) : template.Advances [place] next where
  kept := h.kept.trans (List.sublist_cons_self place _)
  opening := by
    have hopening := h.opening
    rw [List.append_nil] at hopening
    exact hopening.trans (List.sublist_append_left _ _)
  reading := by
    have hreading := h.reading
    rw [List.append_nil] at hreading
    exact hreading.trans (List.sublist_append_left _ _)
  ends := h.ends

section Changes

variable {template next : OpenTemplate}

/-- Nothing is reported, and the word that has opened the tag is kept with it, by a block, or no
longer. -/
theorem advances_of_leaves (hdiagnostics : next.diagnostics = template.diagnostics)
    (hmode : next.mode.tag? = none)
    (hframes : (next.frames.map Frame.tag).Sublist template.keptTags) :
    template.Advances [] next where
  kept := by
    rw [keptTags, hmode]
    exact hframes
  opening := by
    rw [openingTags, openingTags, hdiagnostics, hmode]
    simp
  reading := by
    rw [hdiagnostics]
    exact List.sublist_append_left _ _
  ends := by
    rw [hdiagnostics]
    exact fun _ => .inl

theorem advances_of_stays (hdiagnostics : next.diagnostics = template.diagnostics)
    (hmode : next.mode.tag? = template.mode.tag?) (hframes : next.frames = template.frames) :
    template.Advances [] next where
  kept := by
    rw [keptTags, hmode, hframes]
    exact List.Sublist.refl _
  opening := by
    rw [openingTags, openingTags, hdiagnostics, hmode]
    exact List.sublist_append_left _ _
  reading := by
    rw [hdiagnostics]
    exact List.sublist_append_left _ _
  ends := by
    rw [hdiagnostics]
    exact fun _ => .inl

/-- A word that opens a tag is kept from now on. -/
theorem advances_of_opens {place : Position}
    (hdiagnostics : next.diagnostics = template.diagnostics) (hmode : next.mode.tag? = some place)
    (hframes : next.frames = template.frames) :
    template.Advances [place] next where
  kept := by
    rw [keptTags, hmode, hframes, keptTags]
    simp
  opening := by
    rw [openingTags, openingTags, hdiagnostics, hmode]
    simp
  reading := by
    rw [hdiagnostics]
    exact List.sublist_append_left _ _
  ends := by
    rw [hdiagnostics]
    exact fun _ => .inl

theorem not_mem_missingEnds {problem : Problem} (h : problem ∉ Problem.openings) :
    problem ∉ Problem.missingEnds :=
  fun hmem => h (List.mem_append_left _ hmem)

/-- A diagnostic at the token at hand. -/
theorem advances_report (template : OpenTemplate) (diagnostic : Diagnostic)
    (h : diagnostic.problem ∉ Problem.openings) :
    template.Advances [diagnostic.position] (template.report diagnostic) := by
  have hopening : diagnostic.isAtOpening = false := decide_eq_false h
  refine ⟨List.sublist_cons_self _ _, ?_, ?_, ?_⟩
  · simp [openingTags, Diagnostic.openingPlaces, report, hopening]
  · simp [Diagnostic.readingPlaces, report, hopening]
  · intro other hother
    rcases List.mem_append.mp hother with hold | hnew
    · exact .inl hold
    · rw [List.mem_singleton.mp hnew]
      exact .inr (not_mem_missingEnds h)

/-- A diagnostic at the word that has opened the tag, which is no longer read. -/
theorem advances_of_misses {diagnostic : Diagnostic}
    (hdiagnostics : next.diagnostics = template.diagnostics ++ [diagnostic])
    (hproblem : diagnostic.problem ∈ Problem.openings)
    (hends : diagnostic.problem ∉ Problem.missingEnds)
    (htag : template.mode.tag? = some diagnostic.position) (hmode : next.mode.tag? = none)
    (hframes : (next.frames.map Frame.tag).Sublist template.keptTags) :
    template.Advances [] next := by
  have hopening : diagnostic.isAtOpening = true := decide_eq_true hproblem
  refine ⟨?_, ?_, ?_, ?_⟩
  · rw [keptTags, hmode]
    exact hframes
  · simp [openingTags, Diagnostic.openingPlaces, hdiagnostics, hopening, htag, hmode]
  · simp [Diagnostic.readingPlaces, hdiagnostics, hopening]
  · intro other hother
    rw [hdiagnostics] at hother
    rcases List.mem_append.mp hother with hold | hnew
    · exact .inl hold
    · rw [List.mem_singleton.mp hnew]
      exact .inr hends

end Changes

end OpenTemplate

/-! ## What is reported of a tag -/

theorem Problem.expected_not_mem_openings (what : Expectation) (token : Token) :
    expected what token ∉ openings := by
  simp [openings]

theorem OpenCondition.expected_of_step_failed {condition : OpenCondition} {token : Token}
    {diagnostic : Diagnostic} (h : condition.step token = .failed diagnostic) :
    ∃ what, diagnostic = .expected what token := by
  rw [step] at h
  split at h
  · cases h
  · exact expected_of_closeWith_failed h
  · rename_i hpart
    cases h
    exact OpenExpr.expected_of_step_failed hpart

/-- A diagnostic of the attributes of a loop: one at the token at hand, or an attribute that the
tag is without. -/
def Diagnostic.IsOfLoop (tag : Position) (token : Token) (diagnostic : Diagnostic) : Prop :=
  diagnostic.position = token.position ∧ diagnostic.problem ∉ Problem.openings ∨
    diagnostic.position = tag ∧ diagnostic.problem ∈ [Problem.missingSource, .missingItem]

namespace OpenLoop

variable {tag : Position} {token : Token} {diagnostic : Diagnostic}

theorem isOfLoop_expected (tag : Position) (what : Expectation) (token : Token) :
    Diagnostic.IsOfLoop tag token (.expected what token) :=
  .inl ⟨rfl, Problem.expected_not_mem_openings what token⟩

theorem isOfLoop_of_stepBetween_failed {attributes : LoopAttributes}
    (h : stepBetween tag attributes token = .failed diagnostic) :
    diagnostic.IsOfLoop tag token := by
  rw [stepBetween] at h
  split at h
  · rw [LoopAttributes.header] at h
    split at h <;> cases h
    · exact .inr ⟨rfl, List.mem_cons_self⟩
    · exact .inr ⟨rfl, List.mem_cons_of_mem _ List.mem_cons_self⟩
  · split at h
    · cases h
      exact .inl ⟨rfl, by simp [Problem.openings]⟩
    · split at h
      · rw [stepName] at h
        split at h
        · cases h
          exact .inl ⟨rfl, by simp [Problem.openings]⟩
        · split at h <;> cases h
          exact .inl ⟨rfl, by simp [Problem.openings]⟩
      · cases h
        exact isOfLoop_expected tag _ token

theorem isOfLoop_of_stepVariable_failed {attributes : LoopAttributes} {target : LoopVariable}
    (h : stepVariable attributes target token = .failed diagnostic) :
    diagnostic.IsOfLoop tag token := by
  rw [stepVariable] at h
  split at h <;> cases h
  exact isOfLoop_expected tag _ token

theorem isOfLoop_of_step_failed {loop : OpenLoop} (h : loop.step tag token = .failed diagnostic) :
    diagnostic.IsOfLoop tag token := by
  cases loop with
  | between attributes => exact isOfLoop_of_stepBetween_failed h
  | assign attributes name =>
      rw [step] at h
      split at h <;> cases h
      exact isOfLoop_expected tag _ token
  | source attributes part =>
      rw [step] at h
      split at h
      · cases h
      · exact isOfLoop_of_stepBetween_failed h
      · rename_i hpart
        cases h
        obtain ⟨what, rfl⟩ := OpenExpr.expected_of_step_failed hpart
        exact isOfLoop_expected tag what token
  | variableOrDollar attributes target =>
      rw [step] at h
      split at h
      · cases h
      · exact isOfLoop_of_stepVariable_failed h
  | variableName attributes target => exact isOfLoop_of_stepVariable_failed h
  | label attributes =>
      rw [step] at h
      split at h <;> cases h
      exact isOfLoop_expected tag _ token

end OpenLoop

/-! ## One step -/

namespace OpenTemplate

section Blocks

variable (template : OpenTemplate)

theorem tags_closeFrame :
    (template.closeFrame.frames.map Frame.tag).Sublist (template.frames.map Frame.tag) := by
  obtain ⟨mode, nodes, frames, diagnostics⟩ := template
  cases frames with
  | nil => exact List.Sublist.refl _
  | cons frame outer => exact List.sublist_cons_self _ _

theorem tags_nextArm (condition : Option Expr) :
    (template.nextArm condition).frames.map Frame.tag = template.frames.map Frame.tag := by
  rw [nextArm]
  split
  · rename_i hframes
    rw [hframes]
    rfl
  · rfl

theorem tags_elseArm : template.elseArm.frames.map Frame.tag = template.frames.map Frame.tag := by
  rw [elseArm]
  split
  · rename_i hframes
    rw [hframes]
    rfl
  · rfl

theorem tags_emptyArm : template.emptyArm.frames.map Frame.tag = template.frames.map Frame.tag := by
  rw [emptyArm]
  split
  · rename_i hframes
    rw [hframes]
    rfl
  · rfl

theorem tags_perform (effect : TagEffect) :
    ((template.perform effect).frames.map Frame.tag).Sublist (template.frames.map Frame.tag) := by
  cases effect with
  | elseBlock => exact tags_elseArm template ▸ List.Sublist.refl _
  | endIf => exact tags_closeFrame template
  | emptyBlock => exact tags_emptyArm template ▸ List.Sublist.refl _
  | endForeach => exact tags_closeFrame template
  | literal => exact List.Sublist.refl _
  | endLiteral => exact List.Sublist.refl _

end Blocks

theorem tag?_of_continuation? {frame : Frame} {kind : TokenKind} {mode : ReadingMode}
    (h : frame.continuation? kind = some mode) : mode.tag? = none := by
  rw [Frame.continuation?.eq_def] at h
  split at h <;> cases h <;> rfl

section Steps

variable {template : OpenTemplate} {token : Token}

/-- A tag in which a token cannot stand is reported there, and reading goes on behind it. -/
theorem advances_goOnBehind {next : OpenTemplate} {diagnostic : Diagnostic}
    (hposition : diagnostic.position = token.position)
    (hproblem : diagnostic.problem ∉ Problem.openings)
    (hdiagnostics : next.diagnostics = (template.report diagnostic).diagnostics)
    (hframes : (next.frames.map Frame.tag).Sublist template.keptTags) :
    template.Advances [token.position] (next.goOnBehind token) := by
  have hreport := advances_report template diagnostic hproblem
  rw [hposition] at hreport
  refine hreport.trans (advances_of_leaves hdiagnostics ?_ hframes)
  rw [goOnBehind, goOn]
  split <;> rfl

theorem advances_stepText (template : OpenTemplate) (token : Token) :
    template.Advances [] (template.stepText token) := by
  rw [stepText]
  split
  · exact advances_of_leaves rfl rfl (List.sublist_append_right _ _)
  · exact advances_of_leaves rfl rfl (List.sublist_append_right _ _)
  · exact advances_of_leaves rfl rfl (List.sublist_append_right _ _)

theorem advances_stepBrace (template : OpenTemplate) (token : Token) :
    template.Advances [token.position] (template.stepBrace token) := by
  have hframes :=
    List.sublist_append_right template.mode.tag?.toList (template.frames.map Frame.tag)
  rw [stepBrace]
  split
  · rename_i mode hcontinuation
    obtain ⟨frame, -, hframe⟩ := Option.bind_eq_some_iff.mp hcontinuation
    refine Advances.weaken ?_ _
    exact advances_of_leaves rfl (tag?_of_continuation? hframe) hframes
  · split
    · refine Advances.weaken ?_ _
      exact advances_of_leaves rfl rfl hframes
    · exact advances_of_opens rfl rfl rfl
    · exact advances_of_opens rfl rfl rfl
    · exact advances_of_opens rfl rfl rfl
    · have hreport := advances_report template ⟨.misplacedForeachElse, token.position⟩
        (by simp [Problem.openings])
      exact hreport.trans (advances_of_leaves rfl rfl hframes)
    · have hreport := advances_report template ⟨.unknownTag token, token.position⟩
        (by simp [Problem.openings])
      exact hreport.trans (advances_stepText _ token)

theorem advances_stepAction (template : OpenTemplate) (part : OpenAction) (token : Token) :
    template.Advances [token.position] (template.stepAction part token) := by
  have hframes :=
    List.sublist_append_right template.mode.tag?.toList (template.frames.map Frame.tag)
  rw [stepAction]
  split
  · refine Advances.weaken ?_ _
    exact advances_of_leaves rfl rfl hframes
  · refine Advances.weaken ?_ _
    exact advances_of_leaves rfl rfl hframes
  · rename_i hfailed
    obtain ⟨what, rfl⟩ := OpenAction.expected_of_step_failed hfailed
    exact advances_goOnBehind rfl (Problem.expected_not_mem_openings what token) rfl hframes

/-- A condition whose block is opened by a change that reports nothing and keeps no other word
than that of the condition. -/
theorem advances_stepCondition {mode : OpenCondition → ReadingMode}
    {opened : OpenTemplate → Option Expr → OpenTemplate}
    (hmode : ∀ part, (mode part).tag? = template.mode.tag?)
    (hdiagnostics : ∀ template condition,
      (opened template condition).diagnostics = template.diagnostics)
    (hframes : ∀ diagnostics condition,
      ((opened { template with diagnostics := diagnostics } condition).frames.map Frame.tag).Sublist
        template.keptTags)
    (part : OpenCondition) (token : Token) :
    template.Advances [token.position] (template.stepCondition mode opened part token) := by
  rw [stepCondition]
  split
  · refine Advances.weaken ?_ _
    exact advances_of_stays rfl (hmode _) rfl
  · refine Advances.weaken ?_ _
    exact advances_of_leaves (hdiagnostics _ _) rfl (hframes template.diagnostics _)
  · rename_i hfailed
    obtain ⟨what, rfl⟩ := OpenCondition.expected_of_step_failed hfailed
    exact advances_goOnBehind rfl (Problem.expected_not_mem_openings what token)
      (hdiagnostics _ none) (hframes _ none)

theorem advances_stepForeach {tag : Position} {part : OpenLoop}
    (hmode : template.mode = .foreachTag tag part) (token : Token) :
    template.Advances [token.position] (template.stepForeach tag part token) := by
  have htag : template.mode.tag? = some tag := by
    rw [hmode]
    rfl
  have hkept : template.keptTags = tag :: template.frames.map Frame.tag := by
    rw [keptTags, htag]
    rfl
  have hframes : (tag :: template.frames.map Frame.tag).Sublist template.keptTags := by
    rw [hkept]
  rw [stepForeach]
  split
  · refine Advances.weaken ?_ _
    exact advances_of_stays rfl htag.symm rfl
  · refine Advances.weaken ?_ _
    exact advances_of_leaves rfl rfl hframes
  · rename_i hfailed
    rcases OpenLoop.isOfLoop_of_step_failed hfailed with
      ⟨hposition, hproblem⟩ | ⟨hposition, hmissing⟩
    · exact advances_goOnBehind hposition hproblem rfl hframes
    · -- What the tag is without is reported at its word, which is kept on by the body of the loop.
      refine Advances.weaken ?_ _
      refine advances_of_misses rfl ?_ ?_ (hposition ▸ htag) ?_ hframes
      · exact List.mem_append_right [_, _, _] hmissing
      · simp only [List.mem_cons, List.not_mem_nil, or_false] at hmissing
        rcases hmissing with h | h <;> rw [h] <;> decide
      · rw [goOnBehind, goOn]
        split <;> rfl

theorem advances_stepKeyword {effect : TagEffect} (hmode : template.mode = .keyword effect)
    (token : Token) : template.Advances [token.position] (template.stepKeyword effect token) := by
  have hframes (template : OpenTemplate) :=
    (tags_perform template effect).trans (List.sublist_append_right template.mode.tag?.toList _)
  rw [stepKeyword]
  split
  · refine Advances.weaken ?_ _
    cases effect with
    | literal tag =>
        refine advances_of_stays rfl ?_ rfl
        rw [hmode]
        rfl
    | _ => exact advances_of_leaves (diagnostics_perform _ _) rfl (hframes template)
  · exact advances_goOnBehind rfl (Problem.expected_not_mem_openings (.token .closeTag) token)
      (diagnostics_perform _ effect) (hframes (template.report _))

/-- A literal block whose end mark is missing is reported at its word, which is not kept any
longer. -/
theorem advances_abandonLiteral {tag : Position} (body : String)
    (htag : template.mode.tag? = some tag) :
    template.Advances [] ((template.abandonLiteral tag body).goOn .text) := by
  have hopening : Problem.unterminatedLiteral ∈ Problem.openings := by decide
  have hend : Problem.unterminatedLiteral ∉ Problem.missingEnds := by decide
  exact advances_of_misses rfl hopening hend htag rfl (List.sublist_append_right _ _)

theorem advances_stepLiteral {tag : Position} {body : String}
    (hmode : template.mode = .literal tag body) (token : Token) :
    template.Advances [token.position] (template.stepLiteral tag body token) := by
  have htag : template.mode.tag? = some tag := by
    rw [hmode]
    rfl
  rw [stepLiteral]
  split
  · refine Advances.weaken ?_ _
    exact advances_of_stays rfl htag.symm rfl
  · refine Advances.weaken ?_ _
    exact advances_of_stays rfl htag.symm rfl
  · refine Advances.weaken ((advances_abandonLiteral body htag).trans ?_) _
    exact advances_stepText _ token

theorem advances_stepLiteralBrace {tag : Position} {body : String}
    (hmode : template.mode = .literalBrace tag body) (token : Token) :
    template.Advances [token.position] (template.stepLiteralBrace tag body token) := by
  have htag : template.mode.tag? = some tag := by
    rw [hmode]
    rfl
  rw [stepLiteralBrace]
  split
  · refine Advances.weaken ?_ _
    exact advances_of_leaves rfl rfl (List.sublist_append_right _ _)
  · exact (advances_abandonLiteral body htag).trans (advances_stepBrace _ token)

theorem advances_step (template : OpenTemplate) (token : Token) :
    template.Advances [token.position] (template.step token) := by
  rw [step]
  cases hmode : template.mode with
  | text => exact (advances_stepText template token).weaken _
  | brace => exact advances_stepBrace template token
  | action part => exact advances_stepAction template part token
  | ifTag tag part =>
      have htag : template.mode.tag? = some tag := by
        rw [hmode]
        rfl
      refine advances_stepCondition ?_ ?_ ?_ part token
      · exact fun _ => htag.symm
      · exact fun _ _ => rfl
      · intro diagnostics condition
        rw [keptTags, htag]
        exact List.Sublist.refl _
  | elseIfTag part =>
      refine advances_stepCondition ?_ diagnostics_nextArm ?_ part token
      · rw [hmode]
        exact fun _ => rfl
      · intro diagnostics condition
        rw [tags_nextArm]
        exact List.sublist_append_right _ _
  | foreachTag tag part => exact advances_stepForeach hmode token
  | keyword effect => exact advances_stepKeyword hmode token
  | skipping =>
      refine Advances.weaken ?_ _
      dsimp only
      split
      · exact advances_of_leaves rfl rfl (List.sublist_append_right _ _)
      · exact Advances.refl template
  | literal tag body => exact advances_stepLiteral hmode token
  | literalBrace tag body => exact advances_stepLiteralBrace hmode token

end Steps

/-- A reading leaves the places of the tokens it takes, in order. -/
theorem advances_read (template : OpenTemplate) (ts : List Token) :
    template.Advances (ts.map Token.position) (template.read ts) := by
  induction ts generalizing template with
  | nil => exact Advances.refl template
  | cons token ts ih => exact (advances_step template token).trans (ih (template.step token))

end OpenTemplate

/-! ## All diagnostics of a source -/

namespace OpenTemplate

/-- The diagnostics of tokens that have been read from the start: those at the tokens at hand
ascend, and so do those at openings in front of the missing ends, whose words descend. -/
structure Reported (diagnostics : List Diagnostic) (frames : List Frame) (ts : List Token) :
    Prop where
  reading : (Diagnostic.readingPlaces diagnostics).Sublist (ts.map Token.position)
  opening : (Diagnostic.openingPlaces diagnostics).Sublist (ts.map Token.position)
  frames : (frames.map Frame.tag).Sublist (ts.map Token.position).reverse
  ends : ∀ diagnostic ∈ diagnostics, diagnostic.problem ∉ Problem.missingEnds

theorem reported_read (ts : List Token) :
    Reported (start.read ts).diagnostics (start.read ts).frames ts := by
  have hread := advances_read start ts
  refine ⟨hread.reading, ?_, ?_, ?_⟩
  · exact (List.sublist_append_left _ _).trans hread.opening
  · have hkept := hread.kept
    have hstart : start.keptTags = [] := rfl
    rw [hstart, List.append_nil] at hkept
    exact (List.sublist_append_right _ _).trans hkept
  · intro diagnostic hdiagnostic
    rcases hread.ends diagnostic hdiagnostic with hnone | hproblem
    · cases hnone
    · exact hproblem

end OpenTemplate

theorem Frame.position_unterminated (frame : Frame) : frame.unterminated.position = frame.tag := by
  cases frame <;> rfl

theorem Frame.problem_unterminated (frame : Frame) :
    frame.unterminated.problem ∈ Problem.missingEnds := by
  cases frame <;> simp [unterminated, Problem.missingEnds]

namespace Diagnostic

theorem isAtOpening_iff (diagnostic : Diagnostic) :
    diagnostic.isAtOpening = true ↔ diagnostic.message ∈ Problem.openings.map Problem.message := by
  rw [isAtOpening, decide_eq_true_iff, List.mem_map]
  constructor
  · intro h
    exact ⟨diagnostic.problem, h, rfl⟩
  · rintro ⟨problem, hproblem, hmessage⟩
    exact Problem.eq_of_message_eq hproblem hmessage ▸ hproblem

theorem readingPlaces_append_unterminated (diagnostics : List Diagnostic) (frames : List Frame) :
    readingPlaces (diagnostics ++ frames.map Frame.unterminated) = readingPlaces diagnostics := by
  have hnone : (frames.map Frame.unterminated).filter (fun diagnostic => !diagnostic.isAtOpening) =
      [] := by
    rw [List.filter_eq_nil_iff]
    intro diagnostic hdiagnostic
    obtain ⟨frame, -, rfl⟩ := List.mem_map.mp hdiagnostic
    have hopening : frame.unterminated.isAtOpening = true :=
      decide_eq_true (List.mem_append_left _ frame.problem_unterminated)
    simp [hopening]
  rw [readingPlaces, List.filter_append, hnone, List.append_nil, readingPlaces]

/-- Two diagnostics that differ in what they say or where they stand. -/
def Differs (diagnostic other : Diagnostic) : Prop :=
  ¬ (diagnostic.message = other.message ∧ diagnostic.position = other.position)

end Diagnostic

namespace OpenTemplate.Reported

variable {diagnostics : List Diagnostic} {frames : List Frame} {ts : List Token}
  (h : Reported diagnostics frames ts)

include h

theorem isAt : ∀ diagnostic ∈ diagnostics ++ frames.map Frame.unterminated, diagnostic.IsAt ts := by
  have hplace {diagnostic : Diagnostic} (hmem : diagnostic.position ∈ ts.map Token.position) :
      diagnostic.IsAt ts := by
    obtain ⟨token, htoken, hposition⟩ := List.mem_map.mp hmem
    exact ⟨token, htoken, hposition.symm⟩
  intro diagnostic hdiagnostic
  rcases List.mem_append.mp hdiagnostic with hread | hend
  · cases hopening : diagnostic.isAtOpening with
    | true =>
        exact hplace (h.opening.subset
          (List.mem_map_of_mem (List.mem_filter.mpr ⟨hread, hopening⟩)))
    | false =>
        refine hplace (h.reading.subset (List.mem_map_of_mem (List.mem_filter.mpr ⟨hread, ?_⟩)))
        rw [hopening]
        rfl
  · obtain ⟨frame, hframe, rfl⟩ := List.mem_map.mp hend
    refine hplace ?_
    rw [frame.position_unterminated]
    exact List.mem_reverse.mp (h.frames.subset (List.mem_map_of_mem hframe))

variable (hplaces : (ts.map Token.position).Pairwise Position.Before)

include hplaces

/-- What is reported of tokens before their end is reported once. -/
theorem pairwise_diagnostics : diagnostics.Pairwise Diagnostic.Differs := by
  have hreading := List.pairwise_filter.mp (List.pairwise_map.mp (hplaces.sublist h.reading))
  have hopening := List.pairwise_filter.mp (List.pairwise_map.mp (hplaces.sublist h.opening))
  refine (hreading.and hopening).imp ?_
  rintro diagnostic other ⟨hboth, hneither⟩ ⟨hmessage, hposition⟩
  have hsame : diagnostic.isAtOpening = other.isAtOpening := by
    rw [Bool.eq_iff_iff, Diagnostic.isAtOpening_iff, Diagnostic.isAtOpening_iff, hmessage]
  cases hother : other.isAtOpening with
  | true =>
      rw [hother] at hsame
      exact (hneither hsame hother).ne hposition
  | false =>
      rw [hother] at hsame
      exact (hboth (by rw [hsame]; rfl) (by rw [hother]; rfl)).ne hposition

theorem pairwise_unterminated : (frames.map Frame.unterminated).Pairwise Diagnostic.Differs := by
  have hframes : (frames.map Frame.tag).Pairwise fun tag other => other.Before tag :=
    (List.pairwise_reverse.mpr hplaces).sublist h.frames
  rw [List.pairwise_map] at hframes ⊢
  refine hframes.imp ?_
  rintro frame other hbefore ⟨-, hposition⟩
  rw [frame.position_unterminated, other.position_unterminated] at hposition
  exact hbefore.ne hposition.symm

theorem pairwise_append :
    (diagnostics ++ frames.map Frame.unterminated).Pairwise Diagnostic.Differs := by
  refine List.pairwise_append.mpr
    ⟨h.pairwise_diagnostics hplaces, h.pairwise_unterminated hplaces, ?_⟩
  rintro diagnostic hdiagnostic other hother ⟨hmessage, -⟩
  obtain ⟨frame, -, rfl⟩ := List.mem_map.mp hother
  have hend := frame.problem_unterminated
  have hproblem := Problem.eq_of_message_eq (List.mem_append_left _ hend) hmessage.symm
  exact h.ends diagnostic hdiagnostic (hproblem ▸ hend)

end OpenTemplate.Reported

/-- The diagnostics of a source but those worded as one of the problems with an opening stand in
the order of their places, no two of them at one.  No diagnostic says the same as another at the
same place, and each has the place of a token of the source. -/
theorem diagnostics_in_order (source : String) :
    (∀ diagnostic : Diagnostic, diagnostic.isAtOpening = true ↔
        diagnostic.message ∈ Problem.openings.map Problem.message) ∧
      (Diagnostic.readingPlaces (readSource source).2).Pairwise Position.Before ∧
      (readSource source).2.Pairwise Diagnostic.Differs ∧
      ∀ diagnostic ∈ (readSource source).2, diagnostic.IsAt (Scanner.ofSource source).tokens := by
  have hplaces := Scanner.pairwise_before_tokens (.ofSource source)
  have hreported := OpenTemplate.reported_read (Scanner.ofSource source).tokens
  have hdiagnostics : (readSource source).2 = _ := OpenTemplate.diagnostics_closeAll _
  rw [hdiagnostics, Diagnostic.readingPlaces_append_unterminated]
  exact ⟨Diagnostic.isAtOpening_iff, hplaces.sublist hreported.reading,
    hreported.pairwise_append hplaces, hreported.isAt⟩

end Stencil
