import Stencil.Proofs.Template.CleanStep
import Stencil.Proofs.Template.ReadTag

/-!
# Reader and scanner agree

The reader of templates and the scanner each keep a mode of their own, and neither tells the
other.  As long as nothing is recorded they agree all the same: the reader is between tags when
the scanner is in text mode, inside a tag when it is in tag mode, and inside a literal block
when the scanner has left the tag that opens one.
-/

namespace Stencil

namespace Frame

/-- The keywords that go on with a condition or loop, and what they begin. -/
theorem continuation?_cases
    {frame : Frame} {kind : TokenKind} {mode : ReadingMode}
    (h : frame.continuation? kind = some mode) :
    kind.isInner = true ∧ kind ≠ .literalWord ∧
      (mode = .elseIfTag .start ∨ ∃ effect, mode = .keyword effect ∧
        ∀ tag, effect ≠ .literal tag) := by
  rw [continuation?.eq_def] at h
  split at h
  · cases h
    exact ⟨rfl, nofun, .inl rfl⟩
  · cases h
    exact ⟨rfl, nofun, .inr ⟨_, rfl, nofun⟩⟩
  · cases h
    exact ⟨rfl, nofun, .inr ⟨_, rfl, nofun⟩⟩
  · cases h
    exact ⟨rfl, nofun, .inr ⟨_, rfl, nofun⟩⟩
  · cases h
    exact ⟨rfl, nofun, .inr ⟨_, rfl, nofun⟩⟩
  · cases h
    exact ⟨rfl, nofun, .inr ⟨_, rfl, nofun⟩⟩
  · cases h
    exact ⟨rfl, nofun, .inr ⟨_, rfl, nofun⟩⟩
  · cases h

end Frame

namespace ReadingMode

/-- A mode of the reader and a scanner that agree on where they are. -/
def Aligned : ReadingMode → Scanner → Prop
  | .text, scanner => scanner.mode = .text
  | .brace, scanner => scanner.mode = .tag ∧ scanner.recent.2 = .openTag
  | .keyword (.literal _), scanner =>
      scanner.mode = .tag ∧ scanner.recent = (.openTag, .literalWord)
  | .literal _ _, scanner => scanner.mode ≠ .tag
  | .literalBrace _ _, scanner => scanner.mode = .tag ∧ scanner.recent.2 = .openTag
  | .skipping, _ => False
  | _, scanner => scanner.InsideTag

theorem aligned_keyword
    {effect : TagEffect} {scanner : Scanner} (heffect : ∀ tag, effect ≠ .literal tag) :
    (keyword effect).Aligned scanner ↔ scanner.InsideTag := by
  cases effect with
  | literal tag => exact (heffect tag rfl).elim
  | _ => exact Iff.rfl

end ReadingMode

namespace OpenTemplate

open ReadingMode

theorem modeBehind_of_ne_literal
    {effect : TagEffect} (h : ∀ tag, effect ≠ .literal tag) : modeBehind effect = .text := by
  cases effect with
  | literal tag => exact (h tag rfl).elim
  | _ => rfl

/-- Behind the brace of a keyword tag, the reader is inside a literal block only if the scanner
is. -/
theorem aligned_keyword_step
    {effect : TagEffect} {scanner : Scanner}
    (h : (ReadingMode.keyword effect).Aligned scanner)
    (hkind : scanner.token.kind = .closeTag) :
    (modeBehind effect).Aligned scanner.next := by
  by_cases hliteral : ∃ tag, effect = .literal tag
  · obtain ⟨tag, rfl⟩ := hliteral
    have hraw : scanner.next.mode = .raw := by
      rw [Scanner.mode_next (by rw [hkind]; exact nofun), hkind, h.2]
      rfl
    simp [modeBehind, Aligned, hraw]
  · have heffect : ∀ tag, effect ≠ .literal tag := fun tag htag => hliteral ⟨tag, htag⟩
    rw [aligned_keyword heffect] at h
    rw [modeBehind_of_ne_literal heffect]
    exact Scanner.mode_next_of_closeTag h hkind

/-- A clean step keeps reader and scanner in agreement. -/
theorem aligned_of_cleanStep
    {template next : OpenTemplate} {scanner : Scanner}
    (h : template.mode.Aligned scanner) (hend : scanner.token.kind ≠ .endOfInput)
    (hstep : CleanStep template scanner.token next) : next.mode.Aligned scanner.next := by
  have hnext := Scanner.mode_next hend
  cases hstep with
  | text hmode hkind =>
      rw [hkind] at hnext
      exact hnext
  | brace hmode hkind =>
      rw [hkind] at hnext
      exact ⟨hnext, hkind⟩
  | stray hmode htext hbrace =>
      rw [hmode] at h
      have houter : scanner.token.kind.isOuter = true :=
        Scanner.isOuter_token (by rw [h]; exact nofun)
      rw [TokenKind.eq_comment_of_isOuter houter htext hbrace hend] at hnext
      exact hnext
  | continuation hmode hframes hcontinuation =>
      obtain ⟨hinner, hliteral, hcases⟩ := Frame.continuation?_cases hcontinuation
      have hinside := Scanner.insideTag_next_of_brace hinner hliteral
      rcases hcases with rfl | ⟨effect, rfl, heffect⟩
      · exact hinside
      · exact (aligned_keyword heffect).mpr hinside
  | dollar hmode hkind =>
      exact Scanner.insideTag_next_of_brace (TokenKind.isInner_of_eq hkind rfl)
        (by rw [hkind]; exact nofun)
  | ifWord hmode hkind =>
      exact Scanner.insideTag_next_of_brace (TokenKind.isInner_of_eq hkind rfl)
        (by rw [hkind]; exact nofun)
  | foreachWord hmode hkind =>
      exact Scanner.insideTag_next_of_brace (TokenKind.isInner_of_eq hkind rfl)
        (by rw [hkind]; exact nofun)
  | literalWord hmode hkind =>
      rw [hmode] at h
      rw [hkind] at hnext
      exact ⟨hnext, by rw [Scanner.recent_next, h.2, hkind]⟩
  | action hmode hstep =>
      rw [hmode] at h
      exact Scanner.insideTag_next h (OpenAction.isInner_of_step_more hstep)
  | ifTag hmode hstep =>
      rw [hmode] at h
      exact Scanner.insideTag_next h (OpenCondition.isInner_of_step_more hstep)
  | elseIfTag hmode hstep =>
      rw [hmode] at h
      exact Scanner.insideTag_next h (OpenCondition.isInner_of_step_more hstep)
  | foreachTag hmode hstep =>
      rw [hmode] at h
      exact Scanner.insideTag_next h (OpenLoop.isInner_of_step_more hstep)
  | actionEnd hmode hstep =>
      rw [hmode] at h
      exact Scanner.mode_next_of_closeTag h (OpenAction.kind_of_step_done hstep)
  | ifTagEnd hmode hstep =>
      rw [hmode] at h
      exact Scanner.mode_next_of_closeTag h (OpenCondition.kind_of_step_done hstep)
  | elseIfTagEnd hmode hstep =>
      rw [hmode] at h
      exact Scanner.mode_next_of_closeTag h (OpenCondition.kind_of_step_done hstep)
  | foreachTagEnd hmode hstep =>
      rw [hmode] at h
      exact Scanner.mode_next_of_closeTag h (OpenLoop.kind_of_step_done hstep)
  | keyword hmode hkind =>
      rw [hmode] at h
      exact aligned_keyword_step h hkind
  | skipping hmode hkind =>
      rw [hmode] at h
      exact h.elim
  | skippingEnd hmode hkind =>
      rw [hmode] at h
      exact h.elim
  | literal hmode hkind =>
      rw [hkind] at hnext
      exact fun htag => nomatch hnext.symm.trans htag
  | literalBrace hmode hkind =>
      rw [hkind] at hnext
      exact ⟨hnext, hkind⟩
  | endLiteral hmode hkind =>
      exact Scanner.insideTag_next_of_brace (TokenKind.isInner_of_eq hkind rfl)
        (by rw [hkind]; exact nofun)

end OpenTemplate

end Stencil
