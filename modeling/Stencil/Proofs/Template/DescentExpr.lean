import Stencil.Proofs.Template.Descent
import Stencil.Proofs.Template.ParseExpr

/-!
# Expressions by descent are read the same

The machine for expressions keeps on a stack what a reader by descent keeps in the calls that it
is inside of.  So where the reader goes from one token to another, the machine comes from any
stack on which nothing waits that binds as tightly as the level of the reader, to the same stack
with the expression at hand; and where the reader gives up, the machine fails on the same token
with the same diagnostic.

What the machine makes of a right operand that is complete, in front of an operator that binds
no more tightly or of the end of the expression, is what it makes of the two operands joined.
-/

namespace Stencil

namespace Progress

variable {State Result : Type}

/-- What a machine comes to over tokens: more than it has seen, a result or a failure, with the
token on which it has stopped and those behind it. -/
def settle (step : State → Token → Progress State Result) (state : State) :
    List Token → Progress State Result × List Token
  | [] => (.more state, [])
  | token :: ts =>
      match step state token with
      | .more next => settle step next ts
      | .done result => (.done result, token :: ts)
      | .failed diagnostic => (.failed diagnostic, token :: ts)

variable {step : State → Token → Progress State Result} {state next : State} {token : Token}
  {ts : List Token}

theorem settle_of_more (h : step state token = .more next) :
    settle step state (token :: ts) = settle step next ts := by
  rw [settle, h]

theorem settle_of_failed {diagnostic : Diagnostic} (h : step state token = .failed diagnostic) :
    settle step state (token :: ts) = (.failed diagnostic, token :: ts) := by
  rw [settle, h]

theorem settle_congr (h : step state token = step next token) :
    settle step state (token :: ts) = settle step next (token :: ts) := by
  rw [settle, settle, h]

end Progress

open Progress Reader

/-- What holds of the result of an attempt, if there is one. -/
def Ensures {α : Type} (attempt : Option (α × Reader)) (post : α → Reader → Prop) : Prop :=
  ∀ result behind, attempt = some (result, behind) → post result behind

namespace Ensures

variable {α β : Type} {post : α → Reader → Prop} {further : β → Reader → Prop}

theorem nothing : Ensures none post :=
  nofun

theorem result {result : α} {behind : Reader} (h : post result behind) :
    Ensures (some (result, behind)) post := by
  rintro _ _ ⟨rfl, rfl⟩
  exact h

theorem bind {attempt : Option (α × Reader)} {next : α × Reader → Option (β × Reader)}
    (h : Ensures attempt post)
    (hnext : ∀ result behind, post result behind → Ensures (next (result, behind)) further) :
    Ensures (attempt.bind next) further := by
  intro last final hlast
  obtain ⟨⟨result, behind⟩, hattempt, hfurther⟩ := Option.bind_eq_some_iff.mp hlast
  exact hnext result behind (h result behind hattempt) last final hfurther

theorem mono {attempt : Option (α × Reader)} {weaker : α → Reader → Prop} (h : Ensures attempt post)
    (hweaker : ∀ result behind, post result behind → weaker result behind) :
    Ensures attempt weaker :=
  fun result behind hattempt => hweaker result behind (h result behind hattempt)

end Ensures

namespace TokenKind

/-- The kinds of tokens that do not begin a suffix of an operand. -/
def EndsOperand (kind : TokenKind) : Prop :=
  kind ≠ .dot ∧ kind ≠ .openBracket

/-- The kinds of tokens in front of which an expression ends whose operators bind at least as
tightly as a minimum. -/
def EndsLevel (minimum : ℕ) (kind : TokenKind) : Prop :=
  kind.EndsOperand ∧ ∀ op, BinaryOp.ofKind? kind = some op → op.precedence < minimum

theorem EndsLevel.endsExpr {kind : TokenKind} (h : kind.EndsLevel Descent.lowest) :
    kind.EndsExpr := by
  refine ⟨h.1.1, h.1.2, ?_⟩
  cases hop : BinaryOp.ofKind? kind with
  | none => rfl
  | some op => exact absurd (h.2 op hop) (Nat.not_lt.mpr op.precedence_pos)

end TokenKind

namespace OpenExpr

/-- In front of a token that binds no more tightly than an operator, its two operands are as
good as joined. -/
theorem step_joined {pending : List Pending} {left right : Expr} {op : BinaryOp} {token : Token}
    (h : token.kind.EndsLevel (op.precedence + 1)) :
    step ⟨.operator left op :: pending, .suffix right⟩ token =
      step ⟨pending, .suffix (.binary left op right)⟩ token := by
  have hjoin (minimum : ℕ) (hminimum : minimum ≤ op.precedence) :
      join minimum right (.operator left op :: pending) =
        join minimum (.binary left op right) pending := by
    rw [join, if_pos hminimum]
  change stepSuffix _ right token = stepSuffix pending _ token
  cases hop : BinaryOp.ofKind? token.kind with
  | none =>
      have hends : token.kind.EndsExpr := ⟨h.1.1, h.1.2, hop⟩
      rw [stepSuffix_of_endsExpr hends, stepSuffix_of_endsExpr hends, close, close,
        hjoin 0 (Nat.zero_le _)]
  | some sign =>
      have hsign := Nat.le_of_lt_succ (h.2 sign hop)
      rw [stepSuffix_of_operator hop, stepSuffix_of_operator hop, hjoin _ hsign]

/-- Behind a position that is complete, the machine waits for the bracket as the reader does. -/
theorem step_position {pending : List Pending} {base position : Expr} {token : Token}
    (h : token.kind.EndsExpr) :
    step ⟨.bracket base :: pending, .suffix position⟩ token =
      if token.kind = .closeBracket then .more ⟨pending, .suffix (.index base position)⟩
      else .failed (.expected (.token .closeBracket) token) :=
  stepSuffix_of_endsExpr h

end OpenExpr

/-- A reader that goes from one token to another while the machine for expressions, with
anything waiting that binds less tightly than a level, comes from a point of reading to an
expression in front of a token of a kind, or else fails on the token at which the reader then
stands. -/
inductive Reads (level : ℕ) (follows : TokenKind → Prop) (reader : Reader) (point : ReadingPoint) :
    Option Expr → Reader → Prop
  | expr {expr : Expr} {behind : Reader} (hdiagnostics : behind.diagnostics = reader.diagnostics)
      (hfollows : follows behind.current.kind)
      (hsettle : ∀ pending, Pending.level pending < level →
        settle OpenExpr.step ⟨pending, point⟩ reader.left =
          settle OpenExpr.step ⟨pending, .suffix expr⟩ behind.left) :
      Reads level follows reader point (some expr) behind
  | failed {diagnostic : Diagnostic} {behind : Reader}
      (hdiagnostics : behind.diagnostics = reader.diagnostics ++ [diagnostic])
      (hsettle : ∀ pending, Pending.level pending < level →
        settle OpenExpr.step ⟨pending, point⟩ reader.left = (.failed diagnostic, behind.left)) :
      Reads level follows reader point none behind

namespace Reads

variable {level : ℕ} {follows : TokenKind → Prop} {reader middle behind : Reader}
  {point : ReadingPoint} {expr : Expr} {result : Option Expr}

theorem refl (level : ℕ) (hfollows : follows reader.current.kind) :
    Reads level follows reader (.suffix expr) (some expr) reader :=
  .expr rfl hfollows fun _ _ => rfl

/-- What is read whatever waits is read at any level. -/
theorem of_tightest (h : Reads Expr.tightest follows reader point result behind) :
    Reads level follows reader point result behind := by
  cases h with
  | expr hdiagnostics hfollows hsettle =>
      exact .expr hdiagnostics hfollows fun pending _ =>
        hsettle pending (Pending.level_lt_tightest pending)
  | failed hdiagnostics hsettle =>
      exact .failed hdiagnostics fun pending _ =>
        hsettle pending (Pending.level_lt_tightest pending)

theorem of_none {others : TokenKind → Prop} (h : Reads level others reader point none behind) :
    Reads level follows reader point none behind := by
  cases h with
  | failed hdiagnostics hsettle => exact .failed hdiagnostics hsettle

theorem trans {between : TokenKind → Prop}
    (hfirst : Reads level between reader point (some expr) middle)
    (hsecond : Reads level follows middle (.suffix expr) result behind) :
    Reads level follows reader point result behind := by
  cases hfirst with
  | expr hdiagnostics _ hsettle =>
      cases hsecond with
      | expr hlast hfollows hfurther =>
          refine .expr (hlast.trans hdiagnostics) hfollows ?_
          intro pending hpending
          rw [hsettle pending hpending, hfurther pending hpending]
      | failed hlast hfurther =>
          refine .failed (by rw [hlast, hdiagnostics]) ?_
          intro pending hpending
          rw [hsettle pending hpending, hfurther pending hpending]

/-- A token that completes an operand, whatever waits. -/
theorem of_operand (hend : reader.current.kind ≠ .endOfInput)
    (hfollows : follows reader.advance.current.kind)
    (hstep : ∀ pending,
      OpenExpr.step ⟨pending, point⟩ reader.current = .more ⟨pending, .suffix expr⟩) :
    Reads level follows reader point (some expr) reader.advance := by
  refine .expr rfl hfollows ?_
  intro pending _
  rw [left_eq_cons hend, settle_of_more (hstep pending)]

/-- A token on which the machine fails, whatever waits. -/
theorem of_failed {diagnostic : Diagnostic}
    (hstep : ∀ pending, OpenExpr.step ⟨pending, point⟩ reader.current = .failed diagnostic) :
    Reads level follows reader point none (reader.report diagnostic) := by
  refine .failed rfl ?_
  intro pending _
  change settle OpenExpr.step ⟨pending, point⟩ reader.left = (.failed diagnostic, reader.left)
  rw [left_eq_current]
  exact settle_of_failed (hstep pending)

/-- A token that only leads to another point of reading, whatever waits. -/
theorem of_advance {inside : ReadingPoint} (hend : reader.current.kind ≠ .endOfInput)
    (hstep : ∀ pending, OpenExpr.step ⟨pending, point⟩ reader.current = .more ⟨pending, inside⟩)
    (h : Reads level follows reader.advance inside result behind) :
    Reads level follows reader point result behind := by
  cases h with
  | expr hdiagnostics hfollows hsettle =>
      refine .expr hdiagnostics hfollows ?_
      intro pending hpending
      rw [left_eq_cons hend, settle_of_more (hstep pending), hsettle pending hpending]
  | failed hdiagnostics hsettle =>
      refine .failed hdiagnostics ?_
      intro pending hpending
      rw [left_eq_cons hend, settle_of_more (hstep pending), hsettle pending hpending]

/-- A token in front of which the machine waits for a name. -/
theorem word (level : ℕ) {what : Expectation} {named : String → Expr}
    (hpoint : ∀ pending token,
      OpenExpr.step ⟨pending, point⟩ token = OpenExpr.stepName pending what named token) :
    Reads level (fun _ => True) reader point ((reader.word what).1.map named)
      (reader.word what).2 := by
  rcases word_cases what reader with ⟨hkind, hword⟩ | ⟨hkind, hword⟩
  · rw [hword]
    refine of_operand (ne_end_of_isWord hkind) trivial ?_
    intro pending
    rw [hpoint, OpenExpr.stepName, if_pos hkind]
  · rw [hword]
    refine of_failed ?_
    intro pending
    rw [hpoint, OpenExpr.stepName, if_neg (by rw [hkind]; exact Bool.false_ne_true)]

end Reads

theorem reads_primary (reader : Reader) :
    Reads Expr.tightest (fun _ => True) reader .operand reader.primary.1 reader.primary.2 := by
  rw [primary]
  split
  · rename_i hdollar
    have hend := ne_end_of_kind hdollar (by decide)
    have hname : ∀ pending, OpenExpr.step ⟨pending, .operand⟩ reader.current =
        .more ⟨pending, .variableName⟩ := by
      intro pending
      simp only [OpenExpr.step, OpenExpr.stepOperand, hdollar]
    exact .of_advance hend hname (.word _ fun _ _ => rfl)
  · rename_i hnumber
    refine .of_operand (ne_end_of_kind hnumber (by decide)) trivial ?_
    intro pending
    simp only [OpenExpr.step, OpenExpr.stepOperand, hnumber]
  · rename_i hstring
    refine .of_operand (ne_end_of_kind hstring (by decide)) trivial ?_
    intro pending
    simp only [OpenExpr.step, OpenExpr.stepOperand, hstring]
  · rename_i hdollar hnumber hstring
    refine .of_failed ?_
    intro pending
    change OpenExpr.stepOperand pending reader.current = _
    rw [OpenExpr.stepOperand]
    split
    · exact absurd ‹_› hdollar
    · exact absurd ‹_› hnumber
    · exact absurd ‹_› hstring
    · rfl

namespace Descent

/-- Functions for expressions that read what the machine reads. -/
structure ReadsExpr (calls : Descent) : Prop where
  expression (minimum : ℕ) (reader : Reader) :
    Ensures (calls.expression minimum reader)
      (Reads minimum (TokenKind.EndsLevel minimum) reader .operand)
  suffixes (operand : Expr) (reader : Reader) :
    Ensures (calls.suffixes operand reader)
      (Reads Expr.tightest TokenKind.EndsOperand reader (.suffix operand))
  operators (minimum : ℕ) (left : Expr) (reader : Reader) (h : reader.current.kind.EndsOperand) :
    Ensures (calls.operators minimum left reader)
      (Reads minimum (TokenKind.EndsLevel minimum) reader (.suffix left))

/-- What a round of a loop over operands reads: the state with which it goes on, or the result. -/
def RoundReads (level : ℕ) (between follows : TokenKind → Prop) (reader : Reader)
    (point : ReadingPoint) :
    LoopRound Expr (Option Expr) → Reader → Prop
  | .goesOn expr, behind => Reads level between reader point (some expr) behind
  | .ends result, behind => Reads level follows reader point result behind

variable {calls : Descent} {reader : Reader}

theorem reads_readExpression (hcalls : calls.ReadsExpr) (minimum : ℕ) :
    Ensures (calls.readExpression minimum reader)
      (Reads minimum (TokenKind.EndsLevel minimum) reader .operand) := by
  have hprimary := reads_primary reader
  rw [readExpression]
  generalize reader.primary = outcome at hprimary ⊢
  obtain ⟨first, middle⟩ := outcome
  cases first with
  | none => exact .result (Reads.of_tightest (Reads.of_none hprimary))
  | some first =>
      refine (hcalls.suffixes first middle).bind ?_
      intro operand behind hsuffixes
      have hoperand := hprimary.trans hsuffixes
      cases operand with
      | none => exact .result (Reads.of_tightest (Reads.of_none hoperand))
      | some operand =>
          refine (hcalls.operators minimum operand behind ?_).mono ?_
          · cases hsuffixes with
            | expr _ hfollows _ => exact hfollows
          · intro result last hoperators
            exact (Reads.of_tightest hoperand).trans hoperators

theorem reads_suffixRound (hcalls : calls.ReadsExpr) (operand : Expr) (reader : Reader) :
    Ensures (calls.suffixRound operand reader)
      (RoundReads Expr.tightest (fun _ => True) TokenKind.EndsOperand reader
        (.suffix operand)) := by
  rw [suffixRound]
  split
  · rename_i hdot
    have hend := ne_end_of_kind hdot (by decide)
    have hproperty : ∀ pending, OpenExpr.step ⟨pending, .suffix operand⟩ reader.current =
        .more ⟨pending, .propertyName operand⟩ := by
      intro pending
      simp only [OpenExpr.step, OpenExpr.stepSuffix, hdot]
    have hread : Reads Expr.tightest (fun _ => True) reader (.suffix operand)
        ((reader.advance.word .propertyName).1.map (.field operand))
        (reader.advance.word .propertyName).2 :=
      .of_advance hend hproperty (.word _ fun _ _ => rfl)
    generalize reader.advance.word .propertyName = outcome at hread ⊢
    obtain ⟨name, behind⟩ := outcome
    cases name with
    | none => exact .result (Reads.of_none hread)
    | some name => exact .result hread
  · rename_i hbracket
    have hend := ne_end_of_kind hbracket (by decide)
    have hwaits (pending : List Pending) :
        settle OpenExpr.step ⟨pending, .suffix operand⟩ reader.left =
          settle OpenExpr.step ⟨.bracket operand :: pending, .operand⟩ reader.advance.left := by
      rw [left_eq_cons hend]
      refine settle_of_more ?_
      simp only [OpenExpr.step, OpenExpr.stepSuffix, hbracket]
    refine (hcalls.expression lowest reader.advance).bind ?_
    intro position middle hposition
    cases hposition with
    | failed hdiagnostics hsettle =>
        refine .result (.failed hdiagnostics ?_)
        intro pending _
        rw [hwaits]
        exact hsettle (.bracket operand :: pending) Nat.one_pos
    | @expr position _ hdiagnostics hfollows hsettle =>
        have hinside (pending : List Pending) :
            settle OpenExpr.step ⟨pending, .suffix operand⟩ reader.left =
              settle OpenExpr.step ⟨.bracket operand :: pending, .suffix position⟩ middle.left := by
          rw [hwaits]
          exact hsettle (.bracket operand :: pending) Nat.one_pos
        dsimp only
        rcases expect_cases .closeBracket middle with ⟨hkind, hexpect⟩ | ⟨hkind, hexpect⟩
        · rw [hexpect]
          refine .result (.expr hdiagnostics trivial ?_)
          intro pending _
          rw [hinside, left_eq_cons (ne_end_of_kind hkind (by decide))]
          refine settle_of_more ?_
          rw [OpenExpr.step_position hfollows.endsExpr, if_pos hkind]
        · rw [hexpect]
          refine .result (.failed (congrArg (· ++ [_]) hdiagnostics) ?_)
          intro pending _
          change _ = (_, middle.left)
          rw [hinside, left_eq_current]
          refine settle_of_failed ?_
          rw [OpenExpr.step_position hfollows.endsExpr, if_neg hkind]
  · rename_i hdot hbracket
    exact .result (.refl _ ⟨hdot, hbracket⟩)

theorem reads_operatorRound (hcalls : calls.ReadsExpr) (minimum : ℕ) (left : Expr) {reader : Reader}
    (hreader : reader.current.kind.EndsOperand) :
    Ensures (calls.operatorRound minimum left reader)
      (RoundReads minimum TokenKind.EndsOperand (TokenKind.EndsLevel minimum) reader
        (.suffix left)) := by
  rw [operatorRound]
  split
  · rename_i hop
    refine .result (.refl _ ⟨hreader, ?_⟩)
    intro op hkind
    rw [hop] at hkind
    cases hkind
  · rename_i op hop
    split
    · rename_i hlevel
      refine .result (.refl _ ⟨hreader, ?_⟩)
      intro sign hkind
      rw [hop] at hkind
      cases hkind
      exact hlevel
    · rename_i hlevel
      -- The left operand binds more tightly than what waits, so it waits on top of that.
      have hwaits (pending : List Pending) (hpending : Pending.level pending < minimum) :
          settle OpenExpr.step ⟨pending, .suffix left⟩ reader.left =
            settle OpenExpr.step ⟨.operator left op :: pending, .operand⟩ reader.advance.left := by
        have hjoin : OpenExpr.join op.precedence left pending = (left, pending) :=
          OpenExpr.join_of_level_lt (Nat.lt_of_lt_of_le hpending (Nat.not_lt.mp hlevel))
        rw [left_eq_cons (ne_end_of_ofKind? hop)]
        refine settle_of_more ?_
        change OpenExpr.stepSuffix pending left reader.current = _
        rw [OpenExpr.stepSuffix_of_operator hop, hjoin]
      refine (hcalls.expression (op.precedence + 1) reader.advance).bind ?_
      intro right behind hright
      cases hright with
      | failed hdiagnostics hsettle =>
          refine .result (.failed hdiagnostics ?_)
          intro pending hpending
          rw [hwaits pending hpending]
          exact hsettle (.operator left op :: pending) (Nat.lt_succ_self _)
      | expr hdiagnostics hfollows hsettle =>
          refine .result (.expr hdiagnostics hfollows.1 ?_)
          intro pending hpending
          rw [hwaits pending hpending, hsettle (.operator left op :: pending) (Nat.lt_succ_self _),
            left_eq_current]
          exact settle_congr (OpenExpr.step_joined hfollows)

/-! ## Loops -/

/-- A loop over operands reads what its rounds read one behind the other. -/
theorem reads_andThen {level : ℕ} {between follows : TokenKind → Prop} {operand : Expr}
    {round : Option (LoopRound Expr (Option Expr) × Reader)}
    {further : Expr → Reader → Option (Option Expr × Reader)}
    (hround : Ensures round (RoundReads level between follows reader (.suffix operand)))
    (hfurther : ∀ expr behind, between behind.current.kind →
      Ensures (further expr behind) (Reads level follows behind (.suffix expr))) :
    Ensures (round.bind (LoopRound.andThen further))
      (Reads level follows reader (.suffix operand)) := by
  refine hround.bind ?_
  rintro (expr | result) behind hreads
  · cases hreads with
    | expr hdiagnostics hbetween hsettle =>
        refine (hfurther expr behind hbetween).mono ?_
        intro result last hlast
        exact (Reads.expr hdiagnostics hbetween hsettle).trans hlast
  · exact .result hreads

theorem ReadsExpr.deeper (hcalls : calls.ReadsExpr) : calls.deeper.ReadsExpr where
  expression minimum _ := reads_readExpression hcalls minimum
  suffixes operand reader :=
    reads_andThen (reads_suffixRound hcalls operand reader) fun expr behind _ =>
      hcalls.suffixes expr behind
  operators minimum left _ h :=
    reads_andThen (reads_operatorRound hcalls minimum left h) (hcalls.operators minimum)

theorem readsExpr_within (depth : ℕ) : (within depth).ReadsExpr := by
  induction depth with
  | zero => constructor <;> intros <;> exact .nothing
  | succ depth ih => exact ih.deeper

end Descent

end Stencil
