import Stencil.Proofs.Template.Grammar
import Stencil.Proofs.Token.Modes

/-!
# Expressions are read as the grammar says

What has been read of an expression is written by the tokens that have been taken: each waiting
operand and the operand at hand by tokens of its own.  Beside that the waiting operators bind
more and more tightly from one bracket to the next, which makes the order of joining right.

One step keeps this, so an expression that is complete is derived from its tokens.  The other
way round, tokens from which an expression is derived are read without failure, up to operators
that still wait for the token behind the expression.
-/

namespace Stencil

namespace BinaryOp

theorem isInner_of_ofKind?
    {kind : TokenKind} {op : BinaryOp} (h : ofKind? kind = some op) : kind.isInner = true := by
  cases kind with
  | _ => first | rfl | cases h

theorem precedence_pos (op : BinaryOp) : 0 < op.precedence := by
  cases op <;> decide

theorem precedence_lt_tightest (op : BinaryOp) : op.precedence < Expr.tightest := by
  cases op <;> decide

end BinaryOp

namespace Pending

/-- How tightly the innermost waiting operator binds. -/
def level : List Pending → Nat
  | .operator _ op :: _ => op.precedence
  | _ => 0

theorem level_lt_tightest (pending : List Pending) : level pending < Expr.tightest := by
  cases pending with
  | nil => exact Nat.zero_lt_succ 3
  | cons first rest =>
      cases first with
      | operator left op => exact op.precedence_lt_tightest
      | bracket base => exact Nat.zero_lt_succ 3

/-- Tokens that have been read of what waits. -/
inductive Read : List Pending → List Token → Prop
  | nil : Read [] []
  | operator {rest : List Pending} {left : Expr} {op : BinaryOp} {ts us : List Token}
      {sign : Token}
      (hrest : Read rest ts) (hleft : left.Derives us) (htight : op.precedence ≤ left.tightness)
      (hlevel : level rest < op.precedence) (hsign : BinaryOp.ofKind? sign.kind = some op) :
      Read (.operator left op :: rest) (ts ++ us ++ [sign])
  | bracket {rest : List Pending} {base : Expr} {ts us : List Token} {left : Token}
      (hrest : Read rest ts) (hbase : base.Derives us) (htight : base.tightness = Expr.tightest)
      (hleft : left.kind = .openBracket) :
      Read (.bracket base :: rest) (ts ++ us ++ [left])

end Pending

/-- Tokens that have been read of the operand at hand. -/
inductive ReadingPoint.Read : ReadingPoint → List Token → Prop
  | operand : Read .operand []
  | variableName {dollar : Token} (hdollar : dollar.kind = .dollar) : Read .variableName [dollar]
  | suffix {operand : Expr} {ts : List Token}
      (hoperand : operand.Derives ts) (htight : operand.tightness = Expr.tightest) :
      Read (.suffix operand) ts
  | propertyName {base : Expr} {ts : List Token} {dot : Token}
      (hbase : base.Derives ts) (htight : base.tightness = Expr.tightest)
      (hdot : dot.kind = .dot) :
      Read (.propertyName base) (ts ++ [dot])

namespace OpenExpr

/-- Tokens that have been read of an expression. -/
def Read (expr : OpenExpr) (ts : List Token) : Prop :=
  ∃ us vs, Pending.Read expr.pending us ∧ expr.point.Read vs ∧ ts = us ++ vs

theorem read_start : start.Read [] :=
  ⟨[], [], .nil, .operand, rfl⟩

theorem read_startVariable {dollar : Token} (hdollar : dollar.kind = .dollar) :
    startVariable.Read [dollar] :=
  ⟨[], [dollar], .nil, .variableName hdollar, rfl⟩

/-- What joining leaves: an operand at least as tight as the minimum, in front of which only
operators wait that bind less tightly than the minimum. -/
structure Joined (minimum : Nat) (ts : List Token) (result : Expr × List Pending) : Prop where
  read : ∃ us vs, Pending.Read result.2 us ∧ result.1.Derives vs ∧ ts = us ++ vs
  tight : minimum ≤ result.1.tightness
  level : Pending.level result.2 < minimum ∨ Pending.level result.2 = 0

/-- Joining keeps the tokens: it only makes operands of a waiting operator into one operand. -/
theorem joined_join
    (minimum : Nat) {pending : List Pending} {operand : Expr} {us vs : List Token}
    (hpending : Pending.Read pending us) (hoperand : operand.Derives vs)
    (hlevel : Pending.level pending < operand.tightness)
    (hminimum : minimum ≤ operand.tightness) :
    Joined minimum (us ++ vs) (join minimum operand pending) := by
  induction hpending generalizing operand vs with
  | nil => exact ⟨⟨[], vs, .nil, hoperand, rfl⟩, hminimum, .inr rfl⟩
  | @operator rest left op ts us sign hrest hleft htight hbelow hsign ih =>
      rw [join]
      split
      · rename_i hmin
        have hjoined : (Expr.binary left op operand).Derives (us ++ sign :: vs) :=
          .binary hleft htight hsign hoperand hlevel
        simpa using ih hjoined hbelow hmin
      · rename_i hmin
        exact ⟨⟨ts ++ us ++ [sign], vs, .operator hrest hleft htight hbelow hsign, hoperand, rfl⟩,
          hminimum, .inl (Nat.lt_of_not_le hmin)⟩
  | @bracket rest base ts us left hrest hbase htight hleft ih =>
      exact ⟨⟨ts ++ us ++ [left], vs, .bracket hrest hbase htight hleft, hoperand, rfl⟩,
        hminimum, .inr rfl⟩

/-! ## One step -/

theorem read_of_stepOperand
    {pending : List Pending} {ts : List Token} {token : Token} {next : OpenExpr}
    (hpending : Pending.Read pending ts) (hstep : stepOperand pending token = .more next) :
    next.Read (ts ++ [token]) := by
  rw [stepOperand] at hstep
  split at hstep
  · rename_i hkind
    cases hstep
    exact ⟨ts, [token], hpending, .variableName hkind, rfl⟩
  · rename_i hkind
    cases hstep
    exact ⟨ts, [token], hpending, .suffix (.number hkind) rfl, rfl⟩
  · rename_i hkind
    cases hstep
    exact ⟨ts, [token], hpending, .suffix (.string hkind) rfl, rfl⟩
  · cases hstep

theorem read_of_stepName
    {pending : List Pending} {what : Expectation} {named : String → Expr} {us vs : List Token}
    {token : Token} {next : OpenExpr}
    (hpending : Pending.Read pending us)
    (hnamed : token.kind.isWord = true → (named token.literal).Derives (vs ++ [token]))
    (htight : ∀ name, (named name).tightness = Expr.tightest)
    (hstep : stepName pending what named token = .more next) :
    next.Read (us ++ vs ++ [token]) := by
  rw [stepName] at hstep
  split at hstep
  · rename_i hword
    cases hstep
    exact ⟨us, vs ++ [token], hpending, .suffix (hnamed hword) (htight _), by simp⟩
  · cases hstep

theorem read_of_close
    {pending : List Pending} {operand : Expr} {us vs : List Token} {token : Token}
    {next : OpenExpr}
    (hpending : Pending.Read pending us) (hoperand : operand.Derives vs)
    (htight : operand.tightness = Expr.tightest)
    (hstep : close pending operand token = .more next) :
    next.Read (us ++ vs ++ [token]) := by
  have hlevel := Pending.level_lt_tightest pending
  rw [← htight] at hlevel
  obtain ⟨⟨us', vs', hrest, hposition, happend⟩, -, -⟩ :=
    joined_join 0 hpending hoperand hlevel (Nat.zero_le _)
  rw [close] at hstep
  split at hstep
  · rename_i position base outer hjoin
    rw [hjoin] at hrest hposition
    split at hstep
    · rename_i hkind
      cases hstep
      cases hrest with
      | @bracket _ _ ts bs left houter hbase hbaseTight hleft =>
          refine ⟨ts, bs ++ left :: vs' ++ [token], houter, ?_, ?_⟩
          · exact .suffix (.index hbase hbaseTight hleft hposition hkind) rfl
          · simp [happend]
    · cases hstep
  · cases hstep

/-- An expression that is complete is derived from its tokens: no operator waits any more. -/
theorem derives_of_close
    {pending : List Pending} {operand whole : Expr} {us vs : List Token} {token : Token}
    (hpending : Pending.Read pending us) (hoperand : operand.Derives vs)
    (htight : operand.tightness = Expr.tightest)
    (hstep : close pending operand token = .done whole) :
    whole.Derives (us ++ vs) := by
  have hlevel := Pending.level_lt_tightest pending
  rw [← htight] at hlevel
  obtain ⟨⟨us', vs', hrest, hwhole, happend⟩, -, hzero⟩ :=
    joined_join 0 hpending hoperand hlevel (Nat.zero_le _)
  rw [close] at hstep
  split at hstep
  · split at hstep
    · cases hstep
    · cases hstep
  · rename_i result rest hbracket hjoin
    cases hstep
    rw [hjoin] at hrest hwhole hzero
    cases hrest with
    | nil => simpa [happend] using hwhole
    | operator hrest hleft hop hbelow hsign =>
        rename_i op _ _ _
        have hpos := op.precedence_pos
        simp only [Pending.level] at hzero
        omega
    | bracket hrest hbase hbaseTight hleft => exact (hbracket _ _ rfl).elim

theorem read_of_stepSuffix
    {pending : List Pending} {operand : Expr} {us vs : List Token} {token : Token}
    {next : OpenExpr}
    (hpending : Pending.Read pending us) (hoperand : operand.Derives vs)
    (htight : operand.tightness = Expr.tightest)
    (hstep : stepSuffix pending operand token = .more next) :
    next.Read (us ++ vs ++ [token]) := by
  rw [stepSuffix] at hstep
  split at hstep
  · rename_i hkind
    cases hstep
    exact ⟨us, vs ++ [token], hpending, .propertyName hoperand htight hkind, by simp⟩
  · rename_i hkind
    cases hstep
    exact ⟨us ++ vs ++ [token], [], .bracket hpending hoperand htight hkind, .operand, by simp⟩
  · split at hstep
    · rename_i op hop
      cases hstep
      have hlevel := Pending.level_lt_tightest pending
      rw [← htight] at hlevel
      have hminimum : op.precedence ≤ operand.tightness := by
        rw [htight]
        exact Nat.le_of_lt op.precedence_lt_tightest
      obtain ⟨⟨us', vs', hrest, hleft, happend⟩, hleftTight, hbelow⟩ :=
        joined_join op.precedence hpending hoperand hlevel hminimum
      have hpos := op.precedence_pos
      refine ⟨us' ++ vs' ++ [token], [], ?_, .operand, by simp [happend]⟩
      exact .operator hrest hleft hleftTight (by omega) hop
    · exact read_of_close hpending hoperand htight hstep

/-- Reading goes on only with tokens that can stand there. -/
theorem isInner_of_step_more
    {expr next : OpenExpr} {token : Token} (hstep : expr.step token = .more next) :
    token.kind.isInner = true := by
  rw [step] at hstep
  split at hstep
  · rw [stepOperand] at hstep
    split at hstep <;> simp_all [TokenKind.isInner]
  · rw [stepName] at hstep
    split at hstep
    · rename_i hword
      exact TokenKind.isInner_of_isWord hword
    · cases hstep
  · rw [stepSuffix] at hstep
    split at hstep
    · rename_i hkind
      exact TokenKind.isInner_of_eq hkind rfl
    · rename_i hkind
      exact TokenKind.isInner_of_eq hkind rfl
    · split at hstep
      · rename_i hop
        exact BinaryOp.isInner_of_ofKind? hop
      · rw [close] at hstep
        split at hstep
        · split at hstep
          · rename_i hkind
            exact TokenKind.isInner_of_eq hkind rfl
          · cases hstep
        · cases hstep
  · rw [stepName] at hstep
    split at hstep
    · rename_i hword
      exact TokenKind.isInner_of_isWord hword
    · cases hstep

/-- One step that goes on with an expression takes its token to those that have been read. -/
theorem read_of_step_more
    {expr next : OpenExpr} {ts : List Token} {token : Token}
    (hread : expr.Read ts) (hstep : expr.step token = .more next) : next.Read (ts ++ [token]) := by
  obtain ⟨pending, point⟩ := expr
  obtain ⟨us, vs, hpending, hpoint, rfl⟩ := hread
  cases hpoint with
  | operand => simpa using read_of_stepOperand hpending hstep
  | variableName hdollar =>
      exact read_of_stepName hpending (.variable hdollar) (fun _ => rfl) hstep
  | suffix hoperand htight => exact read_of_stepSuffix hpending hoperand htight hstep
  | @propertyName base ts dot hbase htight hdot =>
      have hfield (hword : token.kind.isWord = true) :
          (Expr.field base token.literal).Derives (ts ++ [dot] ++ [token]) := by
        simpa using Expr.Derives.field hbase htight hdot hword
      exact read_of_stepName hpending hfield (fun _ => rfl) hstep

/-- An expression that is complete in front of a token is derived from what has been read. -/
theorem derives_of_step_done
    {expr : OpenExpr} {whole : Expr} {ts : List Token} {token : Token}
    (hread : expr.Read ts) (hstep : expr.step token = .done whole) : whole.Derives ts := by
  obtain ⟨pending, point⟩ := expr
  obtain ⟨us, vs, hpending, hpoint, rfl⟩ := hread
  cases hpoint with
  | operand =>
      simp only [step, stepOperand] at hstep
      split at hstep <;> cases hstep
  | variableName hdollar =>
      simp only [step, stepName] at hstep
      split at hstep <;> cases hstep
  | suffix hoperand htight =>
      simp only [step, stepSuffix] at hstep
      split at hstep
      · cases hstep
      · cases hstep
      · split at hstep
        · cases hstep
        · exact derives_of_close hpending hoperand htight hstep
  | propertyName hbase htight hdot =>
      simp only [step, stepName] at hstep
      split at hstep <;> cases hstep

end OpenExpr

end Stencil
