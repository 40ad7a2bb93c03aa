import Stencil.Proofs.Template.Descent

/-!
# A reader by descent always comes further

Whatever stands in front of a reader, a tag is read over at least its opening brace, and every
round of a loop either ends the loop or goes over a token.  All calls that a function makes to
come back to itself are made behind a token that it has gone over.  So the tokens ahead bound
how deep rounds and calls nest, and a reader that may go as deep as there are tokens left has a
result.
-/

namespace Stencil

namespace Reader

/-- A reader has gone over tokens, one after the other, to where another one stands. -/
structure Takes (reader : Reader) (passed : List Token) (behind : Reader) : Prop where
  ahead : reader.ahead = passed ++ behind.ahead
  taken : behind.taken = reader.taken ++ passed
  ending : behind.ending = reader.ending

/-- A reader has come to where another one stands. -/
def Reaches (reader behind : Reader) : Prop :=
  ∃ passed, reader.Takes passed behind

/-- A reader has gone over at least one token to where another one stands. -/
def Consumes (reader behind : Reader) : Prop :=
  ∃ passed, passed ≠ [] ∧ reader.Takes passed behind

section Moves

variable {reader middle behind : Reader}

theorem Takes.trans {ts us : List Token} (hfirst : reader.Takes ts middle)
    (hsecond : middle.Takes us behind) :
    reader.Takes (ts ++ us) behind where
  ahead := by rw [hfirst.ahead, hsecond.ahead, List.append_assoc]
  taken := by rw [hsecond.taken, hfirst.taken, List.append_assoc]
  ending := hsecond.ending.trans hfirst.ending

theorem Reaches.refl (reader : Reader) : reader.Reaches reader :=
  ⟨[], rfl, (List.append_nil _).symm, rfl⟩

theorem Reaches.trans (hfirst : reader.Reaches middle) (hsecond : middle.Reaches behind) :
    reader.Reaches behind := by
  obtain ⟨ts, hts⟩ := hfirst
  obtain ⟨us, hus⟩ := hsecond
  exact ⟨ts ++ us, hts.trans hus⟩

theorem Reaches.length_le (h : reader.Reaches behind) :
    behind.ahead.length ≤ reader.ahead.length := by
  obtain ⟨ts, hts⟩ := h
  rw [hts.ahead, List.length_append]
  exact Nat.le_add_left _ _

/-- No token is lost on the way, and none is gone over twice. -/
theorem Reaches.taken_append_left (h : reader.Reaches behind) :
    behind.taken ++ behind.left = reader.taken ++ reader.left := by
  obtain ⟨ts, hts⟩ := h
  rw [left, left, hts.taken, hts.ending, hts.ahead, List.append_assoc, List.append_assoc]

theorem Consumes.reaches (h : reader.Consumes behind) : reader.Reaches behind := by
  obtain ⟨ts, -, hts⟩ := h
  exact ⟨ts, hts⟩

theorem Consumes.trans_reaches (hfirst : reader.Consumes middle) (hsecond : middle.Reaches behind) :
    reader.Consumes behind := by
  obtain ⟨ts, hne, hts⟩ := hfirst
  obtain ⟨us, hus⟩ := hsecond
  exact ⟨ts ++ us, List.append_ne_nil_of_left_ne_nil hne us, hts.trans hus⟩

theorem Consumes.length_lt (h : reader.Consumes behind) :
    behind.ahead.length < reader.ahead.length := by
  obtain ⟨ts, hne, hts⟩ := h
  rw [hts.ahead, List.length_append]
  exact Nat.lt_add_of_pos_left (List.length_pos_iff.mpr hne)

theorem Consumes.lt {bound : ℕ} (h : reader.Consumes behind)
    (hbound : reader.ahead.length ≤ bound) :
    behind.ahead.length < bound :=
  Nat.lt_of_lt_of_le h.length_lt hbound

theorem consumes_advance (h : reader.current.kind ≠ .endOfInput) :
    reader.Consumes reader.advance := by
  refine ⟨[reader.current], List.cons_ne_nil _ _, ahead_eq_cons h, ?_, rfl⟩
  change reader.taken ++ reader.ahead.take 1 = _
  rw [ahead_eq_cons h]
  rfl

theorem reaches_advance (reader : Reader) : reader.Reaches reader.advance := by
  refine ⟨reader.ahead.take 1, ?_, rfl, rfl⟩
  exact (List.take_append_drop 1 reader.ahead).symm.trans (by rw [List.drop_one]; rfl)

theorem reaches_report (reader : Reader) (diagnostic : Diagnostic) :
    reader.Reaches (reader.report diagnostic) :=
  ⟨[], rfl, (List.append_nil _).symm, rfl⟩

end Moves

/-! ## Functions that make no further calls -/

theorem reaches_skipTag (reader : Reader) : reader.Reaches reader.skipTag := by
  induction reader using skipTag.induct with
  | case1 reader hclose =>
      rw [skipTag, if_pos hclose]
      exact reaches_advance reader
  | case2 reader hclose hend =>
      rw [skipTag, if_neg hclose, dif_pos hend]
      exact .refl reader
  | case3 reader hclose hend ih =>
      rw [skipTag, if_neg hclose, dif_neg hend]
      exact (reaches_advance reader).trans ih

theorem reaches_closing {Result : Type} (result : Result) (reader : Reader) :
    reader.Reaches (reader.closing result).2 := by
  rcases closing_cases result reader with ⟨-, hbrace⟩ | ⟨-, hbrace⟩
  · rw [hbrace]
    exact reaches_advance reader
  · rw [hbrace]
    exact (reaches_report reader _).trans (reaches_skipTag _)

theorem reaches_word (what : Expectation) (reader : Reader) :
    reader.Reaches (reader.word what).2 := by
  rcases word_cases what reader with ⟨-, hword⟩ | ⟨-, hword⟩
  · rw [hword]
    exact reaches_advance reader
  · rw [hword]
    exact reaches_report reader _

theorem reaches_loopVariable (reader : Reader) : reader.Reaches reader.loopVariable.2 := by
  rw [loopVariable]
  split
  · exact (reaches_advance reader).trans (reaches_word _ _)
  · exact reaches_word _ reader

theorem reaches_loopLabel (reader : Reader) : reader.Reaches reader.loopLabel.2 := by
  rw [loopLabel]
  split
  · exact reaches_advance reader
  · exact reaches_report reader _

theorem reaches_primary (reader : Reader) : reader.Reaches reader.primary.2 := by
  rw [primary]
  split
  · exact (reaches_advance reader).trans (reaches_word _ _)
  · exact reaches_advance reader
  · exact reaches_advance reader
  · exact reaches_report reader _

/-- An operand that is read is spelled by at least one token. -/
theorem consumes_primary {reader behind : Reader} {operand : Expr}
    (h : reader.primary = (some operand, behind)) : reader.Consumes behind := by
  have hkind : reader.current.kind ≠ .endOfInput := by
    intro hend
    rw [primary, hend] at h
    cases h
  rw [primary] at h
  split at h
  · have hbehind : (reader.advance.word .variableName).2 = behind := congrArg Prod.snd h
    rw [← hbehind]
    exact (consumes_advance hkind).trans_reaches (reaches_word _ _)
  · cases h
    exact consumes_advance hkind
  · cases h
    exact consumes_advance hkind
  · cases h

theorem reaches_rawText (body : String) (reader : Reader) :
    reader.Reaches (reader.rawText body).2 := by
  induction body, reader using rawText.induct with
  | case1 body reader htext ih =>
      rw [rawText, if_pos htext]
      exact (reaches_advance reader).trans ih
  | case2 body reader htext =>
      rw [rawText, if_neg htext]
      exact .refl reader

theorem reaches_header (tag : Position) (attributes : LoopAttributes) (reader : Reader) :
    reader.Reaches (reader.header tag attributes).2 := by
  rw [header]
  split
  · exact reaches_report reader _
  · exact reaches_report reader _
  · exact .refl reader

theorem reaches_keywordTag (reader : Reader) :
    reader.advance.Reaches reader.advance.advance.closeTag :=
  (reaches_advance _).trans (reaches_closing () _)

theorem reaches_endLoop (tag : Position) (terminator : Option TokenKind) (reader : Reader) :
    reader.Reaches (reader.endLoop tag terminator) := by
  rw [endLoop]
  split
  · exact (reaches_advance reader).trans (reaches_keywordTag reader)
  · exact reaches_report reader _

theorem reaches_literal (reader : Reader) : reader.advance.Reaches reader.literal.2 := by
  have hopening :=
    (reaches_advance reader.advance).trans (reaches_closing () reader.advance.advance)
  rw [literal]
  generalize reader.advance.advance.closing () = outcome at hopening ⊢
  obtain ⟨_ | found, inside⟩ := outcome
  · exact hopening
  · have hbody := hopening.trans (reaches_rawText "" inside)
    dsimp only
    split
    · exact (hbody.trans (reaches_advance _)).trans (reaches_keywordTag _)
    · exact hbody.trans (reaches_report _ _)

end Reader

open Reader

/-- An attempt has a result, of which something holds. -/
def Returns {α : Type} (attempt : Option (α × Reader)) (post : α → Reader → Prop) : Prop :=
  ∃ result behind, attempt = some (result, behind) ∧ post result behind

namespace Returns

variable {α β : Type} {post : α → Reader → Prop} {further : β → Reader → Prop}

theorem result {result : α} {behind : Reader} (h : post result behind) :
    Returns (some (result, behind)) post :=
  ⟨result, behind, rfl, h⟩

theorem bind {attempt : Option (α × Reader)} {next : α × Reader → Option (β × Reader)}
    (h : Returns attempt post)
    (hnext : ∀ result behind, post result behind → Returns (next (result, behind)) further) :
    Returns (attempt.bind next) further := by
  obtain ⟨result, behind, rfl, hpost⟩ := h
  exact hnext result behind hpost

theorem mono {attempt : Option (α × Reader)} {weaker : α → Reader → Prop} (h : Returns attempt post)
    (hweaker : ∀ result behind, post result behind → weaker result behind) :
    Returns attempt weaker := by
  obtain ⟨result, behind, hattempt, hpost⟩ := h
  exact ⟨result, behind, hattempt, hweaker result behind hpost⟩

end Returns

/-- A round of a loop ends the loop, or goes over at least one token. -/
def LoopRound.Advances {State Result : Type} (reader : Reader) (round : LoopRound State Result)
    (behind : Reader) : Prop :=
  reader.Reaches behind ∧ ∀ state, round = .goesOn state → reader.Consumes behind

namespace LoopRound.Advances

variable {State Result : Type} {reader behind : Reader}

theorem ends {result : Result} (h : reader.Reaches behind) :
    LoopRound.Advances reader (.ends result : LoopRound State Result) behind :=
  ⟨h, nofun⟩

theorem goesOn {state : State} (h : reader.Consumes behind) :
    LoopRound.Advances reader (.goesOn state : LoopRound State Result) behind :=
  ⟨h.reaches, fun _ _ => h⟩

end LoopRound.Advances

namespace Descent

/-- Where a block ends: at the end of the source, or in front of the tag of a terminator, which
it names. -/
inductive StopsAt (terminators : List TokenKind) (reader : Reader) : Option TokenKind → Prop
  | ended (hend : reader.current.kind = .endOfInput) : StopsAt terminators reader none
  | tag (hopening : reader.current.kind = .openTag) (hmem : reader.peek.kind ∈ terminators) :
      StopsAt terminators reader (some reader.peek.kind)

/-- Functions that have a result for all readers with fewer tokens ahead than a bound. -/
structure Serves (calls : Descent) (bound : ℕ) : Prop where
  expression (minimum : ℕ) (reader : Reader) (h : reader.ahead.length < bound) :
    Returns (calls.expression minimum reader) fun _ behind => reader.Reaches behind
  suffixes (operand : Expr) (reader : Reader) (h : reader.ahead.length < bound) :
    Returns (calls.suffixes operand reader) fun _ behind => reader.Reaches behind
  operators (minimum : ℕ) (left : Expr) (reader : Reader) (h : reader.ahead.length < bound) :
    Returns (calls.operators minimum left reader) fun _ behind => reader.Reaches behind
  modifiers (input : Expr) (reader : Reader) (h : reader.ahead.length < bound) :
    Returns (calls.modifiers input reader) fun _ behind => reader.Reaches behind
  attributes (attributes : LoopAttributes) (reader : Reader) (h : reader.ahead.length < bound) :
    Returns (calls.attributes attributes reader) fun _ behind => reader.Reaches behind
  block (terminators : List TokenKind) (nodes : List Node) (reader : Reader)
    (h : reader.ahead.length < bound) :
    Returns (calls.block terminators nodes reader) fun result behind =>
      reader.Reaches behind ∧ StopsAt terminators behind result.2
  arms (tag : Position) (parts : Conditional) (terminators : List TokenKind)
    (terminator : Option TokenKind) (reader : Reader)
    (hstop : StopsAt terminators reader terminator) (h : reader.ahead.length < bound) :
    Returns (calls.arms tag (parts, terminator) reader) fun _ behind => reader.Reaches behind

section Rounds

variable {calls : Descent} {bound : ℕ} {reader : Reader}

/-! ## Expressions -/

theorem returns_readExpression (hserves : calls.Serves bound) (minimum : ℕ)
    (hbound : reader.ahead.length ≤ bound) :
    Returns (calls.readExpression minimum reader) fun _ behind => reader.Reaches behind := by
  have hreach := reaches_primary reader
  rw [readExpression]
  rcases hprimary : reader.primary with ⟨first, middle⟩
  rw [hprimary] at hreach
  cases first with
  | none => exact .result hreach
  | some first =>
      have hfirst := (consumes_primary hprimary).lt hbound
      refine (hserves.suffixes first middle hfirst).bind ?_
      intro operand behind hsuffixes
      cases operand with
      | none => exact .result (hreach.trans hsuffixes)
      | some operand =>
          have hbehind := ((consumes_primary hprimary).trans_reaches hsuffixes).lt hbound
          refine (hserves.operators minimum operand behind hbehind).mono ?_
          intro _ last hoperators
          exact (hreach.trans hsuffixes).trans hoperators

theorem returns_suffixRound (hserves : calls.Serves bound) (operand : Expr)
    (hbound : reader.ahead.length ≤ bound) :
    Returns (calls.suffixRound operand reader) (LoopRound.Advances reader) := by
  rw [suffixRound]
  split
  · rename_i hdot
    have hconsumes := consumes_advance (ne_end_of_kind hdot (by decide))
    rcases word_cases .propertyName reader.advance with ⟨-, hname⟩ | ⟨-, hname⟩
    · rw [hname]
      exact .result (.goesOn (hconsumes.trans_reaches (reaches_advance _)))
    · rw [hname]
      exact .result (.ends (hconsumes.reaches.trans (reaches_report _ _)))
  · rename_i hbracket
    have hopening := consumes_advance (ne_end_of_kind hbracket (by decide))
    refine (hserves.expression lowest reader.advance (hopening.lt hbound)).bind ?_
    intro position middle hposition
    have hconsumes := hopening.trans_reaches hposition
    cases position with
    | none => exact .result (.ends hconsumes.reaches)
    | some position =>
        dsimp only
        rcases expect_cases .closeBracket middle with ⟨-, hclosing⟩ | ⟨-, hclosing⟩
        · rw [hclosing]
          exact .result (.goesOn (hconsumes.trans_reaches (reaches_advance _)))
        · rw [hclosing]
          exact .result (.ends (hconsumes.reaches.trans (reaches_report _ _)))
  · exact .result (.ends (.refl reader))

theorem returns_operatorRound (hserves : calls.Serves bound) (minimum : ℕ) (left : Expr)
    (hbound : reader.ahead.length ≤ bound) :
    Returns (calls.operatorRound minimum left reader) (LoopRound.Advances reader) := by
  rw [operatorRound]
  split
  · exact .result (.ends (.refl reader))
  · rename_i op hop
    have hsign := consumes_advance (ne_end_of_ofKind? hop)
    split
    · exact .result (.ends (.refl reader))
    · refine (hserves.expression (op.precedence + 1) reader.advance (hsign.lt hbound)).bind ?_
      intro right behind hright
      have hconsumes := hsign.trans_reaches hright
      cases right with
      | none => exact .result (.ends hconsumes.reaches)
      | some right => exact .result (.goesOn hconsumes)

/-! ## Tags -/

theorem advances_modifierRound (input : Expr) (reader : Reader) :
    LoopRound.Advances reader (modifierRound input reader).1 (modifierRound input reader).2 := by
  rw [modifierRound]
  split
  · rename_i hbar
    have hconsumes := consumes_advance (ne_end_of_kind hbar (by decide))
    rcases word_cases .modifierName reader.advance with ⟨-, hname⟩ | ⟨-, hname⟩
    · rw [hname]
      exact .goesOn (hconsumes.trans_reaches (reaches_advance _))
    · rw [hname]
      exact .ends ((hconsumes.reaches.trans (reaches_report _ _)).trans (reaches_skipTag _))
  · exact .ends (.refl reader)

theorem returns_tagExpression (hserves : calls.Serves bound)
    (hbound : reader.ahead.length < bound) :
    Returns (calls.tagExpression reader) fun _ behind => reader.Reaches behind := by
  refine (hserves.expression lowest reader hbound).bind ?_
  intro expr behind hreach
  cases expr with
  | none => exact .result (hreach.trans (reaches_skipTag behind))
  | some expr => exact .result (hreach.trans (reaches_closing expr behind))

theorem returns_action (hserves : calls.Serves bound) (hbound : reader.ahead.length < bound) :
    Returns (calls.action reader) fun _ behind => reader.Reaches behind := by
  refine (hserves.expression lowest reader hbound).bind ?_
  intro expr middle hexpr
  cases expr with
  | none => exact .result (hexpr.trans (reaches_skipTag middle))
  | some input =>
      have hmiddle : middle.ahead.length < bound := Nat.lt_of_le_of_lt hexpr.length_le hbound
      refine (hserves.modifiers input middle hmiddle).bind ?_
      intro expr behind hmodifiers
      have hreach := hexpr.trans hmodifiers
      cases expr with
      | none => exact .result hreach
      | some expr => exact .result (hreach.trans (reaches_closing _ behind))

theorem returns_attributeValue (hserves : calls.Serves bound) (attributes : LoopAttributes)
    (name : LoopAttribute) (hbound : reader.ahead.length < bound) :
    Returns (calls.attributeValue attributes name reader) fun _ behind =>
      reader.Reaches behind := by
  cases name with
  | source =>
      refine (hserves.expression lowest reader hbound).bind ?_
      intro expr behind hreach
      exact .result hreach
  | item => exact .result (reaches_loopVariable reader)
  | key => exact .result (reaches_loopVariable reader)
  | label => exact .result (reaches_loopLabel reader)

theorem returns_attributeRound (hserves : calls.Serves bound) (attributes : LoopAttributes)
    (hbound : reader.ahead.length ≤ bound) :
    Returns (calls.attributeRound attributes reader) (LoopRound.Advances reader) := by
  have hfailed (diagnostic : Diagnostic) : reader.Reaches (reader.report diagnostic).skipTag :=
    (reaches_report reader diagnostic).trans (reaches_skipTag _)
  rw [attributeRound]
  split
  · exact .result (.ends (.refl reader))
  split
  · exact .result (.ends (reaches_report reader _))
  split
  · exact .result (.ends (hfailed _))
  rename_i hend _
  split
  · exact .result (.ends (hfailed _))
  split
  · exact .result (.ends (hfailed _))
  have hconsumes := consumes_advance hend
  rcases expect_cases .assign reader.advance with ⟨-, hassign⟩ | ⟨-, hassign⟩
  · rw [hassign]
    have hvalue := hconsumes.trans_reaches (reaches_advance reader.advance)
    refine (returns_attributeValue hserves attributes _ (hvalue.lt hbound)).bind ?_
    intro further behind hreach
    cases further with
    | none => exact .result (.ends ((hvalue.reaches.trans hreach).trans (reaches_skipTag behind)))
    | some further => exact .result (.goesOn (hvalue.trans_reaches hreach))
  · rw [hassign]
    exact .result (.ends ((hconsumes.reaches.trans (reaches_report _ _)).trans (reaches_skipTag _)))

theorem returns_loopHeader (hserves : calls.Serves bound) (tag : Position)
    (hbound : reader.ahead.length < bound) :
    Returns (calls.loopHeader tag reader) fun _ behind => reader.Reaches behind := by
  refine (hserves.attributes .empty reader hbound).bind ?_
  intro attributes behind hreach
  cases attributes with
  | none => exact .result hreach
  | some attributes =>
      exact .result
        ((hreach.trans (reaches_advance behind)).trans (reaches_header tag attributes _))

/-- A condition is read from behind the two tokens that open it. -/
theorem returns_conditional (hserves : calls.Serves bound)
    (hkind : reader.current.kind ≠ .endOfInput) (hbound : reader.ahead.length ≤ bound) :
    Returns (calls.conditional reader) fun _ behind => reader.Consumes behind := by
  have hopening := (consumes_advance hkind).trans_reaches (reaches_advance reader.advance)
  refine (returns_tagExpression hserves (hopening.lt hbound)).bind ?_
  intro condition inside hcondition
  have hinside := hopening.trans_reaches hcondition
  refine (hserves.block armTerminators [] inside (hinside.lt hbound)).bind ?_
  rintro ⟨consequence, terminator⟩ middle ⟨hblock, hstop⟩
  have hmiddle := hinside.trans_reaches hblock
  refine (hserves.arms _ _ armTerminators terminator middle hstop (hmiddle.lt hbound)).bind ?_
  intro parts behind harms
  exact .result (hmiddle.trans_reaches harms)

theorem returns_loop (hserves : calls.Serves bound) (hkind : reader.current.kind ≠ .endOfInput)
    (hbound : reader.ahead.length ≤ bound) :
    Returns (calls.loop reader) fun _ behind => reader.Consumes behind := by
  have hopening := (consumes_advance hkind).trans_reaches (reaches_advance reader.advance)
  refine (returns_loopHeader hserves _ (hopening.lt hbound)).bind ?_
  intro header inside hheader
  have hinside := hopening.trans_reaches hheader
  refine (hserves.block bodyTerminators [] inside (hinside.lt hbound)).bind ?_
  rintro ⟨body, terminator⟩ middle ⟨hblock, -⟩
  have hmiddle := hinside.trans_reaches hblock
  dsimp only
  split
  · have hifEmpty :=
      hmiddle.trans_reaches ((reaches_advance middle).trans (reaches_keywordTag middle))
    refine (hserves.block [.endForeachWord] [] _ (hifEmpty.lt hbound)).bind ?_
    rintro ⟨block, terminator⟩ behind ⟨hreach, -⟩
    exact .result ((hifEmpty.trans_reaches hreach).trans_reaches (reaches_endLoop _ _ _))
  · exact .result (hmiddle.trans_reaches (reaches_endLoop _ _ _))

/-- A tag is read over at least its opening brace. -/
theorem returns_tag (hserves : calls.Serves bound) (hkind : reader.current.kind = .openTag)
    (hbound : reader.ahead.length ≤ bound) :
    Returns (calls.tag reader) fun _ behind => reader.Consumes behind := by
  have hend := ne_end_of_kind hkind (by decide)
  have hopening := consumes_advance hend
  rw [tag]
  split
  · refine (returns_action hserves (hopening.lt hbound)).mono ?_
    intro _ behind hreach
    exact hopening.trans_reaches hreach
  · exact returns_conditional hserves hend hbound
  · exact returns_loop hserves hend hbound
  · exact .result (hopening.trans_reaches (reaches_literal reader))
  · exact .result (hopening.trans_reaches ((reaches_report _ _).trans (reaches_skipTag _)))
  · exact .result (hopening.trans_reaches (reaches_report _ _))

/-! ## Blocks -/

theorem returns_blockRound (hserves : calls.Serves bound) (terminators : List TokenKind)
    (nodes : List Node) (hbound : reader.ahead.length ≤ bound) :
    Returns (calls.blockRound terminators nodes reader) fun round behind =>
      round.Advances reader behind ∧
        ∀ result, round = .ends result → StopsAt terminators behind result.2 := by
  rw [blockRound]
  split
  · rename_i hend
    refine .result ⟨.ends (.refl reader), ?_⟩
    rintro _ ⟨rfl⟩
    exact .ended hend
  · rename_i htext
    exact .result ⟨.goesOn (consumes_advance (ne_end_of_kind htext (by decide))), nofun⟩
  · rename_i hopening
    split
    · rename_i hmem
      refine .result ⟨.ends (.refl reader), ?_⟩
      rintro _ ⟨rfl⟩
      exact .tag hopening hmem
    · refine (returns_tag hserves hopening hbound).bind ?_
      intro node behind hconsumes
      exact .result ⟨.goesOn hconsumes, nofun⟩
  · rename_i hend _ _
    exact .result ⟨.goesOn (consumes_advance hend), nofun⟩

theorem returns_armRound (hserves : calls.Serves bound) (tag : Position) (parts : Conditional)
    {terminators : List TokenKind} {terminator : Option TokenKind}
    (hstop : StopsAt terminators reader terminator) (hbound : reader.ahead.length ≤ bound) :
    Returns (calls.armRound tag (parts, terminator) reader) fun round behind =>
      round.Advances reader behind ∧
        ∀ state, round = .goesOn state → ∃ terminators, StopsAt terminators behind state.2 := by
  have hend : reader.Reaches (reader.report ⟨.unterminatedIf, tag⟩) := reaches_report _ _
  cases hstop with
  | ended => exact .result ⟨.ends hend, nofun⟩
  | tag hopening =>
      have hbrace := consumes_advance (ne_end_of_kind hopening (by decide))
      have hkeyword := hbrace.trans_reaches (reaches_keywordTag reader)
      generalize reader.peek.kind = kind
      rw [armRound.eq_def]
      split
      · have hword := hbrace.trans_reaches (reaches_advance reader.advance)
        refine (returns_tagExpression hserves (hword.lt hbound)).bind ?_
        intro condition inside hcondition
        have hinside := hword.trans_reaches hcondition
        refine (hserves.block armTerminators [] inside (hinside.lt hbound)).bind ?_
        rintro ⟨block, terminator⟩ behind ⟨hblock, hnext⟩
        refine .result ⟨.goesOn (hinside.trans_reaches hblock), ?_⟩
        rintro _ ⟨rfl⟩
        exact ⟨armTerminators, hnext⟩
      · refine (hserves.block [.endIfWord] [] _ (hkeyword.lt hbound)).bind ?_
        rintro ⟨block, terminator⟩ behind ⟨hblock, hnext⟩
        refine .result ⟨.goesOn (hkeyword.trans_reaches hblock), ?_⟩
        rintro _ ⟨rfl⟩
        exact ⟨[.endIfWord], hnext⟩
      · exact .result ⟨.ends hkeyword.reaches, nofun⟩
      · exact .result ⟨.ends hend, nofun⟩

/-! ## Depth -/

/-- A loop has a result if its round does and, behind a round that has gone over a token, the
rounds to come. -/
theorem returns_andThen {State Result : Type} {round : Option (LoopRound State Result × Reader)}
    {further : State → Reader → Option (Result × Reader)} (holds : State → Reader → Prop)
    (post : Result → Reader → Prop) (hbound : reader.ahead.length ≤ bound)
    (hround : Returns round fun round behind => round.Advances reader behind ∧
      (∀ state, round = .goesOn state → holds state behind) ∧
      ∀ result, round = .ends result → post result behind)
    (hfurther : ∀ state behind, holds state behind → behind.ahead.length < bound →
      Returns (further state behind) fun result last => behind.Reaches last ∧ post result last) :
    Returns (round.bind (LoopRound.andThen further)) fun result behind =>
      reader.Reaches behind ∧ post result behind := by
  refine hround.bind ?_
  rintro (state | result) behind ⟨hadvances, hholds, hpost⟩
  · have hconsumes := hadvances.2 state rfl
    refine (hfurther state behind (hholds state rfl) (hconsumes.lt hbound)).mono ?_
    intro result last hlast
    exact ⟨hconsumes.reaches.trans hlast.1, hlast.2⟩
  · exact .result ⟨hadvances.1, hpost result rfl⟩

theorem reaches_andThen {State Result : Type} {round : Option (LoopRound State Result × Reader)}
    {further : State → Reader → Option (Result × Reader)} (hbound : reader.ahead.length ≤ bound)
    (hround : Returns round (LoopRound.Advances reader))
    (hfurther : ∀ state behind, behind.ahead.length < bound →
      Returns (further state behind) fun _ last => behind.Reaches last) :
    Returns (round.bind (LoopRound.andThen further)) fun _ behind => reader.Reaches behind := by
  have hloop := returns_andThen (fun _ _ => True) (fun _ _ => True) hbound
    (hround.mono fun _ _ hadvances => ⟨hadvances, fun _ _ => trivial, fun _ _ => trivial⟩)
    (fun state behind _ hlt => (hfurther state behind hlt).mono fun _ _ hreach => ⟨hreach, trivial⟩)
  exact hloop.mono fun _ _ hreach => hreach.1

end Rounds

/-- Rounds and calls that are all behind a token further ahead take a reader one token further. -/
theorem Serves.deeper {calls : Descent} {bound : ℕ} (hserves : calls.Serves bound) :
    calls.deeper.Serves (bound + 1) where
  expression minimum reader h := returns_readExpression hserves minimum (Nat.le_of_lt_succ h)
  suffixes operand reader h := by
    have hbound := Nat.le_of_lt_succ h
    exact reaches_andThen hbound (returns_suffixRound hserves operand hbound) hserves.suffixes
  operators minimum left reader h := by
    have hbound := Nat.le_of_lt_succ h
    exact reaches_andThen hbound (returns_operatorRound hserves minimum left hbound)
      (hserves.operators minimum)
  modifiers input reader h :=
    reaches_andThen (Nat.le_of_lt_succ h) (.result (advances_modifierRound input reader))
      hserves.modifiers
  attributes attributes reader h := by
    have hbound := Nat.le_of_lt_succ h
    exact reaches_andThen hbound
      (returns_attributeRound hserves attributes hbound) hserves.attributes
  block terminators nodes reader h := by
    have hbound := Nat.le_of_lt_succ h
    refine returns_andThen (fun _ _ => True)
      (fun (result : List Node × Option TokenKind) last => StopsAt terminators last result.2)
      hbound ?_ ?_
    · refine (returns_blockRound hserves terminators nodes hbound).mono ?_
      intro round behind hround
      exact ⟨hround.1, fun _ _ => trivial, hround.2⟩
    · intro nodes behind _ hlt
      exact hserves.block terminators nodes behind hlt
  arms tag parts terminators terminator reader hstop h := by
    have hbound := Nat.le_of_lt_succ h
    have hround := returns_armRound hserves tag parts hstop hbound
    have hloop :=
      returns_andThen (fun state last => ∃ terminators, StopsAt terminators last state.2)
        (fun _ _ => True) hbound
        (hround.mono fun _ _ hadvances => ⟨hadvances.1, hadvances.2, fun _ _ => trivial⟩)
        (fun state behind hstops hlt =>
          (hserves.arms tag state.1 hstops.choose state.2 behind hstops.choose_spec hlt).mono
            fun _ _ hreach => ⟨hreach, trivial⟩)
    exact hloop.mono fun _ _ hreach => hreach.1

/-- A reader that may go to a depth has a result for all that have fewer tokens ahead of the one
at the end. -/
theorem serves_within (depth : ℕ) : (within depth).Serves depth := by
  induction depth with
  | zero => constructor <;> intros <;> exact absurd ‹_› (Nat.not_lt_zero _)
  | succ depth ih => exact ih.deeper

/-- What it is for a reader to come further: a tag is read over at least one token, and a round
of a loop ends the loop or goes over at least one token. -/
structure Progresses (calls : Descent) (reader : Reader) : Prop where
  tag (hopening : reader.current.kind = .openTag) :
    Returns (calls.tag reader) fun _ behind => reader.Consumes behind
  suffixRound (operand : Expr) :
    Returns (calls.suffixRound operand reader) (LoopRound.Advances reader)
  operatorRound (minimum : ℕ) (left : Expr) :
    Returns (calls.operatorRound minimum left reader) (LoopRound.Advances reader)
  modifierRound (input : Expr) :
    Returns (some (modifierRound input reader)) (LoopRound.Advances reader)
  attributeRound (attributes : LoopAttributes) :
    Returns (calls.attributeRound attributes reader) (LoopRound.Advances reader)
  blockRound (terminators : List TokenKind) (nodes : List Node) :
    Returns (calls.blockRound terminators nodes reader) (LoopRound.Advances reader)
  armRound (tag : Position) (parts : Conditional) (terminators : List TokenKind)
    (terminator : Option TokenKind) (hstop : StopsAt terminators reader terminator) :
    Returns (calls.armRound tag (parts, terminator) reader) (LoopRound.Advances reader)

theorem Serves.progresses {calls : Descent} {bound : ℕ} {reader : Reader}
    (hserves : calls.Serves bound)
    (hbound : reader.ahead.length ≤ bound) : calls.Progresses reader where
  tag hopening := returns_tag hserves hopening hbound
  suffixRound operand := returns_suffixRound hserves operand hbound
  operatorRound minimum left := returns_operatorRound hserves minimum left hbound
  modifierRound input := .result (advances_modifierRound input reader)
  attributeRound attributes := returns_attributeRound hserves attributes hbound
  blockRound terminators nodes :=
    (returns_blockRound hserves terminators nodes hbound).mono fun _ _ hround => hround.1
  armRound tag parts _ _ hstop :=
    (returns_armRound hserves tag parts hstop hbound).mono fun _ _ hround => hround.1

end Descent

end Stencil
