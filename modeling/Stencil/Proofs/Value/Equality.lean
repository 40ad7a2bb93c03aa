import Mathlib.Logic.Relation
import Stencil.Proofs.Render.OptionalLayers

/-!
# Sameness of values

To a template two values are the same in one of seven ways, one for each type: scalars by value,
timestamps by instant, arrays and maps by identity.  These ways are written down as a relation
on values without optional layers, and the comparison is decided by it; that sameness is an
equivalence, and what it implies, is read off the relation case by case.

Of not-a-number nothing is the same as itself, and only of it.  Arrays and maps are compared by
identity, so what sameness says of their contents rests on identities being given once: where
one identity stands for one content, the same array or map has the same items or entries.
-/

namespace Stencil

/-! ## Scalars -/

namespace Number

theorem equals_iff {a b : Number} :
    a.equals b = true ↔ ∃ x, a.place = some x ∧ b.place = some x := by
  rw [equals]
  cases a.place <;> cases b.place <;> simp [eq_comm]

theorem equals_self {a : Number} (h : a ≠ .nan) : a.equals a = true := by
  rw [equals_iff]
  cases a with
  | nan => exact absurd rfl h
  | infinite negative => exact ⟨_, rfl, rfl⟩
  | finite negative significand exponent canonical => exact ⟨_, rfl, rfl⟩

theorem equals_symm {a b : Number} (h : a.equals b = true) : b.equals a = true := by
  obtain ⟨x, ha, hb⟩ := equals_iff.mp h
  exact equals_iff.mpr ⟨x, hb, ha⟩

theorem equals_trans {a b c : Number} (hab : a.equals b = true) (hbc : b.equals c = true) :
    a.equals c = true := by
  obtain ⟨x, ha, hb⟩ := equals_iff.mp hab
  obtain ⟨y, hb', hc⟩ := equals_iff.mp hbc
  obtain rfl : x = y := Option.some.inj (hb.symm.trans hb')
  exact equals_iff.mpr ⟨x, ha, hc⟩

/-- Numbers at one place are both zero or both not. -/
theorem isNonzero_of_equals {a b : Number} (h : a.equals b = true) : a.isNonzero = b.isNonzero := by
  obtain ⟨x, ha, hb⟩ := equals_iff.mp h
  rw [isNonzero, isNonzero, equals, equals, ha, hb]

end Number

namespace Timestamp

theorem sameInstant_iff {a b : Timestamp} :
    a.sameInstant b = true ↔ a.seconds = b.seconds ∧ a.nanoseconds = b.nanoseconds := by
  simp [sameInstant]

/-- Offsets do not count for whether a timestamp is the first instant of 1970. -/
theorem isEpoch_of_sameInstant {a b : Timestamp} (h : a.sameInstant b = true) :
    a.isEpoch = b.isEpoch := by
  obtain ⟨hseconds, hnanoseconds⟩ := sameInstant_iff.mp h
  rw [isEpoch, isEpoch, hseconds, hnanoseconds]

end Timestamp

namespace Value

/-! ## The ways to be the same -/

/-- Two values without optional layers that are the same to a template. -/
inductive Matches : Value → Value → Prop
  | null : Matches .null .null
  | boolean (flag : Bool) : Matches (.boolean flag) (.boolean flag)
  | number {a b : Number} (h : a.equals b = true) : Matches (.number a) (.number b)
  | string (text : String) : Matches (.string text) (.string text)
  | array (identity : Identity) (items others : List Value) :
      Matches (.array identity items) (.array identity others)
  | map (identity : Identity) (entries others : List (String × Value)) :
      Matches (.map identity entries) (.map identity others)
  | time {a b : Timestamp} (h : a.sameInstant b = true) : Matches (.time a) (.time b)

theorem sameUnwrapped_iff {a b : Value} : sameUnwrapped a b = true ↔ Matches a b := by
  constructor
  · intro h
    rw [sameUnwrapped.eq_def] at h
    split at h
    · exact .null
    · rw [beq_iff_eq.mp h]
      exact .boolean _
    · exact .number h
    · rw [beq_iff_eq.mp h]
      exact .string _
    · rw [of_decide_eq_true h]
      exact .array _ _ _
    · rw [of_decide_eq_true h]
      exact .map _ _ _
    · exact .time h
    · cases h
  · intro h
    cases h with
    | null => rfl
    | boolean flag => exact beq_self_eq_true flag
    | number h => exact h
    | string text => exact beq_self_eq_true text
    | array identity items others => exact decide_eq_true rfl
    | map identity entries others => exact decide_eq_true rfl
    | time h => exact h

theorem same_iff {a b : Value} : a.same b = true ↔ Matches a.unwrapped b.unwrapped :=
  sameUnwrapped_iff

namespace Matches

variable {a b c : Value}

theorem symm (h : Matches a b) : Matches b a := by
  cases h with
  | null => exact .null
  | boolean flag => exact .boolean flag
  | number h => exact .number (Number.equals_symm h)
  | string text => exact .string text
  | array identity items others => exact .array identity others items
  | map identity entries others => exact .map identity others entries
  | time h =>
      obtain ⟨hseconds, hnanoseconds⟩ := Timestamp.sameInstant_iff.mp h
      exact .time (Timestamp.sameInstant_iff.mpr ⟨hseconds.symm, hnanoseconds.symm⟩)

theorem trans (hab : Matches a b) (hbc : Matches b c) : Matches a c := by
  cases hab with
  | null => exact hbc
  | boolean flag => exact hbc
  | string text => exact hbc
  | number h =>
      cases hbc with
      | number h' => exact .number (Number.equals_trans h h')
  | array identity items others =>
      cases hbc with
      | array _ _ further => exact .array identity items further
  | map identity entries others =>
      cases hbc with
      | map _ _ further => exact .map identity entries further
  | time h =>
      cases hbc with
      | time h' =>
          obtain ⟨hseconds, hnanoseconds⟩ := Timestamp.sameInstant_iff.mp h
          obtain ⟨hseconds', hnanoseconds'⟩ := Timestamp.sameInstant_iff.mp h'
          exact .time (Timestamp.sameInstant_iff.mpr
            ⟨hseconds.trans hseconds', hnanoseconds.trans hnanoseconds'⟩)

/-- What is the same is of one type. -/
theorem typeName_eq (h : Matches a b) : a.typeName = b.typeName := by
  cases h <;> rfl

end Matches

theorem unwrapped_ne_present (value inner : Value) : value.unwrapped ≠ .present inner := by
  induction value using unwrapped.induct with
  | case1 inner ih => exact ih
  | case2 =>
      intro h
      cases h
  | case3 other hpresent habsent =>
      rw [unwrapped.eq_3 other hpresent habsent]
      exact hpresent inner

theorem unwrapped_ne_absent (value : Value) : value.unwrapped ≠ .absent := by
  induction value using unwrapped.induct with
  | case1 inner ih => exact ih
  | case2 =>
      intro h
      cases h
  | case3 other hpresent habsent =>
      rw [unwrapped.eq_3 other hpresent habsent]
      exact habsent

theorem matches_self {value : Value} (h : value.unwrapped ≠ .number .nan) :
    Matches value.unwrapped value.unwrapped := by
  cases hvalue : value.unwrapped with
  | null => exact .null
  | boolean flag => exact .boolean flag
  | number n =>
      refine .number (Number.equals_self ?_)
      rintro rfl
      exact h hvalue
  | string text => exact .string text
  | array identity items => exact .array identity items items
  | map identity entries => exact .map identity entries entries
  | time t => exact .time (Timestamp.sameInstant_iff.mpr ⟨rfl, rfl⟩)
  | absent => exact absurd hvalue (unwrapped_ne_absent value)
  | present inner => exact absurd hvalue (unwrapped_ne_present value inner)

/-! ## Optional layers -/

/-- A value and the value with one optional layer more.  A layer without a value is put around
null. -/
inductive AddsLayer : Value → Value → Prop
  | present (inner : Value) : AddsLayer inner (.present inner)
  | absent : AddsLayer .null .absent

/-- Adding and stripping optional layers leaves a value alike. -/
theorem alike_of_layers {value other : Value} (h : Relation.EqvGen AddsLayer value other) :
    value.Alike other := by
  induction h with
  | rel value other hadds =>
      cases hadds with
      | present inner => rfl
      | absent => rfl
  | refl value => rfl
  | symm value other _ ih => exact ih.symm
  | trans value other further _ _ ih ih' => exact ih.trans ih'

theorem same_of_alike {a b a' b' : Value} (ha : a.Alike a') (hb : b.Alike b') :
    a.same b = a'.same b' := by
  rw [same, ha, hb, same]

/-! ## Contents -/

/-- Two values that have the same content if inside their layers they are arrays or maps of one
identity. -/
structure AgreeOnIdentity (a b : Value) : Prop where
  array : ∀ {identity items others}, a.unwrapped = .array identity items →
    b.unwrapped = .array identity others → items = others
  map : ∀ {identity entries others}, a.unwrapped = .map identity entries →
    b.unwrapped = .map identity others → entries = others

/-- No number of a value, however deep, is not-a-number. -/
inductive NanFree : Value → Prop
  | null : NanFree .null
  | boolean (flag : Bool) : NanFree (.boolean flag)
  | number {n : Number} (h : n ≠ .nan) : NanFree (.number n)
  | string (text : String) : NanFree (.string text)
  | array (identity : Identity) {items : List Value} (hitems : ∀ item ∈ items, NanFree item) :
      NanFree (.array identity items)
  | map (identity : Identity) {entries : List (String × Value)}
      (hentries : ∀ entry ∈ entries, NanFree entry.2) : NanFree (.map identity entries)
  | time (time : Timestamp) : NanFree (.time time)
  | absent : NanFree .absent
  | present {inner : Value} (hinner : NanFree inner) : NanFree (.present inner)

theorem NanFree.unwrapped {value : Value} (h : value.NanFree) : value.unwrapped.NanFree := by
  induction h with
  | present hinner ih => exact ih
  | absent => exact .null
  | null => exact .null
  | boolean flag => exact .boolean flag
  | number h => exact .number h
  | string text => exact .string text
  | array identity hitems => exact .array identity hitems
  | map identity hentries => exact .map identity hentries
  | time t => exact .time t

theorem sameItems_self {items : List Value} (h : ∀ item ∈ items, sameContent item item = true) :
    sameItems items items = true := by
  induction items with
  | nil => rfl
  | cons item rest ih =>
      obtain ⟨hitem, hrest⟩ := List.forall_mem_cons.mp h
      rw [sameItems, hitem, ih hrest, Bool.and_self]

theorem sameEntries_self {entries : List (String × Value)}
    (h : ∀ entry ∈ entries, sameContent entry.2 entry.2 = true) :
    sameEntries entries entries = true := by
  induction entries with
  | nil => rfl
  | cons entry rest ih =>
      obtain ⟨hentry, hrest⟩ := List.forall_mem_cons.mp h
      rw [sameEntries, hentry, ih hrest, beq_self_eq_true, Bool.and_self, Bool.and_self]

/-- A value without not-a-number has equal parts with itself. -/
theorem NanFree.sameContent_self {value : Value} (h : value.NanFree) :
    sameContent value value = true := by
  induction h with
  | null => rfl
  | boolean flag => exact beq_self_eq_true flag
  | number h => exact Number.equals_self h
  | string text => exact beq_self_eq_true text
  | array identity hitems ih => exact sameItems_self ih
  | map identity hentries ih => exact sameEntries_self ih
  | time t => exact Timestamp.sameInstant_iff.mpr ⟨rfl, rfl⟩
  | absent => rfl
  | present hinner ih => exact ih

/-- Where one identity stands for one content, what is the same is equally true, and has equal
parts unless there is a not-a-number in it. -/
theorem content_of_same {a b : Value} (hidentity : a.AgreeOnIdentity b) (h : a.same b = true) :
    a.isTruthy = b.isTruthy ∧ (a.NanFree → sameContent a.unwrapped b.unwrapped = true) := by
  have hmatches := same_iff.mp h
  rw [← isTruthy_unwrapped a, ← isTruthy_unwrapped b]
  generalize ha : a.unwrapped = a', hb : b.unwrapped = b' at hmatches
  cases hmatches with
  | null => exact ⟨rfl, fun _ => rfl⟩
  | boolean flag => exact ⟨rfl, fun _ => beq_self_eq_true flag⟩
  | number h => exact ⟨Number.isNonzero_of_equals h, fun _ => h⟩
  | string text => exact ⟨rfl, fun _ => beq_self_eq_true text⟩
  | array identity items others =>
      obtain rfl := hidentity.array ha hb
      refine ⟨rfl, fun hfree => ?_⟩
      rw [← ha]
      exact hfree.unwrapped.sameContent_self
  | map identity entries others =>
      obtain rfl := hidentity.map ha hb
      refine ⟨rfl, fun hfree => ?_⟩
      rw [← ha]
      exact hfree.unwrapped.sameContent_self
  | time h =>
      refine ⟨?_, fun _ => h⟩
      rw [isTruthy, isTruthy, Timestamp.isEpoch_of_sameInstant h]

/-- Sameness is an equivalence on the values that are not not-a-number, and optional layers do
not count for it.  Values that are the same are of one type and equally true, and equal in
structure if there is no not-a-number in the first. -/
theorem same_equivalence (a b c : Value) :
    (a.unwrapped ≠ .number .nan → a.same a = true) ∧
      a.same b = b.same a ∧
      (a.same b = true → b.same c = true → a.same c = true) ∧
      (∀ a' b', Relation.EqvGen AddsLayer a a' → Relation.EqvGen AddsLayer b b' →
        a.same b = a'.same b') ∧
      (a.AgreeOnIdentity b → a.same b = true →
        a.unwrapped.typeName = b.unwrapped.typeName ∧ a.isTruthy = b.isTruthy ∧
          (a.NanFree → sameContent a.unwrapped b.unwrapped = true)) := by
  refine ⟨?_, ?_, ?_, ?_, ?_⟩
  · intro h
    exact same_iff.mpr (matches_self h)
  · rw [Bool.eq_iff_iff, same_iff, same_iff]
    exact ⟨Matches.symm, Matches.symm⟩
  · intro hab hbc
    exact same_iff.mpr ((same_iff.mp hab).trans (same_iff.mp hbc))
  · intro a' b' ha hb
    exact same_of_alike (alike_of_layers ha) (alike_of_layers hb)
  · intro hidentity h
    exact ⟨(same_iff.mp h).typeName_eq, content_of_same hidentity h⟩

/-- An array, and the same array in two optional layers. -/
theorem same_equivalence_layers :
    let rows := Value.array (.host [0]) [.number .zero, .absent]
    let layered := Value.present (.present rows)
    rows.unwrapped ≠ .number .nan ∧ Relation.EqvGen AddsLayer rows layered ∧
      rows.AgreeOnIdentity layered ∧ rows.NanFree ∧
      rows.same layered = true ∧ layered.same rows = true ∧ layered.same layered = true ∧
      rows.unwrapped.typeName = layered.unwrapped.typeName ∧ rows.isTruthy = layered.isTruthy ∧
      sameContent rows.unwrapped layered.unwrapped = true := by
  intro rows layered
  have hnumber : rows.unwrapped ≠ .number .nan := nofun
  have hlayers : Relation.EqvGen AddsLayer rows layered :=
    .trans _ _ _ (.rel _ _ (.present rows)) (.rel _ _ (.present (.present rows)))
  have hidentity : rows.AgreeOnIdentity layered := by
    constructor
    · rintro _ _ _ ⟨⟩ ⟨⟩
      rfl
    · rintro _ _ _ ⟨⟩
  have hfree : rows.NanFree := by
    refine .array _ ?_
    simp only [List.forall_mem_cons]
    exact ⟨.number (by decide), .absent, List.forall_mem_nil _⟩
  obtain ⟨hself, -, -, halike, -⟩ := same_equivalence rows rows rows
  have hsame : rows.same layered = true := by
    rw [← halike rows layered (.refl rows) hlayers]
    exact hself hnumber
  obtain ⟨-, hsymm, -, -, hcontent⟩ := same_equivalence rows layered rows
  obtain ⟨-, -, hback, -, -⟩ := same_equivalence layered rows layered
  obtain ⟨htype, htruthy, hstructure⟩ := hcontent hidentity hsame
  exact ⟨hnumber, hlayers, hidentity, hfree, hsame, hsymm ▸ hsame, hback (hsymm ▸ hsame) hsame,
    htype, htruthy, hstructure hfree⟩

end Value

end Stencil
