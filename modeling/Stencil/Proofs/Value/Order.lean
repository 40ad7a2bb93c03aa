import Stencil.Render.Expr

/-!
# Values whose maps are in order

A value is ordered if the names of every map in it ascend.  Reading fields and items of ordered
values gives ordered values, so an expression over ordered variables has an ordered value as
long as the modifiers keep the order.
-/

namespace Stencil

/-- Entries whose names ascend, so that there is one for each name. -/
def Entries.Ascending {α : Type} (entries : Entries α) : Prop :=
  (Entries.names entries).Pairwise (· < ·)

namespace Value

/-- All maps of a value, however deep, are in ascending order. -/
inductive Ordered : Value → Prop
  | null : Ordered .null
  | boolean (flag : Bool) : Ordered (.boolean flag)
  | number (number : Number) : Ordered (.number number)
  | string (text : String) : Ordered (.string text)
  | array (identity : Identity) {items : List Value} (hitems : ∀ item ∈ items, Ordered item) :
      Ordered (.array identity items)
  | map (identity : Identity) {entries : List (String × Value)}
      (hascending : Entries.Ascending entries) (hvalues : ∀ entry ∈ entries, Ordered entry.2) :
      Ordered (.map identity entries)
  | time (time : Timestamp) : Ordered (.time time)
  | absent : Ordered .absent
  | present {inner : Value} (hinner : Ordered inner) : Ordered (.present inner)

theorem ordered_unwrapped {value : Value} (h : value.Ordered) : value.unwrapped.Ordered := by
  induction h with
  | present hinner ih => exact ih
  | absent => exact .null
  | array identity hitems => exact .array identity hitems
  | map identity hascending hvalues => exact .map identity hascending hvalues
  | null | boolean | number | string | time => constructor

theorem ordered_getD_find? {entries : Entries Value} (h : ∀ entry ∈ entries, entry.2.Ordered)
    (name : String) : ((Entries.find? name entries).getD .null).Ordered := by
  induction entries with
  | nil => exact .null
  | cons entry rest ih =>
      rw [Entries.find?]
      split
      · exact h entry List.mem_cons_self
      · exact ih fun other hother => h other (List.mem_cons_of_mem _ hother)

theorem ordered_field {value : Value} (h : value.Ordered) (name : String) :
    (value.field name).Ordered := by
  have hunwrapped := ordered_unwrapped h
  rw [field]
  split
  · rename_i identity entries hvalue
    rw [hvalue] at hunwrapped
    cases hunwrapped with
    | map _ hascending hvalues => exact ordered_getD_find? hvalues name
  · exact .null

theorem ordered_item {value : Value} (h : value.Ordered) (position : Value) :
    (value.item position).Ordered := by
  have hunwrapped := ordered_unwrapped h
  rw [item]
  split
  · rename_i identity items number hvalue hposition
    rw [hvalue] at hunwrapped
    cases hunwrapped with
    | array _ hitems =>
        cases hfound : number.toNat?.bind fun i => items[i]? with
        | none => exact .null
        | some found =>
            obtain ⟨i, -, hget⟩ := Option.bind_eq_some_iff.mp hfound
            exact hitems found (List.mem_of_getElem? hget)
  · exact .null

end Value

/-- Variables with ordered values. -/
def Variables.Ordered (vars : Variables) : Prop :=
  ∀ entry ∈ vars, entry.2.Ordered

/-- Modifiers that give ordered values for ordered values. -/
def Registry.KeepsOrder {σ : Type} (registry : Registry σ) : Prop :=
  ∀ entry ∈ registry, ∀ value host, value.Ordered → (entry.2 value host).1.Ordered

theorem Registry.ordered_apply {σ : Type} {registry : Registry σ} (h : registry.KeepsOrder)
    (modifier : String) {value : Value} (hvalue : value.Ordered) (host : σ) :
    (registry.apply modifier value host).1.Ordered := by
  rw [apply]
  induction registry with
  | nil => exact .null
  | cons entry rest ih =>
      rw [Entries.find?]
      by_cases hname : modifier = entry.1
      · rw [if_pos hname]
        exact h entry List.mem_cons_self value host hvalue
      · rw [if_neg hname]
        exact ih fun other hother => h other (List.mem_cons_of_mem _ hother)

/-- An expression over ordered variables has an ordered value. -/
theorem Expr.ordered_eval {σ : Type} {registry : Registry σ} {vars : Variables}
    (hregistry : registry.KeepsOrder) (hvars : Variables.Ordered vars) (expr : Expr) (host : σ) :
    (expr.eval registry vars host).1.Ordered := by
  induction expr generalizing host with
  | «variable» name => exact Value.ordered_getD_find? hvars name
  | number value => exact .number value
  | string text => exact .string text
  | field base name ih => exact Value.ordered_field (ih host) name
  | index base position ihBase ihPosition => exact Value.ordered_item (ihBase host) _
  | binary left op right ihLeft ihRight =>
      rw [eval]
      split
      · exact .boolean _
      · exact .boolean _
  | pipe input modifier ih => exact Registry.ordered_apply hregistry modifier (ih host) _

end Stencil
