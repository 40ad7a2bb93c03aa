import Mathlib.Data.List.Infix
import Stencil.Modifier.Builtin

/-!
# Entities

Escaping replaces each character that has a meaning of its own in hypertext by an entity.  The
five entities begin with an ampersand and have no other, so an ampersand in an escaped text is
always the first character of one of them, whatever entities and ampersands the text had before:
those have become entities themselves.  A reader that goes through the escaped text from the
left therefore meets the entity of each escaped character as a whole, and is behind it when it
comes to the next character of the original text.
-/

namespace Stencil

namespace Modifier

/-- The entities and the characters that they stand for. -/
def entities : List (List Char × Char) :=
  [("&amp;".toList, '&'), ("&lt;".toList, '<'), ("&gt;".toList, '>'), ("&quot;".toList, '\x22'),
    ("&#039;".toList, '\x27')]

/-- The entity with which a text begins. -/
def entityAt? (text : List Char) : Option (List Char × Char) :=
  entities.find? fun entity => entity.1.isPrefixOf text

/-- A text in which entities are replaced by their characters, in one pass from the left. -/
def decode : List Char → List Char
  | [] => []
  | c :: rest =>
      match entityAt? (c :: rest) with
      | some entity => entity.2 :: decode (rest.drop (entity.1.length - 1))
      | none => c :: decode rest
termination_by text => text.length
decreasing_by
  · rw [List.length_drop, List.length_cons]
    omega
  · exact Nat.lt_succ_self _

/-! ## Entities as pieces of a text -/

theorem entity_eq_cons {entity : List Char × Char} (h : entity ∈ entities) :
    ∃ tail, entity.1 = '&' :: tail ∧ '&' ∉ tail := by
  have hall : ∀ entity ∈ entities, entity.1 = '&' :: entity.1.tail ∧ '&' ∉ entity.1.tail := by
    decide
  exact ⟨entity.1.tail, hall entity h⟩

/-- A character is escaped by its entity if it has one, and stays as it is if it has none. -/
theorem escapeChar_cases (c : Char) :
    (escapeChar c, c) ∈ entities ∨ c ∉ entities.map Prod.snd ∧ escapeChar c = [c] := by
  by_cases h : c ∈ entities.map Prod.snd
  · have hall : ∀ d ∈ entities.map Prod.snd, (escapeChar d, d) ∈ entities := by
      rw [List.forall_mem_map]
      decide
    exact .inl (hall c h)
  · refine .inr ⟨h, ?_⟩
    simp only [entities, List.map_cons, List.map_nil, List.mem_cons, not_or] at h
    obtain ⟨hamp, hless, hgreater, hdouble, hsingle, -⟩ := h
    rw [escapeChar, if_neg hamp, if_neg hless, if_neg hgreater, if_neg hdouble, if_neg hsingle]

/-- No entity begins with another one. -/
theorem entityAt?_append {entity : List Char × Char} (h : entity ∈ entities) (rest : List Char) :
    entityAt? (entity.1 ++ rest) = some entity := by
  simp only [entities, List.mem_cons, List.not_mem_nil, or_false] at h
  rcases h with rfl | rfl | rfl | rfl | rfl <;> rfl

theorem entityAt?_of_ne {c : Char} (h : c ≠ '&') (rest : List Char) :
    entityAt? (c :: rest) = none := by
  rw [entityAt?, List.find?_eq_none]
  intro entity hentity hprefix
  obtain ⟨tail, htail, -⟩ := entity_eq_cons hentity
  rw [htail, List.isPrefixOf_iff_prefix, List.cons_prefix_cons] at hprefix
  exact h hprefix.1.symm

/-! ## Decoding -/

theorem decode_escapeChar_append (c : Char) (rest : List Char) :
    decode (escapeChar c ++ rest) = c :: decode rest := by
  rcases escapeChar_cases c with hentity | ⟨hplain, hsame⟩
  · have hat := entityAt?_append hentity rest
    obtain ⟨tail, htail, -⟩ := entity_eq_cons hentity
    dsimp only at hat htail
    rw [htail, List.cons_append] at hat ⊢
    rw [decode, hat]
    simp
  · have hne : c ≠ '&' := by
      rintro rfl
      exact hplain (by decide)
    rw [hsame, List.singleton_append, decode, entityAt?_of_ne hne]

/-- Decoding undoes escaping. -/
theorem decode_escape (text : List Char) : decode (escape text) = text := by
  induction text with
  | nil =>
      rw [escape, List.flatMap_nil, decode]
  | cons c text ih =>
      rw [escape, List.flatMap_cons, decode_escapeChar_append, ← escape, ih]

/-! ## Characters of an escaped text -/

/-- Besides the ampersands of its entities, an escaped text has no character with a meaning of
its own. -/
theorem not_mem_escape {c : Char} (hspecial : c ∈ entities.map Prod.snd) (hne : c ≠ '&')
    (text : List Char) : c ∉ escape text := by
  rw [escape, List.mem_flatMap]
  rintro ⟨d, -, hmem⟩
  rcases escapeChar_cases d with hentity | ⟨hplain, hsame⟩
  · obtain ⟨special, hentities, rfl⟩ := List.mem_map.mp hspecial
    have hall : ∀ entity ∈ entities, ∀ special ∈ entities, special.2 ≠ '&' →
        special.2 ∉ entity.1 := by
      decide
    exact hall _ hentity special hentities hne hmem
  · rw [hsame, List.mem_singleton] at hmem
    rw [hmem] at hspecial
    exact hplain hspecial

/-- An end of two texts one behind the other begins in one of them. -/
theorem suffix_append_cases {c : Char} {rest front behind : List Char}
    (h : c :: rest <:+ front ++ behind) :
    c :: rest <:+ behind ∨ ∃ inner, c :: inner <:+ front ∧ rest = inner ++ behind := by
  rcases List.suffix_or_suffix_of_suffix h (List.suffix_append front behind) with
    hin | ⟨inner, hinner⟩
  · exact .inl hin
  · cases inner with
    | nil =>
        rw [List.nil_append] at hinner
        exact .inl (hinner ▸ List.suffix_refl _)
    | cons d inner =>
        obtain ⟨rfl, rfl⟩ := List.cons.inj hinner
        exact .inr ⟨inner, (List.suffix_append_self_iff.mp h), rfl⟩

/-- Every ampersand of an escaped text begins an entity. -/
theorem exists_entity_of_suffix_escape {text rest : List Char} (h : '&' :: rest <:+ escape text) :
    ∃ entity ∈ entities, entity.1 <+: '&' :: rest := by
  induction text with
  | nil => cases List.suffix_nil.mp h
  | cons c text ih =>
      rw [escape, List.flatMap_cons, ← escape] at h
      rcases suffix_append_cases h with hbehind | ⟨inner, hinner, rfl⟩
      · exact ih hbehind
      · rcases escapeChar_cases c with hentity | ⟨hplain, hsame⟩
        · obtain ⟨tail, htail, hnone⟩ := entity_eq_cons hentity
          dsimp only at htail
          rw [htail, List.suffix_cons_iff] at hinner
          have hwhole : '&' :: inner = '&' :: tail :=
            hinner.resolve_right fun hlater => hnone (hlater.subset List.mem_cons_self)
          refine ⟨_, hentity, ?_⟩
          rw [htail, ← hwhole]
          exact List.prefix_append ('&' :: inner) (escape text)
        · rw [hsame] at hinner
          have hamp : '&' = c := List.mem_singleton.mp (hinner.subset List.mem_cons_self)
          exact absurd (by decide) (hamp ▸ hplain)

variable {σ : Type}

theorem apply_builtin_escape (text : String) (host : σ) :
    Registry.builtin.apply "escape" (.string text) host =
      (.string (String.ofList (escape text.toList)), host) :=
  rfl

/-- An escaped text has no angle bracket and no quote, each of its ampersands begins an entity,
and decoding the entities in one pass gives back the text.  So different texts are escaped
differently. -/
theorem apply_escape (text : String) (host : σ) :
    ∃ escaped : String,
      Registry.builtin.apply "escape" (.string text) host = (.string escaped, host) ∧
      (∀ c ∈ ['<', '>', '\x22', '\x27'], c ∉ escaped.toList) ∧
      (∀ rest, '&' :: rest <:+ escaped.toList → ∃ entity ∈ entities, entity.1 <+: '&' :: rest) ∧
      decode escaped.toList = text.toList ∧
      ∀ other, Registry.builtin.apply "escape" (.string other) host = (.string escaped, host) →
        other = text := by
  refine ⟨String.ofList (escape text.toList), apply_builtin_escape text host, ?_, ?_, ?_, ?_⟩
  · rw [String.toList_ofList]
    have hspecial : ∀ c ∈ ['<', '>', '\x22', '\x27'], c ∈ entities.map Prod.snd ∧ c ≠ '&' :=
      List.forall_iff_forall_mem.mp (by decide)
    intro c hc
    exact not_mem_escape (hspecial c hc).1 (hspecial c hc).2 text.toList
  · rw [String.toList_ofList]
    intro rest hrest
    exact exists_entity_of_suffix_escape hrest
  · rw [String.toList_ofList, decode_escape]
  · intro other hother
    rw [apply_builtin_escape] at hother
    have hescaped : escape other.toList = escape text.toList :=
      String.ofList_injective (Value.string.inj (Prod.mk.inj hother).1)
    have htext := congrArg decode hescaped
    rw [decode_escape, decode_escape] at htext
    exact String.toList_injective htext

/-- A text that holds an entity and an ampersand in front of a bracket. -/
example : escape "&lt;&<".toList = "&amp;lt;&amp;&lt;".toList := by decide

end Modifier

end Stencil
