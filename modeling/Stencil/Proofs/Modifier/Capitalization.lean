import Mathlib.Tactic.SplitIfs
import Stencil.Modifier.Builtin

/-!
# Capitalized words

Capitalizing goes through a text once, and all that it keeps of what it has gone through is
whether the last character was white space.  Behind white space it is therefore where it was at
the beginning of the text, and white space itself stays as it is, because it is no letter.  So a
text is capitalized word by word.  In a word only the first character can change, and no white
space comes into a text with the form of that character: the words of the capitalized text are
the capitalized words of the text, and its white space is that of the text.

That letters and upper-case forms are not white space is read off the tables.
-/

namespace Stencil

namespace Text

/-! ## Tables that do not meet -/

/-- No range of the first table meets a range of the second one. -/
def Ranges.Apart (ranges others : Ranges) : Prop :=
  ∀ range ∈ ranges, ∀ other ∈ others, range.2 < other.1 ∨ other.2 < range.1

instance (ranges others : Ranges) : Decidable (ranges.Apart others) :=
  inferInstanceAs
    (Decidable (∀ range ∈ ranges, ∀ other ∈ others, range.2 < other.1 ∨ other.2 < range.1))

theorem exists_range_of_containsCode {ranges : Ranges} {code : Nat}
    (h : ranges.containsCode code = true) :
    ∃ range ∈ ranges, range.1 ≤ code ∧ code ≤ range.2 := by
  induction ranges with
  | nil => cases h
  | cons range rest ih =>
      rw [Ranges.containsCode] at h
      split_ifs at h with hlow hhigh
      · exact ⟨range, List.mem_cons_self, Nat.le_of_not_lt hlow, hhigh⟩
      · obtain ⟨other, hother, hwithin⟩ := ih h
        exact ⟨other, List.mem_cons_of_mem range hother, hwithin⟩

theorem Ranges.Apart.containsCode_eq_false {ranges others : Ranges} (h : ranges.Apart others)
    {range : Nat × Nat} (hrange : range ∈ ranges) {code : Nat} (hlow : range.1 ≤ code)
    (hhigh : code ≤ range.2) : others.containsCode code = false := by
  rw [← Bool.not_eq_true]
  intro hcode
  obtain ⟨other, hother, hfirst, hlast⟩ := exists_range_of_containsCode hcode
  have hapart := h range hrange other hother
  omega

theorem whiteSpace_apart_alphabetic : whiteSpaceRanges.Apart alphabeticRanges := by
  decide +kernel

/-- White space is no letter. -/
theorem isAlphabetic_of_isWhiteSpace {c : Char} (h : isWhiteSpace c = true) :
    isAlphabetic c = false := by
  obtain ⟨range, hrange, hlow, hhigh⟩ := exists_range_of_containsCode h
  exact whiteSpace_apart_alphabetic.containsCode_eq_false hrange hlow hhigh

/-- The range of the forms of a run. -/
def CaseRun.forms (run : CaseRun) : Nat × Nat :=
  (run.form, run.form + (run.last - run.first))

theorem CaseRun.le_forms {run : CaseRun} {code : Nat} (h : run.containsCode code = true) :
    run.form + (code - run.first) ≤ run.forms.2 := by
  simp only [CaseRun.containsCode, Bool.and_eq_true, decide_eq_true_eq] at h
  dsimp only [CaseRun.forms]
  omega

theorem upperForms_apart_whiteSpace :
    Ranges.Apart (upperRuns.map CaseRun.forms) whiteSpaceRanges := by
  decide +kernel

theorem expansions_not_whiteSpace :
    ∀ entry ∈ upperExpansions, ∀ code ∈ entry.2, whiteSpaceRanges.containsCode code = false := by
  decide +kernel

theorem isWhiteSpace_ofNat {code : Nat} (h : whiteSpaceRanges.containsCode code = false) :
    isWhiteSpace (Char.ofNat code) = false := by
  rw [isWhiteSpace, Char.ofNat]
  by_cases hvalid : code.isValidChar
  · rw [dif_pos hvalid]
    exact h
  · rw [dif_neg hvalid]
    decide

/-- No white space comes with an upper-case form. -/
theorem isWhiteSpace_of_mem_upperCase {c d : Char} (hc : isWhiteSpace c = false)
    (hd : d ∈ upperCase c) :
    isWhiteSpace d = false := by
  rw [upperCase, caseForm] at hd
  split at hd
  case h_1 code form hfind =>
    obtain ⟨other, hother, rfl⟩ := List.mem_map.mp hd
    exact isWhiteSpace_ofNat
      (expansions_not_whiteSpace _ (List.mem_of_find?_eq_some hfind) other hother)
  case h_2 =>
    split at hd
    case h_1 run hfind =>
      have hrun : run.forms ∈ upperRuns.map CaseRun.forms :=
        List.mem_map_of_mem (List.mem_of_find?_eq_some hfind)
      have hcode := List.find?_some hfind
      rw [List.mem_singleton.mp hd]
      apply isWhiteSpace_ofNat
      apply upperForms_apart_whiteSpace.containsCode_eq_false hrun
      · exact Nat.le_add_right run.form _
      · exact CaseRun.le_forms hcode
    case h_2 =>
      rw [List.mem_singleton.mp hd]
      exact hc

/-! ## Words -/

/-- The words of a text.  Where white space stands next to white space or at an end of the text,
there is an empty word. -/
def words (text : List Char) : List (List Char) :=
  text.splitOnP isWhiteSpace

/-- The white space characters of a text. -/
def blanks (text : List Char) : List Char :=
  text.filter isWhiteSpace

/-- Words with a white space character behind each of them but the last. -/
def joined (words : List (List Char)) (blanks : List Char) : List Char :=
  (List.zipWith (· ++ ·) words (blanks.map (fun blank => [blank]) ++ [[]])).flatten

/-- No character is white space. -/
def IsUnbroken (word : List Char) : Prop :=
  ∀ c ∈ word, isWhiteSpace c = false

instance (word : List Char) : Decidable (IsUnbroken word) :=
  List.decidableBAll (fun c => isWhiteSpace c = false) word

theorem isUnbroken_nil : IsUnbroken [] :=
  List.forall_mem_nil _

theorem isUnbroken_cons {c : Char} {word : List Char} :
    IsUnbroken (c :: word) ↔ isWhiteSpace c = false ∧ IsUnbroken word :=
  List.forall_mem_cons

theorem isUnbroken_append {front behind : List Char} :
    IsUnbroken (front ++ behind) ↔ IsUnbroken front ∧ IsUnbroken behind :=
  List.forall_mem_append

theorem joined_words (text : List Char) : joined (words text) (blanks text) = text :=
  List.splitOnP_spec text

theorem words_of_isUnbroken {word : List Char} (h : IsUnbroken word) : words word = [word] :=
  List.splitOnP_eq_singleton h

theorem blanks_of_isUnbroken {word : List Char} (h : IsUnbroken word) : blanks word = [] := by
  rw [blanks, List.filter_eq_nil_iff]
  intro c hc
  rw [h c hc]
  exact Bool.false_ne_true

theorem words_append_cons {blank : Char} (h : isWhiteSpace blank = true)
    (front behind : List Char) :
    words (front ++ blank :: behind) = words front ++ words behind :=
  List.splitOnP_append_cons front behind h

theorem blanks_append_cons {blank : Char} (h : isWhiteSpace blank = true)
    (front behind : List Char) :
    blanks (front ++ blank :: behind) = blanks front ++ blank :: blanks behind := by
  rw [blanks, List.filter_append, List.filter_cons_of_pos h, ← blanks, ← blanks]

/-- Induction on the words of a text, which is a word, or a word in front of white space and a
text. -/
@[elab_as_elim]
theorem word_induction {motive : List Char → Prop}
    (word : ∀ word, IsUnbroken word → motive word)
    (append : ∀ word blank rest, IsUnbroken word → isWhiteSpace blank = true → motive rest →
      motive (word ++ blank :: rest))
    (text : List Char) : motive text := by
  -- The induction is on what follows the beginning `front` of a word whose end is not in sight.
  suffices h : ∀ front, IsUnbroken front → motive (front ++ text) from h [] isUnbroken_nil
  induction text with
  | nil =>
      intro front hfront
      rw [List.append_nil]
      exact word front hfront
  | cons c rest ih =>
      intro front hfront
      by_cases hblank : isWhiteSpace c = true
      · exact append front c rest hfront hblank (ih [] isUnbroken_nil)
      · have hc : IsUnbroken [c] := isUnbroken_cons.mpr ⟨eq_false_of_ne_true hblank, isUnbroken_nil⟩
        rw [List.append_cons]
        exact ih (front ++ [c]) (isUnbroken_append.mpr ⟨hfront, hc⟩)

/-! ## Capitalizing -/

/-- White space stays, and what follows it is capitalized as a text of its own, wherever the
text in front begins. -/
theorem capitalizeFrom_append_cons {blank : Char} (h : isWhiteSpace blank = true)
    (atWordStart : Bool) (front behind : List Char) :
    capitalizeFrom atWordStart (front ++ blank :: behind) =
      capitalizeFrom atWordStart front ++ blank :: capitalize behind := by
  induction front generalizing atWordStart with
  | nil =>
      rw [List.nil_append, capitalizeFrom, capitalizeFrom, isAlphabetic_of_isWhiteSpace h, h,
        Bool.and_false, if_neg Bool.false_ne_true, List.nil_append, List.singleton_append,
        capitalize]
  | cons c front ih =>
      rw [List.cons_append, capitalizeFrom, capitalizeFrom, ih, List.append_assoc]

theorem capitalize_append_cons {blank : Char} (h : isWhiteSpace blank = true)
    (front behind : List Char) :
    capitalize (front ++ blank :: behind) = capitalize front ++ blank :: capitalize behind :=
  capitalizeFrom_append_cons h true front behind

/-- Inside a word nothing changes. -/
theorem capitalizeFrom_false {word : List Char} (h : IsUnbroken word) :
    capitalizeFrom false word = word := by
  induction word with
  | nil => rfl
  | cons c word ih =>
      obtain ⟨hc, hword⟩ := isUnbroken_cons.mp h
      rw [capitalizeFrom, hc, ih hword, Bool.false_and, if_neg Bool.false_ne_true,
        List.singleton_append]

/-- In a word only the first character changes, and only if it is a letter. -/
theorem capitalize_cons {first : Char} {rest : List Char} (h : IsUnbroken (first :: rest)) :
    capitalize (first :: rest) =
      (if isAlphabetic first then upperCase first else [first]) ++ rest := by
  obtain ⟨hfirst, hrest⟩ := isUnbroken_cons.mp h
  rw [capitalize, capitalizeFrom, hfirst, capitalizeFrom_false hrest, Bool.true_and]

theorem isUnbroken_capitalize {word : List Char} (h : IsUnbroken word) :
    IsUnbroken (capitalize word) := by
  cases word with
  | nil => exact h
  | cons first rest =>
      obtain ⟨hfirst, hrest⟩ := isUnbroken_cons.mp h
      rw [capitalize_cons h, isUnbroken_append]
      constructor
      · split
        · intro d hd
          exact isWhiteSpace_of_mem_upperCase hfirst hd
        · exact isUnbroken_cons.mpr ⟨hfirst, isUnbroken_nil⟩
      · exact hrest

theorem words_capitalize (text : List Char) :
    words (capitalize text) = (words text).map capitalize := by
  induction text using word_induction with
  | word word hword =>
      rw [words_of_isUnbroken hword, words_of_isUnbroken (isUnbroken_capitalize hword),
        List.map_singleton]
  | append word blank rest hword hblank ih =>
      rw [capitalize_append_cons hblank, words_append_cons hblank, words_append_cons hblank,
        List.map_append, ih, words_of_isUnbroken hword,
        words_of_isUnbroken (isUnbroken_capitalize hword), List.map_singleton]

theorem blanks_capitalize (text : List Char) : blanks (capitalize text) = blanks text := by
  induction text using word_induction with
  | word word hword =>
      rw [blanks_of_isUnbroken hword, blanks_of_isUnbroken (isUnbroken_capitalize hword)]
  | append word blank rest hword hblank ih =>
      rw [capitalize_append_cons hblank, blanks_append_cons hblank, blanks_append_cons hblank, ih,
        blanks_of_isUnbroken hword, blanks_of_isUnbroken (isUnbroken_capitalize hword)]

end Text

namespace Modifier

variable {σ : Type}

/-- Capitalizing a text with white space in it is capitalizing what is in front of the white
space and what is behind it.  In a word the first character is put in its upper-case form if it
is a letter, and the others stay.  So the words of the result are the capitalized words of the
text, with the same white space between them. -/
theorem apply_capitalize (host : σ) :
    ∃ capitalized : String → String,
      (∀ text, Registry.builtin.apply "capitalize" (.string text) host =
        (.string (capitalized text), host)) ∧
      (∀ front behind blank, Text.isWhiteSpace blank = true →
        capitalized (front ++ String.singleton blank ++ behind) =
          capitalized front ++ String.singleton blank ++ capitalized behind) ∧
      (∀ first rest, Text.IsUnbroken (first :: rest) →
        capitalized (String.ofList (first :: rest)) =
          String.ofList
            ((if Text.isAlphabetic first then Text.upperCase first else [first]) ++ rest)) ∧
      capitalized "" = "" ∧
      ∀ text,
        Text.words (capitalized text).toList =
          (Text.words text.toList).map (fun word => (capitalized (String.ofList word)).toList) ∧
        Text.blanks (capitalized text).toList = Text.blanks text.toList ∧
        (capitalized text).toList =
          Text.joined
            ((Text.words text.toList).map fun word => (capitalized (String.ofList word)).toList)
            (Text.blanks text.toList) := by
  refine ⟨fun text => String.ofList (Text.capitalize text.toList), fun text => rfl, ?_, ?_, rfl, ?_⟩
  · intro front behind blank hblank
    apply String.toList_injective
    simp only [String.toList_append, String.toList_ofList, String.toList_singleton,
      List.append_assoc, List.singleton_append]
    exact Text.capitalize_append_cons hblank front.toList behind.toList
  · intro first rest hword
    simp only [String.toList_ofList, Text.capitalize_cons hword]
  · intro text
    simp only [String.toList_ofList]
    have hwords := Text.words_capitalize text.toList
    have hblanks := Text.blanks_capitalize text.toList
    refine ⟨hwords, hblanks, ?_⟩
    rw [← hblanks, ← hwords, Text.joined_words]

/-- Two words with two kinds of white space between them: the first letter has two characters as
its upper-case form, and the second word does not begin with a letter. -/
theorem apply_capitalize_two_words :
    Text.isWhiteSpace '\u2003' = true ∧ Text.isWhiteSpace ' ' = true ∧
      Text.IsUnbroken ['ß', 'a'] ∧ Text.IsUnbroken ['1', 'b'] ∧
      Registry.builtin.apply "capitalize" (.string "ßa\u2003 1b") () =
        (.string "SSa\u2003 1b", ()) := by
  obtain ⟨capitalized, happly, happend, hword, hempty, -⟩ := apply_capitalize ()
  have hwide : Text.isWhiteSpace '\u2003' = true := by decide
  have hspace : Text.isWhiteSpace ' ' = true := by decide
  have hfirst : Text.IsUnbroken ['ß', 'a'] := by decide
  have hsecond : Text.IsUnbroken ['1', 'b'] := by decide
  refine ⟨hwide, hspace, hfirst, hsecond, ?_⟩
  have hfront : capitalized "ßa" = "SSa" := (hword 'ß' ['a'] hfirst).trans (by decide +kernel)
  have hbehind : capitalized "1b" = "1b" := (hword '1' ['b'] hsecond).trans (by decide +kernel)
  have hblanks : capitalized " 1b" = " 1b" := by
    have hsplit := happend "" "1b" ' ' hspace
    rw [hempty, hbehind] at hsplit
    exact hsplit
  have hwhole := happend "ßa" " 1b" '\u2003' hwide
  rw [hfront, hblanks] at hwhole
  rw [happly]
  exact congrArg (fun text => (Value.string text, ())) hwhole

end Modifier

end Stencil
