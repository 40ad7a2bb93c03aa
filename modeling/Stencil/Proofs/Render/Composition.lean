import Stencil.Proofs.Render.Rounds
import Stencil.Proofs.Template.Composition

/-!
# Templates compose

Two sources, one behind the other, are read as both are read alone, and what they are read as
puts out what both put out alone: the first leaves the variables as they were, and a text in two
parts puts out the same as the text in one.
-/

namespace Stencil

namespace Node

variable {σ : Type}

theorem renderAll_append (registry : Registry σ) (front back : List Node) (depth : Nat)
    (state : Surroundings σ) :
    renderAll registry (front ++ back) depth state =
      let before := renderAll registry front depth state
      let behind := renderAll registry back depth before.2
      (before.1 ++ behind.1, behind.2) := by
  induction front generalizing state with
  | nil => simp [renderAll]
  | cons node front ih => simp only [List.cons_append, renderAll, ih, String.append_assoc]

/-- A text in two parts puts out what it does in one. -/
theorem renderAll_text_append (registry : Registry σ) (front back : List Node) (one other : String)
    (depth : Nat) (state : Surroundings σ) :
    renderAll registry (front ++ .text (one ++ other) :: back) depth state =
      renderAll registry (front ++ [.text one] ++ .text other :: back) depth state := by
  have hparts (state : Surroundings σ) :
      renderAll registry (.text (one ++ other) :: back) depth state =
        renderAll registry ([.text one] ++ .text other :: back) depth state :=
    congrArg (·, (renderAll registry back depth state).2) String.append_assoc
  rw [List.append_assoc, renderAll_append, renderAll_append registry front]
  simp only [hparts]

/-- Nodes behind others put out what they do alone in the variables around both. -/
theorem text_renderAll_append (registry : Registry σ) (front back : List Node) (depth : Nat)
    (state : Surroundings σ) :
    let before := renderAll registry front depth state
    (renderAll registry (front ++ back) depth state).1 =
      before.1 ++ (renderAll registry back depth { state with host := before.2.host }).1 := by
  intro before
  rw [renderAll_append]
  exact congrArg (before.1 ++ ·) (renderAll_of_sameLookups registry back depth before.2.host
    (sameLookups_renderAll registry front depth state)).1

end Node

/-- What two sources are read as together puts out what the nodes of both do, one after the
other. -/
theorem Finished.renderAll_followedBy {σ : Type} {first : String} {nodes : List Node}
    {ts : List Token} {last : Scanner} (h : Finished first nodes ts last)
    (hcomments : ∀ piece ∈ (Scanner.ofSource first).pieces, ¬ piece.IsOpenComment)
    (second : String) (registry : Registry σ) (depth : Nat) (state : Surroundings σ) :
    Node.renderAll registry (readSource (first ++ second)).1 depth state =
      Node.renderAll registry (nodes ++ (readSource second).1) depth state := by
  by_cases hseam : EndsInText first ∧ BeginsInText second
  · obtain ⟨front, back, one, other, hnodes, hfurther, hwhole⟩ :=
      h.readSource_followedBy_of_text hseam.1 hseam.2
    rw [hwhole, hnodes, hfurther]
    exact Node.renderAll_text_append registry front back one other depth state
  · rw [h.readSource_followedBy hcomments hseam]

/-- A source behind one without diagnostics keeps its own diagnostics, each in the place that it
has behind the first source.  The nodes of the first stand in front of those of the second, and
if both have text at the seam, their two texts are one.  If nothing is wrong with the second
either, both put out what they do alone; the host renders the second where the first has left
it. -/
theorem readSource_append {first : String} {nodes : List Node}
    (hfirst : readSource first = (nodes, []))
    (hcomments : ∀ piece ∈ (Scanner.ofSource first).pieces, ¬ piece.IsOpenComment)
    (second : String) :
    let further := readSource second
    let whole := readSource (first ++ second)
    whole.2.map (fun diagnostic => (diagnostic.message, diagnostic.position)) =
        further.2.map (fun diagnostic =>
          (diagnostic.message, diagnostic.position.movedTo (.behind first.toList))) ∧
      (¬ (EndsInText first ∧ BeginsInText second) → whole.1 = nodes ++ further.1) ∧
      (EndsInText first ∧ BeginsInText second →
        ∃ front back one other, nodes = front ++ [.text one] ∧ further.1 = .text other :: back ∧
          whole.1 = front ++ .text (one ++ other) :: back) ∧
      (further.2 = [] → whole.2 = [] ∧
        ∀ {σ : Type} (registry : Registry σ) (state : Surroundings σ),
          let before := Template.render ⟨nodes⟩ registry state
          (Template.render ⟨whole.1⟩ registry state).1 =
            before.1 ++
              (Template.render ⟨further.1⟩ registry { state with host := before.2.host }).1) := by
  intro further whole
  obtain ⟨ts, last, hfinished⟩ := exists_finished hfirst
  have hdiagnostics : whole.2 = further.2.map (Diagnostic.movedTo (.behind first.toList)) :=
    hfinished.diagnostics_followedBy hcomments second
  refine ⟨?_, ?_, ?_, ?_⟩
  · rw [hdiagnostics, List.map_map]
    apply List.map_congr_left
    intro diagnostic _
    exact congrArg (·, _) (Problem.message_movedTo _ diagnostic.problem)
  · intro hseam
    exact congrArg Prod.fst (hfinished.readSource_followedBy hcomments hseam)
  · intro hseam
    obtain ⟨front, back, one, other, hnodes, hfurther, hwhole⟩ :=
      hfinished.readSource_followedBy_of_text hseam.1 hseam.2
    exact ⟨front, back, one, other, hnodes, hfurther, congrArg Prod.fst hwhole⟩
  · intro hnil
    have hclean : whole.2 = [] := by
      rw [hdiagnostics, hnil, List.map_nil]
    refine ⟨hclean, ?_⟩
    intro σ registry state before
    have htext := hfinished.renderAll_followedBy hcomments second registry 0 state
    simp only [Template.render]
    rw [htext]
    exact Node.text_renderAll_append registry nodes further.1 0 state

/-- A comment and a text that goes on in a source in which something is wrong. -/
theorem readSource_append_text :
    let first := "\x7b* c *\x7db"
    let second := "d\x7b$\x7d"
    let whole := readSource (first ++ second)
    readSource first = ([.text "b"], []) ∧
      (∀ piece ∈ (Scanner.ofSource first).pieces, ¬ piece.IsOpenComment) ∧
      whole.1 = [.text "bd"] ∧
      whole.2.map (fun diagnostic => (diagnostic.message, diagnostic.position)) =
        [("expected variable name after `$`, got `\x7d`", ⟨1, 12⟩)] := by
  intro first second whole
  have hsecond : readSource second =
      ([.text "d"], [⟨.expected .variableName ⟨.closeTag, "\x7d", ⟨1, 4⟩⟩, ⟨1, 4⟩⟩]) := by
    simp only [second, readSource]
    cbv
  have hread : readSource first = ([.text "b"], []) := by
    simp only [first, readSource]
    cbv
  have hpieces : (Scanner.ofSource first).pieces =
      [⟨[], ⟨.comment, " c ", ⟨1, 1⟩⟩, "\x7b* c *\x7d".toList⟩, ⟨[], ⟨.text, "b", ⟨1, 8⟩⟩, ['b']⟩,
        ⟨[], ⟨.endOfInput, "", ⟨1, 9⟩⟩, []⟩] := by
    simp only [first]
    cbv
  have hcomments : ∀ piece ∈ (Scanner.ofSource first).pieces, ¬ piece.IsOpenComment := by
    rw [hpieces]
    simp [Piece.IsOpenComment]
  have hseam : EndsInText first ∧ BeginsInText second := by
    rw [EndsInText, ← Scanner.map_token_pieces, hpieces, beginsInText_iff]
    simp only [second]
    constructor
    · exact ⟨_, rfl, rfl⟩
    · rfl
  obtain ⟨hdiagnostics, -, hjoined, -⟩ := readSource_append hread hcomments second
  obtain ⟨front, back, one, other, hnodes, hfurther, hwhole⟩ := hjoined hseam
  rw [hsecond] at hdiagnostics hfurther
  refine ⟨hread, hcomments, ?_, hdiagnostics.trans ?_⟩
  · have hsplit : [] ++ [Node.text "b"] = front ++ [.text one] := hnodes
    obtain ⟨rfl, hone⟩ := List.append_inj' hsplit rfl
    cases hone
    cases hfurther
    exact hwhole
  · decide

end Stencil
