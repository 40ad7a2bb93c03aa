import Stencil.Modifier.Builtin
import Stencil.Proofs.Template.RoundTrip
import Stencil.Render.Library

/-!
# Sources that render verbatim

A source of plain text, comments and literal blocks is put out as it stands, with the comments
and the marks of the blocks left out.  It is scanned segment by segment.  Between two segments
the scanner is in front of a text, except that plain text goes on until there is a brace: texts
that stand side by side are one token.  The induction on the segments therefore takes along the
plain text that has come before and has not been cut yet.

A comment ends with the first star in front of a brace, and a literal block with its end mark.
Neither mark can begin inside of what it ends and be completed by the mark itself, as no mark
begins with an end of itself.
-/

namespace Stencil

open Scanner

/-- A segment of a source. -/
inductive Segment
  | plain (text : String)
  | comment (content : String)
  | literal (body : String)

namespace Segment

/-- How a segment is written. -/
def source : Segment → String
  | plain text => text
  | comment content => "\x7b*" ++ content ++ "*\x7d"
  | literal body => "\x7bliteral\x7d" ++ body ++ "\x7b/literal\x7d"

/-- What a segment puts out. -/
def shown : Segment → String
  | plain text => text
  | comment _ => ""
  | literal body => body

/-- Plain text has no opening brace, and comments and literal blocks do not hold the marks that
end them. -/
def IsVerbatim : Segment → Prop
  | plain text => '\x7b' ∉ text.toList
  | comment content => ¬ "*\x7d".toList <:+: content.toList
  | literal body => ¬ "\x7b/literal\x7d".toList <:+: body.toList

instance : (segment : Segment) → Decidable segment.IsVerbatim
  | plain text => inferInstanceAs (Decidable ('\x7b' ∉ text.toList))
  | comment content => inferInstanceAs (Decidable (¬ "*\x7d".toList <:+: content.toList))
  | literal body => inferInstanceAs (Decidable (¬ "\x7b/literal\x7d".toList <:+: body.toList))

end Segment

/-! ## Tokens of texts alone -/

/-- Tokens that write nothing but texts, which make up the given text together. -/
def WritesText (shown : String) (ts : List Token) : Prop :=
  ∃ texts : List String, String.join texts = shown ∧
    (Phrase.block (texts.map Node.text)).Derives (· = .comment) ts

namespace WritesText

variable {shown further : String} {ts us : List Token}

theorem nil : WritesText "" [] :=
  ⟨[], String.join_nil, .nil⟩

theorem node {text : String} (h : (Phrase.node (.text text)).Derives (· = .comment) ts) :
    WritesText text ts := by
  refine ⟨[text], ?_, .add .nil h⟩
  rw [String.join_cons, String.join_nil, String.append_empty]

theorem comment {token : Token} (h : token.kind = .comment) : WritesText "" [token] :=
  ⟨[], String.join_nil, .skip .nil h⟩

theorem append (hfirst : WritesText shown ts) (hsecond : WritesText further us) :
    WritesText (shown ++ further) (ts ++ us) := by
  obtain ⟨texts, rfl, hts⟩ := hfirst
  obtain ⟨others, rfl, hus⟩ := hsecond
  refine ⟨texts ++ others, String.join_append, ?_⟩
  rw [List.map_append]
  exact hts.append hus

end WritesText

/-! ## Segments between tags -/

namespace Scanner

/-- Plain text between tags is one token, up to the next brace. -/
theorem AtText.plain {scanner : Scanner} {text rest : List Char} (h : scanner.AtText (text ++ rest))
    (hne : text ≠ []) (htext : '\x7b' ∉ text) (hrest : ∀ c ∈ rest.head?, c = '\x7b') :
    scanner.token.kind = .text ∧ scanner.token.literal = String.ofList text ∧
      scanner.next.AtText rest := by
  have hall : ∀ c ∈ text, decide (c ≠ '\x7b') = true := by
    intro c hc
    apply decide_eq_true
    rintro rfl
    exact htext hc
  have hhead : ∀ c ∈ rest.head?, decide (c ≠ '\x7b') = false := by
    intro c hc
    exact decide_eq_false (not_not_intro (hrest c hc))
  have hcut : scanner.cut = Cut.plain .text text rest .text := by
    rw [cut, h.mode]
    simp only [h.rest]
    obtain ⟨c, text, rfl⟩ := List.exists_cons_of_ne_nil hne
    obtain ⟨hc, htail⟩ := List.forall_mem_cons.mp hall
    rw [List.cons_append, Cut.ofText, if_neg (of_decide_eq_true hc),
      Cut.takeWhile_append htail hhead, Cut.dropWhile_append htail hhead]
  refine ⟨?_, ?_, ?_, ?_⟩
  · rw [token, hcut]
    rfl
  · rw [token, hcut]
    rfl
  · rw [next, hcut]
    rfl
  · rw [next, hcut]
    rfl

/-- A comment is one token, up to the mark that ends it. -/
theorem AtText.comment {scanner : Scanner} {content rest : List Char}
    (h : scanner.AtText ('\x7b' :: '*' :: (content ++ (Cut.commentEnd ++ rest))))
    (hcontent : ¬ Cut.commentEnd <:+: content) :
    scanner.token.kind = .comment ∧ scanner.next.AtText rest := by
  have hsplit : Cut.splitAt Cut.commentEnd (content ++ (Cut.commentEnd ++ rest)) =
      (content, Cut.commentEnd ++ rest) :=
    Cut.splitAt_of_not_infix (by decide) hcontent rest
  have hcut : scanner.cut = Cut.comment (content ++ (Cut.commentEnd ++ rest)) := by
    rw [cut, h.mode]
    simp only [h.rest]
    rfl
  have hbehind : (Cut.comment (content ++ (Cut.commentEnd ++ rest))).rest = rest := by
    simp only [Cut.comment, hsplit]
    rfl
  refine ⟨?_, ?_, ?_⟩
  · rw [token, hcut]
    rfl
  · rw [next, hcut]
    rfl
  · rw [next, hcut]
    exact hbehind

end Scanner

/-- From one place between tags to the next, a text is scanned into tokens of texts alone. -/
abbrev ScansText (shown : String) (text rest : List Char) : Prop :=
  ScansBetween AtText AtText (WritesText shown) text rest

theorem ScansText.append {shown further : String} {text behind rest : List Char}
    (hfirst : ScansText shown text (behind ++ rest)) (hsecond : ScansText further behind rest) :
    ScansText (shown ++ further) (text ++ behind) rest := by
  refine (ScansBetween.append hfirst hsecond).imp ?_
  rintro _ ⟨ts, us, rfl, hts, hus⟩
  exact hts.append hus

theorem scans_plain {text : String} (h : '\x7b' ∉ text.toList) {rest : List Char}
    (hrest : ∀ c ∈ rest.head?, c = '\x7b') : ScansText text text.toList rest := by
  intro scanner hscanner
  by_cases hempty : text.toList = []
  · rw [hempty] at hscanner
    obtain rfl : text = "" := String.toList_eq_nil_iff.mp hempty
    exact ⟨[], scanner, .nil, .nil, hscanner⟩
  · obtain ⟨hkind, hliteral, hnext⟩ := hscanner.plain hempty h hrest
    have hwrites : WritesText scanner.token.literal [scanner.token] := .node (.text hkind)
    rw [hliteral, String.ofList_toList] at hwrites
    exact ⟨[scanner.token], scanner.next, .single (by rw [hkind]; exact nofun), hwrites, hnext⟩

theorem scans_comment {content : String} (h : ¬ "*\x7d".toList <:+: content.toList)
    (rest : List Char) : ScansText "" (Segment.comment content).source.toList rest := by
  intro scanner hscanner
  have hsource : (Segment.comment content).source.toList ++ rest =
      '\x7b' :: '*' :: (content.toList ++ (Cut.commentEnd ++ rest)) := by
    rw [Segment.source, String.toList_append, String.toList_append, List.append_assoc,
      List.append_assoc]
    rfl
  rw [hsource] at hscanner
  obtain ⟨hkind, hnext⟩ := hscanner.comment h
  exact ⟨[scanner.token], scanner.next, .single (by rw [hkind]; exact nofun), .comment hkind, hnext⟩

theorem scans_literalSegment {body : String} (h : ¬ "\x7b/literal\x7d".toList <:+: body.toList)
    (rest : List Char) : ScansText body (Segment.literal body).source.toList rest := by
  have hsource : (Segment.literal body).source.toList = (Node.text body).print := by
    rw [Segment.source, String.toList_append, String.toList_append]
    rfl
  rw [hsource]
  refine (scans_literal h rest).imp ?_
  intro ts hts
  cases hts with
  | text htext => exact .node (.text htext)
  | literal hopening hbody hend => exact .node (.literal hopening hbody hend)

/-! ## Sources -/

/-- The segments from a place between tags on, behind plain text that has not been cut yet. -/
theorem scans_segments {segments : List Segment} (h : ∀ segment ∈ segments, segment.IsVerbatim)
    {front : String} (hfront : '\x7b' ∉ front.toList) :
    ScansText (front ++ String.join (segments.map Segment.shown))
      (front ++ String.join (segments.map Segment.source)).toList [] := by
  induction segments generalizing front with
  | nil =>
      rw [List.map_nil, List.map_nil, String.join_nil, String.append_empty]
      exact scans_plain hfront nofun
  | cons segment rest ih =>
      obtain ⟨hsegment, hrest⟩ := List.forall_mem_cons.mp h
      rw [List.map_cons, List.map_cons, String.join_cons, String.join_cons]
      -- What begins with a brace ends the plain text in front of it, and nothing is left to be
      -- cut behind it.
      have hbraced (hscans : ∀ further, ScansText segment.shown segment.source.toList further)
          (hbrace : segment.source.toList.head? = some '\x7b') :
          ScansText (front ++ (segment.shown ++ String.join (rest.map Segment.shown)))
            (front ++ (segment.source ++ String.join (rest.map Segment.source))).toList [] := by
        have hnone : '\x7b' ∉ "".toList := by simp
        have hback := ih hrest hnone
        rw [String.empty_append, String.empty_append] at hback
        rw [String.toList_append, String.toList_append]
        refine (scans_plain hfront ?_).append ((hscans _).append hback)
        intro c hc
        rw [List.append_assoc, List.head?_append, hbrace] at hc
        exact (Option.some.inj hc).symm
      cases segment with
      | plain text =>
          have hlonger : '\x7b' ∉ (front ++ text).toList := by
            rw [String.toList_append]
            exact List.not_mem_append hfront hsegment
          rw [Segment.shown, Segment.source, ← String.append_assoc, ← String.append_assoc]
          exact ih hrest hlonger
      | comment content =>
          apply hbraced (scans_comment hsegment)
          rw [Segment.source, String.toList_append, String.toList_append]
          rfl
      | literal body =>
          apply hbraced (scans_literalSegment hsegment)
          rw [Segment.source, String.toList_append, String.toList_append]
          rfl

theorem Node.renderAll_texts {σ : Type} (registry : Registry σ) (texts : List String) (depth : Nat)
    (state : Surroundings σ) :
    renderAll registry (texts.map Node.text) depth state = (String.join texts, state) := by
  induction texts with
  | nil =>
      rw [List.map_nil, renderAll, String.join_nil]
  | cons text rest ih =>
      have htext : (Value.string text).output = text := rfl
      rw [List.map_cons, renderAll, eval, ih, String.join_cons, htext]

/-- Plain text, comments and literal blocks are read without diagnostics, and put out the text
and the insides of the blocks, whatever the variables and the modifiers are. -/
theorem renderSource_verbatim {σ : Type} {segments : List Segment}
    (h : ∀ segment ∈ segments, segment.IsVerbatim) (registry : Registry σ)
    (state : Surroundings σ) :
    let source := String.join (segments.map Segment.source)
    (readSource source).2 = [] ∧
      Library.renderSource source registry state =
        (.ok (String.join (segments.map Segment.shown)), state) := by
  intro source
  have hnone : '\x7b' ∉ "".toList := by simp
  have hscans := scans_segments h hnone
  rw [String.empty_append, String.empty_append] at hscans
  obtain ⟨ts, ending, htokens, hending, texts, hshown, hderives⟩ := tokens_of_scans hscans
  have hread : readSource source = (texts.map Node.text, []) := by
    refine readSource_of_derives ?_ htokens hending hderives
    rintro _ rfl
    exact ⟨nofun, nofun⟩
  constructor
  · rw [hread]
  · rw [Library.renderSource, Template.parse, hread]
    dsimp only
    rw [Template.render, Node.renderAll_texts, hshown]

/-- A comment that ends in a star, and literal blocks with nothing in them, with a comment and a
tag, and with the beginning of the mark that ends them. -/
theorem renderSource_verbatim_marks :
    let segments := [Segment.plain "a \x7d", .comment "\x7b$x\x7d*", .literal "", .plain "\n",
      .plain "ü", .literal "\x7b* \x7bif $x\x7d ü", .literal "\x7b/literal"]
    (∀ segment ∈ segments, segment.IsVerbatim) ∧
      (readSource (String.join (segments.map Segment.source))).2 = [] ∧
      Library.renderSource (String.join (segments.map Segment.source)) Registry.builtin
          (⟨[("x", .null)], ()⟩ : Surroundings Unit) =
        (.ok "a \x7d\nü\x7b* \x7bif $x\x7d ü\x7b/literal", ⟨[("x", .null)], ()⟩) := by
  intro segments
  have hverbatim : ∀ segment ∈ segments, segment.IsVerbatim := by
    decide +kernel
  have hshown : String.join (segments.map Segment.shown) =
      "a \x7d\nü\x7b* \x7bif $x\x7d ü\x7b/literal" := by
    decide +kernel
  obtain ⟨hread, hrender⟩ :=
    renderSource_verbatim hverbatim Registry.builtin (⟨[("x", .null)], ()⟩ : Surroundings Unit)
  rw [hshown] at hrender
  exact ⟨hverbatim, hread, hrender⟩

end Stencil
