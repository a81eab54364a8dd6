import LabEditor.Proofs.Outcome
import LabEditor.Proofs.Preview.Tagged
import LabEditor.Proofs.Text.Entity

/-! Styled code on a page that holds no other tags. Markers are found nowhere on it, and the styled
code is found where it was put. -/
namespace LabEditor.Preview

variable {ps : List (Piece CodePoint Marked)} {html t rest : Text}

/-- How a text can begin that is left of a styled page and begins with a tag. -/
def tags : List Text :=
  ["<div class=\"", "<pre><code>", "<code>", "</code></pre></div>", "</pre></div>", "</div>"]

def openTag (kind : Kind) (interrupt : Bool) : Text :=
  "<div class=\"" ++ kind.name ++ "-block\"" ++ interruptFlag interrupt ++ "><pre><code>"

def closeTag : Text := "</code></pre></div>"

theorem html_eq (block : Marked) :
    block.html = openTag block.kind block.interrupt ++
      (Text.escapeHtml block.code ++ closeTag) := by
  unfold Marked.html styledBlock openTag closeTag
  rw [List.append_assoc]

theorem tagged_openTag (kind : Kind) (interrupt : Bool) : Tagged tags (openTag kind interrupt) := by
  cases kind <;> cases interrupt <;> exact .of_tails (by decide)

theorem tagged_html (block : Marked) : Tagged tags block.html := by
  rw [html_eq]
  exact (tagged_openTag _ _).append
    ((Tagged.of_free (Text.escapeHtml_free block.code)).append (.of_tails (by decide)))

/-- A page of styled code: nothing else on it begins a tag. -/
def Tagless (ps : List (Piece CodePoint Marked)) : Prop :=
  ∀ c : CodePoint, .plain c ∈ ps → c ≠ '<'

/-- A text in which every tag is one that styled code is written with. -/
def Styled (html : Text) : Prop :=
  ∀ t, t <:+ html → t.head? = some ('<' : CodePoint) → ∃ tag ∈ tags, tag <+: t

theorem page_tags (tagless : Tagless ps) : Styled (Piece.writeAll Marked.html ps) := by
  refine Tagged.flatMap fun piece member => ?_
  cases piece with
  | plain c => exact .of_free fun same => tagless c member (List.mem_singleton.mp same).symm
  | hit block => exact tagged_html block

theorem Styled.suffix (styled : Styled html) (part : t <:+ html) : Styled t :=
  Tagged.suffix styled part

/-- Behind the end of code stands the end of its block. -/
theorem Styled.after_code (styled : Styled t) (closed : Text.after? "</code>" t = some rest) :
    ∃ behind, rest = "</pre></div>" ++ behind := by
  rcases Tagged.shape styled with apart | ⟨tag, known, behind, rfl⟩
  · have none : Text.after? "</code>" t = none := after?_apart apart
    rw [none] at closed
    contradiction
  · simp only [tags, List.mem_cons, List.not_mem_nil, or_false] at known
    rcases known with rfl | rfl | rfl | rfl | rfl | rfl
    · cases closed
    · cases closed
    · cases closed
    · cases closed
      exact ⟨behind, rfl⟩
    · cases closed
    · cases closed

theorem Styled.no_markedEnd (styled : Styled t) : markedEnd? t = none := by
  -- The end of code that is looked for is the end of a styled block, which is no end of a marker.
  cases closed : Text.after? "</code></pre>" t with
  | none => simp only [markedEnd?, closed, Option.bind_eq_bind, Option.bind_none]
  | some rest =>
    have code : Text.after? "</code>" t = some ("</pre>" ++ rest) := by
      rw [Text.after?_eq_some.mp closed]
      rfl
    obtain ⟨behind, same⟩ := styled.after_code code
    have shape : rest = "</div>" ++ behind := by
      have inner := congrArg (Text.after? "</pre>") same
      rw [Text.after?_append] at inner
      exact Option.some.inj inner
    simp only [markedEnd?, closed, shape, Option.bind_eq_bind, Option.bind_some]
    rfl

theorem upTo?_none {read? : Text → Option (α × Text)}
    (never : ∀ rest, rest <:+ t → read? rest = none) :
    upTo? read? t = none := by
  induction t with
  | nil => rw [upTo?, never [] List.suffix_rfl, Option.map_none]
  | cons c t ih =>
    have later := ih fun rest part => never rest (part.trans (List.suffix_cons c t))
    rw [upTo?, never _ List.suffix_rfl, later]
    rfl

theorem afterCodeOpen?_suffix (opened : afterCodeOpen? t = some rest) : rest <:+ t := by
  obtain ⟨inside, here, behind⟩ := Option.bind_eq_some_iff.mp opened
  have outer := Text.after?_suffix here
  split at behind
  · rename_i named found
    have quoted := (Text.after?_suffix behind).trans (Text.splitWhen_suffix (· == '"') named)
    exact (quoted.trans (Text.after?_suffix found)).trans outer
  · exact (Text.after?_suffix behind).trans outer

/-- No marker follows a code block of a styled page. -/
theorem Styled.no_fenced (styled : Styled t) (before : Option CodePoint) :
    fencedPattern before t = none := by
  cases opened : afterCodeOpen? t with
  | none => simp only [fencedPattern, opened, Option.bind_eq_bind, Option.bind_none]
  | some rest =>
    have never : upTo? markedEnd? rest = none :=
      upTo?_none fun _ part =>
        (styled.suffix (part.trans (afterCodeOpen?_suffix opened))).no_markedEnd
    simp only [fencedPattern, opened, never, Option.bind_eq_bind, Option.bind_some,
      Option.bind_none]

/-- A styled page is what the preview shows. -/
theorem Styled.replaced (styled : Styled html) :
    hostPattern.replace openOutside (inlinePattern.replace id (fencedPattern.replace id html)) =
      html := by
  have tagged : Tagged pageTags html := Tagged.mono (by decide) styled
  rw [Pattern.replace_eq_self fun before _ _ part => (styled.suffix part).no_fenced before,
    tagged.replaced]

variable {code : Text} {inner : List Text}

/-- Code that is looked through for the end of its block, which begins nowhere within it. -/
theorem upTo?_close (tagged : Tagged inner code) (apart : Apart closeTag inner) (rest : Text) :
    upTo? (literal closeTag) (code ++ (closeTag ++ rest)) = some (code, (), rest) := by
  have unread (u : Text) (part : u <:+ code) (some : u ≠ []) :
      literal closeTag (u ++ (closeTag ++ rest)) = none := by
    have none : Text.after? closeTag (u ++ (closeTag ++ rest)) = .none := tagged.unread apart part some _
    rw [literal, none, Option.map_none]
  have here : literal closeTag (closeTag ++ rest) = some ((), rest) := by
    rw [literal, Text.after?_append, Option.map_some]
  rw [upTo?_skip unread, upTo?_here here]
  simp

theorem styledBlock_append (kind : Kind) (code : Text) (interrupt : Bool) (rest : Text) :
    styledBlock kind code interrupt ++ rest = openTag kind interrupt ++ (code ++ (closeTag ++ rest)) := by
  unfold styledBlock openTag closeTag
  simp only [List.append_assoc]

/-- A styled block is read as a whole. -/
theorem blockPattern_styled (tagged : Tagged inner code) (apart : Apart closeTag inner) (kind : Kind)
    (interrupt : Bool) (before : Option CodePoint) (rest : Text) :
    blockPattern before (styledBlock kind code interrupt ++ rest) = some ((kind, code), rest) := by
  have opened (behind : Text) : blockPattern before (openTag kind interrupt ++ behind) =
      (upTo? (literal closeTag) behind).bind fun found => some ((kind, found.1), found.2.2) := by
    cases kind <;> cases interrupt <;> rfl
  rw [styledBlock_append, opened, upTo?_close tagged apart]
  rfl

theorem html_ne_nil (block : Marked) : block.html ≠ [] := by
  have some : openTag block.kind block.interrupt ≠ [] := List.cons_ne_nil _ _
  rw [html_eq]
  exact List.append_ne_nil_of_left_ne_nil some _

theorem blockPattern_html (block : Marked) (before : Option CodePoint) (rest : Text) :
    blockPattern before (block.html ++ rest) =
      some ((block.kind, Text.escapeHtml block.code), rest) := by
  have free : Tagged [] (Text.escapeHtml block.code) := .of_free (Text.escapeHtml_free block.code)
  exact blockPattern_styled free (by decide) _ _ before rest

/-- A styled block: its kind, and whether its tag carries the flag of an interrupt. -/
def flagPattern : Pattern CodePoint (Kind × Bool) := fun _ t => do
  let (kind, t) ← Kind.read? (← Text.after? "<div class=\"" t)
  let (attributes, t) := Text.splitWhen (· == '>') (← Text.after? "-block\"" t)
  let (_, _, rest) ← upTo? (literal "</code></pre></div>") (← Text.after? "><pre><code>" t)
  pure ((kind, Text.hasPart (interruptFlag true) attributes), rest)

theorem flagPattern_html (block : Marked) (before : Option CodePoint) (rest : Text) :
    flagPattern before (block.html ++ rest) = some ((block.kind, block.interrupt), rest) := by
  have opened (kind : Kind) (interrupt : Bool) (behind : Text) :
      flagPattern before (openTag kind interrupt ++ behind) =
        (upTo? (literal closeTag) behind).bind fun found =>
          some ((kind, interrupt), found.2.2) := by
    cases kind <;> cases interrupt <;> rfl
  have free : Tagged [] (Text.escapeHtml block.code) := .of_free (Text.escapeHtml_free block.code)
  rw [Marked.html, styledBlock_append, opened, upTo?_close free (by decide)]
  rfl

/-- A pattern that reads styled blocks as a whole finds each of a styled page. -/
theorem findAll_html {p : Pattern CodePoint α} (read : Marked → α) (tagless : Tagless ps)
    (plain : ∀ before t, t.head? ≠ some ('<' : CodePoint) → p before t = none)
    (hit : ∀ block before rest, p before (block.html ++ rest) = some (read block, rest)) :
    p.findAll (Piece.writeAll Marked.html ps) = (ps.filterMap Piece.value?).map read := by
  have scans := Pattern.scans_writeAll (p := p) (f := Marked.html) (g := read) ps
    (fun c member before rest => plain before _ fun same => tagless c member (Option.some.inj same))
    (fun block rest _ => ⟨html_ne_nil block, fun before => hit block before _⟩) none
  rw [Pattern.findAll, scans.pieces, Piece.values_map]

end LabEditor.Preview
