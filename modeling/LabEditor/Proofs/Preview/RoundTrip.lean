import LabEditor.Proofs.Preview.Fence
import LabEditor.Proofs.Preview.Styled

/-! From a lab page to its preview and back: the code that a reader can run or copy is the code of
the page. -/
namespace LabEditor.Preview

open Markup (Block)

variable {ps : List (Piece Text Marked)} {page html : Text}

theorem AllQuiet.of_sound (sound : ∀ piece ∈ ps, Sound piece) : AllQuiet ps :=
  fun _ member => sound _ member

theorem AllQuiet.number (quiet : AllQuiet ps) (first : Nat) : AllQuiet (Piece.number first ps) :=
  fun row member => quiet row (Piece.plain_mem_number member)

theorem AllQuiet.tagless (quiet : AllQuiet ps) : Tagless (characters ps) :=
  fun _ member => (quiet.harmless member).1

theorem codeBlocks_html {ps : List (Piece CodePoint Marked)} (tagless : Tagless ps) :
    codeBlocks (Piece.writeAll Marked.html ps) =
      .ok ((ps.filterMap Piece.value?).map fun block => (block.kind, block.code)) := by
  have found := findAll_html (p := fun before t => blockPattern before t <|> spanPattern before t)
    (fun block => (block.kind, Text.escapeHtml block.code)) tagless
    (fun before t apart => by
      have noBlock : Text.after? "<div class=\"" t = none := after?_apart apart
      have noSpan : Text.after? "<code class=\"" t = none := after?_apart apart
      simp only [blockPattern, spanPattern, noBlock, noSpan, Option.bind_eq_bind, Option.bind_none]
      rfl)
    (fun block before rest => by
      rw [blockPattern_html]
      rfl)
  have written : (ps.filterMap Piece.value?).map
      (fun block => (block.kind, Text.escapeHtml block.code)) =
        ((ps.filterMap Piece.value?).map fun block => (block.kind, block.code)).map
          fun found => (found.1, Text.escapeHtml found.2) := by
    rw [List.map_map]
    rfl
  rw [codeBlocks, found, written]
  refine Outcome.mapM_map fun found _ => ?_
  simp only [codeText, Text.unescape_escape]
  rfl

theorem flags_html {ps : List (Piece CodePoint Marked)} (tagless : Tagless ps) :
    flagPattern.findAll (Piece.writeAll Marked.html ps) =
      (ps.filterMap Piece.value?).map fun block => (block.kind, block.interrupt) := by
  refine findAll_html (fun block => (block.kind, block.interrupt)) tagless
    (fun before t apart => ?_) flagPattern_html
  have none : Text.after? "<div class=\"" t = none := after?_apart apart
  simp only [flagPattern, none, Option.bind_eq_bind, Option.bind_none]

/-- The preview of a page in rows, if there is one. -/
theorem render_rows (some : Piece.writeAll Marked.rows ps ≠ []) (sound : ∀ piece ∈ ps, Sound piece)
    (shown : render id (Text.glue '\n' (Piece.writeAll Marked.rows ps)) = .ok html) :
    html = Piece.writeAll Marked.html (characters ps) := by
  have quiet := AllQuiet.of_sound sound
  have styled : Styled (Piece.writeAll Marked.html (characters ps)) :=
    page_tags quiet.tagless
  rw [render, setAsideMarked_rows some sound] at shown
  obtain ⟨restored, done, same⟩ := Outcome.map_eq_ok.mp shown
  rw [id, stashed_characters (quiet.number 0)] at done
  have blocks := of_writeAll?_resolve done
  rw [writeAll_numbers] at blocks
  rw [← same, blocks, styled.replaced]

theorem render_rows_total (some : Piece.writeAll Marked.rows ps ≠ [])
    (sound : ∀ piece ∈ ps, Sound piece)
    (few : (ps.filterMap Piece.value?).length ≤ 10 ^ Text.maxDigits) :
    ∃ html, render id (Text.glue '\n' (Piece.writeAll Marked.rows ps)) = .ok html := by
  have quiet := AllQuiet.of_sound sound
  have known : ∀ n, .hit n ∈ characters (Piece.number 0 ps) →
      n < (ps.filterMap Piece.value?).length := by
    intro n member
    rcases mem_characters member with ⟨c, same, _⟩ | ⟨m, same, inside⟩
    · cases same
    · cases same
      exact (Piece.holds_values ps).lt_length inside
  have done := writeAll?_resolve Marked.html few known
  rw [render, setAsideMarked_rows some sound]
  simp only [finish, id, stashed_characters (quiet.number 0), done]
  exact ⟨_, rfl⟩

/-- The code blocks of a page, each with the code that a reader sees. -/
def codeOf (page : Text) : List Marked :=
  (Block.ofLines (Markup.lines page)).filterMap marked?

/-- The code of a page is set aside from its Markdown as it is, and the preview, with nothing done
to the rest of the page, shows just this code, flagged where it interrupts. Every page that fits a
machine has a preview. -/
theorem code_round_trip (page : Text)
    (fits : ∀ block ∈ Block.ofLines (Markup.lines page), Fits block) :
    (setAsideMarked (Markup.toMarkdown page)).2 = codeOf page ∧
      (∀ html, render id (Markup.toMarkdown page) = .ok html →
        codeBlocks html = .ok ((codeOf page).map fun block => (block.kind, block.code)) ∧
          flagPattern.findAll html = (codeOf page).map fun block => (block.kind, block.interrupt)) ∧
      (page.Addressable → ∃ html, render id (Markup.toMarkdown page) = .ok html) := by
  obtain ⟨ps, some, written, values, sound⟩ := writeAll_rows (Block.whole_of_page page) fits
  have markdown : Markup.toMarkdown page = Text.glue '\n' (Piece.writeAll Marked.rows ps) := written
  have code : codeOf page = ps.filterMap Piece.value? := values.symm
  have tagless := (AllQuiet.of_sound sound).tagless
  rw [markdown, code]
  refine ⟨?_, fun html shown => ?_, fun addressable => ?_⟩
  · rw [setAsideMarked_rows some sound]
  · rw [render_rows some sound shown, codeBlocks_html tagless, flags_html tagless,
      values_characters]
    exact ⟨rfl, rfl⟩
  · have few : (ps.filterMap Piece.value?).length ≤ page.length + 1 := by
      rw [← code]
      exact (List.length_filterMap_le _ _).trans (Block.length_of_page_le page)
    exact render_rows_total some sound (addressable.few (by omega))

theorem code_round_trip_two : ∃ html,
    render id (Markup.toMarkdown
      "\x7b\x7bexec interrupt\x7d\x7d\n echo \"a\" \n```\n\n* so\n\x7b\x7bcopy\x7d\x7d <b>") =
        .ok html ∧
    codeBlocks html = .ok [(.exec, " echo \"a\" \n```"), (.copy, "<b>")] ∧
    flagPattern.findAll html = [(.exec, true), (.copy, false)] := by
  obtain ⟨_, shown, total⟩ := code_round_trip
    "\x7b\x7bexec interrupt\x7d\x7d\n echo \"a\" \n```\n\n* so\n\x7b\x7bcopy\x7d\x7d <b>"
      (by decide)
  obtain ⟨html, rendered⟩ := total (by decide)
  obtain ⟨blocks, flags⟩ := shown html rendered
  exact ⟨html, rendered, blocks, flags⟩

end LabEditor.Preview
