import LabEditor.Proofs.Conversion
import LabEditor.Proofs.Detection.Stray
import LabEditor.Proofs.Markup.Written
import LabEditor.Proofs.Preview.Stray

/-! When conversion and preview succeed. They fail on a page that holds a token of its own which
stands for nothing, and on no other; so a text without the marks of tokens has a form for the platform
and a preview, whatever else it holds. -/
namespace LabEditor

open Detection (detect detectIn guess looksLikeMarkdown spanMarks)
open Preview (Keeps Renderer blockMarks pageOf setAsideMarked)

variable {t page path : Text} {auto : Bool} {renderer : Renderer}

theorem detectIn_total_iff (t : Text) (file? : Option Text) :
    (∃ page, detectIn t file? = .ok page) ↔
      (looksLikeMarkdown t file? = true → Detection.Restorable t) := by
  rw [detectIn]
  split
  · rename_i page
    rw [Detection.detect_total_iff]
    exact ⟨fun restorable _ => restorable, fun restorable => restorable page⟩
  · rename_i plain
    exact iff_of_true ⟨t, rfl⟩ fun page => absurd page plain

theorem convertPage_total_iff (t : Text) (file? : Option Text) (auto : Bool) :
    (∃ page, convertPage t file? auto = .ok page) ↔
      (auto = true → looksLikeMarkdown t file? = true → Detection.Restorable t) := by
  cases auto with
  | false => exact iff_of_true ⟨_, rfl⟩ fun off => absurd off Bool.false_ne_true
  | true =>
    rw [← detectIn_total_iff]
    simp only [convertPage, if_true, Outcome.map_eq_ok, forall_const]
    exact ⟨fun ⟨_, page, found, _⟩ => ⟨page, found⟩, fun ⟨page, found⟩ => ⟨_, page, found, rfl⟩⟩

theorem convertFile_total_iff (path t : Text) (auto : Bool) :
    (∃ page, convertFile path t auto = .ok page) ↔ (treatedAsMarkdown path = true → auto = true →
      looksLikeMarkdown t (some path) = true → Detection.Restorable t) := by
  cases markdown : treatedAsMarkdown path with
  | true =>
    rw [convertFile_page markdown, convertPage_total_iff]
    exact ⟨fun total _ => total, fun total => total rfl⟩
  | false =>
    rw [convertFile, markdown]
    exact iff_of_true ⟨t, rfl⟩ fun off => absurd off Bool.false_ne_true

theorem ofFile_total_iff
    (keeps : ∀ page, pageOf path t auto = .ok page → Keeps renderer (setAsideMarked page).1) :
    (∃ html, Preview.ofFile renderer path t auto = .ok html) ↔
      ∃ page, pageOf path t auto = .ok page ∧ Preview.Restorable page := by
  rw [Preview.ofFile]
  cases found : pageOf path t auto with
  | error fault =>
    refine iff_of_false ?_ ?_
    · rintro ⟨html, shown⟩
      cases shown
    · rintro ⟨page, none, _⟩
      cases none
  | ok page =>
    have shown := Preview.render_total_iff (keeps page found)
    simp only [Except.ok.injEq, exists_eq_left']
    exact shown

/-- What a text without marks is converted to is without marks, and not much longer. -/
theorem of_convertPage (file? : Option Text) (auto : Bool) (spans : spanMarks.opening ∉ t)
    (blocks : blockMarks.opening ∉ t) (addressable : t.Addressable) :
    ∃ page, convertPage t file? auto = .ok page ∧ blockMarks.opening ∉ page ∧
      page.count ('\n' : CodePoint) ≤ 60 * (t.length + 1) := by
  have source : ∃ page, convertPage t file? auto = .ok (Markup.toMarkdown page) ∧
      blockMarks.opening ∉ page ∧ page.length + 1 ≤ 15 * (t.length + 1) := by
    have same : t.length + 1 ≤ 15 * (t.length + 1) := Nat.le_mul_of_pos_left _ (by decide)
    cases auto with
    | false => exact ⟨t, rfl, blocks, same⟩
    | true =>
      refine ⟨_, congrArg (Except.map Markup.toMarkdown) (detectIn_eq spans addressable file?), ?_⟩
      split
      · exact ⟨Detection.guess_free (by decide) blocks, Detection.guess_length_le t⟩
      · exact ⟨blocks, same⟩
  obtain ⟨page, found, free, size⟩ := source
  have feeds := Markup.count_toMarkdown_le page
  exact ⟨_, found, Markup.toMarkdown_free (by decide) free, by omega⟩

theorem of_pageOf (path : Text) (auto : Bool) (spans : spanMarks.opening ∉ t)
    (blocks : blockMarks.opening ∉ t) (addressable : t.Addressable) :
    ∃ page, pageOf path t auto = .ok page ∧ Preview.Restorable page := by
  have page : ∃ page, pageOf path t auto = .ok page ∧ blockMarks.opening ∉ page ∧
      page.count ('\n' : CodePoint) ≤ 60 * (t.length + 1) := by
    cases markdown : treatedAsMarkdown path with
    | true =>
      rw [pageOf, markdown, if_pos rfl, convertFile_page markdown]
      exact of_convertPage (some path) auto spans blocks addressable
    | false =>
      have shape : Preview.asCode t = "````\n" ++ t ++ "\n````" := rfl
      rw [pageOf, markdown]
      refine ⟨Preview.asCode t, rfl, ?_, ?_⟩
      · rw [shape, List.mem_append, List.mem_append, not_or, not_or]
        exact ⟨⟨by decide, blocks⟩, by decide⟩
      · have feeds : t.count ('\n' : CodePoint) ≤ t.length := List.count_le_length
        have opening : ("````\n" : Text).count ('\n' : CodePoint) = 1 := by decide
        have closing : ("\n````" : Text).count ('\n' : CodePoint) = 1 := by decide
        have whole : (Preview.asCode t).count ('\n' : CodePoint) = 1 + t.count ('\n' : CodePoint) + 1 := by
          rw [shape, List.count_append, List.count_append, opening, closing]
        omega
  obtain ⟨page, found, free, feeds⟩ := page
  exact ⟨page, found, Preview.restorable_of_free free (addressable.few (by omega))⟩

/-- With a renderer that keeps the tokens of what it is sent, each of conversion and preview succeeds
exactly on the texts whose own tokens all stand for something. Texts that fit a machine and hold no
mark that a token begins with are among them. -/
theorem convert_render_total_iff (renderer : Renderer) (path t : Text) (auto : Bool)
    (keeps : ∀ page, page = t ∨ pageOf path t auto = .ok page →
      Keeps renderer (setAsideMarked page).1) :
    ((∃ out, convertText t auto = .ok out) ↔
      (auto = true → looksLikeMarkdown t none = true → Detection.Restorable t)) ∧
    ((∃ out, convertFile path t auto = .ok out) ↔ (treatedAsMarkdown path = true → auto = true →
      looksLikeMarkdown t (some path) = true → Detection.Restorable t)) ∧
    ((∃ html, Preview.render renderer t = .ok html) ↔ Preview.Restorable t) ∧
    ((∃ html, Preview.ofFile renderer path t auto = .ok html) ↔
      ∃ page, pageOf path t auto = .ok page ∧ Preview.Restorable page) ∧
    (spanMarks.opening ∉ t → blockMarks.opening ∉ t → t.Addressable →
      (∃ out, convertText t auto = .ok out) ∧ (∃ out, convertFile path t auto = .ok out) ∧
        (∃ html, Preview.render renderer t = .ok html) ∧
          ∃ html, Preview.ofFile renderer path t auto = .ok html) := by
  have rendered := Preview.render_total_iff (keeps t (Or.inl rfl))
  have shown := ofFile_total_iff fun page found => keeps page (Or.inr found)
  refine ⟨convertPage_total_iff t none auto, convertFile_total_iff path t auto, rendered, shown, ?_⟩
  intro spans blocks addressable
  have feeds : t.count ('\n' : CodePoint) ≤ t.length := List.count_le_length
  have restorable := Preview.restorable_of_free blocks (addressable.few (by omega))
  exact ⟨convertPage_total spans addressable none auto,
    convertFile_total spans addressable path auto, rendered.mpr restorable,
    shown.mpr (of_pageOf path auto spans blocks addressable)⟩

theorem convert_render_total_iff_exec :
    let renderer : Renderer := fun sent => "<p>" ++ Text.trim sent ++ "</p>"
    pageOf "a.md" "\x7b\x7bexec\x7d\x7d ls" true =
        .ok "````bash\nls\n````\x7b\x7bexec\x7d\x7d" ∧
      ∃ html, Preview.ofFile renderer "a.md" "\x7b\x7bexec\x7d\x7d ls" true = .ok html := by
  have page : pageOf "a.md" "\x7b\x7bexec\x7d\x7d ls" true =
      .ok "````bash\nls\n````\x7b\x7bexec\x7d\x7d" := by decide
  refine ⟨page, ?_⟩
  obtain ⟨_, _, _, _, total⟩ := convert_render_total_iff
    (fun sent => "<p>" ++ Text.trim sent ++ "</p>") "a.md" "\x7b\x7bexec\x7d\x7d ls" true (by
      rintro _ (rfl | found)
      · exact Preview.keeps_of_eq (by decide)
      · cases page.symm.trans found
        exact Preview.keeps_of_eq (by decide))
  exact (total (by decide) (by decide) (by decide)).2.2.2

/-- A token that the author has written, and that stands for nothing, is taken for one of the
program's own. -/
theorem stray_token_fails :
    let renderer : Renderer := fun sent => "<p>" ++ Text.trim sent ++ "</p>"
    convertText "# \ue0000\ue001" true = .error .unknownSpan ∧
      convertFile "a.md" "\ue0000\ue001" true = .error .unknownSpan ∧
      Preview.render renderer "\ue0100\ue011" = .error .unknownSpan := by
  decide

end LabEditor
