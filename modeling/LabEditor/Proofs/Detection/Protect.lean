import LabEditor.Proofs.Detection.Size
import Mathlib.Data.List.Range

/-! A protected page holds one token for each span that was set aside, and gives the page back when
the spans are put in the place of their tokens. -/
namespace LabEditor.Detection

variable {page span t : Text} {part : Piece Text Text}

/-- A line of numbers gives way to the line that the numbers were put into. -/
theorem Stands.restores {spans : List Text} {numbers : List (Piece CodePoint Nat)}
    (stands : Stands spans numbers (spansOf part)) (unmarked : spanMarks.opening ∉ text part) :
    Restores spans numbers (text part) := by
  refine ⟨spansOf part, stands, ?_, ?_⟩
  · rintro c member rfl
    cases part with
    | plain line => exact unmarked (Pattern.mem_of_plain_mem_scan member)
    | hit block => simp [spansOf] at member
  · cases part with
    | plain line => exact text_pieces line
    | hit block => exact List.append_nil block

theorem restores_parts (unmarked : spanMarks.opening ∉ page) :
    List.Forall₂ (Restores (protect page).spans)
      (numbered ((parts page).filterMap Piece.value?).length (Piece.number 0 (parts page)))
      ((parts page).map text) := by
  have stands := stands_protected page
  rw [List.forall₂_map_right_iff] at stands ⊢
  refine List.forall₂_iff_zip.mpr ⟨stands.length_eq, ?_⟩
  intro numbers part together
  have known := (List.of_mem_zip together).2
  refine (List.forall₂_zip stands together).restores ?_
  intro inside
  exact unmarked (mem_text_parts known inside)

/-- Blocks and inline spans are numbered apart, and no number is used twice. -/
theorem values_numbered (first next : Nat) (ps : List (Piece Text Text)) :
    ((numbered next (Piece.number first ps)).flatMap (List.filterMap Piece.value?)).Perm
      (List.range' first (ps.filterMap Piece.value?).length ++
        List.range' next (inlines ps).length) := by
  induction ps generalizing first next with
  | nil => exact .nil
  | cons part ps ih =>
    cases part with
    | hit block => exact (ih (first + 1) next).cons first
    | plain line =>
      generalize found : (inlinePattern.pieces line).filterMap Piece.value? = spans
      have here : inlines (.plain line :: ps) = spans ++ inlines ps := by
        rw [← found]
        rfl
      have front : numbered next (Piece.number first (.plain line :: ps)) =
          Piece.number next (inlinePattern.pieces line) ::
            numbered (next + spans.length) (Piece.number first ps) := by
        rw [← found]
        rfl
      rw [front, here, List.flatMap_cons, Piece.values_number, found, List.length_append,
        ← List.range'_append_1]
      -- The numbers of this line come before those of the later blocks in the page.
      refine ((ih first (next + spans.length)).append_left _).trans ?_
      rw [← List.append_assoc, ← List.append_assoc]
      exact List.perm_append_comm.append_right _

/-- Each span has its number in the page. -/
theorem values_protect (page : Text) :
    ((numbered ((parts page).filterMap Piece.value?).length (Piece.number 0 (parts page))).flatMap
      (List.filterMap Piece.value?)).Perm (List.range (protect page).spans.length) := by
  have all : List.range (protect page).spans.length =
      List.range' 0 ((parts page).filterMap Piece.value?).length ++
        List.range' ((parts page).filterMap Piece.value?).length (inlines (parts page)).length := by
    rw [protect_spans, List.length_append, List.range_eq_range', ← List.range'_append_1,
      Nat.zero_add]
  rw [all]
  exact values_numbered 0 _ (parts page)

theorem tokens_protect (unmarked : spanMarks.opening ∉ page) :
    (tokenPattern.findAll (protect page).text).Perm
      ((List.range (protect page).spans.length).map Text.digits) := by
  rw [Pattern.findAll, protect_text, tokens_glue (restores_parts unmarked), Piece.values_map,
    Piece.values_glue]
  exact (values_protect page).map Text.digits

theorem occurs_free (unmarked : spanMarks.opening ∉ t) : tokenPattern.occurs t = false := by
  have scans : tokenPattern.Scans none t (t.map .plain) := by
    refine Pattern.scans_plain (fun before c suffix tail => ?_) none
    exact TokenMarks.read?_plain (fun same => unmarked (same ▸ tail.subset List.mem_cons_self)) suffix
  rw [Pattern.occurs, Pattern.findAll, scans.pieces]
  simp [Piece.value?]

theorem mem_of_mem_span (member : span ∈ (protect page).spans) (inside : c ∈ span) : c ∈ page := by
  rw [protect_spans, List.mem_append] at member
  rcases member with block | inline
  · exact mem_text_parts (Piece.mem_values.mp block) inside
  · obtain ⟨part, known, here⟩ := List.mem_flatMap.mp inline
    cases part with
    | hit block => contradiction
    | plain line =>
      obtain ⟨_, suffix, rest, tail, read⟩ :=
        Pattern.read_of_hit_mem_scan (Piece.mem_values.mp here)
      obtain ⟨_, _, whole⟩ := of_inlinePattern read
      have inLine : c ∈ line := tail.subset (whole ▸ List.mem_append_left rest inside)
      exact mem_text_parts known inLine

/-- Protection is undone by restoring: the tokens of a protected page are those of its spans, each
once, no span holds a token, and the spans in the place of their tokens make up the page. -/
theorem restore_protect (page : Text) (unmarked : spanMarks.opening ∉ page) :
    (∀ out, restore (protect page).spans (protect page).text = .ok out → out = page) ∧
      (page.Addressable → restore (protect page).spans (protect page).text = .ok page) ∧
      ((tokenPattern.findAll (protect page).text).map Text.numberOf).Perm
        (List.range (protect page).spans.length) ∧
      ∀ span ∈ (protect page).spans, tokenPattern.occurs span = false := by
  have restores := restores_parts unmarked
  refine ⟨?_, ?_, ?_, ?_⟩
  · intro out restored
    rw [protect_text] at restored
    rw [of_restore restores restored, glue_parts]
  · intro addressable
    have few := (protect_length_le page).trans (addressable.few (by omega))
    rw [protect_text, restore_total restores few, glue_parts]
  · have numbers := (tokens_protect unmarked).map Text.numberOf
    have read : Text.numberOf ∘ Text.digits = id := funext Text.numberOf_digits
    rwa [List.map_map, read, List.map_id] at numbers
  · intro span member
    exact occurs_free fun inside => unmarked (mem_of_mem_span member inside)

theorem restore_protect_nested :
    restore (protect "a `b` c\n```\n`x`\n```\n``d ` e``").spans
        (protect "a `b` c\n```\n`x`\n```\n``d ` e``").text =
      .ok "a `b` c\n```\n`x`\n```\n``d ` e``" := by
  obtain ⟨_, total, _⟩ := restore_protect "a `b` c\n```\n`x`\n```\n``d ` e``" (by decide)
  exact total (by decide)

end LabEditor.Detection
