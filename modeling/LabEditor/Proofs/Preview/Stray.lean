import LabEditor.Preview.Basic
import LabEditor.Proofs.Occurrence

/-! The tokens of a page beside those of its platform fences. If the renderer keeps the tokens that it
is sent, a page has a preview exactly if none of its own tokens stands for no block. -/
namespace LabEditor.Preview

variable {page t rest digits : Text} {before : Option CodePoint} {renderer : Renderer}

theorem blockMarks_distinct : blockMarks.Distinct :=
  ⟨by decide, by decide, by decide⟩

/-- A token is taken with the tags of its paragraph. -/
theorem of_stashedPattern (read : stashedPattern before t = some (digits, rest)) :
    ∃ front token behind : Text, t = front ++ (token ++ (behind ++ rest)) ∧ token ≠ [] ∧
      blockMarks.opening ∉ front ∧ blockMarks.opening ∉ behind ∧
      blockMarks.read? (token ++ (behind ++ rest)) = some (digits, behind ++ rest) := by
  have tagged (tag u : Text) : ∃ taken, u = taken ++ (Text.after? tag u).getD u ∧
      (taken = [] ∨ taken = tag) := by
    cases found : Text.after? tag u with
    | none => exact ⟨[], rfl, Or.inl rfl⟩
    | some behind => exact ⟨tag, Text.after?_eq_some.mp found, Or.inr rfl⟩
  obtain ⟨⟨digits, behind⟩, token, same⟩ := Option.map_eq_some_iff.mp read
  cases same
  obtain ⟨front, whole, opens⟩ := tagged "<p>" t
  obtain ⟨close, closed, closes⟩ := tagged "</p>" behind
  obtain ⟨shape, _, _⟩ := (TokenMarks.read?_eq_some blockMarks_distinct.closing).mp token
  refine ⟨front, blockMarks.opening :: (digits ++ [blockMarks.closing]), close, ?_, by simp, ?_, ?_,
    ?_⟩
  · rw [← closed]
    exact whole.trans (congrArg (front ++ ·) (by rw [shape]; simp))
  · rcases opens with rfl | rfl <;> decide
  · rcases closes with rfl | rfl <;> decide
  · rw [← closed, ← token, shape]
    simp

theorem consumes_stashed : Pattern.Consumes stashedPattern := by
  intro before c t digits rest read
  obtain ⟨front, token, behind, whole, some, _⟩ := of_stashedPattern read
  rw [← List.append_assoc, ← List.append_assoc] at whole
  cases taken : front ++ token ++ behind with
  | nil => simp [some] at taken
  | cons d more =>
    rw [taken] at whole
    exact ⟨more, (List.cons.inj whole).2⟩

theorem stashedPattern_none (none : stashedPattern before t = none) :
    blockMarks.read? t = .none := by
  have unread := Option.map_eq_none_iff.mp none
  cases tag : Text.after? "<p>" t with
  | none => rwa [tag] at unread
  | some behind =>
    rw [Text.after?_eq_some.mp tag]
    exact TokenMarks.read?_plain (by decide) _

theorem findAll_stashed (t : Text) : stashedPattern.findAll t = blockMarks.found t := by
  refine TokenMarks.values_of_scans (fun _ _ none => stashedPattern_none none)
    (fun _ t digits rest read => ?_) (Pattern.scans_pieces consumes_stashed t)
  obtain ⟨front, token, behind, rfl, _, opens, closes, inside⟩ := of_stashedPattern read
  rw [TokenMarks.found_skip opens, blockMarks_distinct.found_read inside,
    TokenMarks.found_skip closes]

/-- The page with an empty row for each block. -/
def bare (page : Text) : Text :=
  Text.glue '\n' (markedPattern.replace (fun _ => [[]]) (Text.cut '\n' page))

theorem found_rows (rows : List Text) :
    blockMarks.found (Text.glue '\n' rows) = rows.flatMap blockMarks.found :=
  blockMarks_distinct.found_glue (by decide) (by decide) rows

theorem found_blockLines (first : Nat) (ps : List (Piece Text Marked)) :
    ((Piece.writeAll blockLines (Piece.number first ps)).flatMap blockMarks.found).Perm
      ((Piece.writeAll (fun _ => [[]]) ps).flatMap blockMarks.found ++
        (List.range' first (ps.filterMap Piece.value?).length).map Text.digits) := by
  induction ps generalizing first with
  | nil => exact .nil
  | cons piece ps ih =>
    cases piece with
    | plain row =>
      have later := (ih first).append_left (blockMarks.found row)
      rw [← List.append_assoc] at later
      exact later
    | hit block =>
      have token : (blockLines first).flatMap blockMarks.found = [Text.digits first] := by
        have single := blockMarks_distinct.found_token first []
        rw [List.append_nil] at single
        simp [blockLines, single, TokenMarks.found]
      have later := (ih (first + 1)).cons (Text.digits first)
      rw [Piece.number, Piece.writeAll_hit, List.flatMap_append, token]
      exact later.trans List.perm_middle.symm

/-- The tokens of the page that is sent are those of the page beside its blocks, and its own. -/
theorem found_sent (page : Text) :
    (blockMarks.found (setAsideMarked page).1).Perm (blockMarks.found (bare page) ++
      (List.range (setAsideMarked page).2.length).map Text.digits) := by
  rw [setAsideMarked]
  simp only [Piece.setAside_eq]
  rw [bare, found_rows, found_rows, List.range_eq_range']
  exact found_blockLines 0 (markedPattern.pieces (Text.cut '\n' page))

/-- Each token beside the blocks of a page stands for a block. -/
def Restorable (page : Text) : Prop :=
  LabEditor.Restorable (setAsideMarked page).2 (stashedPattern.findAll (bare page))

/-- The tokens in what is rendered are those that were sent. -/
def Keeps (renderer : Renderer) (sent : Text) : Prop :=
  ∀ digits, digits ∈ stashedPattern.findAll (renderer sent) ↔ digits ∈ stashedPattern.findAll sent

theorem keeps_of_eq {sent : Text}
    (same : stashedPattern.findAll (renderer sent) = stashedPattern.findAll sent) :
    Keeps renderer sent := by
  intro digits
  rw [same]

theorem finish_total_iff (blocks : List Marked) (html : Text) :
    (∃ out, finish blocks html = .ok out) ↔
      ∀ digits ∈ stashedPattern.findAll html, ∃ block, resolve blocks digits = .ok block := by
  have written : (∃ out, finish blocks html = .ok out) ↔ ∃ out, Piece.writeAll?
      (fun digits => (resolve blocks digits).map Marked.html) (stashedPattern.pieces html) =
        .ok out := by
    simp only [finish, Outcome.map_eq_ok]
    exact ⟨fun ⟨_, out, done, _⟩ => ⟨out, done⟩, fun ⟨out, done⟩ => ⟨_, out, done, rfl⟩⟩
  rw [written, Piece.writeAll?_total_iff]
  simp only [Outcome.map_eq_ok, Pattern.findAll, Piece.mem_values]
  exact ⟨fun all digits member => (all digits member).elim fun _ ⟨block, found, _⟩ => ⟨block, found⟩,
    fun all digits member => (all digits member).elim fun block found => ⟨_, block, found, rfl⟩⟩

theorem render_total_iff (keeps : Keeps renderer (setAsideMarked page).1) :
    (∃ html, render renderer page = .ok html) ↔ Restorable page := by
  rw [Restorable, findAll_stashed, ← restorable_iff (found_sent page), ← findAll_stashed]
  simp only [← keeps _]
  exact finish_total_iff _ _

theorem blocks_length_le (page : Text) :
    (setAsideMarked page).2.length ≤ page.count ('\n' : CodePoint) + 1 := by
  rw [setAsideMarked, ← Text.length_cut]
  simp only [Piece.setAside_eq]
  exact (List.length_filterMap_le _ _).trans (markedPattern.length_scan_le none 0 _)

theorem bare_free {c : CodePoint} (apart : c ≠ '\n') (free : c ∉ page) : c ∉ bare page := by
  intro member
  rcases Text.mem_of_mem_glue member with same | ⟨row, known, inside⟩
  · exact apart same
  · obtain ⟨piece, found, written⟩ := List.mem_flatMap.mp known
    cases piece with
    | plain line =>
      cases List.mem_singleton.mp written
      exact free (Text.mem_of_mem_cut (Pattern.mem_of_plain_mem_scan found) inside)
    | hit block =>
      cases List.mem_singleton.mp written
      contradiction

/-- A page has no tokens of its own if it lacks the mark that one begins with. -/
theorem restorable_of_free (free : blockMarks.opening ∉ page)
    (few : page.count ('\n' : CodePoint) + 1 ≤ 10 ^ Text.maxDigits) : Restorable page := by
  have none : stashedPattern.findAll (bare page) = [] := by
    rw [findAll_stashed, TokenMarks.found_free (bare_free (by decide) free)]
  have enough := Nat.le_trans (blocks_length_le page) few
  rw [Restorable, none]
  exact ⟨enough, fun _ stray => absurd stray List.not_mem_nil⟩

end LabEditor.Preview
