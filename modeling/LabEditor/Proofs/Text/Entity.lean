import LabEditor.Text.Entity

/-! What is written with character references is read back as it was, and no tag begins in it. -/
namespace LabEditor.Text

theorem unescapeFrom?_skip (skipped rest : Text) :
    unescapeFrom? skipped.length (skipped ++ rest) = unescapeFrom? 0 rest := by
  induction skipped with
  | nil => rfl
  | cons c skipped ih => exact ih

theorem unescape_reference (name : Text)
    (read : Reference.of (name ++ rest) = .read characters rest) :
    unescapeFrom? 0 ('&' :: (name ++ rest)) = (unescapeFrom? 0 rest).map (characters ++ ·) := by
  have size : (name ++ rest).length - rest.length = name.length := by simp
  simp only [unescapeFrom?, if_true, read, size, unescapeFrom?_skip]

theorem unescape_escapeChar (c : CodePoint) (rest : Text) :
    unescapeFrom? 0 (escapeChar c ++ rest) = (unescapeFrom? 0 rest).map (c :: ·) := by
  have amp : Reference.of ("amp;" ++ rest) = .read ['&'] rest := rfl
  have lt : Reference.of ("lt;" ++ rest) = .read ['<'] rest := rfl
  have gt : Reference.of ("gt;" ++ rest) = .read ['>'] rest := rfl
  have quot : Reference.of ("quot;" ++ rest) = .read ['"'] rest := rfl
  have apostrophe : Reference.of ("#x27;" ++ rest) = .read ['\''] rest := rfl
  unfold escapeChar
  split
  · exact unescape_reference _ amp
  · exact unescape_reference _ lt
  · exact unescape_reference _ gt
  · exact unescape_reference _ quot
  · exact unescape_reference _ apostrophe
  · rename_i apart _ _ _ _
    simp only [List.singleton_append, unescapeFrom?, if_neg apart]

theorem unescape_escape (t : Text) : unescapeHtml? (escapeHtml t) = some t := by
  induction t with
  | nil => rfl
  | cons c t ih =>
    have first := unescape_escapeChar c (escapeHtml t)
    rw [unescapeHtml?] at ih
    rw [ih] at first
    exact first

theorem escapeChar_free (c : CodePoint) : ('<' : CodePoint) ∉ escapeChar c := by
  unfold escapeChar
  split
  · decide
  · decide
  · decide
  · decide
  · decide
  · rename_i apart _ _ _
    simpa using Ne.symm apart

theorem escapeHtml_free (t : Text) : ('<' : CodePoint) ∉ escapeHtml t := by
  intro member
  obtain ⟨c, _, inside⟩ := List.mem_flatMap.mp member
  exact escapeChar_free c inside

end LabEditor.Text
