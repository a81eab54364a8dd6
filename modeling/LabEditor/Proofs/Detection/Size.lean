import LabEditor.Proofs.Detection.Rescan

/-! How many spans a page holds at most, and how much longer detection makes it. There are numbers
enough for all tokens of a page that fits a machine, and of its guess. -/
namespace LabEditor.Detection

variable {page : Text} {ps : List (Piece Text Text)}

/-- The room that texts take as lines of a page. -/
def room (ps : List (Piece Text Text)) : Nat :=
  (ps.map fun part => (text part).length + 1).sum

theorem room_cons (part : Piece Text Text) (ps : List (Piece Text Text)) :
    room (part :: ps) = (text part).length + 1 + room ps := by
  rw [room, List.map_cons, List.sum_cons, room]

theorem length_glue_text (some : ps ≠ []) :
    (Text.glue '\n' (ps.map text)).length + 1 = room ps := by
  rw [Text.length_glue '\n' (by simpa using some), List.map_map]
  rfl

theorem room_le {R : Piece Text Text → Piece Text Text → Prop} {qs : List (Piece Text Text)}
    (step : ∀ part other, R part other → (text other).length + 1 ≤ n * ((text part).length + 1))
    (related : List.Forall₂ R ps qs) : room qs ≤ n * room ps := by
  induction related with
  | nil => exact Nat.zero_le _
  | cons here _ ih =>
    have first := step _ _ here
    rw [room_cons, room_cons, Nat.mul_add]
    omega

theorem length_spans_le (ps : List (Piece Text Text)) :
    (ps.filterMap Piece.value?).length + (inlines ps).length ≤ room ps := by
  induction ps with
  | nil => exact Nat.le_refl 0
  | cons part ps ih =>
    rw [room_cons]
    cases part with
    | hit block =>
      have inside : inlines (.hit block :: ps) = inlines ps := rfl
      have blocks : (Piece.hit block :: ps).filterMap Piece.value? =
          block :: ps.filterMap Piece.value? := rfl
      rw [inside, blocks, List.length_cons]
      omega
    | plain line =>
      have inside : inlines (.plain line :: ps) =
          (inlinePattern.pieces line).filterMap Piece.value? ++ inlines ps := rfl
      have blocks : (Piece.plain line :: ps).filterMap Piece.value? = ps.filterMap Piece.value? :=
        rfl
      have few : ((inlinePattern.pieces line).filterMap Piece.value?).length ≤ line.length :=
        (List.length_filterMap_le _ _).trans (inlinePattern.length_scan_le none 0 line)
      rw [inside, blocks, List.length_append, text]
      omega

theorem protect_length_le (page : Text) : (protect page).spans.length ≤ page.length + 1 := by
  have spans := length_spans_le (parts page)
  rw [← length_glue_text (parts_ne_nil page), glue_parts] at spans
  rw [protect_spans, List.length_append]
  exact spans

/-- Where there are numbers enough for its characters, a page is restored. -/
theorem detect_total (unmarked : spanMarks.opening ∉ page)
    (few : page.length + 1 ≤ 10 ^ Text.maxDigits) : detect page = .ok (guess page) :=
  detect_of_few unmarked ((protect_length_le page).trans few)

theorem guess_length_le (page : Text) : (guess page).length + 1 ≤ 15 * (page.length + 1) := by
  have chomped : List.Forall₂ (fun part other => (text other).length ≤ (text part).length)
      (parts page) (sheet page) := by
    refine forall₂_exceptLast (R := fun part other => (text other).length ≤ (text part).length)
      (fun _ => Nat.le_refl _) (fun part => ?_) (parts page)
    cases part with
    | plain line => exact List.IsPrefix.length_le (Text.chomp_isPrefix line)
    | hit block => exact Nat.le_refl _
  have shorter :=
    room_le (n := 1) (fun part other (le : (text other).length ≤ _) => by omega) chomped
  have longer := room_le (n := 15) (fun part other guesses => by
    have size := Guesses.length_le guesses
    omega) (forall₂_guesses false (sheet page))
  rw [← length_glue_text (guessFrom_ne_nil false (sheet_ne_nil page))] at longer
  rw [← length_glue_text (parts_ne_nil page), glue_parts] at shorter
  rw [guess]
  omega

end LabEditor.Detection
