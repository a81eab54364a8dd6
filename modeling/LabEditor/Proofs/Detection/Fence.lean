import LabEditor.Detection.Vault
import LabEditor.Proofs.Scan
import LabEditor.Proofs.Text.LineEnd
import LabEditor.Proofs.Text.Trimming
import Mathlib.Data.List.Forall2

/-! Where the fenced blocks of a page lie depends on the fences at the front of its lines only, so
that other lines can be rewritten between the blocks. -/
namespace LabEditor.Detection

variable {c : CodePoint} {line other : Text} {lines others : List Text}

theorem startsWith_replicate (line : Text) (n : Nat) (c : CodePoint) :
    Text.startsWith line (List.replicate n c) = decide (n ≤ Text.run c line) := by
  induction n generalizing line with
  | zero => rfl
  | succ n ih =>
    cases line with
    | nil => rfl
    | cons d line =>
      by_cases same : c = d
      · subst same
        have rest := ih line
        rw [Text.startsWith] at rest
        rw [Text.startsWith, List.replicate_succ, Text.after?, if_pos rfl, rest, Text.run_cons_self]
        simp
      · rw [Text.startsWith, List.replicate_succ, Text.after?, if_neg same,
          Text.run_cons (Ne.symm same)]
        rfl

def IsFenceChar (c : CodePoint) : Prop :=
  c = '\x60' ∨ c = '~'

instance : DecidablePred IsFenceChar := fun c =>
  inferInstanceAs (Decidable (c = '\x60' ∨ c = '~'))

theorem fenceRun?_eq_some :
    fenceRun? line = some (c, n) ↔ IsFenceChar c ∧ n = Text.run c line ∧ 3 ≤ n := by
  cases line with
  | nil =>
    simp only [fenceRun?, reduceCtorEq, Text.run, List.takeWhile_nil, List.length_nil, false_iff]
    omega
  | cons d line =>
    by_cases same : d = c
    · subst same
      simp only [fenceRun?, IsFenceChar, Text.run, Bool.and_eq_true, Bool.or_eq_true,
        decide_eq_true_eq]
      constructor
      · intro found
        split at found
        · rename_i long
          cases found
          exact ⟨long.1, rfl, long.2⟩
        · contradiction
      · rintro ⟨fence, rfl, long⟩
        rw [if_pos ⟨fence, long⟩]
    · rw [Text.run_cons same]
      constructor
      · intro found
        simp only [fenceRun?] at found
        split at found
        · cases found
          contradiction
        · contradiction
      · rintro ⟨_, rfl, long⟩
        omega

/-- Two lines with the same fence at the front, or none. -/
def SameFence (line other : Text) : Prop :=
  ∀ c, IsFenceChar c → ∀ n, 3 ≤ n → (n ≤ Text.run c line ↔ n ≤ Text.run c other)

theorem SameFence.refl (line : Text) : SameFence line line :=
  fun _ _ _ _ => Iff.rfl

theorem SameFence.of_none (left : ∀ c, IsFenceChar c → Text.run c line < 3)
    (right : ∀ c, IsFenceChar c → Text.run c other < 3) :
    SameFence line other := by
  intro c fence n long
  have before := left c fence
  have after := right c fence
  omega

theorem SameFence.trans (left : SameFence line other) (right : SameFence other last) :
    SameFence line last :=
  fun c fence n long => (left c fence n long).trans (right c fence n long)

theorem SameFence.append_return (line : Text) : SameFence (line ++ (['\r'] : Text)) line := by
  rintro c (rfl | rfl) n _
  · rw [Text.run_append (by decide)]
  · rw [Text.run_append (by decide)]

theorem sameFence_chomp (line : Text) : SameFence line (Text.chomp line) := by
  rcases Text.chomp_cases line with same | same
  · rw [← same]
    exact .refl line
  · have shorter := SameFence.append_return (Text.chomp line)
    rwa [← same] at shorter

theorem SameFence.fenceRun? (same : SameFence line other) :
    Detection.fenceRun? line = Detection.fenceRun? other := by
  refine Option.ext fun ⟨c, n⟩ => ?_
  rw [fenceRun?_eq_some, fenceRun?_eq_some]
  -- Each run is at most the other, as both are long enough to be compared.
  refine and_congr_right fun fence => ?_
  have agree := same c fence
  constructor
  · rintro ⟨rfl, long⟩
    have upper := (agree (Text.run c line) long).mp (Nat.le_refl _)
    have lower := (agree (Text.run c other) (Nat.le_trans long upper)).mpr (Nat.le_refl _)
    omega
  · rintro ⟨rfl, long⟩
    have upper := (agree (Text.run c other) long).mpr (Nat.le_refl _)
    have lower := (agree (Text.run c line) (Nat.le_trans long upper)).mp (Nat.le_refl _)
    omega

theorem findIdx?_congr {p : α → Bool} (same : List.Forall₂ (fun x y => p x = p y) xs ys) :
    xs.findIdx? p = ys.findIdx? p := by
  induction same with
  | nil => rfl
  | cons here _ ih => rw [List.findIdx?_cons, List.findIdx?_cons, here, ih]

theorem linesToClose?_congr (fence : IsFenceChar c) (same : List.Forall₂ SameFence lines others)
    (n : Nat) :
    linesToClose? c lines n = linesToClose? c others n := by
  induction n with
  | zero => rfl
  | succ n ih =>
    rw [linesToClose?, linesToClose?]
    split
    · rfl
    · rename_i long
      have closing :=
        findIdx?_congr (p := fun line => Text.startsWith line (List.replicate (n + 1) c))
        (same.imp fun line other agree => by
          rw [startsWith_replicate, startsWith_replicate]
          exact decide_eq_decide.mpr (agree c fence (n + 1) (by omega)))
      rw [closing, ih]

/-- The lines of the block that a line opens, the first one left out. -/
def closing? (line : Text) (lines : List Text) : Option Nat :=
  (fenceRun? line).bind fun (c, n) => linesToClose? c lines n

theorem closing?_congr (first : SameFence line other) (same : List.Forall₂ SameFence lines others) :
    closing? line lines = closing? other others := by
  rw [closing?, closing?, first.fenceRun?]
  cases opened : fenceRun? other with
  | none => rfl
  | some fence => exact linesToClose?_congr (fenceRun?_eq_some.mp opened).1 same fence.2

theorem fencedPattern_eq (before : Option Text) (line : Text) (lines : List Text) :
    fencedPattern before (line :: lines) = (closing? line lines).map fun i =>
      (Text.glue '\n' (line :: lines.take (i + 1)), lines.drop (i + 1)) := by
  simp only [fencedPattern, closing?]
  cases fenceRun? line <;> rfl

theorem linesToClose?_lt (found : linesToClose? c lines n = some i) : i < lines.length := by
  induction n with
  | zero => contradiction
  | succ n ih =>
    rw [linesToClose?] at found
    split at found
    · contradiction
    · split at found
      · rename_i j here
        cases found
        exact (List.findIdx?_eq_some_iff_getElem.mp here).1
      · exact ih found

/-- A fenced block is the text of its lines, at least two. -/
theorem of_fencedPattern {before : Option Text}
    (found : fencedPattern before (line :: lines) = some (block, rest)) :
    ∃ front, front ≠ [] ∧ lines = front ++ rest ∧ block = Text.glue '\n' (line :: front) ∧
      closing? line lines = some (front.length - 1) := by
  rw [fencedPattern_eq] at found
  obtain ⟨i, closed, same⟩ := Option.map_eq_some_iff.mp found
  cases same
  have inside : i < lines.length := by
    obtain ⟨⟨c, n⟩, _, here⟩ := Option.bind_eq_some_iff.mp closed
    exact linesToClose?_lt here
  have size : (lines.take (i + 1)).length = i + 1 := List.length_take_of_le inside
  refine ⟨lines.take (i + 1), ?_, (List.take_append_drop _ _).symm, rfl, ?_⟩
  · exact List.ne_nil_of_length_pos (by omega)
  · rw [size]
    exact closed

theorem consumes_fenced : Pattern.Consumes fencedPattern := by
  intro before line lines block rest found
  obtain ⟨front, _, whole, _⟩ := of_fencedPattern found
  exact ⟨front, whole⟩

theorem scans_fenced (lines : List Text) :
    fencedPattern.Scans none lines (fencedPattern.pieces lines) :=
  Pattern.scans_pieces consumes_fenced lines

/-- Blocks cut into their lines are the lines that were scanned. -/
theorem writeAll_cut (free : ∀ line ∈ lines, ('\n' : CodePoint) ∉ line)
    (scans : fencedPattern.Scans before lines ps) :
    Piece.writeAll (Text.cut '\n') ps = lines := by
  induction scans with
  | done => rfl
  | plain none _ ih =>
    rw [Piece.writeAll_plain, ih fun line member => free line (List.mem_cons_of_mem _ member)]
  | @hit before line front rest block ps found _ ih =>
    obtain ⟨others, _, whole, rfl, _⟩ := of_fencedPattern found
    cases List.append_cancel_right whole
    rw [Piece.writeAll_hit, ih fun line member => free line (by simp [member]),
      Text.cut_glue _ (by simp)]
    · rfl
    · exact fun line member => free line (List.mem_append_left _ member)

/-- Lines give way to others with the same fences, those of a block to as many. -/
inductive SameFences : Piece Text Text → Piece Text Text → Prop where
  | plain {line other : Text} : SameFence line other → SameFences (.plain line) (.plain other)
  | hit {block other : Text} : List.Forall₂ SameFence (Text.cut '\n' block) (Text.cut '\n' other) →
    SameFences (.hit block) (.hit other)

theorem SameFences.forall_lines (same : List.Forall₂ SameFences ps qs) : List.Forall₂ SameFence
    (Piece.writeAll (Text.cut '\n') ps) (Piece.writeAll (Text.cut '\n') qs) := by
  induction same with
  | nil => exact .nil
  | cons here _ ih =>
    cases here with
    | plain same => exact .cons same ih
    | hit same => exact List.rel_append same ih

/-- The blocks of a page are found again when its lines give way to lines with the same fences. -/
theorem rescan_lines {ps qs : List (Piece Text Text)} (free : ∀ line ∈ lines, ('\n' : CodePoint) ∉ line)
    (scans : fencedPattern.Scans before lines ps) (keeps : List.Forall₂ SameFences ps qs)
    (now : Option Text) :
    fencedPattern.Scans now (Piece.writeAll (Text.cut '\n') qs) qs := by
  -- Each block of the first scan gives way to one that opens and closes at the same lines.
  induction scans generalizing qs now with
  | done =>
    cases keeps
    exact .done
  | @plain before line lines ps none scans ih =>
    have behind : ∀ line ∈ lines, ('\n' : CodePoint) ∉ line := fun line member =>
      free line (List.mem_cons_of_mem _ member)
    cases keeps with
    | cons here rest =>
      cases here with
      | plain same =>
        have others := SameFences.forall_lines rest
        rw [writeAll_cut behind scans] at others
        rw [fencedPattern_eq, Option.map_eq_none_iff, closing?_congr same others] at none
        rw [Piece.writeAll_plain]
        refine .plain ?_ (ih behind rest _)
        rw [fencedPattern_eq, none, Option.map_none]
  | @hit before line front lines block ps found scans ih =>
    have behind : ∀ line ∈ lines, ('\n' : CodePoint) ∉ line := fun line member => free line (by simp [member])
    obtain ⟨front', some, whole, same, closed⟩ := of_fencedPattern found
    cases List.append_cancel_right whole
    have cut : Text.cut '\n' block = line :: front := by
      rw [same]
      exact Text.cut_glue (fun line member => free line (List.mem_append_left _ member)) (by simp)
    cases keeps with
    | @cons _ other _ qs here rest =>
      cases here with
      | @hit _ other fences =>
        have later := SameFences.forall_lines rest
        rw [writeAll_cut behind scans] at later
        rw [cut] at fences
        obtain ⟨first, others, opens, closes, lines'⟩ := List.forall₂_cons_left_iff.mp fences
        rw [Piece.writeAll_hit, lines']
        refine .hit ?_ (ih behind rest _)
        have size : front.length - 1 + 1 = others.length := by
          rw [Nat.sub_add_cancel (List.length_pos_of_ne_nil some), closes.length_eq]
        rw [fencedPattern_eq, ← closing?_congr opens (List.rel_append closes later), closed,
          Option.map_some, size, List.take_left, List.drop_left, ← lines', Text.glue_cut]

/-- Between the blocks, lines give way to others with the same fences. -/
inductive Keeps : Piece Text Text → Piece Text Text → Prop where
  | plain {line other : Text} : SameFence line other → Keeps (.plain line) (.plain other)
  | hit {block : Text} : Keeps (.hit block) (.hit block)

theorem Keeps.sameFences {part other : Piece Text Text} (keeps : Keeps part other) :
    SameFences part other := by
  cases keeps with
  | plain same => exact .plain same
  | hit => exact .hit (List.forall₂_same.mpr fun line _ => .refl line)

/-- The blocks of a page are found again when other lines give way to lines with the same fences. -/
theorem rescan {ps qs : List (Piece Text Text)} (free : ∀ line ∈ lines, ('\n' : CodePoint) ∉ line)
    (scans : fencedPattern.Scans before lines ps) (keeps : List.Forall₂ Keeps ps qs)
    (now : Option Text) :
    fencedPattern.Scans now (Piece.writeAll (Text.cut '\n') qs) qs :=
  rescan_lines free scans (keeps.imp fun _ _ => Keeps.sameFences) now

end LabEditor.Detection
