import LabEditor.Preview.Basic
import LabEditor.Proofs.Detection.Fence

/-! A file that is no page is previewed as one block of code, its content between two fences. The
content is sent as it is unless it holds a platform fence, or closes the fence around it as a
platform fence is closed. -/
namespace LabEditor.Preview

open Detection (IsFenceChar fenceRun? fenceRun?_eq_some startsWith_replicate)

variable {c : CodePoint} {n : Nat} {kind : Kind} {t page path rest row line fence opening closing : Text}
  {rows lines body behind : List Text}

theorem Kind.read?_eq_some : Kind.read? t = some (kind, rest) ↔ t = kind.name ++ rest := by
  constructor
  · intro read
    rw [Kind.read?] at read
    split at read
    · rename_i exec
      cases read
      exact Text.after?_eq_some.mp exec
    · rename_i copy
      cases read
      exact Text.after?_eq_some.mp copy
    · contradiction
  · rintro rfl
    cases kind <;> rfl

/-- A row that closes a platform fence: the fence once more, and the kind of its code. -/
def Closes (fence row : Text) : Prop :=
  ∃ (kind : Kind) (blanks : Text), (∀ c ∈ blanks, c = ' ' ∨ c = '\t') ∧
    row = fence ++ ("\x7b\x7b" ++ (kind.name ++ ("\x7d\x7d" ++ blanks)))

/-- The rows of a platform fence. Behind its first row, the code has none that begins with the
fence. -/
structure IsPlatformFence (fence opening : Text) (body : List Text) (closing : Text) : Prop where
  run : ∃ c n, IsFenceChar c ∧ 3 ≤ n ∧ fence = List.replicate n c
  opens : ∃ info, ('\x60' : CodePoint) ∉ info ∧ opening = fence ++ info
  some : body ≠ []
  inside : ∀ row ∈ body.tail, ¬ fence <+: row
  closes : Closes fence closing

def HoldsPlatformFence (rows : List Text) : Prop :=
  ∃ before fence opening body closing behind, rows = before ++ opening :: (body ++ closing :: behind) ∧
    IsPlatformFence fence opening body closing

theorem closingKind?_eq_some : closingKind? t = some kind ↔
    ∃ blanks : Text, (∀ c ∈ blanks, c = ' ' ∨ c = '\t') ∧
      t = "\x7b\x7b" ++ (kind.name ++ ("\x7d\x7d" ++ blanks)) := by
  have blank (u : Text) :
      (u.all fun c => c == ' ' || c == '\t') = true ↔ ∀ c ∈ u, c = ' ' ∨ c = '\t' := by
    simp only [List.all_eq_true, Bool.or_eq_true, beq_iff_eq]
  constructor
  · intro found
    obtain ⟨named, opens, found⟩ := Option.bind_eq_some_iff.mp found
    obtain ⟨⟨other, closed⟩, read, found⟩ := Option.bind_eq_some_iff.mp found
    obtain ⟨blanks, closes, found⟩ := Option.bind_eq_some_iff.mp found
    simp only [Option.ite_none_right_eq_some, Option.some.injEq] at found
    obtain ⟨all, rfl⟩ := found
    refine ⟨blanks, (blank blanks).mp all, ?_⟩
    rw [Text.after?_eq_some.mp opens, Kind.read?_eq_some.mp read, Text.after?_eq_some.mp closes]
  · rintro ⟨blanks, all, rfl⟩
    have read : Kind.read? (kind.name ++ ("\x7d\x7d" ++ blanks)) =
      some (kind, "\x7d\x7d" ++ blanks) := Kind.read?_eq_some.mpr rfl
    simp only [closingKind?, Text.after?_append, read, Option.bind_eq_bind, Option.bind_some,
      if_pos ((blank blanks).mpr all)]

theorem closes_iff : Closes fence row ↔
    ((Text.after? fence row).bind closingKind?).isSome = true := by
  rw [Option.isSome_iff_exists]
  simp only [Option.bind_eq_some_iff, Text.after?_eq_some, closingKind?_eq_some, Closes]
  constructor
  · rintro ⟨kind, blanks, all, same⟩
    exact ⟨kind, _, same, blanks, all, rfl⟩
  · rintro ⟨kind, _, same, blanks, all, rfl⟩
    exact ⟨kind, blanks, all, same⟩

theorem Closes.begins (closes : Closes fence row) : fence <+: row := by
  obtain ⟨_, _, _, rfl⟩ := closes
  exact List.prefix_append _ _

theorem drop_takeWhile (p : Text → Bool) (first : Text) (more : List Text) :
    (first :: more).drop (first :: more.takeWhile p).length = more.dropWhile p := by
  have whole : first :: more = (first :: more.takeWhile p) ++ more.dropWhile p := by
    rw [List.cons_append, List.takeWhile_append_dropWhile]
  calc (first :: more).drop (first :: more.takeWhile p).length
      = ((first :: more.takeWhile p) ++ more.dropWhile p).drop (first :: more.takeWhile p).length := by
        rw [← whole]
    _ = more.dropWhile p := List.drop_left

/-- What closes a fence is the first row that begins with it, the very first row left out. -/
theorem dropWhile_body {more : List Text} {first : Text} (whole : first :: more = body ++ closing :: behind)
    (some : body ≠ []) (inside : ∀ row ∈ body.tail, ¬ fence <+: row) (closes : Closes fence closing) :
    more.dropWhile (fun row => !Text.startsWith row fence) = closing :: behind := by
  have apart (row : Text) : (!Text.startsWith row fence) = true ↔ ¬ fence <+: row := by
    rw [Bool.not_eq_true', ← Bool.not_eq_true, Text.startsWith_iff]
  obtain ⟨head, tail, rfl⟩ := List.exists_cons_of_ne_nil some
  have rest : more = tail ++ closing :: behind := (List.cons.inj whole).2
  have all : ∀ row ∈ tail, (!Text.startsWith row fence) = true :=
    fun row member => (apart row).mpr (inside row member)
  have stops : ¬ (!Text.startsWith closing fence) = true := fun free => (apart closing).mp free closes.begins
  rw [rest, List.dropWhile_append_of_pos all, List.dropWhile_cons_of_neg (by exact stops)]

theorem markedBlock?_isSome : (markedBlock? c n line lines).isSome = true ↔
    ('\x60' : CodePoint) ∉ line.drop n ∧ ∃ body closing behind, 
      lines = body ++ closing :: behind ∧ body ≠ [] ∧
      (∀ row ∈ body.tail, ¬ List.replicate n c <+: row) ∧ Closes (List.replicate n c) closing := by
  by_cases tick : ('\x60' : CodePoint) ∈ line.drop n
  · simp [markedBlock?, tick]
  · cases lines with
    | nil => simp [markedBlock?, tick]
    | cons first more =>
      simp only [markedBlock?, List.contains_iff_mem, tick, if_false, not_false_eq_true, true_and,
        drop_takeWhile]
      constructor
      · intro found
        split at found
        · contradiction
        · rename_i last others left
          rw [Option.isSome_map] at found
          refine ⟨first :: more.takeWhile fun row => !Text.startsWith row (List.replicate n c), last, others,
            ?_, List.cons_ne_nil _ _, ?_, closes_iff.mpr found⟩
          · rw [List.cons_append, ← left, List.takeWhile_append_dropWhile]
          · intro row member
            have apart := List.all_eq_true.mp List.all_takeWhile row member
            rw [Bool.not_eq_true', ← Bool.not_eq_true, Text.startsWith_iff] at apart
            exact apart
      · rintro ⟨body, closing, behind, whole, some, inside, closes⟩
        rw [dropWhile_body whole some inside closes]
        simpa only [Option.isSome_map] using closes_iff.mp closes

theorem longestMarked?_isSome : (longestMarked? c line lines n).isSome = true ↔
    ∃ m, 3 ≤ m ∧ m ≤ n ∧ (markedBlock? c m line lines).isSome = true := by
  induction n with
  | zero =>
    refine iff_of_false Bool.false_ne_true ?_
    rintro ⟨m, long, short, _⟩
    omega
  | succ n ih =>
    rw [longestMarked?]
    split
    · rename_i short
      refine iff_of_false Bool.false_ne_true ?_
      rintro ⟨m, long, most, _⟩
      omega
    · rename_i long
      split
      · rename_i block here
        exact iff_of_true rfl ⟨n + 1, by omega, Nat.le_refl _, by rw [here]; rfl⟩
      · rename_i none
        rw [ih]
        constructor
        · rintro ⟨m, long, most, here⟩
          exact ⟨m, long, by omega, here⟩
        · rintro ⟨m, long, most, here⟩
          have other : m ≠ n + 1 := by
            rintro rfl
            rw [none] at here
            contradiction
          exact ⟨m, long, by omega, here⟩

/-- Whether a platform fence is read does not depend on what is before it. -/
theorem markedPattern_isSome (before : Option Text) : (markedPattern before rows).isSome = true ↔
    ∃ fence opening body closing behind, rows = opening :: (body ++ closing :: behind) ∧
      IsPlatformFence fence opening body closing := by
  cases rows with
  | nil => simp [markedPattern]
  | cons line lines =>
    have opens (c : CodePoint) (n : Nat) : n ≤ Text.run c line ↔ List.replicate n c <+: line := by
      rw [← Text.startsWith_iff, startsWith_replicate, decide_eq_true_eq]
    rw [markedPattern]
    constructor
    · intro found
      split at found
      · contradiction
      · rename_i c n opened
        obtain ⟨char, rfl, _⟩ := fenceRun?_eq_some.mp opened
        obtain ⟨m, long, most, found⟩ := longestMarked?_isSome.mp found
        obtain ⟨tick, body, closing, behind, rfl, some, inside, closes⟩ := markedBlock?_isSome.mp found
        have begins : List.replicate m c ++ line.drop m = line := by
          obtain ⟨info, same⟩ := (opens c m).mp most
          rw [← same, List.drop_left' List.length_replicate]
        exact ⟨List.replicate m c, line, body, closing, behind, rfl, ⟨c, m, char, long, rfl⟩,
          ⟨line.drop m, tick, begins.symm⟩, some, inside, closes⟩
    · rintro ⟨fence, opening, body, closing, behind, whole, platform⟩
      obtain ⟨c, n, char, long, rfl⟩ := platform.run
      obtain ⟨info, tick, rfl⟩ := platform.opens
      cases whole
      have most := (opens c n).mpr (List.prefix_append _ _)
      have opened := fenceRun?_eq_some.mpr ⟨char, rfl, Nat.le_trans long most⟩
      rw [opened]
      refine longestMarked?_isSome.mpr ⟨n, long, most, markedBlock?_isSome.mpr ⟨?_, body, closing, behind,
        rfl, platform.some, platform.inside, platform.closes⟩⟩
      rwa [List.drop_left' List.length_replicate]

theorem holdsPlatformFence_iff : HoldsPlatformFence rows ↔
    ∃ row suffix, row :: suffix <:+ rows ∧ (markedPattern none (row :: suffix)).isSome = true := by
  constructor
  · rintro ⟨front, fence, opening, body, closing, behind, rfl, platform⟩
    exact ⟨opening, _, List.suffix_append _ _,
      (markedPattern_isSome none).mpr ⟨fence, opening, body, closing, behind, rfl, platform⟩⟩
  · rintro ⟨row, suffix, ⟨front, rfl⟩, found⟩
    obtain ⟨fence, opening, body, closing, behind, whole, platform⟩ := (markedPattern_isSome none).mp found
    exact ⟨front, fence, opening, body, closing, behind, by rw [whole], platform⟩

/-- What is set aside from a page, its platform fences, is nothing if it has none. -/
theorem setAsideMarked_eq_nil_iff (page : Text) :
    (setAsideMarked page).2 = [] ↔ ¬ HoldsPlatformFence (Text.cut '\n' page) := by
  have found : (setAsideMarked page).2 = markedPattern.findAll (Text.cut '\n' page) := by
    simp only [setAsideMarked, Piece.setAside_eq, Pattern.findAll]
  rw [found, holdsPlatformFence_iff]
  constructor
  · rintro none ⟨row, suffix, tail, here⟩
    obtain ⟨seen, absent⟩ := Pattern.never_of_values none row suffix tail
    have there := (markedPattern_isSome seen).mpr ((markedPattern_isSome .none).mp here)
    rw [absent] at there
    contradiction
  · intro never
    have unread : ∀ seen row suffix, row :: suffix <:+ Text.cut '\n' page →
        markedPattern seen (row :: suffix) = none := by
      intro seen row suffix tail
      rw [← Option.not_isSome_iff_eq_none]
      exact fun here => never ⟨row, suffix, tail,
        (markedPattern_isSome none).mpr ((markedPattern_isSome seen).mp here)⟩
    rw [Pattern.findAll, (Pattern.scans_plain unread none).pieces, Piece.values_plains]

theorem cut_row (free : ('\n' : CodePoint) ∉ row) : Text.cut '\n' row = [row] := by
  have each : ∀ other ∈ [row], ('\n' : CodePoint) ∉ other := by simpa using free
  exact Text.cut_glue each (List.cons_ne_nil row [])

/-- Rows in which something was set aside are other rows: none of them is left where a fence was
opened. -/
theorem values_of_sent (free : ∀ row ∈ rows, ('\n' : CodePoint) ∉ row) {seen : Option Text} {first : Nat}
    (same : (Piece.writeAll blockLines (Piece.number first (markedPattern.scan seen 0 rows))).flatMap
      (Text.cut '\n') = rows) : (markedPattern.scan seen 0 rows).filterMap Piece.value? = [] := by
  induction rows generalizing seen first with
  | nil => rfl
  | cons row rows ih =>
    rw [Pattern.scan] at same ⊢
    split at same
    · rename_i block behind found
      have empty : row = [] := (List.cons.inj same).1.symm
      rw [empty] at found
      contradiction
    · rw [Piece.number, Piece.writeAll_plain, List.flatMap_cons,
        cut_row (free row List.mem_cons_self)] at same
      exact ih (fun other member => free other (List.mem_cons_of_mem row member)) (List.cons.inj same).2

theorem sent_eq_self_iff (page : Text) :
    (setAsideMarked page).1 = page ↔ (setAsideMarked page).2 = [] := by
  simp only [setAsideMarked, Piece.setAside_eq]
  constructor
  · intro same
    by_cases some : Piece.writeAll blockLines
        (Piece.number 0 (markedPattern.pieces (Text.cut '\n' page))) = []
    · rw [some] at same
      rw [← same]
      rfl
    · have rows := congrArg (Text.cut '\n') same
      rw [Text.cut_glue_flatMap some] at rows
      exact values_of_sent (fun row => Text.cut_free) rows
  · intro none
    rw [Pattern.pieces, Pattern.scan_plain none, Piece.number_plains, Piece.writeAll_plains, Text.glue_cut]

theorem rows_asCode (t : Text) :
    Text.cut '\n' (asCode t) = ("````" : Text) :: (Text.cut '\n' t ++ [("````" : Text)]) := by
  have whole : asCode t = "````" ++ ('\n' : CodePoint) :: (t ++ ('\n' : CodePoint) :: "````") :=
    List.append_assoc "````\n" t "\n````"
  have single : Text.cut '\n' "````" = (["````"] : List Text) := by decide
  rw [whole, Text.cut_append, Text.cut_append, single]
  rfl

/-- The content of a file closes the fence that is put around it. -/
def ClosesAround (t : Text) : Prop :=
  ∃ body closing behind, Text.cut '\n' t = body ++ closing :: behind ∧
    IsPlatformFence "````" "````" body closing

theorem IsPlatformFence.closing_ne (platform : IsPlatformFence fence opening body closing) :
    closing ≠ ("````" : Text) := by
  obtain ⟨kind, blanks, _, same⟩ := platform.closes
  rintro rfl
  have brace : ('\x7b' : CodePoint) ∈ ("````" : Text) := by
    rw [same]
    simp
  exact absurd brace (by decide)

/-- A fence that the row of four backticks opens is all of that row. -/
theorem IsPlatformFence.opening_fence (platform : IsPlatformFence fence "````" body closing) :
    fence = ("````" : Text) := by
  obtain ⟨info, tick, same⟩ := platform.opens
  have none : info = [] := by
    refine List.eq_nil_iff_forall_not_mem.mpr fun c member => ?_
    have row : "````" = List.replicate 4 ('\x60' : CodePoint) := rfl
    have known : c = '\x60' := List.eq_of_mem_replicate (row ▸ same ▸ List.mem_append_right _ member)
    exact tick (known ▸ member)
  rw [same, none, List.append_nil]

theorem holdsPlatformFence_asCode :
    HoldsPlatformFence (Text.cut '\n' (asCode t)) ↔
      HoldsPlatformFence (Text.cut '\n' t) ∨ ClosesAround t := by
  rw [rows_asCode]
  constructor
  · rintro ⟨front, fence, opening, body, closing, behind, whole, platform⟩
    -- The last row closes no platform fence, so that it stands behind the one that is there.
    rcases List.eq_nil_or_concat behind with rfl | ⟨more, last, rfl⟩
    · have ends : (("````" : Text) :: Text.cut '\n' t) ++ [("````" : Text)] =
          (front ++ opening :: body) ++ [closing] := by simpa using whole
      have same := (List.append_inj' ends rfl).2
      exact absurd (List.singleton_inj.mp same).symm platform.closing_ne
    · have ends : (("````" : Text) :: Text.cut '\n' t) ++ [("````" : Text)] =
          (front ++ opening :: (body ++ closing :: more)) ++ [last] := by simpa using whole
      have rows := (List.append_inj' ends rfl).1
      cases front with
      | nil =>
        obtain ⟨rfl, content⟩ := List.cons.inj rows
        have around := platform.opening_fence
        subst around
        exact Or.inr ⟨body, closing, more, content, platform⟩
      | cons first front =>
        exact Or.inl ⟨front, fence, opening, body, closing, more, (List.cons.inj rows).2, platform⟩
  · rintro (⟨front, fence, opening, body, closing, behind, whole, platform⟩ |
      ⟨body, closing, behind, whole, platform⟩)
    · exact ⟨"````" :: front, fence, opening, body, closing, behind ++ [("````" : Text)], by
        rw [whole]; simp, platform⟩
    · exact ⟨[], "````", "````", body, closing, behind ++ [("````" : Text)], by rw [whole]; simp, platform⟩

/-- A file that is no page is sent to be rendered with a fence before and behind it, and all of it is
shown as code, exactly if its content neither holds a platform fence nor closes the one around it. -/
theorem verbatim_iff (plain : treatedAsMarkdown path = false) (t : Text) (auto : Bool) :
    (∀ renderer, ofFile renderer path t auto =
      finish (setAsideMarked (asCode t)).2 (renderer (setAsideMarked (asCode t)).1)) ∧
    ((setAsideMarked (asCode t)).1 = "````\n" ++ t ++ "\n````" ↔
      ¬ HoldsPlatformFence (Text.cut '\n' t) ∧ ¬ ClosesAround t) ∧
    ((setAsideMarked (asCode t)).2 = [] ↔
      ¬ HoldsPlatformFence (Text.cut '\n' t) ∧ ¬ ClosesAround t) := by
  have blocks : (setAsideMarked (asCode t)).2 = [] ↔
      ¬ HoldsPlatformFence (Text.cut '\n' t) ∧ ¬ ClosesAround t := by
    rw [setAsideMarked_eq_nil_iff, holdsPlatformFence_asCode, not_or]
  refine ⟨fun renderer => ?_, (sent_eq_self_iff (asCode t)).trans blocks, blocks⟩
  rw [ofFile, pageOf, plain]
  rfl

theorem verbatim_iff_unclosed :
    treatedAsMarkdown "verify.sh" = false ∧
      ¬ HoldsPlatformFence (Text.cut '\n' "~~~\nls\n```\x7b\x7bexec\x7d\x7d") ∧
      ∀ renderer, ofFile renderer "verify.sh" "~~~\nls\n```\x7b\x7bexec\x7d\x7d" true =
        finish [] (renderer "````\n~~~\nls\n```\x7b\x7bexec\x7d\x7d\n````") := by
  have plain : treatedAsMarkdown "verify.sh" = false := by decide
  obtain ⟨shown, sent, blocks⟩ :=
    verbatim_iff plain "~~~\nls\n```\x7b\x7bexec\x7d\x7d" true
  have kept : setAsideMarked (asCode "~~~\nls\n```\x7b\x7bexec\x7d\x7d") =
      (("````\n~~~\nls\n```\x7b\x7bexec\x7d\x7d\n````" : Text), []) := by decide
  rw [kept] at shown blocks
  exact ⟨plain, (blocks.mp rfl).1, shown⟩

/-- A script that writes a lab page: the code of that page is set aside from the script. -/
theorem script_loses_code :
    treatedAsMarkdown "pages.sh" = false ∧
      setAsideMarked (asCode "cat > text.md <<EOF\n````bash\nls\n````\x7b\x7bexec\x7d\x7d\nEOF") =
        (("````\ncat > text.md <<EOF\n\n\n\ue0100\ue011\n\n\nEOF\n````" : Text), [⟨.exec, "ls", false⟩]) := by
  decide

end LabEditor.Preview
