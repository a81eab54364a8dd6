import LabEditor.Detection.Vault
import LabEditor.Proofs.Scan
import LabEditor.Proofs.Text.LineEnd
import LabEditor.Proofs.Text.Trimming

/-! Code spans lie within their lines, so that the spans of a page are those of its lines, whatever
line ends are between them. -/
namespace LabEditor.Detection

variable {n seen : Nat} {t rest front behind body : Text} {c d : CodePoint}

theorem afterExactTicks?_suffix (found : afterExactTicks? n seen t = some rest) : rest <:+ t := by
  induction t generalizing seen with
  | nil =>
    simp only [afterExactTicks?] at found
    split at found
    · cases found
      exact List.suffix_rfl
    · contradiction
  | cons c t ih =>
    rw [afterExactTicks?] at found
    split at found
    · exact (ih found).trans (List.suffix_cons c t)
    · split at found
      · cases found
        exact List.suffix_rfl
      · split at found
        · contradiction
        · exact (ih found).trans (List.suffix_cons c t)

/-- A text through which no code span reaches: what ends a line. -/
structure Ends (behind : Text) : Prop where
  front : behind.head? ≠ some ('\x60' : CodePoint)
  stops : ∀ n seen, n ≠ 0 → afterExactTicks? n seen behind = if seen = n then some behind else none

theorem ends_line (t : Text) : Ends ('\n' :: t) where
  front := by simp
  stops := fun n seen _ => by
    have apart : ('\n' : CodePoint) ≠ '\x60' := by decide
    rw [afterExactTicks?, if_neg apart, if_pos rfl]

theorem ends_return : Ends ['\r'] where
  front := by simp
  stops := fun n seen some => by
    have noTick : ('\r' : CodePoint) ≠ '\x60' := by decide
    have noLine : ('\r' : CodePoint) ≠ '\n' := by decide
    rw [afterExactTicks?, if_neg noTick, if_neg noLine, afterExactTicks?, if_neg (Ne.symm some)]

theorem afterExactTicks?_append (ends : Ends behind) (some : n ≠ 0) (seen : Nat) (t : Text) :
    afterExactTicks? n seen (t ++ behind) = (afterExactTicks? n seen t).map (· ++ behind) := by
  induction t generalizing seen with
  | nil =>
    rw [List.nil_append, ends.stops n seen some, afterExactTicks?]
    split <;> rfl
  | cons c t ih =>
    rw [List.cons_append, afterExactTicks?, afterExactTicks?]
    split
    · exact ih (seen + 1)
    · split
      · rfl
      · split
        · rfl
        · exact ih 0

theorem inlinePattern_eq (before : Option CodePoint) (t : Text) : inlinePattern before t =
    if Text.run '\x60' t = 0 ∨ before = some ('\x60' : CodePoint) then none
    else (afterExactTicks? (Text.run '\x60' t) 0 (t.drop (Text.run '\x60' t))).map fun rest =>
      (t.take (t.length - rest.length), rest) := by
  simp only [inlinePattern, Bool.or_eq_true, decide_eq_true_eq]
  rfl

/-- A span begins with a backtick and is cut off the front of a text. -/
theorem of_inlinePattern {before : Option CodePoint}
    (found : inlinePattern before t = some (span, rest)) :
    ∃ more, span = ('\x60' : CodePoint) :: more ∧ t = span ++ rest := by
  rw [inlinePattern_eq] at found
  split at found
  · contradiction
  · rename_i go
    obtain ⟨behind, closed, same⟩ := Option.map_eq_some_iff.mp found
    cases same
    cases t with
    | nil => exact absurd (Or.inl rfl) go
    | cons c t =>
      by_cases tick : c = '\x60'
      · subst tick
        rw [Text.run_cons_self, List.drop_succ_cons] at closed
        obtain ⟨front, rfl⟩ := (afterExactTicks?_suffix closed).trans (List.drop_suffix _ t)
        have size : (('\x60' : CodePoint) :: (front ++ rest)).length - rest.length = front.length + 1 := by
          simp only [List.length_cons, List.length_append]
          omega
        rw [size, List.take_succ_cons, List.take_left]
        exact ⟨front, rfl, rfl⟩
      · exact absurd (Or.inl (Text.run_cons tick t)) go

theorem inlinePattern_append (ends : Ends behind) (before : Option CodePoint) (c : CodePoint) (t : Text) :
    inlinePattern before (c :: t ++ behind) =
      (inlinePattern before (c :: t)).map fun (span, rest) => (span, rest ++ behind) := by
  rw [inlinePattern_eq, inlinePattern_eq, Text.run_append ends.front]
  split
  · rfl
  · rename_i go
    rw [List.drop_append_of_le_length (Text.run_le _ _),
      afterExactTicks?_append ends (fun none => go (Or.inl none))]
    cases closed : afterExactTicks? (Text.run '\x60' (c :: t)) 0
      ((c :: t).drop (Text.run '\x60' (c :: t))) with
    | none => rfl
    | some rest =>
      have part := ((afterExactTicks?_suffix closed).trans (List.drop_suffix _ _)).length_le
      have size : (c :: t ++ behind).length - (rest ++ behind).length =
          (c :: t).length - rest.length := by
        simp only [List.length_append]
        omega
      simp only [Option.map_some, size]
      rw [List.take_append_of_le_length (Nat.sub_le _ _)]

theorem consumes_inline : Pattern.Consumes inlinePattern := by
  intro before c t span rest found
  obtain ⟨more, rfl, whole⟩ := of_inlinePattern found
  exact ⟨more, (List.cons.inj whole).2⟩

theorem scans_inline (t : Text) : inlinePattern.Scans none t (inlinePattern.pieces t) :=
  Pattern.scans_pieces consumes_inline t

theorem inlinePattern_free (free : ('\x60' : CodePoint) ∉ t) (before : Option CodePoint) :
    inlinePattern before t = none := by
  cases found : inlinePattern before t with
  | none => rfl
  | some read =>
    obtain ⟨more, same, whole⟩ := of_inlinePattern found
    exact absurd (by rw [whole, same]; exact List.mem_cons_self) free

theorem pieces_free (free : ('\x60' : CodePoint) ∉ t) : inlinePattern.pieces t = t.map .plain :=
  (Pattern.scans_plain (fun before _ _ tail =>
    inlinePattern_free (fun member => free (tail.subset member)) before) none).pieces

theorem pieces_append (ends : Ends behind) (scans : ∀ before, inlinePattern.Scans before behind ps)
    (t : Text) :
    inlinePattern.pieces (t ++ behind) = inlinePattern.pieces t ++ ps :=
  ((scans_inline t).append (inlinePattern_append ends) scans).pieces

theorem pieces_return (t : Text) :
    inlinePattern.pieces (t ++ (['\r'] : Text)) = inlinePattern.pieces t ++ [.plain '\r'] :=
  pieces_append ends_return (fun before => .plain (inlinePattern_free (by decide) before) .done) t

theorem pieces_line (t rest : Text) : inlinePattern.pieces (t ++ ('\n' : CodePoint) :: rest) =
    inlinePattern.pieces t ++ .plain '\n' :: inlinePattern.pieces rest := by
  refine pieces_append (ends_line rest) (fun before => ?_) t
  have none : inlinePattern before ('\n' :: rest) = Option.none := by
    rw [inlinePattern_eq, if_pos (Or.inl (Text.run_cons (by decide) rest))]
  refine .plain none ((scans_inline rest).other_before fun xs => ?_)
  rw [inlinePattern_eq, inlinePattern_eq]
  simp

/-- The spans of a page are those of its lines. -/
theorem pieces_glue (lines : List Text) :
    inlinePattern.pieces (Text.glue '\n' lines) =
      Piece.glue '\n' (lines.map inlinePattern.pieces) := by
  induction lines with
  | nil => rfl
  | cons line lines ih =>
    by_cases last : lines = []
    · simp [last, Text.glue, Piece.glue]
    · rw [Text.glue_cons line last, pieces_line, ih, List.map_cons,
        Piece.glue_cons _ _ (by simpa using last)]

theorem text_pieces (t : Text) : Piece.writeAll id (inlinePattern.pieces t) = t :=
  (scans_inline t).writeAll fun _ _ _ _ found =>
    let ⟨_, _, whole⟩ := of_inlinePattern found
    whole

theorem tick_of_hit_mem (member : .hit span ∈ inlinePattern.pieces t) :
    ∃ more, span = ('\x60' : CodePoint) :: more := by
  obtain ⟨before, suffix, rest, _, found⟩ := Pattern.read_of_hit_mem_scan member
  obtain ⟨more, same, _⟩ := of_inlinePattern found
  exact ⟨more, same⟩

theorem afterExactTicks?_replicate (n seen k : Nat) (t : Text) :
    afterExactTicks? n seen (List.replicate k ('\x60' : CodePoint) ++ t) =
      afterExactTicks? n (seen + k) t := by
  induction k generalizing seen with
  | zero => rfl
  | succ k ih =>
    rw [List.replicate_succ, List.cons_append, afterExactTicks?, if_pos rfl, ih, Nat.add_assoc,
      Nat.add_comm 1]

/-- A run of exactly `n` backticks stands in a text. -/
def HoldsRun (n : Nat) (t : Text) : Prop :=
  ∃ front behind, t = front ++ (List.replicate n ('\x60' : CodePoint) ++ behind) ∧
    front.getLast? ≠ some ('\x60' : CodePoint) ∧ behind.head? ≠ some ('\x60' : CodePoint)

theorem HoldsRun.tick (holds : HoldsRun n t) (some : n ≠ 0) : ('\x60' : CodePoint) ∈ t := by
  obtain ⟨front, behind, rfl, _, _⟩ := holds
  simp [some]

theorem nil_of_replicate {front rest : Text} (same : List.replicate seen ('\x60' : CodePoint) = front ++ rest)
    (last : front.getLast? ≠ some ('\x60' : CodePoint)) : front = [] := by
  rcases List.eq_nil_or_concat front with none | ⟨more, c, rfl⟩
  · exact none
  · have tick : c = '\x60' := List.eq_of_mem_replicate (n := seen) (by rw [same]; simp)
    simp [tick] at last

theorem holdsRun_replicate : HoldsRun n (List.replicate seen ('\x60' : CodePoint)) ↔ seen = n := by
  constructor
  · rintro ⟨front, behind, same, last, first⟩
    obtain rfl := nil_of_replicate same last
    have runs := congrArg (Text.run '\x60') same
    rw [List.nil_append, Text.run_replicate first] at runs
    have whole : Text.run '\x60' (List.replicate seen ('\x60' : CodePoint) ++ []) = seen :=
      Text.run_replicate (by simp) seen
    rw [List.append_nil] at whole
    exact whole.symm.trans runs
  · rintro rfl
    exact ⟨[], [], by simp, by simp, by simp⟩

/-- A character other than a backtick ends a run. -/
theorem holdsRun_apart (some : n ≠ 0) (apart : c ≠ '\x60') (seen : Nat) (t : Text) :
    HoldsRun n (List.replicate seen ('\x60' : CodePoint) ++ c :: t) ↔ seen = n ∨ HoldsRun n t := by
  constructor
  · rintro ⟨front, behind, same, last, first⟩
    rcases List.append_eq_append_iff.mp same with ⟨more, rfl, later⟩ | ⟨more, here, later⟩
    · cases more with
      | nil =>
        obtain ⟨n, rfl⟩ := Nat.exists_eq_succ_of_ne_zero some
        exact absurd (List.cons.inj later).1 apart
      | cons e more =>
        obtain ⟨rfl, rfl⟩ := List.cons.inj (List.cons_append.symm.trans later.symm)
        refine Or.inr ⟨more, behind, rfl, fun tick => last ?_, first⟩
        have full : more ≠ [] := by
          rintro rfl
          simp at tick
        rw [List.getLast?_append_of_ne_nil _ (by simp), List.getLast?_cons_of_ne_nil full, tick]
    · obtain rfl := nil_of_replicate here last
      rw [List.nil_append] at here
      have runs := congrArg (Text.run '\x60') later
      rw [← here, Text.run_replicate first, Text.run_replicate (by simpa using apart)] at runs
      exact Or.inl runs.symm
  · rintro (rfl | ⟨front, behind, rfl, last, first⟩)
    · exact ⟨[], c :: t, rfl, by simp, by simpa using apart⟩
    · refine ⟨List.replicate seen ('\x60' : CodePoint) ++ c :: front, behind, by simp, fun tick => ?_, first⟩
      rw [List.getLast?_append_of_ne_nil _ (by simp)] at tick
      by_cases none : front = []
      · exact apart (by simpa [none] using tick)
      · rw [List.getLast?_cons_of_ne_nil none] at tick
        exact last tick

/-- What closes a span is a run of exactly as many backticks. -/
theorem isSome_afterExactTicks? (some : n ≠ 0) (oneLine : ('\n' : CodePoint) ∉ t) (seen : Nat) :
    (afterExactTicks? n seen t).isSome = true ↔
      HoldsRun n (List.replicate seen ('\x60' : CodePoint) ++ t) := by
  induction t generalizing seen with
  | nil =>
    rw [afterExactTicks?, List.append_nil, holdsRun_replicate]
    split
    · rename_i same
      exact iff_of_true rfl same
    · rename_i other
      exact iff_of_false Bool.false_ne_true other
  | cons c t ih =>
    obtain ⟨noLine, oneLine⟩ := not_or.mp (List.mem_cons.not.mp oneLine)
    by_cases tick : c = '\x60'
    · rw [afterExactTicks?, if_pos tick, ih oneLine, tick, List.append_cons,
        ← List.replicate_succ']
    · rw [afterExactTicks?, if_neg tick, if_neg (Ne.symm noLine), holdsRun_apart some tick]
      by_cases same : seen = n
      · simp [same]
      · have behind := ih oneLine 0
        rw [List.replicate_zero, List.nil_append] at behind
        rw [if_neg same, behind, or_iff_right same]

/-- A character other than a backtick ends the run before it and begins anew. -/
theorem afterExactTicks?_apart (apart : c ≠ '\x60') (noLine : c ≠ '\n') (oneLine : ('\n' : CodePoint) ∉ t)
    (seen : Nat) (rest : Text) : afterExactTicks? n seen (t ++ c :: rest) =
      ((afterExactTicks? n seen t).map (· ++ c :: rest)).or (afterExactTicks? n 0 rest) := by
  induction t generalizing seen with
  | nil =>
    rw [List.nil_append, afterExactTicks?, afterExactTicks?, if_neg apart, if_neg noLine]
    split <;> rfl
  | cons e t ih =>
    obtain ⟨here, oneLine⟩ := not_or.mp (List.mem_cons.not.mp oneLine)
    rw [List.cons_append, afterExactTicks?, afterExactTicks?, if_neg (Ne.symm here),
      if_neg (Ne.symm here)]
    split
    · exact ih oneLine (seen + 1)
    · split
      · rfl
      · exact ih oneLine 0

theorem holdsRun_concat (some : n ≠ 0) (apart : c ≠ '\x60') (noLine : c ≠ '\n')
    (oneLine : ('\n' : CodePoint) ∉ t) :
    HoldsRun n (t ++ [c]) ↔ HoldsRun n t := by
  have whole : ('\n' : CodePoint) ∉ t ++ [c] := by simp [oneLine, Ne.symm noLine]
  have closed := isSome_afterExactTicks? some whole 0
  have inside := isSome_afterExactTicks? some oneLine 0
  rw [List.replicate_zero, List.nil_append] at closed inside
  have ended : afterExactTicks? n 0 [] = none := by rw [afterExactTicks?, if_neg (Ne.symm some)]
  rw [← closed, ← inside, afterExactTicks?_apart apart noLine oneLine, ended, Option.or_none,
    Option.isSome_map]

/-- A text that can stand between backticks. -/
structure Quotable (body : Text) : Prop where
  full : body ≠ []
  oneLine : ('\n' : CodePoint) ∉ body
  first : body.head? ≠ some ('\x60' : CodePoint)
  last : body.getLast? ≠ some ('\x60' : CodePoint)

/-- A quotation is read up to the first run inside that closes it, or else as a whole. -/
theorem inlinePattern_quoted (quotable : Quotable body) (apart : d ≠ '\x60') (n : Nat) (rest : Text) :
    ∃ behind, inlinePattern none (List.replicate (n + 1) ('\x60' : CodePoint) ++
        (body ++ (List.replicate (n + 1) ('\x60' : CodePoint) ++ d :: rest))) =
      some ((List.replicate (n + 1) ('\x60' : CodePoint) ++
        (body ++ (List.replicate (n + 1) ('\x60' : CodePoint) ++
        d :: rest))).take (n + 1 + body.length + (n + 1) + (rest.length + 1) - behind.length), behind) ∧
      (HoldsRun (n + 1) body → rest.length + 1 < behind.length) ∧
      (¬ HoldsRun (n + 1) body → behind = d :: rest) := by
  obtain ⟨full, oneLine, first, last⟩ := quotable
  have opened : Text.run '\x60' (List.replicate (n + 1) ('\x60' : CodePoint) ++
      (body ++ (List.replicate (n + 1) ('\x60' : CodePoint) ++ d :: rest))) = n + 1 := by
    refine Text.run_replicate ?_ _
    rw [List.head?_append_of_ne_nil _ full]
    exact first
  have closes : afterExactTicks? (n + 1) 0 (List.replicate (n + 1) ('\x60' : CodePoint) ++ d :: rest) =
      some (d :: rest) := by
    rw [afterExactTicks?_replicate, Nat.zero_add, afterExactTicks?, if_neg apart, if_pos rfl]
  have size : (List.replicate (n + 1) ('\x60' : CodePoint) ++
      (body ++ (List.replicate (n + 1) ('\x60' : CodePoint) ++
      d :: rest))).length = n + 1 + body.length + (n + 1) + (rest.length + 1) := by
    simp only [List.length_append, List.length_replicate, List.length_cons, Nat.add_assoc]
  rw [inlinePattern_eq, opened, if_neg (by simp), List.drop_left' (by simp), size]
  rcases List.eq_nil_or_concat body with none | ⟨inner, c, rfl⟩
  · exact absurd none full
  · rw [List.concat_eq_append] at *
    have noTick : c ≠ '\x60' := by simpa using last
    have inside : ('\n' : CodePoint) ∉ inner ∧ c ≠ '\n' := by simpa [eq_comm] using oneLine
    have closed := isSome_afterExactTicks? (n := n + 1) (Nat.succ_ne_zero n) inside.1 0
    rw [List.replicate_zero, List.nil_append] at closed
    rw [holdsRun_concat (Nat.succ_ne_zero n) noTick inside.2 inside.1, ← closed, List.append_assoc,
      List.singleton_append, afterExactTicks?_apart noTick inside.2 inside.1, closes]
    cases afterExactTicks? (n + 1) 0 inner with
    | none => exact ⟨_, rfl, fun some => absurd some (by simp), fun _ => rfl⟩
    | some behind =>
      refine ⟨_, rfl, fun _ => ?_, fun none => absurd rfl none⟩
      simp only [List.length_append, List.length_cons, List.length_replicate]
      omega

/-- What is quoted begins with a code span, which may end before the quotation does. -/
theorem held_quoted (quotable : Quotable body) (apart : d ≠ '\x60') (n : Nat) (rest : Text) :
    (inlinePattern.pieces (List.replicate (n + 1) ('\x60' : CodePoint) ++
      (body ++ (List.replicate (n + 1) ('\x60' : CodePoint) ++ d :: rest)))).any Piece.isHit = true := by
  obtain ⟨behind, read, _⟩ := inlinePattern_quoted quotable apart n rest
  generalize List.take _ _ = span at read
  rw [List.replicate_succ, List.cons_append] at read ⊢
  simp only [Pattern.pieces, Pattern.scan, read]
  rfl

theorem head_findAll {p : Pattern CodePoint Text} {value : Text}
    (read : p none (c :: t) = some (value, rest)) :
    (p.findAll (c :: t)).head? = some value := by
  simp [Pattern.findAll, Pattern.pieces, Pattern.scan, read, Piece.value?]

/-- A quotation is the first span of its text exactly if no run inside closes it. -/
theorem first_span_iff (quotable : Quotable body) (apart : d ≠ '\x60') (n : Nat) (rest : Text) :
    (inlinePattern.findAll (List.replicate (n + 1) ('\x60' : CodePoint) ++
      (body ++ (List.replicate (n + 1) ('\x60' : CodePoint) ++ d :: rest)))).head? =
        some (List.replicate (n + 1) ('\x60' : CodePoint) ++
          (body ++ List.replicate (n + 1) ('\x60' : CodePoint))) ↔
      ¬ HoldsRun (n + 1) body := by
  obtain ⟨behind, read, early, whole⟩ := inlinePattern_quoted quotable apart n rest
  have found := read
  rw [List.replicate_succ, List.cons_append] at found
  have first := head_findAll found
  rw [← List.cons_append, ← List.replicate_succ] at first
  rw [first, Option.some.injEq]
  constructor
  · intro same holds
    have lengths := congrArg List.length same
    have shorter := early holds
    simp only [List.length_take, List.length_append, List.length_cons, List.length_replicate] at lengths
    omega
  · intro none
    have shape : List.replicate (n + 1) ('\x60' : CodePoint) ++
        (body ++ (List.replicate (n + 1) ('\x60' : CodePoint) ++
        d :: rest)) = (List.replicate (n + 1) ('\x60' : CodePoint) ++
          (body ++ List.replicate (n + 1) ('\x60' : CodePoint))) ++
          d :: rest := by
      simp only [List.append_assoc]
    rw [whole none, shape]
    refine List.take_left' ?_
    simp only [List.length_append, List.length_replicate, List.length_cons]
    omega

end LabEditor.Detection
