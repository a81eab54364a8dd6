import LabEditor.Proofs.Markup.Address

/-! What becomes of code spans and links of a text when addresses in it become links: spans stay as
they are and none is added. An opening bracket may pair with the brackets of a link behind it, but
then it takes in all up to the end of that link. -/
namespace LabEditor.Markup

variable {s t u k rest mark : Text} {before now : Option CodePoint} {n : Nat}

/-- The form that an address takes. -/
abbrev linkOf (u : Text) : Text :=
  Linkable.write (.address u)

/-- Some addresses of a text have become links. -/
inductive Linked : Text → Text → Prop where
  | nil : Linked [] []
  | cons {s t : Text} (c : CodePoint) : Linked s t → Linked (c :: s) (c :: t)
  | link {s t u : Text} : IsAddress u → Linked s t → Linked (u ++ s) (linkOf u ++ t)

theorem Linked.append (linked : Linked s t) (k : Text) : Linked (k ++ s) (k ++ t) := by
  induction k with
  | nil => exact linked
  | cons c k ih => exact .cons c ih

/-- Up to the first link both texts are the same. -/
theorem Linked.front (linked : Linked s t) :
    s = t ∨ ∃ front behind other, s = front ++ behind ∧ t = front ++ ('[' : CodePoint) :: other := by
  induction linked with
  | nil => exact Or.inl rfl
  | cons c _ ih =>
    rcases ih with rfl | ⟨front, behind, other, rfl, rfl⟩
    · exact Or.inl rfl
    · exact Or.inr ⟨c :: front, behind, other, rfl, rfl⟩
  | @link s t u _ _ _ => exact Or.inr ⟨[], u ++ s, _, rfl, rfl⟩

theorem Linked.no_address (linked : Linked s t) (unread : address? before s = none) :
    address? before t = none := by
  rcases linked.front with rfl | ⟨front, behind, other, rfl, rfl⟩
  · exact unread
  · exact address?_bracket unread other

/-! Code spans. No link brings a backtick or a line end into a text. -/

theorem Linked.run (linked : Linked s t) : Text.run '\x60' s = Text.run '\x60' t := by
  induction linked with
  | nil => rfl
  | cons c _ ih =>
    by_cases tick : c = '\x60'
    · rw [tick, Text.run_cons_self, Text.run_cons_self, ih]
    · rw [Text.run_cons tick, Text.run_cons tick]
  | @link s t u address _ _ =>
    obtain ⟨c, u, rfl⟩ := List.exists_cons_of_ne_nil address.some
    have apart : c ≠ '\x60' := by
      rintro rfl
      exact address.free (by decide) List.mem_cons_self
    have bracket : ('[' : CodePoint) ≠ '\x60' := by decide
    exact (Text.run_cons apart _).trans (Text.run_cons bracket _).symm

theorem Linked.of_ticks (linked : Linked s (List.replicate n ('\x60' : CodePoint) ++ t)) :
    ∃ rest, s = List.replicate n ('\x60' : CodePoint) ++ rest ∧ Linked rest t := by
  induction n generalizing s with
  | zero => exact ⟨s, rfl, linked⟩
  | succ n ih =>
    rw [List.replicate_succ, List.cons_append] at linked
    cases linked with
    | cons _ linked =>
      obtain ⟨rest, rfl, behind⟩ := ih linked
      exact ⟨rest, rfl, behind⟩

theorem afterMark?_skip (ticks : ('\x60' : CodePoint) ∉ k) (line : ('\n' : CodePoint) ∉ k) (t : Text) :
    afterMark? (List.replicate (n + 1) '\x60') (k ++ t) =
      afterMark? (List.replicate (n + 1) '\x60') t := by
  induction k with
  | nil => rfl
  | cons c k ih =>
    obtain ⟨noTick, ticks⟩ := not_or.mp (List.mem_cons.not.mp ticks)
    obtain ⟨noLine, line⟩ := not_or.mp (List.mem_cons.not.mp line)
    rw [List.cons_append, afterMark?, List.replicate_succ, Text.after?_head_ne noTick,
      ← List.replicate_succ]
    simp only [if_neg (Ne.symm noLine)]
    exact ih ticks line

theorem afterMark?_cons (mark : Text) (c : CodePoint) (t : Text) : afterMark? mark (c :: t) = none ↔
    Text.after? mark (c :: t) = none ∧ (c = '\n' ∨ afterMark? mark t = none) := by
  rw [afterMark?]
  cases Text.after? mark (c :: t) with
  | some rest => simp
  | none => simp [or_iff_not_imp_left]

theorem linkOf_free (address : IsAddress u) (other : isAddressChar x = false)
    (apart : x ∉ ("[]()" : Text)) : x ∉ linkOf u := by
  have free := address.free other
  simp only [linkOf, Linkable.write, List.mem_cons, List.mem_append, not_or] at apart ⊢
  simp_all

theorem linkOf_ne_nil (u : Text) : linkOf u ≠ [] :=
  List.cons_ne_nil _ _

theorem Linked.no_mark (linked : Linked s t)
    (unclosed : afterMark? (List.replicate (n + 1) ('\x60' : CodePoint)) s = none) :
    afterMark? (List.replicate (n + 1) ('\x60' : CodePoint)) t = none := by
  induction linked with
  | nil => exact unclosed
  | @cons s t c linked ih =>
    obtain ⟨noStart, later⟩ := (afterMark?_cons _ c s).mp unclosed
    refine (afterMark?_cons _ c t).mpr ⟨?_, later.imp_right ih⟩
    cases start : Text.after? (List.replicate (n + 1) '\x60') (c :: t) with
    | none => rfl
    | some rest =>
      have ticks := Linked.cons c linked
      rw [Text.after?_eq_some.mp start] at ticks
      obtain ⟨behind, same, _⟩ := ticks.of_ticks
      rw [same, Text.after?_append] at noStart
      contradiction
  | link address _ ih =>
    rw [afterMark?_skip (address.free (by decide)) (address.free (by decide))] at unclosed
    rw [afterMark?_skip (linkOf_free address (by decide) (by decide))
      (linkOf_free address (by decide) (by decide))]
    exact ih unclosed

theorem ticksClosed?_eq (n : Nat) (t : Text) : ticksClosed? n (List.replicate n ('\x60' : CodePoint) ++ t) =
    match t with
    | [] => none
    | c :: t => if c = '\n' then none else afterMark? (List.replicate n '\x60') t := by
  rw [ticksClosed?, Text.after?_append]
  cases t <;> rfl

theorem ticksClosed?_skip (some : k ≠ []) (ticks : ('\x60' : CodePoint) ∉ k)
    (line : ('\n' : CodePoint) ∉ k) (t : Text) :
    ticksClosed? (n + 1) (List.replicate (n + 1) ('\x60' : CodePoint) ++ (k ++ t)) =
      afterMark? (List.replicate (n + 1) '\x60') t := by
  obtain ⟨c, k, rfl⟩ := List.exists_cons_of_ne_nil some
  obtain ⟨_, ticks⟩ := not_or.mp (List.mem_cons.not.mp ticks)
  obtain ⟨first, line⟩ := not_or.mp (List.mem_cons.not.mp line)
  rw [ticksClosed?_eq]
  simp only [List.cons_append, if_neg (Ne.symm first), afterMark?_skip ticks line]

/-- No code span is opened by making links. -/
theorem Linked.no_ticks (linked : Linked s t) (unclosed : ticksClosed? (n + 1) s = none) :
    ticksClosed? (n + 1) t = none := by
  cases start : Text.after? (List.replicate (n + 1) ('\x60' : CodePoint)) t with
  | none => rw [ticksClosed?, start]
  | some behind =>
    rw [Text.after?_eq_some.mp start] at linked ⊢
    obtain ⟨rest, rfl, later⟩ := linked.of_ticks
    cases later with
    | nil => exact ticksClosed?_eq _ []
    | cons c later =>
      rw [ticksClosed?_eq] at unclosed ⊢
      simp only [ite_eq_left_iff] at unclosed ⊢
      exact fun line => later.no_mark (unclosed line)
    | link address later =>
      rw [ticksClosed?_skip address.some (address.free (by decide)) (address.free (by decide))]
        at unclosed
      rw [ticksClosed?_skip (linkOf_ne_nil _) (linkOf_free address (by decide) (by decide))
        (linkOf_free address (by decide) (by decide))]
      exact later.no_mark unclosed

theorem Linked.no_span (linked : Linked s t) (unclosed : afterTicks? n s = none) :
    afterTicks? n t = none := by
  induction n with
  | zero => rfl
  | succ n ih =>
    rw [afterTicks?] at unclosed ⊢
    cases closed : ticksClosed? (n + 1) s with
    | some rest =>
      rw [closed] at unclosed
      contradiction
    | none =>
      rw [closed] at unclosed
      rw [linked.no_ticks closed]
      exact ih unclosed

/-- What is read in front of a rest, whatever the rest is. -/
theorem afterMark?_stays (some : mark ≠ []) (found : afterMark? mark t = .some rest) :
    ∃ k, t = k ++ rest ∧ mark.length ≤ k.length ∧ ∀ y, afterMark? mark (k ++ y) = .some y := by
  induction t with
  | nil =>
    obtain ⟨c, mark, rfl⟩ := List.exists_cons_of_ne_nil some
    contradiction
  | cons c t ih =>
    rw [afterMark?] at found
    cases start : Text.after? mark (c :: t) with
    | some behind =>
      rw [start] at found
      cases found
      refine ⟨mark, Text.after?_eq_some.mp start, Nat.le_refl _, fun y => ?_⟩
      obtain ⟨d, more, rfl⟩ := List.exists_cons_of_ne_nil some
      have again := Text.after?_append (d :: more) y
      rw [List.cons_append] at again ⊢
      rw [afterMark?, again]
    | none =>
      rw [start] at found
      have later : c ≠ '\n' ∧ afterMark? mark t = .some rest := by
        simpa using found
      obtain ⟨k, rfl, size, stays⟩ := ih later.2
      refine ⟨c :: k, rfl, Nat.le_succ_of_le size, fun y => ?_⟩
      have noStart : Text.after? mark (c :: (k ++ y)) = .none := by
        cases other : Text.after? mark (c :: (k ++ y)) with
        | none => rfl
        | some behind =>
          -- The mark would lie within what is read, and so be there whatever the rest is.
          have inside : mark <+: c :: k := List.prefix_of_prefix_length_le
            ⟨behind, (Text.after?_eq_some.mp other).symm⟩ (List.prefix_append (c :: k) y)
            (Nat.le_succ_of_le size)
          obtain ⟨more, same⟩ := inside
          rw [← List.cons_append, ← same, List.append_assoc, Text.after?_append] at start
          contradiction
      rw [List.cons_append, afterMark?, noStart]
      simp only [if_neg later.1, stays y]

theorem ticksClosed?_stays (found : ticksClosed? (n + 1) t = some rest) :
    ∃ k, t = ('\x60' : CodePoint) :: k ++ rest ∧
      ∀ y, ticksClosed? (n + 1) (('\x60' : CodePoint) :: k ++ y) = some y := by
  cases start : Text.after? (List.replicate (n + 1) '\x60') t with
  | none => simp [ticksClosed?, start] at found
  | some behind =>
    rw [Text.after?_eq_some.mp start] at found ⊢
    rw [ticksClosed?_eq] at found
    cases behind with
    | nil => contradiction
    | cons c behind =>
      have later : c ≠ '\n' ∧ afterMark? (List.replicate (n + 1) '\x60') behind = some rest := by
        simpa using found
      obtain ⟨k, rfl, _, stays⟩ := afterMark?_stays (by simp) later.2
      have shape (y : Text) : ('\x60' : CodePoint) :: (List.replicate n ('\x60' : CodePoint) ++ c :: k) ++ y =
          List.replicate (n + 1) ('\x60' : CodePoint) ++ c :: (k ++ y) := by
        simp [List.replicate_succ]
      refine ⟨List.replicate n ('\x60' : CodePoint) ++ c :: k, (shape rest).symm, fun y => ?_⟩
      rw [shape, ticksClosed?_eq]
      simp only [if_neg later.1, stays y]

/-- A code span is read as it was when what follows it has been linked. -/
theorem afterTicks?_stays (found : afterTicks? n t = some rest) :
    ∃ k, t = ('\x60' : CodePoint) :: k ++ rest ∧
      ∀ y, Linked rest y → afterTicks? n (('\x60' : CodePoint) :: k ++ y) = some y := by
  induction n with
  | zero => contradiction
  | succ n ih =>
    rw [afterTicks?] at found
    cases closed : ticksClosed? (n + 1) t with
    | some behind =>
      rw [closed] at found
      cases found
      obtain ⟨k, whole, stays⟩ := ticksClosed?_stays closed
      refine ⟨k, whole, fun y _ => ?_⟩
      rw [afterTicks?, stays y]
    | none =>
      rw [closed] at found
      obtain ⟨k, rfl, stays⟩ := ih found
      refine ⟨k, rfl, fun y linked => ?_⟩
      rw [afterTicks?, (linked.append ('\x60' :: k)).no_ticks closed]
      exact stays y linked

/-! Brackets. -/

theorem afterBrackets?_eq_some : afterBrackets? t = some rest ↔
    ∃ s u, (']' : CodePoint) ∉ s ∧ (')' : CodePoint) ∉ u ∧
    t = ('[' : CodePoint) :: (s ++ (']' : CodePoint) :: '(' :: (u ++ (')' : CodePoint) :: rest)) := by
  constructor
  · intro found
    unfold afterBrackets? at found
    split at found
    · split at found
      · rename_i opened
        split at found
        · rename_i closed
          cases found
          obtain ⟨s, text, rfl⟩ := Text.of_splitWhen_char opened
          obtain ⟨u, target, rfl⟩ := Text.of_splitWhen_char closed
          exact ⟨s, u, text, target, rfl⟩
        · contradiction
      · contradiction
    · contradiction
  · rintro ⟨s, u, text, target, rfl⟩
    simp only [afterBrackets?, Text.splitWhen_char text, Text.splitWhen_char target]

theorem afterBrackets?_stays (found : afterBrackets? t = some rest) :
    ∃ k, t = ('[' : CodePoint) :: k ++ rest ∧ ∀ y, afterBrackets? (('[' : CodePoint) :: k ++ y) = some y := by
  obtain ⟨s, u, text, target, rfl⟩ := afterBrackets?_eq_some.mp found
  refine ⟨s ++ (']' : CodePoint) :: '(' :: (u ++ ([')'] : Text)), by simp, fun y => ?_⟩
  exact afterBrackets?_eq_some.mpr ⟨s, u, text, target, by simp⟩

theorem linkOf_append (u rest : Text) :
    linkOf u ++ rest = ('[' : CodePoint) ::
      (u ++ (']' : CodePoint) :: '(' :: (u ++ (')' : CodePoint) :: rest)) := by
  simp [linkOf, Linkable.write]

theorem afterBrackets?_link (address : IsAddress u) (rest : Text) :
    afterBrackets? (linkOf u ++ rest) = some rest := by
  rw [afterBrackets?_eq_some, linkOf_append]
  exact ⟨u, u, address.free (by decide), address.free (by decide), rfl⟩

/-- A bracket that did not pair with others before pairs with those of the first link. -/
theorem afterBrackets?_paired {front : Text} (address : IsAddress u)
    (unpaired : afterBrackets? ('[' :: (front ++ (u ++ s))) = none)
    (paired : afterBrackets? ('[' :: (front ++ (linkOf u ++ t))) = some rest) : rest = t := by
  have text : (']' : CodePoint) ∉ u := address.free (by decide)
  have target : (')' : CodePoint) ∉ u := address.free (by decide)
  obtain ⟨inner, outer, inside, outside, whole⟩ := afterBrackets?_eq_some.mp paired
  rw [linkOf_append] at whole
  have whole := (List.cons.inj whole).2
  by_cases closes : (']' : CodePoint) ∈ front
  · -- The text ends as it did before, so it is the target that has not been closed.
    obtain ⟨before, behind, rfl, free⟩ := List.eq_append_cons_of_mem closes
    rw [List.append_assoc, List.cons_append] at whole
    obtain ⟨rfl, later⟩ := Text.split_unique free inside whole
    cases behind with
    | nil => simp at later
    | cons c behind =>
      obtain ⟨rfl, follows⟩ := List.cons.inj (List.cons_append.symm.trans later)
      have unclosed : (')' : CodePoint) ∉ behind := by
        intro member
        obtain ⟨place, more, rfl, free'⟩ := List.eq_append_cons_of_mem member
        have found : afterBrackets? (('[' : CodePoint) :: (before ++ (']' : CodePoint) :: '(' ::
            (place ++ (')' : CodePoint) :: (more ++ (u ++ s))))) = some (more ++ (u ++ s)) :=
          afterBrackets?_eq_some.mpr ⟨before, place, free, free', rfl⟩
        simp only [List.append_assoc, List.cons_append] at unpaired
        rw [found] at unpaired
        contradiction
      have apart : (')' : CodePoint) ∉ behind ++ ('[' : CodePoint) ::
          (u ++ (']' : CodePoint) :: '(' :: u) := by
        simp [unclosed, target]
      have shape : behind ++ ('[' : CodePoint) ::
          (u ++ (']' : CodePoint) :: '(' :: (u ++ (')' : CodePoint) :: t)) =
          (behind ++ ('[' : CodePoint) :: (u ++ (']' : CodePoint) :: '(' :: u)) ++
            (')' : CodePoint) :: t := by
        simp
      exact (Text.split_unique outside apart (follows.symm.trans shape)).2
  · have apart : (']' : CodePoint) ∉ front ++ ('[' : CodePoint) :: u := by
      simp [closes, text]
    have shape : front ++ ('[' : CodePoint) ::
        (u ++ (']' : CodePoint) :: '(' :: (u ++ (')' : CodePoint) :: t)) =
        (front ++ ('[' : CodePoint) :: u) ++ (']' : CodePoint) :: '(' :: (u ++ (')' : CodePoint) :: t) := by
      simp
    obtain ⟨rfl, later⟩ := Text.split_unique inside apart (whole.symm.trans shape)
    exact (Text.split_unique outside target (List.cons.inj later).2).2

end LabEditor.Markup
