import LabEditor.Proofs.Markup.Linked

/-! Links are made once: in a text whose addresses have become links, nothing is left to link. -/
namespace LabEditor.Markup

variable {s t u k rest : Text} {c : CodePoint} {before now : Option CodePoint}

/-- The rest behind a code span or a link. -/
def afterKept? (t : Text) : Option Text :=
  match t with
  | '\x60' :: _ => afterTicks? (Text.run '\x60' t) t
  | _ => afterBrackets? t

theorem afterKept?_cons (apart : c ≠ '\x60') (t : Text) :
    afterKept? (c :: t) = afterBrackets? (c :: t) := by
  unfold afterKept?
  split
  · rename_i same
    exact absurd (List.cons.inj same).1 apart
  · rfl

theorem linkable_eq (before : Option CodePoint) (t : Text) : linkable before t =
    match afterKept? t with
    | some rest => some (.kept (t.take (t.length - rest.length)), rest)
    | none => (address? before t).map fun (found, rest) => (.address found, rest) := rfl

theorem linkable_kept (kept : afterKept? (k ++ rest) = some rest) (before : Option CodePoint) :
    linkable before (k ++ rest) = some (.kept k, rest) := by
  have size : (k ++ rest).length - rest.length = k.length := by simp
  rw [linkable_eq, kept]
  simp only [size, List.take_left]

theorem linkable_eq_none : linkable before t = none ↔
    afterKept? t = none ∧ address? before t = none := by
  rw [linkable_eq]
  cases afterKept? t with
  | some rest => simp
  | none => simp

/-- What is kept is kept again when what follows it has been linked. -/
theorem afterKept?_stays (found : afterKept? t = some rest) :
    ∃ k, k ≠ [] ∧ t = k ++ rest ∧ ∀ y, Linked rest y → afterKept? (k ++ y) = some y := by
  unfold afterKept? at found
  split at found
  · obtain ⟨k, whole, stays⟩ := afterTicks?_stays found
    refine ⟨'\x60' :: k, List.cons_ne_nil _ _, whole, fun y linked => ?_⟩
    have run := (linked.append ('\x60' :: k)).run
    rw [whole, run] at stays
    exact stays y linked
  · obtain ⟨k, rfl, stays⟩ := afterBrackets?_stays found
    exact ⟨'[' :: k, List.cons_ne_nil _ _, rfl, fun y _ => stays y⟩

theorem of_linkable (read : linkable before t = some (value, rest)) :
    (∃ k, value = .kept k ∧ k ≠ [] ∧ t = k ++ rest ∧
        ∀ y, Linked rest y → afterKept? (k ++ y) = some y) ∨
      ∃ u, value = .address u ∧ IsAddress u ∧ t = u ++ rest ∧ place? rest = none := by
  cases kept : afterKept? t with
  | some behind =>
    obtain ⟨k, full, rfl, stays⟩ := afterKept?_stays kept
    rw [linkable_kept kept] at read
    cases read
    exact Or.inl ⟨k, rfl, full, rfl, stays⟩
  | none =>
    rw [linkable_eq, kept] at read
    obtain ⟨⟨u, behind⟩, address, same⟩ := Option.map_eq_some_iff.mp read
    cases same
    obtain ⟨whole, valid, noPlace⟩ := of_address? address
    exact Or.inr ⟨u, rfl, valid, whole, noPlace⟩

theorem consumes_linkable : Pattern.Consumes linkable := by
  intro before c t value rest read
  have front : ∃ k : Text, k ≠ [] ∧ c :: t = k ++ rest := by
    rcases of_linkable read with ⟨k, _, full, whole, _⟩ | ⟨u, _, address, whole, _⟩
    · exact ⟨k, full, whole⟩
    · exact ⟨u, address.some, whole⟩
  obtain ⟨k, full, whole⟩ := front
  obtain ⟨d, k, rfl⟩ := List.exists_cons_of_ne_nil full
  exact ⟨k, (List.cons.inj whole).2⟩

theorem linked_of_scans (scans : linkable.Scans before t ps) :
    Linked t (Piece.writeAll Linkable.write ps) := by
  induction scans with
  | done => exact .nil
  | plain _ _ ih => exact .cons _ ih
  | hit read _ ih =>
    rcases of_linkable read with ⟨k, rfl, _, whole, _⟩ | ⟨u, rfl, address, whole, _⟩
    · rw [whole, Piece.writeAll_hit]
      exact ih.append k
    · rw [whole, Piece.writeAll_hit]
      exact .link address ih

/-- What is kept at the front of a text stays, and the rest is linked for itself. -/
theorem linkAddresses_kept (full : k ≠ []) (kept : afterKept? (k ++ rest) = some rest)
    (apart : k.getLast?.any Text.isWordChar = false) :
    linkAddresses (k ++ rest) = k ++ linkAddresses rest := by
  have same : ∀ xs, linkable k.getLast? xs = linkable none xs := fun xs => by
    rw [linkable_eq, linkable_eq]
    simp only [address?, apart, Option.any_none]
  have scans := (Pattern.scans_pieces consumes_linkable rest).other_before same
  obtain ⟨c, k, rfl⟩ := List.exists_cons_of_ne_nil full
  have whole : linkable.Scans none (c :: (k ++ rest)) (.hit (.kept (c :: k)) :: linkable.pieces rest) :=
    .hit (linkable_kept kept none) scans
  rw [List.cons_append, linkAddresses, Pattern.replace_eq, whole.pieces, Piece.writeAll_hit,
    linkAddresses, Pattern.replace_eq]
  rfl

/-- A text that linking leaves as it is, behind a character. -/
def Settled (before : Option CodePoint) (t : Text) : Prop :=
  ∃ ps, linkable.Scans before t ps ∧ Piece.writeAll Linkable.write ps = t

theorem Settled.kept (full : k ≠ []) (kept : afterKept? (k ++ t) = some t)
    (settled : Settled k.getLast? t) (before : Option CodePoint) : Settled before (k ++ t) := by
  obtain ⟨ps, scans, same⟩ := settled
  obtain ⟨c, k, rfl⟩ := List.exists_cons_of_ne_nil full
  refine ⟨.hit (.kept (c :: k)) :: ps, .hit (linkable_kept kept before) scans, ?_⟩
  rw [Piece.writeAll_hit, same]
  rfl

theorem Settled.plain (unkept : afterKept? (c :: t) = none) (unread : address? before (c :: t) = none)
    (settled : Settled (some c) t) : Settled before (c :: t) := by
  obtain ⟨ps, scans, same⟩ := settled
  refine ⟨.plain c :: ps, .plain (linkable_eq_none.mpr ⟨unkept, unread⟩) scans, ?_⟩
  rw [Piece.writeAll_plain, same]

/-- The first link of a text, with what is linked behind it. -/
theorem first_link (scans : linkable.Scans before s ps) :
    s = Piece.writeAll Linkable.write ps ∨ ∃ front u behind seen qs, IsAddress u ∧
      s = front ++ (u ++ behind) ∧
      Piece.writeAll Linkable.write ps = front ++ (linkOf u ++ Piece.writeAll Linkable.write qs) ∧
      place? behind = none ∧ linkable.Scans seen behind qs ∧ qs.length < ps.length := by
  induction scans with
  | done => exact Or.inl rfl
  | @plain _ c s ps _ _ ih =>
    rcases ih with same | ⟨front, u, behind, seen, qs, address, whole, written, ends, later, fewer⟩
    · exact Or.inl (congrArg (c :: ·) same)
    · refine Or.inr ⟨c :: front, u, behind, seen, qs, address, congrArg (c :: ·) whole,
        congrArg (c :: ·) written, ends, later, Nat.lt_succ_of_lt fewer⟩
  | @hit _ c s rest value ps read scans ih =>
    rcases of_linkable read with ⟨k, rfl, _, front, _⟩ | ⟨u, rfl, address, front, ends⟩
    · rw [front, Piece.writeAll_hit]
      rcases ih with same | ⟨more, u, behind, seen, qs, address, whole, written, ends, later, fewer⟩
      · exact Or.inl (congrArg (k ++ ·) same)
      · refine Or.inr ⟨k ++ more, u, behind, seen, qs, address, ?_, ?_, ends, later,
          Nat.lt_succ_of_lt fewer⟩
        · rw [List.append_assoc, ← whole]
        · rw [List.append_assoc, ← written]
          rfl
    · exact Or.inr ⟨[], u, rest, _, ps, address, front, rfl, ends, scans, Nat.lt_succ_self _⟩

/-- Only a bracket takes in more after linking than before. -/
theorem of_afterKept?_linked (linked : Linked s t) (unkept : afterKept? (c :: s) = none)
    (kept : afterKept? (c :: t) = some rest) :
    c = '[' ∧ afterBrackets? ('[' :: s) = none ∧ afterBrackets? ('[' :: t) = some rest := by
  by_cases tick : c = '\x60'
  · subst tick
    have none : afterTicks? (Text.run '\x60' ('\x60' :: t)) ('\x60' :: t) = Option.none := by
      have whole := linked.cons '\x60'
      exact whole.no_span (whole.run ▸ unkept)
    exact absurd (none.symm.trans kept) (by simp)
  · rw [afterKept?_cons tick] at unkept kept
    obtain ⟨_, _, _, _, whole⟩ := afterBrackets?_eq_some.mp kept
    obtain ⟨rfl, _⟩ := List.cons.inj whole
    exact ⟨rfl, unkept, kept⟩

/-- Linking leaves alone what it has made, if no address begins there because of what stands in
front. -/
theorem settled_of_scans (scans : linkable.Scans before s ps)
    (unread : address? before s = none → address? now s = none) :
    Settled now (Piece.writeAll Linkable.write ps) := by
  -- A bracket may skip to the end of the first link, so the induction is on the number of pieces.
  induction size : ps.length using Nat.strong_induction_on generalizing before now s ps with
  | _ n ih =>
    subst size
    cases scans with
    | done => exact ⟨[], .done, rfl⟩
    | @plain _ c s ps none scans =>
      obtain ⟨unkept, noAddress⟩ := linkable_eq_none.mp none
      have linked := linked_of_scans scans
      rw [Piece.writeAll_plain]
      cases kept : afterKept? (c :: Piece.writeAll Linkable.write ps) with
      | none =>
        have noAddress' := (linked.cons c).no_address (unread noAddress)
        exact Settled.plain kept noAddress' (ih _ (Nat.lt_succ_self _) scans id rfl)
      | some rest =>
        obtain ⟨rfl, unpaired, paired⟩ := of_afterKept?_linked linked unkept kept
        rcases first_link scans with same | ⟨front, u, behind, seen, qs, address, rfl, written, ends,
          later, fewer⟩
        · rw [same, paired] at unpaired
          contradiction
        · rw [written] at paired kept ⊢
          have rest := afterBrackets?_paired address unpaired paired
          have shape : ('[' : CodePoint) :: (front ++ (linkOf u ++ Piece.writeAll Linkable.write qs)) =
              ('[' : CodePoint) :: (front ++ linkOf u) ++ Piece.writeAll Linkable.write qs := by simp
          rw [shape, rest] at kept
          rw [shape]
          refine Settled.kept (List.cons_ne_nil _ _) kept ?_ now
          exact ih _ (Nat.lt_succ_of_lt fewer) later (fun _ => address?_nowhere ends _) rfl
    | @hit _ c s rest value ps read scans =>
      rcases of_linkable read with ⟨k, rfl, full, front, stays⟩ | ⟨u, rfl, address, _, ends⟩
      · have same : c :: s = k := List.append_cancel_right front
        have settled := ih _ (Nat.lt_succ_self _) scans id rfl
        rw [same] at settled
        exact settled.kept full (stays _ (linked_of_scans scans)) now
      · refine Settled.kept (linkOf_ne_nil u) (afterBrackets?_link address _) ?_ now
        exact ih _ (Nat.lt_succ_self _) scans (fun _ => address?_nowhere ends _) rfl

/-- Linking twice is linking once. -/
theorem linkAddresses_linkAddresses (t : Text) :
    linkAddresses (linkAddresses t) = linkAddresses t := by
  have scans := Pattern.scans_pieces consumes_linkable t
  obtain ⟨ps, again, same⟩ := settled_of_scans scans id
  have found := again.pieces
  rw [linkAddresses, linkAddresses, Pattern.replace_eq, Pattern.replace_eq, found, same]

end LabEditor.Markup
