import LabEditor.Proofs.Path.Relocation
import Mathlib.Data.Set.Function

/-! All that is at or under a path. The test on characters picks out the keys that begin with the
segments of the path, so that rewriting the front carries the keys at or under one path onto those at
or under another, each to its own place. -/
namespace LabEditor.Path
variable {path old new third : Text}

/-- The keys at or under a path. -/
def subtree (root : Text) : Set Text :=
  {path | IsKey path ∧ isWithin path root = true}

theorem rebase_mem_subtree (target : IsKey new) (within : isWithin path old = true) :
    rebase path old new ∈ subtree new := by
  obtain ⟨rest, inside⟩ := inside_of_isWithin within
  exact ⟨isKey_rebase target inside, isWithin_rebase target within⟩

theorem rebase_back (member : path ∈ subtree old) :
    rebase (rebase path old new) new old = path := by
  obtain ⟨key, within⟩ := member
  obtain ⟨rest, inside⟩ := inside_of_isWithin within
  exact rebase_rebase key.canonical inside

/-- A subtree can be moved anywhere, into itself too, and every key of the new one comes from one of
the old one. -/
theorem bijOn_subtree (source : IsKey old) (target : IsKey new) :
    Set.BijOn (fun path => rebase path old new) (subtree old) (subtree new) := by
  have inverse : Set.InvOn (fun path => rebase path new old) (fun path => rebase path old new)
      (subtree old) (subtree new) :=
    ⟨fun _ member => rebase_back member, fun _ member => rebase_back member⟩
  exact inverse.bijOn (fun _ member => rebase_mem_subtree target member.2)
    (fun _ member => rebase_mem_subtree source member.2)

/-- A stop on the way makes no difference to what is at or under the old path. What is only at or
under the place of the stop would set out from there. -/
theorem rebase_trans_iff (key : IsKey path) (source : IsKey old) (target : IsKey new)
    (canonical : Canonical third) :
    rebase (rebase path old new) new third = rebase path old third ↔
      isWithin path old = true ∨ isWithin path new = false ∨ new = third := by
  cases within : isWithin path old with
  | true =>
    obtain ⟨rest, inside⟩ := inside_of_isWithin within
    exact iff_of_true (rebase_trans inside) (Or.inl rfl)
  | false =>
    rw [rebase_outside key.canonical source within, rebase_outside key.canonical source within,
      rebase_eq_self_iff key.canonical target canonical]
    exact ⟨Or.inr, fun cases => cases.resolve_left Bool.false_ne_true⟩

/-- The test on characters and the rewriting of segments agree on keys: what the test leaves out
stays, and what it picks out goes to a key at or under the target, from where it can come back and
go on. -/
theorem isWithin_rebase_agree (key : IsKey path) (source : IsKey old) (target : IsKey new) :
    (isWithin path old = true ↔ segments old <+: segments path) ∧
      (isWithin path old = false → rebase path old new = path) ∧
      (isWithin path old = true → rebase path old new ∈ subtree new ∧
        rebase (rebase path old new) new old = path) ∧
      Set.BijOn (fun path => rebase path old new) (subtree old) (subtree new) ∧
      (isWithin path old = true → ∀ third, IsKey third →
        rebase (rebase path old new) new third = rebase path old third) ∧
      ∀ third, IsKey third →
        (rebase (rebase path old new) new third = rebase path old third ↔
          isWithin path old = true ∨ isWithin path new = false ∨ new = third) := by
  refine ⟨isWithin_iff_isPrefix key.canonical source, ?_, ?_, bijOn_subtree source target, ?_, ?_⟩
  · intro outside
    exact rebase_outside key.canonical source outside new
  · intro within
    exact ⟨rebase_mem_subtree target within, rebase_back ⟨key, within⟩⟩
  · intro within third goal
    exact (rebase_trans_iff key source target goal.canonical).mpr (Or.inl within)
  · intro third goal
    exact rebase_trans_iff key source target goal.canonical

/-- A folder that gets a longer name, beside one whose name is longer still. -/
theorem isWithin_rebase_agree_longer :
    let path : Text := "a/x.md"
    let beside : Text := "abc/x.md"
    let old : Text := "a"
    let new : Text := "ab"
    let third : Text := "c/a"
    (IsKey path ∧ IsKey beside ∧ IsKey old ∧ IsKey new ∧ IsKey third) ∧
      isWithin path old = true ∧ segments old <+: segments path ∧
      rebase path old new ∈ subtree new ∧ rebase (rebase path old new) new old = path ∧
      rebase (rebase path old new) new third = rebase path old third ∧
      isWithin beside old = false ∧ rebase beside old new = beside ∧
      Set.BijOn (fun path => rebase path old new) (subtree old) (subtree new) := by
  intro path beside old new third
  have key : IsKey path := ⟨by decide, rfl⟩
  have other : IsKey beside := ⟨by decide, rfl⟩
  have source : IsKey old := ⟨by decide, rfl⟩
  have target : IsKey new := ⟨by decide, rfl⟩
  have goal : IsKey third := ⟨by decide, rfl⟩
  have within : isWithin path old = true := by decide
  have outside : isWithin beside old = false := by decide
  obtain ⟨begins, _, moves, onto, further, _⟩ := isWithin_rebase_agree key source target
  obtain ⟨_, stays, _⟩ := isWithin_rebase_agree other source target
  obtain ⟨arrives, back⟩ := moves within
  exact ⟨⟨key, other, source, target, goal⟩, within, begins.mp within, arrives, back,
    further within third goal, outside, stays outside, onto⟩

end LabEditor.Path
