import LabEditor.Table
import Mathlib.Data.List.Nodup

/-! Tables whose keys are distinct: putting an entry keeps them distinct, a key finds exactly its own
entry, and a list of entries with distinct keys is the table that it makes. -/
namespace LabEditor.Table
variable {α : Type} {table : Table α} {entries : List (Text × α)} {key : Text} {value : α}

theorem mem_keys : key ∈ table.keys ↔ ∃ value, (key, value) ∈ table := by
  simp [keys]

theorem mem_keys_of_get? (found : table.get? key = some value) : key ∈ table.keys := by
  obtain ⟨entry, located, _⟩ := Option.map_eq_some_iff.mp found
  have same : entry.1 = key := by simpa using List.find?_some located
  exact List.mem_map.mpr ⟨entry, List.mem_of_find?_eq_some located, same⟩

theorem has_iff : table.has key = true ↔ key ∈ table.keys := by
  simp [has, keys]

theorem put_new (absent : key ∉ table.keys) : put key value table = table ++ [(key, value)] := by
  induction table with
  | nil => rfl
  | cons entry rest ih =>
    simp only [keys, List.map_cons, List.mem_cons, not_or] at absent
    rw [put, if_neg (Ne.symm absent.1), ih absent.2, List.cons_append]

theorem keys_put (key : Text) (value : α) (table : Table α) :
    (put key value table).keys = if key ∈ table.keys then table.keys else table.keys ++ [key] := by
  induction table with
  | nil => rfl
  | cons entry rest ih =>
    simp only [keys, List.map_cons, List.mem_cons] at ih ⊢
    by_cases same : entry.1 = key
    · simp [put, same]
    · simp only [put, same, if_false, List.map_cons, ih, Ne.symm same, false_or, List.cons_append]
      exact apply_ite (entry.1 :: ·) _ _ _

theorem mem_keys_put : other ∈ (put key value table).keys ↔ other ∈ table.keys ∨ other = key := by
  rw [keys_put]
  split
  · rename_i known
    exact ⟨Or.inl, fun either => either.elim id fun same => same ▸ known⟩
  · rw [List.mem_append, List.mem_singleton]

theorem nodup_put (distinct : table.keys.Nodup) : (put key value table).keys.Nodup := by
  rw [keys_put]
  split
  · exact distinct
  · rename_i absent
    exact List.nodup_append.mpr ⟨distinct, List.nodup_singleton key, by
      rintro a member b other rfl
      exact absent (List.mem_singleton.mp other ▸ member)⟩

theorem mem_put (member : entry ∈ put key value table) :
    entry = (key, value) ∨ entry ∈ table := by
  induction table with
  | nil => exact Or.inl (List.mem_singleton.mp member)
  | cons first rest ih =>
    rw [put] at member
    split at member
    · rcases List.mem_cons.mp member with same | later
      · exact Or.inl same
      · exact Or.inr (List.mem_cons_of_mem _ later)
    · rcases List.mem_cons.mp member with same | later
      · exact Or.inr (List.mem_cons.mpr (Or.inl same))
      · exact (ih later).imp_right (List.mem_cons_of_mem _)

theorem get?_put (key : Text) (value : α) (table : Table α) (other : Text) :
    (put key value table).get? other = if other = key then some value else table.get? other := by
  induction table with
  | nil =>
    by_cases same : other = key
    · simp [put, get?, same]
    · simp [put, get?, same, Ne.symm same]
  | cons entry rest ih =>
    simp only [get?] at ih ⊢
    by_cases here : entry.1 = key
    · subst here
      by_cases same : entry.1 = other
      · simp [put, same]
      · simp [put, same, Ne.symm same]
    · by_cases same : entry.1 = other
      · subst same
        simp [put, here]
      · simp [put, here, same, ih]

theorem mem_of_get? (found : table.get? key = some value) : (key, value) ∈ table := by
  obtain ⟨entry, located, rfl⟩ := Option.map_eq_some_iff.mp found
  have same : entry.1 = key := by simpa using List.find?_some located
  exact same ▸ List.mem_of_find?_eq_some located

theorem get?_of_mem (distinct : table.keys.Nodup) (member : (key, value) ∈ table) :
    table.get? key = some value := by
  induction table with
  | nil => contradiction
  | cons entry rest ih =>
    simp only [keys, List.map_cons, List.nodup_cons] at distinct
    rcases List.mem_cons.mp member with rfl | later
    · simp [get?]
    · have apart : entry.1 ≠ key := fun same =>
        distinct.1 (same ▸ List.mem_map_of_mem (f := Prod.fst) later)
      simpa only [get?, List.find?_cons, beq_eq_false_iff_ne.mpr apart] using ih distinct.2 later

theorem get?_iff (distinct : table.keys.Nodup) :
    table.get? key = some value ↔ (key, value) ∈ table :=
  ⟨mem_of_get?, get?_of_mem distinct⟩

theorem get?_eq_none : table.get? key = none ↔ key ∉ table.keys := by
  simp only [get?, Option.map_eq_none_iff, List.find?_eq_none, beq_iff_eq, keys, List.mem_map, not_exists,
    not_and]

theorem foldl_put (distinct : (table ++ entries).keys.Nodup) :
    entries.foldl (fun table entry => put entry.1 entry.2 table) table = table ++ entries := by
  induction entries generalizing table with
  | nil => simp
  | cons entry rest ih =>
    have absent : entry.1 ∉ table.keys := by
      simp only [keys, List.map_append, List.map_cons, List.nodup_append, List.mem_cons] at distinct
      exact fun member => distinct.2.2 _ member _ (Or.inl rfl) rfl
    rw [List.foldl_cons, put_new absent, ih (by simpa using distinct)]
    simp

theorem ofEntries_distinct (distinct : (entries.map Prod.fst).Nodup) : ofEntries entries = entries :=
  foldl_put distinct

theorem ofEntries_induction {P : Table α → Prop} (nil : P [])
    (put : ∀ table, P table → ∀ entry ∈ entries, P (put entry.1 entry.2 table)) :
    P (ofEntries entries) :=
  List.foldlRecOn entries _ nil put

theorem nodup_ofEntries (entries : List (Text × α)) : (ofEntries entries).keys.Nodup :=
  ofEntries_induction (P := fun table => table.keys.Nodup) List.nodup_nil
    fun _ distinct _ _ => nodup_put distinct

theorem mem_ofEntries (member : entry ∈ ofEntries entries) : entry ∈ entries := by
  revert entry
  exact ofEntries_induction (P := fun table => ∀ {entry}, entry ∈ table → entry ∈ entries)
    (fun none => absurd none List.not_mem_nil)
    fun _ known _ given _ member => (mem_put member).elim (fun same => same ▸ given) known

theorem mem_keys_foldl_put : key ∈ (entries.foldl (fun table entry => put entry.1 entry.2 table) table).keys ↔
    key ∈ table.keys ∨ key ∈ entries.map Prod.fst := by
  induction entries generalizing table with
  | nil => simp
  | cons entry rest ih =>
    rw [List.foldl_cons, ih, mem_keys_put, List.map_cons, List.mem_cons, or_assoc]

theorem mem_keys_ofEntries : key ∈ (ofEntries entries).keys ↔ key ∈ entries.map Prod.fst := by
  rw [ofEntries, mem_keys_foldl_put, keys, List.map_nil]
  exact or_iff_right List.not_mem_nil

theorem keys_keep (test : Text → Bool) (table : Table α) :
    (table.keep test).keys = table.keys.filter test := by
  rw [keys, keep, keys, List.filter_map]
  rfl

theorem mem_keep : entry ∈ table.keep test ↔ entry ∈ table ∧ test entry.1 = true :=
  List.mem_filter

theorem nodup_keep (distinct : table.keys.Nodup) : (table.keep test).keys.Nodup := by
  rw [keys_keep]
  exact distinct.filter test

theorem get?_keep (distinct : table.keys.Nodup) :
    (table.keep test).get? key = some value ↔ table.get? key = some value ∧ test key = true := by
  rw [get?_iff (nodup_keep distinct), mem_keep, get?_iff distinct]

end LabEditor.Table
