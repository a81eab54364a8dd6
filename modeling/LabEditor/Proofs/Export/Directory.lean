import LabEditor.Export.Basic
import LabEditor.Proofs.Outcome
import Mathlib.Data.List.Nodup

/-! What writing does to a directory. Each step that finds nothing else in its way adds just what it
writes; no step takes anything away. -/
namespace LabEditor.Export

variable {medium : Medium} {α β : Type} {directory next later last : Directory}
  {above names place : List Text} {name t : Text} {item : Item} {start : Place}

namespace Writing

/-- What comes of writing, and the directory that it leaves behind. -/
def on (steps : Writing α) (directory : Directory) : Except Fault α × Directory :=
  steps.run.run directory

@[simp] theorem pure_on (value : α) (directory : Directory) :
    (pure value : Writing α).on directory = (.ok value, directory) := rfl

@[simp] theorem bind_on (steps : Writing α) (next : α → Writing β) (directory : Directory) :
    (steps >>= next).on directory = match steps.on directory with
      | (.ok value, directory) => (next value).on directory
      | (.error fault, directory) => (.error fault, directory) := by
  change (match steps directory with
    | (outcome, directory) => ExceptT.bindCont next outcome directory) = _
  rw [on, StateT.run, ExceptT.run]
  cases steps directory with
  | mk outcome after => cases outcome <;> rfl

@[simp] theorem lift_on (outcome : Except Fault α) (directory : Directory) :
    (lift outcome).on directory = (outcome, directory) := rfl

@[simp] theorem get_on (directory : Directory) :
    (get : Writing Directory).on directory = (.ok directory, directory) := rfl

@[simp] theorem set_on (next directory : Directory) :
    (set next : Writing PUnit).on directory = (.ok ⟨⟩, next) := rfl

theorem bind_on_ok {steps : Writing α} {next : α → Writing β} {result : β} :
    (steps >>= next).on directory = (.ok result, last) ↔
      ∃ value middle, steps.on directory = (.ok value, middle) ∧
        (next value).on middle = (.ok result, last) := by
  rw [bind_on]
  constructor
  · intro done
    split at done
    · rename_i value middle here
      exact ⟨value, middle, here, done⟩
    · cases done
  · rintro ⟨value, middle, here, done⟩
    rw [here]
    exact done

@[simp] theorem ite_on (condition : Prop) [Decidable condition] (yes no : Writing α)
    (directory : Directory) :
    (if condition then yes else no).on directory =
      if condition then yes.on directory else no.on directory := by
  split <;> rfl

end Writing

namespace Directory

theorem mem_of_get? (found : directory.get? place = some item) : (place, item) ∈ directory := by
  obtain ⟨entry, located, rfl⟩ := Option.map_eq_some_iff.mp found
  have same : entry.1 = place := by simpa using List.find?_some located
  exact same ▸ List.mem_of_find?_eq_some located

theorem get?_eq_none : directory.get? place = none ↔ place ∉ directory.map Prod.fst := by
  simp only [get?, Option.map_eq_none_iff, List.find?_eq_none, beq_iff_eq, List.mem_map, not_exists,
    not_and]

end Directory

/-- What a directory has more than another one. Nothing that was there is lost, and no two things
come to stand at one place. -/
structure Added (directory next : Directory) (adds : List Text → Item → Prop) : Prop where
  mem : ∀ place item, (place, item) ∈ next ↔ (place, item) ∈ directory ∨ adds place item
  distinct : (directory.map Prod.fst).Nodup → (next.map Prod.fst).Nodup

namespace Added
variable {adds more : List Text → Item → Prop}

theorem none (nothing : ∀ place item, ¬ adds place item) : Added directory directory adds where
  mem place item := by simp [nothing]
  distinct := id

theorem trans (first : Added directory next adds) (second : Added next later more) :
    Added directory later fun place item => adds place item ∨ more place item where
  mem place item := by rw [second.mem, first.mem, or_assoc]
  distinct := second.distinct ∘ first.distinct

theorem congr (added : Added directory next adds) (same : ∀ place item, adds place item ↔ more place item) :
    Added directory next more where
  mem place item := by rw [added.mem, same]
  distinct := added.distinct

/-- One thing more at a place where nothing stands. -/
theorem one (free : place ∉ directory.map Prod.fst) (item : Item) :
    Added directory (directory ++ [(place, item)]) fun other thing => other = place ∧ thing = item where
  mem other thing := by simp
  distinct apart := by
    rw [List.map_append, List.nodup_append]
    refine ⟨apart, List.nodup_singleton _, ?_⟩
    rintro other there thing same rfl
    have here : other = place := List.mem_singleton.mp same
    exact free (here ▸ there)

end Added

/-- The places that a way from a folder leads through, its end included. -/
def Through (above names place : List Text) : Prop :=
  ∃ front, front ≠ [] ∧ front <+: names ∧ place = above ++ front

theorem not_through_nil : ¬ Through above [] place := by
  rintro ⟨front, some, ahead, _⟩
  exact some (List.prefix_nil.mp ahead)

theorem through_root : Through [] names place ↔ place ≠ [] ∧ place <+: names := by
  constructor
  · rintro ⟨front, some, ahead, same⟩
    rw [List.nil_append] at same
    exact same ▸ ⟨some, ahead⟩
  · rintro ⟨some, ahead⟩
    exact ⟨place, some, ahead, rfl⟩

theorem through_cons : Through above (name :: names) place ↔
    place = above ++ [name] ∨ Through (above ++ [name]) names place := by
  constructor
  · rintro ⟨front, some, ahead, rfl⟩
    obtain ⟨first, front, rfl⟩ := List.exists_cons_of_ne_nil some
    obtain ⟨same, ahead⟩ := List.cons_prefix_cons.mp ahead
    by_cases last : front = []
    · exact Or.inl (by rw [last, same])
    · exact Or.inr ⟨front, last, ahead, by simp [same]⟩
  · rintro (rfl | ⟨front, _, ahead, rfl⟩)
    · exact ⟨[name], by simp, by simp, rfl⟩
    · exact ⟨name :: front, by simp, List.cons_prefix_cons.mpr ⟨rfl, ahead⟩, by simp⟩

/-- A name that leads down, and that a medium takes. -/
structure Taken (medium : Medium) (name : Text) : Prop where
  down : name ≠ (['.', '.'] : Text)
  takes : medium.takesName name = true

theorem Taken.checkName (taken : Taken medium name) : medium.checkName name = .ok () := by
  rw [Medium.checkName, if_pos taken.takes]

theorem Taken.enter (taken : Taken medium name) (above : List Text) :
    (Place.below above).enter name = .below (above ++ [name]) := by
  simp [Place.enter, taken.down]

namespace Writing

/-- A folder is made where none is, and stays where one is. -/
theorem makeFolder_on (some : place ≠ []) (clear : ∀ item, (place, item) ∈ directory → item = .folder)
    (isLast : Bool) : ∃ next, (makeFolder (.below place) isLast).on directory = (.ok (), next) ∧
      Added directory next fun other item => other = place ∧ item = .folder := by
  cases found : directory.get? place with
  | none =>
    have free := Directory.get?_eq_none.mp found
    refine ⟨directory ++ [(place, .folder)], ?_, .one free .folder⟩
    simp [makeFolder, Directory.hasFolder, some, found]
  | some item =>
    have there := Directory.mem_of_get? found
    cases clear item there
    refine ⟨directory, ?_, fun other item => ?_, id⟩
    · simp [makeFolder, Directory.hasFolder, found, Item.isFolder]
    · constructor
      · exact Or.inl
      · rintro (before | ⟨rfl, rfl⟩)
        · exact before
        · exact there

/-- All folders along a way are made, if nothing but folders is there. -/
theorem makeFolders_on (taken : ∀ name ∈ names, Taken medium name)
    (clear : ∀ place, Through above names place → ∀ item, (place, item) ∈ directory → item = .folder) :
    ∃ next,
      (makeFolders medium (.below above) names).on directory = (.ok (.below (above ++ names)), next) ∧
      Added directory next fun place item => Through above names place ∧ item = .folder := by
  induction names generalizing above directory with
  | nil =>
    refine ⟨directory, by simp [makeFolders], .none ?_⟩
    rintro place item ⟨through, _⟩
    exact not_through_nil through
  | cons name names ih =>
    obtain ⟨first, rest⟩ := List.forall_mem_cons.mp taken
    obtain ⟨middle, made, added⟩ := makeFolder_on (List.append_ne_nil_of_right_ne_nil above (by simp))
      (clear (above ++ [name]) (through_cons.mpr (Or.inl rfl))) names.isEmpty
    have clearStill : ∀ place, Through (above ++ [name]) names place →
        ∀ item, (place, item) ∈ middle → item = .folder := by
      intro place through item there
      rcases (added.mem place item).mp there with before | ⟨_, same⟩
      · exact clear place (through_cons.mpr (Or.inr through)) item before
      · exact same
    obtain ⟨last, later, more⟩ := ih rest clearStill
    refine ⟨last, ?_, (added.trans more).congr fun place item => ?_⟩
    · simp [makeFolders, first.checkName, first.enter, made, later]
    · rw [through_cons, or_and_right]

/-- An item is written to a place where nothing else is. -/
theorem writeItem_on (taken : Taken medium name) (kind : item ≠ .folder)
    (clear : ∀ other, (above ++ [name], other) ∈ directory → other = item) :
    ∃ next, (writeItem medium (.below above) name item).on directory = (.ok (), next) ∧
      Added directory next fun place other => place = above ++ [name] ∧ other = item := by
  have apart : directory.hasFolder (above ++ [name]) = false := by
    cases found : directory.get? (above ++ [name]) with
    | none => simp [Directory.hasFolder, found]
    | some other =>
      cases clear other (Directory.mem_of_get? found)
      cases item with
      | folder => exact absurd rfl kind
      | file content => simp [Directory.hasFolder, found, Item.isFolder]
      | archive members => simp [Directory.hasFolder, found, Item.isFolder]
  refine ⟨_, by simp [writeItem, taken.checkName, taken.down, apart]; rfl, fun place other => ?_,
    fun distinct => ?_⟩
  · simp only [List.mem_append, List.mem_filter, List.mem_singleton, Prod.mk.injEq, bne_iff_ne]
    constructor
    · rintro (⟨before, _⟩ | same)
      · exact Or.inl before
      · exact Or.inr same
    · rintro (before | same)
      · by_cases here : place = above ++ [name]
        · subst here
          exact Or.inr ⟨rfl, clear other before⟩
        · exact Or.inl ⟨before, here⟩
      · exact Or.inr same
  · have free : above ++ [name] ∉
        (directory.filter fun entry => entry.1 != above ++ [name]).map Prod.fst := by
      simp
    refine (Added.one free item).distinct (distinct.sublist ?_)
    exact List.filter_sublist.map Prod.fst

theorem writeText_encodable (encodable : t.isEncodable = true) (place : Place) (name : Text) :
    writeText medium place name t = writeItem medium place name (.file t) := by
  rw [writeText, if_pos encodable]

/-- Nothing but a text that can be encoded is written to the end. -/
theorem encodable_of_file (done : (file medium start names (.str t)).on directory = (.ok (), last)) :
    t.isEncodable = true := by
  obtain ⟨_, _, _, done⟩ := bind_on_ok.mp done
  obtain ⟨place, _, _, done⟩ := bind_on_ok.mp done
  obtain ⟨_, _, _, done⟩ := bind_on_ok.mp done
  cases final : names.getLast? with
  | none =>
    rw [final] at done
    cases done
  | some name =>
    simp only [final] at done
    by_contra half
    rw [writeText, if_neg half] at done
    obtain ⟨_, _, _, done⟩ := bind_on_ok.mp done
    cases done

end Writing
end LabEditor.Export
