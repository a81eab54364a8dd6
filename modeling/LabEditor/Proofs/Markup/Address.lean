import LabEditor.Markup.Link
import LabEditor.Proofs.Scan
import LabEditor.Proofs.Text.Trimming
import Mathlib

/-! What is read as an address. An address is made of address characters, it ends where no other can
begin, and no bracket behind it has a part in whether it is one. -/
namespace LabEditor.Markup

variable {t front rest place found scheme : Text} {before : Option CodePoint}

/-- What can stand between the brackets of a link that is made of it. -/
structure IsAddress (t : Text) : Prop where
  some : t ≠ []
  all : ∀ c ∈ t, isAddressChar c = true

theorem IsAddress.free (address : IsAddress t) (other : isAddressChar x = false) : x ∉ t := by
  intro member
  have char := address.all x member
  simp [other] at char

theorem isAddressLetter_upper (upper : d.isUpper = true) : isAddressLetter d = true := by
  have low : d.toNat < 0x80 := by
    simp only [CodePoint.isUpper, Bool.and_eq_true, decide_eq_true_eq] at upper
    omega
  simp [isAddressLetter, low, CodePoint.isAlphanum, CodePoint.isAlpha, upper]

theorem isAddressLetter_scheme (known : scheme ∈ schemes) (letter : c ∈ scheme) :
    isAddressLetter c = true := by
  have all : schemes.all (·.all isAddressLetter) = true := by decide
  exact List.all_eq_true.mp (List.all_eq_true.mp all scheme known) c letter

theorem isAddressLetter_of_same (known : scheme ∈ schemes) (letter : c ∈ scheme)
    (same : Text.sameLetter c d = true) : isAddressLetter d = true := by
  simp only [Text.sameLetter, Bool.or_eq_true, Bool.and_eq_true, beq_iff_eq] at same
  rcases same with (((same | same) | ⟨_, same | same⟩) | ⟨_, same⟩) | ⟨_, same⟩
  · exact same ▸ isAddressLetter_scheme known letter
  · by_cases upper : d.isUpper = true
    · exact isAddressLetter_upper upper
    · have kept : d.toLower = d := if_neg upper
      exact kept ▸ same ▸ isAddressLetter_scheme known letter
  · exact same ▸ by decide
  · exact same ▸ by decide
  · exact same ▸ by decide
  · exact same ▸ by decide

theorem isAddressEnd_of_letter (letter : isAddressLetter c = true) : isAddressEnd c = true := by
  rw [isAddressEnd, letter, Bool.true_or]

theorem isAddressChar_of_end (last : isAddressEnd c = true) : isAddressChar c = true := by
  rw [isAddressChar, last, Bool.true_or]

/-- What follows the scheme of an address at the front of a text. -/
def place? (t : Text) : Option Text :=
  schemes.findSome? fun scheme => (Text.afterWord? scheme t).bind (Text.after? "://")

theorem of_place? (read : place? t = some place) : ∃ spelled, spelled ≠ [] ∧
    (∀ c ∈ spelled, isAddressLetter c = true) ∧ t = spelled ++ ("://" ++ place) := by
  obtain ⟨scheme, known, here⟩ := List.exists_of_findSome?_eq_some read
  obtain ⟨behind, named, marked⟩ := Option.bind_eq_some_iff.mp here
  obtain ⟨spelled, rfl, same⟩ := Text.afterWord?_eq_some.mp named
  refine ⟨spelled, ?_, ?_, ?_⟩
  · have some : ∀ scheme ∈ schemes, scheme ≠ [] := by decide
    rintro rfl
    exact some scheme known (List.forall₂_nil_right_iff.mp same)
  · exact forall_of_forall₂ same.flip fun _ _ letter alike =>
      isAddressLetter_of_same known letter alike
  · rw [Text.after?_eq_some.mp marked]

theorem drop_scheme (letters : ∀ c ∈ spelled, isAddressLetter c = true) (place : Text) :
    ((spelled ++ (("://" : Text) ++ place)).dropWhile (· != (':' : CodePoint))).drop 3 = place := by
  have before : ∀ c ∈ spelled, (c != ':') = true := by
    intro c member
    refine bne_iff_ne.mpr ?_
    rintro rfl
    exact absurd (letters _ member) (by decide)
  rw [List.dropWhile_append_of_pos before]
  rfl

theorem place?_append (read : place? front = some place) (behind : Text) :
    place? (front ++ behind) = some (place ++ behind) := by
  obtain ⟨scheme, known, here⟩ := List.exists_of_findSome?_eq_some read
  obtain ⟨inside, named, marked⟩ := Option.bind_eq_some_iff.mp here
  obtain ⟨other, again⟩ : ∃ other, place? (front ++ behind) = some other := by
    rw [← Option.isSome_iff_exists, place?, List.findSome?_isSome_iff]
    refine ⟨scheme, known, ?_⟩
    rw [Text.afterWord?_append named, Option.bind_some, Text.after?_eq_some.mp marked,
      List.append_assoc, Text.after?_append]
    rfl
  -- Another scheme may come first in the list, but what follows the scheme is the same.
  obtain ⟨spelled, _, letters, whole⟩ := of_place? read
  obtain ⟨spelled', _, letters', whole'⟩ := of_place? again
  rw [again, ← drop_scheme letters' other, ← whole', whole, List.append_assoc, List.append_assoc,
    drop_scheme letters]

theorem place?_bracket (front behind : Text) :
    place? (front ++ ('[' : CodePoint) :: behind) =
      (place? front).map (· ++ ('[' : CodePoint) :: behind) := by
  have letters {scheme : Text} (known : scheme ∈ schemes) :
      ∀ c ∈ scheme, Text.sameLetter c '[' = false := by
    intro c letter
    rw [Bool.eq_false_iff]
    intro same
    exact absurd (isAddressLetter_of_same known letter same) (by decide)
  rw [place?, place?, List.map_findSome?, ← List.head?_filterMap, ← List.head?_filterMap]
  congr 1
  refine List.filterMap_congr fun scheme known => ?_
  rw [Text.afterWord?_stop (letters known), Function.comp_apply]
  cases Text.afterWord? scheme front with
  | none => rfl
  | some inside => exact Text.after?_stop (by decide) inside behind

/-- The longest run of address characters that ends well. -/
def addressBody (place : Text) : Text :=
  Text.dropEndWhile (fun c => !isAddressEnd c) (place.takeWhile isAddressChar)

theorem addressBody_eq_nil : addressBody place = [] ↔
    ∀ c ∈ place.takeWhile isAddressChar, isAddressEnd c = false := by
  constructor
  · intro gone c member
    by_contra last
    exact Text.dropEndWhile_ne_nil member (by simpa using last) gone
  · intro all
    exact Text.dropEndWhile_eq_nil fun c member => by simp [all c member]

theorem address?_at (free : before.any Text.isWordChar = false) (read : place? t = some place) :
    address? before t = if (addressBody place).isEmpty then none
      else some (t.take (t.length - place.length + (addressBody place).length),
        t.drop (t.length - place.length + (addressBody place).length)) := by
  rw [place?] at read
  simp only [address?, free, read, Bool.false_eq_true, if_false, addressBody]
  rfl

theorem address?_nowhere (unread : place? t = none) (before : Option CodePoint) :
    address? before t = none := by
  rw [place?] at unread
  simp only [address?, unread, ite_self]

theorem address?_inWord (inside : before.any Text.isWordChar = true) (t : Text) :
    address? before t = none := by
  rw [address?, if_pos inside]

theorem takeWhile_bracket (place behind : Text) :
    (place ++ ('[' : CodePoint) :: behind).takeWhile isAddressChar = place.takeWhile isAddressChar := by
  rw [List.takeWhile_append, List.takeWhile_cons_of_neg (by decide), List.append_nil]
  split
  · rename_i all
    exact ((List.takeWhile_prefix _).eq_of_length all).symm
  · rfl

/-- What an address needs stands before the next bracket. -/
theorem address?_bracket (unread : address? before (front ++ behind) = none) (other : Text) :
    address? before (front ++ ('[' : CodePoint) :: other) = none := by
  cases free : before.any Text.isWordChar with
  | true => exact address?_inWord free _
  | false =>
    have known := place?_bracket front other
    cases read : place? front with
    | none =>
      rw [read] at known
      exact address?_nowhere known before
    | some place =>
      rw [read] at known
      have whole := place?_append read behind
      rw [address?_at free whole] at unread
      have noBody : (addressBody (place ++ behind)).isEmpty = true := by
        by_contra some
        rw [if_neg some] at unread
        contradiction
      -- The bracket ends the run of characters, so fewer of them are left to end an address.
      have shorter : (place ++ ('[' : CodePoint) :: other).takeWhile isAddressChar <+:
          (place ++ behind).takeWhile isAddressChar := by
        rw [takeWhile_bracket, List.takeWhile_append]
        split
        · exact (List.takeWhile_prefix _).trans (List.prefix_append place _)
        · exact List.prefix_rfl
      rw [address?_at free known, if_pos]
      rw [List.isEmpty_iff, addressBody_eq_nil] at noBody ⊢
      exact fun c member => noBody c (shorter.subset member)

theorem place?_eq_none (first : ∀ c, t.head? = some c → isAddressEnd c = false) :
    place? t = none := by
  cases read : place? t with
  | none => rfl
  | some place =>
    obtain ⟨spelled, some, letters, rfl⟩ := of_place? read
    obtain ⟨c, spelled, rfl⟩ := List.exists_cons_of_ne_nil some
    have letter := isAddressEnd_of_letter (letters c List.mem_cons_self)
    simp [first c rfl] at letter

/-- The body of an address ends where no other address can begin. -/
theorem addressBody_spec (place : Text) : ∃ rest, place = addressBody place ++ rest ∧
    (∀ c ∈ addressBody place, isAddressChar c = true) ∧
      ∀ c, rest.head? = some c → isAddressEnd c = false := by
  obtain ⟨dropped, same, none⟩ :=
    Text.dropEndWhile_dropped (fun c => !isAddressEnd c) (place.takeWhile isAddressChar)
  refine ⟨dropped ++ place.dropWhile isAddressChar, ?_, ?_, ?_⟩
  · rw [← List.append_assoc, addressBody, ← same, List.takeWhile_append_dropWhile]
  · intro c member
    exact List.mem_takeWhile_imp ((Text.dropEndWhile_isPrefix _ _).subset member)
  · intro c first
    cases dropped with
    | nil =>
      have stop := List.head?_dropWhile_not isAddressChar place
      rw [List.nil_append] at first
      rw [first] at stop
      cases last : isAddressEnd c with
      | false => rfl
      | true => simp [isAddressChar_of_end last] at stop
    | cons d dropped =>
      cases first
      simpa using none c List.mem_cons_self

theorem of_address? (read : address? before t = some (found, rest)) :
    t = found ++ rest ∧ IsAddress found ∧ place? rest = none := by
  cases free : before.any Text.isWordChar with
  | true => simp [address?_inWord free] at read
  | false =>
    cases known : place? t with
    | none => simp [address?_nowhere known] at read
    | some place =>
      rw [address?_at free known] at read
      split at read
      · contradiction
      · rename_i some
        obtain ⟨spelled, _, letters, rfl⟩ := of_place? known
        obtain ⟨tail, whole, chars, ends⟩ := addressBody_spec place
        generalize addressBody place = body at *
        subst whole
        have size : (spelled ++ ("://" ++ (body ++ tail))).length - (body ++ tail).length +
            body.length = (spelled ++ ("://" ++ body)).length := by
          simp only [List.length_append]
          omega
        have shape : spelled ++ ("://" ++ (body ++ tail)) =
            spelled ++ ("://" ++ body) ++ tail := by
          simp only [List.append_assoc]
        rw [size, shape, List.take_left, List.drop_left] at read
        cases read
        refine ⟨shape, ⟨by simp, ?_⟩, place?_eq_none ends⟩
        intro c member
        rcases List.mem_append.mp member with letter | later
        · exact isAddressChar_of_end (isAddressEnd_of_letter (letters c letter))
        · rcases List.mem_append.mp later with mark | inside
          · have marks : ("://" : Text).all isAddressChar = true := by decide
            exact List.all_eq_true.mp marks c mark
          · exact chars c inside

end LabEditor.Markup
