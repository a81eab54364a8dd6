import LabEditor.Proofs.Json.Number
import LabEditor.Proofs.Json.Text
import LabEditor.Proofs.Table

/-! A written value is read as the same value, unless it is too large to be read: a whole number may
have too many digits, and lists and objects may stand in one another too often. -/
namespace LabEditor.Json

open Decimal

/-- The values that reading can give: the names of an object's members are distinct, and numbers of
64 bits have as much mantissa as there is room for. -/
inductive Proper : Json → Prop where
  | null : Proper .null
  | bool (b : Bool) : Proper (.bool b)
  | int (n : Int) : Proper (.int n)
  | finite (negative : Bool) {m : Nat} {e : Int} (normal : IsNormal m e) :
    Proper (.float (.finite negative m e))
  | infinite (negative : Bool) : Proper (.float (.infinite negative))
  | nan : Proper (.float .nan)
  | str (t : Text) : Proper (.str t)
  | arr {items : List Json} (each : ∀ item ∈ items, Proper item) : Proper (.arr items)
  | obj {members : List (Text × Json)} (distinct : (members.map Prod.fst).Nodup)
    (each : ∀ entry ∈ members, Proper entry.2) : Proper (.obj members)

mutual

/-- The texts that a value is made of, the names of members among them. -/
def textsIn : Json → List Text
  | .str t => [t]
  | .arr items => itemTexts items
  | .obj members => memberTexts members
  | _ => []

def itemTexts : List Json → List Text
  | [] => []
  | item :: items => textsIn item ++ itemTexts items

def memberTexts : List (Text × Json) → List Text
  | [] => []
  | (name, value) :: members => name :: (textsIn value ++ memberTexts members)

end

/-- No text of a value holds a pair as its halves. -/
def Joined (value : Json) : Prop :=
  ∀ t ∈ value.textsIn, t.Joined

instance : DecidablePred Joined := fun value =>
  inferInstanceAs (Decidable (∀ t ∈ value.textsIn, t.Joined))

theorem joined_null : Joined .null :=
  List.forall_mem_nil _

theorem joined_bool {b : Bool} : Joined (.bool b) :=
  List.forall_mem_nil _

theorem joined_str {t : Text} : Joined (.str t) ↔ t.Joined :=
  List.forall_mem_singleton

theorem joined_arr {items : List Json} : Joined (.arr items) ↔ ∀ item ∈ items, Joined item := by
  change (∀ t ∈ itemTexts items, t.Joined) ↔ _
  induction items with
  | nil => simp [itemTexts]
  | cons item items ih =>
    rw [itemTexts, List.forall_mem_append, ih, List.forall_mem_cons]
    rfl

theorem joined_obj {members : List (Text × Json)} :
    Joined (.obj members) ↔ ∀ entry ∈ members, entry.1.Joined ∧ Joined entry.2 := by
  change (∀ t ∈ memberTexts members, t.Joined) ↔ _
  induction members with
  | nil => simp [memberTexts]
  | cons entry members ih =>
    rw [memberTexts, List.forall_mem_cons, List.forall_mem_append, ih, List.forall_mem_cons, and_assoc]
    rfl

/-- Whole numbers are short, and at most so many lists and objects stand in one another. -/
inductive Legible : Nat → Json → Prop where
  | null {level : Nat} : Legible level .null
  | bool {level : Nat} (b : Bool) : Legible level (.bool b)
  | int {level : Nat} (n : Int) (short : (Text.digits n.natAbs).length ≤ Text.maxDigits) :
    Legible level (.int n)
  | float {level : Nat} (x : Binary64) : Legible level (.float x)
  | str {level : Nat} (t : Text) : Legible level (.str t)
  | arr {level : Nat} {items : List Json} (each : ∀ item ∈ items, Legible level item) :
    Legible (level + 1) (.arr items)
  | obj {level : Nat} {members : List (Text × Json)}
    (each : ∀ entry ∈ members, Legible level entry.2) : Legible (level + 1) (.obj members)

theorem Legible.mono {level more : Nat} {value : Json} (legible : Legible level value)
    (le : level ≤ more) : Legible more value := by
  induction legible generalizing more with
  | null => exact .null
  | bool b => exact .bool b
  | int n short => exact .int n short
  | float x => exact .float x
  | str t => exact .str t
  | arr _ ih =>
    obtain ⟨more, rfl⟩ := Nat.exists_eq_add_of_le' le
    exact .arr fun item member => ih item member (Nat.le_add_left _ _)
  | obj _ ih =>
    obtain ⟨more, rfl⟩ := Nat.exists_eq_add_of_le' le
    exact .obj fun entry member => ih entry member (Nat.le_add_left _ _)

/-- A value that some text is read as, where lists and objects may stand in one another often enough. -/
structure Storable (value : Json) : Prop where
  proper : value.Proper
  legible : ∃ limit, value.Legible limit

/-- Finitely many values have a limit in common. -/
theorem exists_limit {values : List Json} (storable : ∀ value ∈ values, value.Storable) :
    ∃ limit, ∀ value ∈ values, value.Legible limit := by
  induction values with
  | nil => exact ⟨0, by simp⟩
  | cons value values ih =>
    rw [List.forall_mem_cons] at storable
    obtain ⟨own, first⟩ := storable.1.legible
    obtain ⟨limit, rest⟩ := ih storable.2
    refine ⟨max own limit, List.forall_mem_cons.mpr ⟨first.mono (le_max_left _ _), ?_⟩⟩
    exact fun value member => (rest value member).mono (le_max_right _ _)

variable {α β : Type} {sure first second : Prop} {layout : Layout} {level fuel depth : Nat}
  {value item : Json}
  {items : List Json} {members : List (Text × Json)} {t rest space : Text}

/-- The outcome is a value, or it is not sure to be one and says that something was too large. -/
def Finds (sure : Prop) (outcome : Except ReadError α) (value : α) : Prop :=
  outcome = .ok value ∨ ¬ sure ∧ ∃ error, outcome = .error error ∧ error ≠ .malformed

namespace Finds
variable {outcome : Except ReadError α} {found : α}

theorem of_ok (read : outcome = .ok found) : Finds sure outcome found :=
  Or.inl read

theorem weaken (stronger : sure → first) (finds : Finds first outcome found) :
    Finds sure outcome found := by
  rcases finds with read | ⟨unsure, error⟩
  · exact Or.inl read
  · exact Or.inr ⟨fun holds => unsure (stronger holds), error⟩

theorem bind {next : α → Except ReadError β} {result : β} (finds : Finds first outcome found)
    (later : Finds second (next found) result) :
    Finds (first ∧ second) (outcome >>= next) result := by
  rcases finds with read | ⟨unsure, error, read, large⟩
  · rw [read, Outcome.ok_bind]
    exact later.weaken And.right
  · rw [read, Outcome.error_bind]
    exact Or.inr ⟨fun both => unsure both.1, error, rfl, large⟩

theorem bind_ok {next : α → Except ReadError β} {result : β} (finds : Finds sure outcome found)
    (later : next found = .ok result) : Finds sure (outcome >>= next) result :=
  (finds.bind (of_ok later : Finds True _ _)).weaken fun holds => ⟨holds, trivial⟩

theorem map (f : α → β) (finds : Finds sure outcome found) :
    Finds sure (outcome.map f) (f found) := by
  rcases finds with read | ⟨unsure, error, read, large⟩
  · rw [read]
    exact Or.inl rfl
  · rw [read]
    exact Or.inr ⟨unsure, error, rfl, large⟩

theorem not_malformed (finds : Finds sure outcome found) : outcome ≠ .error .malformed := by
  rcases finds with read | ⟨_, error, read, large⟩
  · simp [read]
  · simp [read, large]

end Finds

/-- All line breaks are white space, and so is what stands behind a colon. -/
structure Layout.Blank (layout : Layout) : Prop where
  lineBreak : ∀ depth, ∀ c ∈ layout.lineBreak depth, isSpace c = true
  colon : ∃ space, layout.colon = (':' : CodePoint) :: space ∧ ∀ c ∈ space, isSpace c = true

theorem blank_indentedLayout : indentedLayout.Blank where
  lineBreak := by
    intro depth c member
    rcases List.mem_cons.mp member with rfl | space
    · decide
    · rw [List.eq_of_mem_replicate space]
      decide
  colon := ⟨[' '], rfl, List.forall_mem_singleton.mpr rfl⟩

theorem skipSpace_cons {c : CodePoint} (visible : isSpace c = false) (t : Text) :
    skipSpace (c :: t) = c :: t := by
  rw [skipSpace, List.dropWhile_cons_of_neg (by simp [visible])]

theorem skipSpace_blank {c : CodePoint} (blank : ∀ x ∈ space, isSpace x = true)
    (visible : isSpace c = false) (t : Text) :
    skipSpace (space ++ c :: t) = c :: t := by
  rw [skipSpace, List.dropWhile_append_of_pos blank]
  exact skipSpace_cons visible t

theorem noNumber_cons {c : CodePoint} (digit : c.isDigit = false) (point : c ≠ '.')
    (exponent : c ≠ 'e' ∧ c ≠ 'E') (t : Text) : NoNumber (c :: t) := by
  constructor
  · rintro x ⟨⟩
    exact digit
  · simpa using point
  · simpa using exponent

theorem noNumber_blank {c : CodePoint} (blank : ∀ x ∈ space, isSpace x = true)
    (ends : NoNumber (c :: t)) :
    NoNumber (space ++ c :: t) := by
  cases space with
  | nil => exact ends
  | cons x space =>
    have white := blank x List.mem_cons_self
    simp only [isSpace, Bool.or_eq_true, beq_iff_eq] at white
    rcases white with ((rfl | rfl) | rfl) | rfl <;>
      exact noNumber_cons (by decide) (by decide) (by decide) _

theorem readValue_scalar (scalar : t.head? ≠ some ('[' : CodePoint) ∧ t.head? ≠ some ('\x7b' : CodePoint))
    (fuel level : Nat) :
    readValue (fuel + 1) level t = readScalar t := by
  rw [readValue.eq_def]
  split
  · contradiction
  · simp at scalar
  · simp at scalar
  · simp at scalar
  · simp at scalar
  · rfl

/-- No value starts with a character that starts no word, number or text. -/
theorem readScalar_other {c : CodePoint} (apart : c ∉ (['n', 't', 'f', 'N', 'I', '-', '"'] : Text))
    (digit : c.isDigit = false) (t : Text) : readScalar (c :: t) = .error .malformed := by
  simp only [List.mem_cons, List.not_mem_nil, or_false, not_or] at apart
  obtain ⟨n, t', f, N, I, minus, quote⟩ := apart
  have none : ∀ entry ∈ words, Text.after? entry.1 (c :: t) = none := by
    simp [words, Text.after?, Ne.symm n, Ne.symm t', Ne.symm f, Ne.symm N, Ne.symm I, Ne.symm minus]
  have run : (c :: t).takeWhile CodePoint.isDigit = [] := by simp [digit]
  rw [readScalar, findSome?_words none]
  · simp [readNumber, run]
  · intro u same
    exact quote (List.cons.inj same).1
  · intro u same
    exact minus (List.cons.inj same).1

/-- What is read as a value, or is too large for it, starts with neither white space nor a closing
bracket. -/
theorem Finds.start {found : Json × Text} (finds : Finds sure (readValue fuel level t) found) :
    ∃ c u, t = c :: u ∧ isSpace c = false ∧ c ≠ ']' := by
  have sound := finds.not_malformed
  cases fuel with
  | zero => contradiction
  | succ fuel =>
    cases t with
    | nil =>
      rw [readValue_scalar (by simp)] at sound
      exact absurd rfl sound
    | cons c u =>
      refine ⟨c, u, rfl, ?_, ?_⟩
      · by_contra space
        rw [Bool.not_eq_false, isSpace] at space
        simp only [Bool.or_eq_true, beq_iff_eq] at space
        apply sound
        rcases space with ((rfl | rfl) | rfl) | rfl <;>
          exact (readValue_scalar (by simp) fuel level).trans
            (readScalar_other (by decide) (by decide) u)
      · rintro rfl
        exact sound ((readValue_scalar (by simp) fuel level).trans
          (readScalar_other (by decide) (by decide) u))

/-- A value is found again in front of any text that does not go on with a number. -/
def ReadsBack (layout : Layout) (value : Json) : Prop :=
  ∀ (depth level fuel : Nat) (rest : Text), NoNumber rest →
    (writeAt layout depth value).length ≤ fuel →
    Finds (Legible level value) (readValue fuel level (writeAt layout depth value ++ rest))
      (value, rest)

/-- White space in front of a written value is skipped. -/
theorem ReadsBack.skip (back : ReadsBack layout value) (white : ∀ c ∈ space, isSpace c = true)
    (depth : Nat) (ends : NoNumber rest) :
    skipSpace (space ++ (writeAt layout depth value ++ rest)) =
      writeAt layout depth value ++ rest := by
  obtain ⟨c, u, shape, visible, _⟩ := (back depth 0 _ rest ends (Nat.le_refl _)).start
  rw [shape]
  exact skipSpace_blank white visible u

section
variable {r s u : Text}

theorem readItems_succ (fuel level : Nat) (t : Text) : readItems (fuel + 1) level t =
    readValue fuel level t >>= fun (item, r) =>
      match skipSpace r with
      | ']' :: s => pure ([item], s)
      | ',' :: s => readItems fuel level (skipSpace s) >>= fun (items, u) => pure (item :: items, u)
      | _ => throw .malformed := rfl

theorem readItems_last (head : Finds first (readValue fuel level t) (item, r))
    (close : skipSpace r = (']' : CodePoint) :: s) :
    Finds first (readItems (fuel + 1) level t) ([item], s) := by
  rw [readItems_succ]
  refine head.bind_ok ?_
  simp only [close]
  rfl

theorem readItems_more (head : Finds first (readValue fuel level t) (item, r))
    (comma : skipSpace r = (',' : CodePoint) :: s)
    (tail : Finds second (readItems fuel level (skipSpace s)) (items, u)) :
    Finds (first ∧ second) (readItems (fuel + 1) level t) (item :: items, u) := by
  rw [readItems_succ]
  refine head.bind ?_
  simp only [comma]
  exact tail.map fun found => (item :: found.1, found.2)

end

theorem writeItems_cons (layout : Layout) (depth : Nat) (item : Json) (items : List Json)
    (u : Text) :
    writeItems layout depth (item :: items) ++ u =
      (',' : CodePoint) :: (layout.lineBreak depth ++
        (writeAt layout depth item ++ (writeItems layout depth items ++ u))) := by
  simp [writeItems]

theorem noNumber_items (layout : Layout) (depth : Nat) (items : List Json)
    (white : ∀ c ∈ space, isSpace c = true) (rest : Text) :
    NoNumber (writeItems layout depth items ++ (space ++ (']' : CodePoint) :: rest)) := by
  cases items with
  | nil => exact noNumber_blank white (noNumber_cons (by decide) (by decide) (by decide) rest)
  | cons item items =>
    rw [writeItems_cons]
    exact noNumber_cons (by decide) (by decide) (by decide) _

theorem readItems_written (level : Nat) (rest : Text) (blank : layout.Blank)
    (white : ∀ c ∈ space, isSpace c = true) (back : ∀ value ∈ item :: items, ReadsBack layout value)
    (enough : (writeAt layout depth item).length + (writeItems layout depth items).length < fuel) :
    Finds (∀ value ∈ item :: items, Legible level value)
      (readItems fuel level (writeAt layout depth item ++
        (writeItems layout depth items ++ (space ++ (']' : CodePoint) :: rest))))
      (item :: items, rest) := by
  induction items generalizing item fuel with
  | nil =>
    obtain ⟨fuel, rfl⟩ : ∃ n, fuel = n + 1 := ⟨fuel - 1, by omega⟩
    have ends := noNumber_items layout depth [] white rest
    have head := back item List.mem_cons_self depth level fuel _ ends (by omega)
    refine (readItems_last head ?_).weaken fun all => all item List.mem_cons_self
    exact skipSpace_blank white (by decide) rest
  | cons next items ih =>
    obtain ⟨fuel, rfl⟩ : ∃ n, fuel = n + 1 := ⟨fuel - 1, by omega⟩
    have behind : ∀ value ∈ next :: items, ReadsBack layout value := fun value member =>
      back value (List.mem_cons_of_mem item member)
    have length : (writeItems layout depth (next :: items)).length =
        1 + (layout.lineBreak depth).length + (writeAt layout depth next).length +
          (writeItems layout depth items).length := by
      simp [writeItems]
      omega
    have ends := noNumber_items layout depth (next :: items) white rest
    have head := back item List.mem_cons_self depth level fuel _ ends (by omega)
    have room : (writeAt layout depth next).length + (writeItems layout depth items).length < fuel := by
      omega
    have tail := ih behind room
    have later := noNumber_items layout depth items white rest
    rw [← (behind next List.mem_cons_self).skip (blank.lineBreak depth) depth later] at tail
    refine (readItems_more head ?_ tail).weaken ?_
    · rw [writeItems_cons]
      exact skipSpace_cons (by decide) _
    · intro all
      exact ⟨all item List.mem_cons_self, fun value member =>
        all value (List.mem_cons_of_mem item member)⟩

section
variable {name r s u v : Text}

theorem readMembers_succ (fuel level : Nat) (t : Text) : readMembers (fuel + 1) level ('"' :: t) =
    readText t >>= fun (name, r) =>
      match skipSpace r with
      | ':' :: s =>
        readValue fuel level (skipSpace s) >>= fun (value, u) =>
          match skipSpace u with
          | '\x7d' :: v => pure ([(name, value)], v)
          | ',' :: v =>
            readMembers fuel level (skipSpace v) >>= fun (members, w) =>
              pure ((name, value) :: members, w)
          | _ => throw .malformed
      | _ => throw .malformed := rfl

theorem readMembers_last (named : readText t = .ok (name, r)) (colon : skipSpace r = (':' : CodePoint) :: s)
    (head : Finds first (readValue fuel level (skipSpace s)) (value, u))
    (close : skipSpace u = ('\x7d' : CodePoint) :: v) :
    Finds first (readMembers (fuel + 1) level ('"' :: t)) ([(name, value)], v) := by
  rw [readMembers_succ, named, Outcome.ok_bind]
  simp only [colon]
  refine head.bind_ok ?_
  simp only [close]
  rfl

theorem readMembers_more (named : readText t = .ok (name, r)) (colon : skipSpace r = (':' : CodePoint) :: s)
    (head : Finds first (readValue fuel level (skipSpace s)) (value, u))
    (comma : skipSpace u = (',' : CodePoint) :: v)
    (tail : Finds second (readMembers fuel level (skipSpace v)) (members, rest)) :
    Finds (first ∧ second) (readMembers (fuel + 1) level ('"' :: t))
      ((name, value) :: members, rest) := by
  rw [readMembers_succ, named, Outcome.ok_bind]
  simp only [colon]
  refine head.bind ?_
  simp only [comma]
  exact tail.map fun found => ((name, value) :: found.1, found.2)

end

/-- A member in front of a text. -/
def memberText (layout : Layout) (depth : Nat) (entry : Text × Json) (u : Text) : Text :=
  '"' :: (entry.1.flatMap escapedChar ++
    ('"' : CodePoint) :: (layout.colon ++ (writeAt layout depth entry.2 ++ u)))

theorem writeMembers_cons (layout : Layout) (depth : Nat) (entry : Text × Json)
    (members : List (Text × Json)) (u : Text) :
    writeMembers layout depth (entry :: members) ++ u =
      (',' : CodePoint) :: (layout.lineBreak depth ++
        memberText layout depth entry (writeMembers layout depth members ++ u)) := by
  simp [writeMembers, memberText, writeText]

theorem noNumber_members (layout : Layout) (depth : Nat) (members : List (Text × Json))
    (white : ∀ c ∈ space, isSpace c = true) (rest : Text) :
    NoNumber (writeMembers layout depth members ++ (space ++ ('\x7d' : CodePoint) :: rest)) := by
  cases members with
  | nil => exact noNumber_blank white (noNumber_cons (by decide) (by decide) (by decide) rest)
  | cons entry members =>
    rw [writeMembers_cons]
    exact noNumber_cons (by decide) (by decide) (by decide) _

theorem readMembers_written {entry : Text × Json} (level : Nat) (rest : Text) (blank : layout.Blank)
    (white : ∀ c ∈ space, isSpace c = true)
    (names : ∀ member ∈ entry :: members, member.1.Joined)
    (back : ∀ member ∈ entry :: members, ReadsBack layout member.2)
    (enough :
      (writeAt layout depth entry.2).length + (writeMembers layout depth members).length < fuel) :
    Finds (∀ member ∈ entry :: members, Legible level member.2)
      (readMembers fuel level
        (memberText layout depth entry
          (writeMembers layout depth members ++ (space ++ ('\x7d' : CodePoint) :: rest))))
      (entry :: members, rest) := by
  obtain ⟨gap, colon, pad⟩ := blank.colon
  have afterName : ∀ u, skipSpace (layout.colon ++ u) = (':' : CodePoint) :: (gap ++ u) := by
    intro u
    rw [colon]
    exact skipSpace_cons (by decide) _
  induction members generalizing entry fuel with
  | nil =>
    obtain ⟨fuel, rfl⟩ : ∃ n, fuel = n + 1 := ⟨fuel - 1, by omega⟩
    have ends := noNumber_members layout depth [] white rest
    have own := back entry List.mem_cons_self
    have head := own depth level fuel _ ends (by omega)
    rw [← own.skip pad depth ends] at head
    have named := readText_written (names entry List.mem_cons_self)
    refine (readMembers_last (named _) (afterName _) head ?_).weaken fun all =>
      all entry List.mem_cons_self
    exact skipSpace_blank white (by decide) rest
  | cons next members ih =>
    obtain ⟨fuel, rfl⟩ : ∃ n, fuel = n + 1 := ⟨fuel - 1, by omega⟩
    have named := readText_written (names entry List.mem_cons_self)
    have namedBehind : ∀ member ∈ next :: members, member.1.Joined := fun member known =>
      names member (List.mem_cons_of_mem entry known)
    have behind : ∀ member ∈ next :: members, ReadsBack layout member.2 := fun member known =>
      back member (List.mem_cons_of_mem entry known)
    have length : (writeMembers layout depth (next :: members)).length >
        (writeAt layout depth next.2).length + (writeMembers layout depth members).length := by
      simp [writeMembers]
      omega
    have ends := noNumber_members layout depth (next :: members) white rest
    have own := back entry List.mem_cons_self
    have head := own depth level fuel _ ends (by omega)
    rw [← own.skip pad depth ends] at head
    have room :
        (writeAt layout depth next.2).length + (writeMembers layout depth members).length < fuel := by
      omega
    have tail := ih namedBehind behind room
    rw [memberText, ← skipSpace_blank (blank.lineBreak depth) (by decide)] at tail
    refine (readMembers_more (named _) (afterName _) head ?_ tail).weaken ?_
    · rw [writeMembers_cons]
      exact skipSpace_cons (by decide) _
    · intro all
      exact ⟨all entry List.mem_cons_self, fun member known =>
        all member (List.mem_cons_of_mem entry known)⟩

theorem readScalar_text (joined : t.Joined) (rest : Text) :
    readScalar (writeText t ++ rest) = .ok (.str t, rest) := by
  have shape : writeText t ++ rest = ('"' : CodePoint) ::
      (t.flatMap escapedChar ++ ('"' : CodePoint) :: rest) := by
    simp [writeText]
  have none : ∀ entry ∈ words,
      Text.after? entry.1 ('"' :: (t.flatMap escapedChar ++ ('"' : CodePoint) :: rest)) = none := by
    simp [words, Text.after?]
  rw [shape, readScalar, findSome?_words none]
  simp only [readText_written joined, Outcome.map_ok]

theorem readScalar_written (proper : Proper value) (joined : Joined value) (ends : NoNumber rest)
    (scalar : ∀ items members, value ≠ .arr items ∧ value ≠ .obj members) (layout : Layout)
    (depth level : Nat) :
    Finds (Legible level value) (readScalar (writeAt layout depth value ++ rest))
      (value, rest) := by
  cases proper with
  | null => exact Finds.of_ok (by simp [writeAt, readScalar, words, Text.after?])
  | bool b => cases b <;> exact Finds.of_ok (by simp [writeAt, readScalar, words, Text.after?])
  | int n =>
    rw [writeAt, readScalar_int n ends]
    split
    · exact Finds.of_ok rfl
    · rename_i long
      refine Or.inr ⟨fun legible => ?_, _, rfl, by decide⟩
      cases legible with
      | int _ short => exact long short
  | finite negative normal => exact Finds.of_ok (readScalar_float negative normal ends _ _)
  | infinite negative =>
    cases negative <;>
      exact Finds.of_ok (by simp [writeAt, Binary64.write, readScalar, words, Text.after?])
  | nan => exact Finds.of_ok (by simp [writeAt, Binary64.write, readScalar, words, Text.after?])
  | str t =>
    exact Finds.of_ok (readScalar_text (joined_str.mp joined) rest)
  | arr each => exact absurd rfl (scalar _ []).1
  | obj distinct each => exact absurd rfl (scalar [] _).2

theorem readsBack_scalar (proper : Proper value) (joined : Joined value)
    (scalar : ∀ items members, value ≠ .arr items ∧ value ≠ .obj members) :
    ReadsBack layout value := by
  intro depth level fuel rest ends enough
  have nothing : NoNumber [] := ⟨by rintro c ⟨⟩, by simp, by simp⟩
  have sound := (readScalar_written proper joined nothing scalar layout depth 0).not_malformed
  have found := readScalar_written proper joined ends scalar layout depth level
  cases shape : writeAt layout depth value with
  | nil =>
    rw [shape] at sound
    exact absurd rfl sound
  | cons c text =>
    rw [shape] at sound found enough
    obtain ⟨fuel, rfl⟩ : ∃ n, fuel = n + 1 := ⟨fuel - 1, by simp at enough; omega⟩
    have opens : c ≠ '[' ∧ c ≠ '\x7b' := by
      constructor
      · rintro rfl
        exact sound (readScalar_other (by decide) (by decide) _)
      · rintro rfl
        exact sound (readScalar_other (by decide) (by decide) _)
    rw [readValue_scalar (by simpa using opens)]
    exact found

theorem readValue_items {c : CodePoint} {u : Text} (start : skipSpace t = c :: u) (item : c ≠ ']')
    (fuel level : Nat) :
    readValue (fuel + 1) (level + 1) ('[' :: t) =
      (readItems fuel level (skipSpace t)).map fun (items, r) => (.arr items, r) := by
  rw [readValue]
  split
  · rename_i close
    exact absurd (List.cons.inj (start.symm.trans close)).1 item
  · rfl

theorem readsBack_arr (blank : layout.Blank) (back : ∀ item ∈ items, ReadsBack layout item) :
    ReadsBack layout (.arr items) := by
  intro depth level fuel rest _ enough
  have some : 0 < (writeAt layout depth (.arr items)).length := by
    cases items <;> simp [writeAt]
  obtain ⟨fuel, rfl⟩ : ∃ n, fuel = n + 1 := ⟨fuel - 1, by omega⟩
  have deep : ¬ Legible 0 (.arr items) := by
    rintro ⟨⟩
  cases items with
  | nil =>
    cases level with
    | zero => exact Or.inr ⟨deep, .tooDeep, rfl, by decide⟩
    | succ level => exact Finds.of_ok rfl
  | cons item items =>
    have shape : writeAt layout depth (.arr (item :: items)) ++ rest =
        ('[' : CodePoint) :: (layout.lineBreak (depth + 1) ++ (writeAt layout (depth + 1) item ++
          (writeItems layout (depth + 1) items ++
            (layout.lineBreak depth ++ (']' : CodePoint) :: rest)))) := by
      simp [writeAt]
    rw [shape]
    cases level with
    | zero => exact Or.inr ⟨deep, .tooDeep, rfl, by decide⟩
    | succ level =>
      have white := blank.lineBreak depth
      have first := back item List.mem_cons_self
      have ends := noNumber_items layout (depth + 1) items white rest
      have skip := first.skip (blank.lineBreak (depth + 1)) (depth + 1) ends
      obtain ⟨c, u, start, _, apart⟩ := (first (depth + 1) level _ _ ends (Nat.le_refl _)).start
      have room : (writeAt layout (depth + 1) item).length +
          (writeItems layout (depth + 1) items).length < fuel := by
        simp [writeAt] at enough
        omega
      rw [readValue_items (skip.trans start) apart, skip]
      have found := (readItems_written level rest blank white back room).map fun (items, r) =>
        (Json.arr items, r)
      refine found.weaken ?_
      rintro (_ | _ | _ | _ | _ | each)
      exact each

theorem readValue_members {u : Text} (start : skipSpace t = ('"' : CodePoint) :: u) (fuel level : Nat) :
    readValue (fuel + 1) (level + 1) ('\x7b' :: t) =
      (readMembers fuel level (skipSpace t)).map fun (members, r) =>
        (.obj (Table.ofEntries members), r) := by
  rw [readValue]
  split
  · rename_i close
    exact absurd (List.cons.inj (start.symm.trans close)).1 (by decide)
  · rfl

theorem readsBack_obj (blank : layout.Blank) (distinct : (members.map Prod.fst).Nodup)
    (names : ∀ entry ∈ members, entry.1.Joined)
    (back : ∀ entry ∈ members, ReadsBack layout entry.2) : ReadsBack layout (.obj members) := by
  intro depth level fuel rest _ enough
  have some : 0 < (writeAt layout depth (.obj members)).length := by
    cases members <;> simp [writeAt]
  obtain ⟨fuel, rfl⟩ : ∃ n, fuel = n + 1 := ⟨fuel - 1, by omega⟩
  have deep : ¬ Legible 0 (.obj members) := by
    rintro ⟨⟩
  cases members with
  | nil =>
    cases level with
    | zero => exact Or.inr ⟨deep, .tooDeep, rfl, by decide⟩
    | succ level => exact Finds.of_ok rfl
  | cons entry members =>
    have shape : writeAt layout depth (.obj (entry :: members)) ++ rest =
        ('\x7b' : CodePoint) :: (layout.lineBreak (depth + 1) ++ memberText layout (depth + 1) entry
          (writeMembers layout (depth + 1) members ++
            (layout.lineBreak depth ++ ('\x7d' : CodePoint) :: rest))) := by
      simp [writeAt, memberText, writeText]
    rw [shape]
    cases level with
    | zero => exact Or.inr ⟨deep, .tooDeep, rfl, by decide⟩
    | succ level =>
      have white := blank.lineBreak depth
      have skip :
          ∀ u, skipSpace (layout.lineBreak (depth + 1) ++ memberText layout (depth + 1) entry u) =
          memberText layout (depth + 1) entry u := fun u =>
        skipSpace_blank (blank.lineBreak (depth + 1)) (by decide) _
      have room : (writeAt layout (depth + 1) entry.2).length +
          (writeMembers layout (depth + 1) members).length < fuel := by
        simp [writeAt] at enough
        omega
      rw [readValue_members (skip _), skip]
      have found := (readMembers_written level rest blank white names back room).map fun (members, r) =>
        (Json.obj (Table.ofEntries members), r)
      have same : Table.ofEntries (entry :: members) = entry :: members :=
        Table.ofEntries_distinct distinct
      dsimp only at found
      rw [same] at found
      refine found.weaken ?_
      rintro (_ | _ | _ | _ | _ | _ | each)
      exact each

/-- A written value is read as the same value. -/
theorem readsBack (blank : layout.Blank) (proper : Proper value) (joined : Joined value) :
    ReadsBack layout value := by
  induction proper with
  | null => exact readsBack_scalar .null joined (by simp)
  | bool b => exact readsBack_scalar (.bool b) joined (by simp)
  | int n => exact readsBack_scalar (.int n) joined (by simp)
  | finite negative normal => exact readsBack_scalar (.finite negative normal) joined (by simp)
  | infinite negative => exact readsBack_scalar (.infinite negative) joined (by simp)
  | nan => exact readsBack_scalar .nan joined (by simp)
  | str t => exact readsBack_scalar (.str t) joined (by simp)
  | arr _ ih => exact readsBack_arr blank fun item member => ih item member (joined_arr.mp joined item member)
  | obj distinct _ ih =>
    have each := joined_obj.mp joined
    exact readsBack_obj blank distinct (fun entry member => (each entry member).1)
      fun entry member => ih entry member (each entry member).2

/-- A file holds what was written to it. -/
theorem read_indented (limit : Nat) (proper : Proper value) (joined : Joined value) :
    Finds (Legible limit value) (read limit value.indented) value := by
  have ends : NoNumber [] := ⟨by rintro c ⟨⟩, by simp, by simp⟩
  have found := readsBack blank_indentedLayout proper joined 0 limit (value.indented.length + 1) [] ends
    (Nat.le_succ _)
  rw [List.append_nil] at found
  obtain ⟨c, u, shape, visible, _⟩ := found.start
  have skip : skipSpace value.indented = value.indented := by
    rw [indented, shape]
    exact skipSpace_cons visible u
  have whole :
      read limit value.indented =
        readValue (value.indented.length + 1) limit (skipSpace value.indented) >>=
      fun (value, r) => if (skipSpace r).isEmpty then pure value else throw .malformed := rfl
  rw [whole, skip]
  exact found.bind_ok rfl

theorem read_indented_ok (proper : Proper value) (joined : Joined value)
    (legible : Legible limit value) :
    read limit value.indented = .ok value :=
  (read_indented limit proper joined).resolve_right fun large => large.1 legible

end LabEditor.Json
