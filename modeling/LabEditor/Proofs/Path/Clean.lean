import LabEditor.Path.Clean
import LabEditor.Proofs.Path.Normal
import LabEditor.Proofs.Store.Calls
import LabEditor.Proofs.Text.Ascii
import Mathlib

/-! What cleaning leaves of a typed path: names in safe characters, one for each segment that was
typed. Neither a second cleaning nor normalizing finds anything to change in them, so a record gets
the very path that came out. -/
namespace LabEditor

namespace Text
variable {s t : Text} {p : CodePoint → Bool}

theorem toAscii_ascii (ascii : IsAscii t) : toAscii t = t := by
  have each : ∀ c ∈ t, asciiPart c = [c] := fun c member => if_pos (ascii c member)
  rw [toAscii, List.flatMap_congr each, List.flatMap_singleton']
  exact List.filter_eq_self.mpr fun c member => decide_eq_true (ascii c member)

theorem words_blank (blank : isBlank c = true) (t : Text) : words (c :: t) = words t :=
  if_pos blank

theorem words_last (visible : isBlank c = false) : words [c] = [[c]] :=
  if_neg (Bool.eq_false_iff.mp visible)

theorem words_end (visible : isBlank c = false) (blank : isBlank d = true) (t : Text) :
    words (c :: d :: t) = [c] :: words (d :: t) :=
  (if_neg (Bool.eq_false_iff.mp visible)).trans (if_pos blank)

theorem words_inside (visible : isBlank c = false) (next : isBlank d = false)
    (word : words (d :: t) = w :: ws) : words (c :: d :: t) = (c :: w) :: ws := by
  refine (if_neg (Bool.eq_false_iff.mp visible)).trans
    ((if_neg (Bool.eq_false_iff.mp next)).trans ?_)
  rw [word]

/-- Only white space is lost when a text is taken apart into words. -/
theorem flatten_words (t : Text) : (words t).flatten = t.filter fun c => !isBlank c := by
  induction t with
  | nil => rfl
  | cons c t ih =>
    cases first : isBlank c with
    | true => rw [words_blank first, ih, List.filter_cons_of_neg (by simp [first])]
    | false =>
      rw [List.filter_cons_of_pos (by simp [first]), ← ih]
      cases t with
      | nil =>
        rw [words_last first]
        rfl
      | cons d t =>
        cases second : isBlank d with
        | true =>
          rw [words_end first second]
          rfl
        | false =>
          -- The word of `d` is there, and `c` is put in front of it.
          cases more : words (d :: t) with
          | nil => simp [more, second] at ih
          | cons word others =>
            rw [words_inside first second more]
            rfl

theorem words_visible (some : t ≠ []) (visible : ∀ c ∈ t, isBlank c = false) : words t = [t] := by
  induction t with
  | nil => contradiction
  | cons c t ih =>
    obtain ⟨first, others⟩ := List.forall_mem_cons.mp visible
    cases t with
    | nil => exact words_last first
    | cons d t =>
      exact words_inside first (others d List.mem_cons_self) (ih (List.cons_ne_nil d t) others)

end Text

namespace Path
variable {typed path segment : Text} {parts : List Text}

/-- What cleaning takes off the ends of a segment. -/
def isEdge (c : CodePoint) : Bool :=
  c == '.' || c == '_'

theorem isEdge_iff {c : CodePoint} : isEdge c = false ↔ c ≠ '.' ∧ c ≠ '_' := by
  simp [isEdge]

/-- What every segment of a cleaned path is: a name in safe characters with a letter, a digit or a
hyphen at either end. -/
structure IsName (segment : Text) : Prop where
  some : segment ≠ []
  safe : ∀ c ∈ segment, c.isAlphanum = true ∨ c = '_' ∨ c = '.' ∨ c = '-'
  opens : ∀ c ∈ segment.head?, c ≠ '.' ∧ c ≠ '_'
  closes : ∀ c ∈ segment.getLast?, c ≠ '.' ∧ c ≠ '_'

theorem alphanum_bounds {c : CodePoint} (letter : c.isAlphanum = true) :
    48 ≤ c.toNat ∧ c.toNat ≤ 122 := by
  simp only [CodePoint.isAlphanum, CodePoint.isAlpha, CodePoint.isUpper, CodePoint.isLower, CodePoint.isDigit,
    Bool.or_eq_true, Bool.and_eq_true, decide_eq_true_eq] at letter
  omega

theorem isSafe_iff {c : CodePoint} :
    isSafe c = true ↔ c.isAlphanum = true ∨ c = '_' ∨ c = '.' ∨ c = '-' := by
  have ascii (kept : c.isAlphanum = true ∨ c = '_' ∨ c = '.' ∨ c = '-') : c.toNat < 0x80 := by
    rcases kept with letter | rfl | rfl | rfl
    · have bounds := alphanum_bounds letter
      omega
    · decide
    · decide
    · decide
  simp only [isSafe, Bool.and_eq_true, Bool.or_eq_true, decide_eq_true_eq, beq_iff_eq, or_assoc]
  exact and_iff_right_of_imp ascii

theorem isSafe_ascii {c : CodePoint} (safe : isSafe c = true) : c.toNat < 0x80 := by
  rw [isSafe, Bool.and_eq_true, decide_eq_true_eq] at safe
  exact safe.1

theorem isSafe_visible {c : CodePoint} (safe : isSafe c = true) : Text.isBlank c = false := by
  rcases isSafe_iff.mp safe with letter | rfl | rfl | rfl
  · have bounds := alphanum_bounds letter
    simp only [Text.isBlank, Bool.or_eq_false_iff, Bool.and_eq_false_iff, decide_eq_false_iff_not,
      beq_eq_false_iff_ne]
    omega
  · decide
  · decide
  · decide

/-- The safe characters of a segment, with its words set apart by low lines. -/
def spell (segment : Text) : Text :=
  let spaced : Text := (Text.toAscii segment).map fun (c : CodePoint) => if c = '/' then ' ' else c
  (Text.glue '_' (Text.words spaced)).filter isSafe

theorem cleanSegment_eq (segment : Text) :
    cleanSegment segment = Text.dropEndWhile isEdge ((spell segment).dropWhile isEdge) := rfl

theorem isSafe_of_mem_spell (member : c ∈ spell segment) : isSafe c = true :=
  (List.mem_filter.mp member).2

/-- Of what is in a segment only low lines can be new. -/
theorem mem_spell {c : CodePoint} (apart : c ≠ '_') :
    c ∈ spell segment ↔ c ∈ Text.toAscii segment ∧ isSafe c = true := by
  have inWords (t : Text) : c ∈ Text.glue '_' (Text.words t) ↔ c ∈ (Text.words t).flatten := by
    rw [List.mem_flatten]
    exact ⟨fun inside => (Text.mem_of_mem_glue inside).resolve_left apart,
      fun ⟨word, known, inside⟩ => Text.mem_glue_of_mem known inside⟩
  rw [spell, List.mem_filter, inWords, Text.flatten_words, List.mem_filter, and_assoc]
  constructor
  · rintro ⟨spaced, _, safe⟩
    obtain ⟨d, inside, same⟩ := List.mem_map.mp spaced
    refine ⟨?_, safe⟩
    split at same
    · subst same
      contradiction
    · exact same ▸ inside
  · rintro ⟨inside, safe⟩
    refine ⟨List.mem_map.mpr ⟨c, inside, if_neg ?_⟩, ?_, safe⟩
    · rintro rfl
      contradiction
    · rw [isSafe_visible safe, Bool.not_false]

theorem isName_cleanSegment (some : cleanSegment segment ≠ []) : IsName (cleanSegment segment) := by
  have front : cleanSegment segment <+: (spell segment).dropWhile isEdge :=
    Text.dropEndWhile_isPrefix isEdge _
  refine ⟨some, fun c member => ?_, fun c first => ?_, fun c last => ?_⟩
  · have inside := (List.dropWhile_suffix isEdge).subset (front.subset member)
    exact isSafe_iff.mp (isSafe_of_mem_spell inside)
  · obtain ⟨rest, same⟩ := front
    have head := List.head?_dropWhile_not isEdge (spell segment)
    rw [← same, List.head?_append_of_ne_nil _ some, Option.mem_def.mp first] at head
    exact isEdge_iff.mp (by simpa using head)
  · exact isEdge_iff.mp (Text.dropEndWhile_eq_self_iff.mp (Text.dropEndWhile_idempotent isEdge _) c last)

/-- A name has nothing to be cleaned. -/
theorem IsName.cleanSegment (name : IsName segment) : cleanSegment segment = segment := by
  have safe : ∀ c ∈ segment, isSafe c = true := fun c member => isSafe_iff.mpr (name.safe c member)
  have spaced : (segment.map fun (c : CodePoint) => if c = '/' then (' ' : CodePoint) else c) = segment := by
    refine (List.map_congr_left fun c member => if_neg ?_).trans (List.map_id segment)
    rintro rfl
    exact absurd (safe _ member) (by decide)
  have spelled : spell segment = segment := by
    rw [spell, Text.toAscii_ascii fun c member => isSafe_ascii (safe c member), spaced,
      Text.words_visible name.some fun c member => isSafe_visible (safe c member)]
    exact List.filter_eq_self.mpr safe
  have opened : segment.dropWhile isEdge = segment := by
    obtain ⟨c, rest, rfl⟩ := List.exists_cons_of_ne_nil name.some
    exact List.dropWhile_cons_of_neg (Bool.eq_false_iff.mp (isEdge_iff.mpr (name.opens c rfl)))
  rw [cleanSegment_eq, spelled, opened]
  exact Text.dropEndWhile_eq_self_iff.mpr fun c last => isEdge_iff.mpr (name.closes c last)

theorem IsName.valid (name : IsName segment) : IsSegment segment := by
  refine ⟨name.some, fun inside => ?_⟩
  exact absurd (name.safe separator inside) (by decide)

theorem IsName.plain (name : IsName segment) : isDots segment = false := by
  obtain ⟨c, rest, rfl⟩ := List.exists_cons_of_ne_nil name.some
  have apart := (name.opens c rfl).1
  simp [isDots, apart]

/-- The segments of a typed path, where backslashes separate too. -/
def typedSegments (typed : Text) : List Text :=
  segments (typed.map fun (c : CodePoint) => if c = '\\' then separator else c)

/-- Why a typed path cannot be cleaned: it has no segments, or one is cleaned to nothing. -/
def Unclean (typed : Text) : Prop :=
  typedSegments typed = [] ∨ ∃ segment ∈ typedSegments typed, cleanSegment segment = []

theorem clean_eq (typed : Text) : clean typed =
    if ((typedSegments typed).map cleanSegment).isEmpty ||
        ((typedSegments typed).map cleanSegment).any (·.isEmpty) then .error (.invalidPath typed)
    else .ok (ofSegments ((typedSegments typed).map cleanSegment)) := rfl

theorem unclean_iff : Unclean typed ↔ (((typedSegments typed).map cleanSegment).isEmpty ||
    ((typedSegments typed).map cleanSegment).any (·.isEmpty)) = true := by
  simp [Unclean]

theorem clean_refused (unclean : Unclean typed) : clean typed = .error (.invalidPath typed) := by
  rw [clean_eq, if_pos (unclean_iff.mp unclean)]

theorem clean_ok (cleanable : ¬ Unclean typed) :
    clean typed = .ok (ofSegments ((typedSegments typed).map cleanSegment)) := by
  rw [clean_eq, if_neg (unclean_iff.not.mp cleanable)]

theorem names_of_cleanable (cleanable : ¬ Unclean typed) :
    ∀ segment ∈ (typedSegments typed).map cleanSegment, IsName segment := by
  intro segment member
  obtain ⟨part, typed, rfl⟩ := List.mem_map.mp member
  exact isName_cleanSegment fun gone => cleanable (Or.inr ⟨part, typed, gone⟩)

theorem mem_names (names : ∀ segment ∈ parts, IsName segment) (member : c ∈ ofSegments parts) :
    c = separator ∨ isSafe c = true := by
  rcases Text.mem_of_mem_glue member with same | ⟨segment, known, inside⟩
  · exact Or.inl same
  · exact Or.inr (isSafe_iff.mpr ((names segment known).safe c inside))

theorem slashes_names (names : ∀ segment ∈ parts, IsName segment) :
    ('\\' : CodePoint) ∉ ofSegments parts := by
  intro member
  rcases mem_names names member with same | safe
  · exact absurd same (by decide)
  · exact absurd safe (by decide)

theorem visible_names (names : ∀ segment ∈ parts, IsName segment) :
    ∀ c ∈ ofSegments parts, Text.isBlank c = false := by
  intro c member
  rcases mem_names names member with rfl | safe
  · decide
  · exact isSafe_visible safe

theorem typedSegments_names (names : ∀ segment ∈ parts, IsName segment) :
    typedSegments (ofSegments parts) = parts := by
  have same : (ofSegments parts).map (fun (c : CodePoint) => if c = '\\' then separator else c) =
      ofSegments parts := by
    refine (List.map_congr_left fun c member => if_neg ?_).trans (List.map_id _)
    rintro rfl
    exact slashes_names names member
  rw [typedSegments, same]
  exact segments_ofSegments fun segment member => (names segment member).valid

theorem normalize_names (some : parts ≠ []) (names : ∀ segment ∈ parts, IsName segment) :
    normalize (ofSegments parts) = ofSegments parts := by
  have place := place_ofSegments some fun segment member =>
    ⟨(names segment member).valid, (names segment member).plain⟩
  have visible := visible_names names
  exact (normalize_eq_self_iff place).mpr ⟨slashes_names names,
    fun c first => visible c (List.mem_of_mem_head? first),
    fun c last => visible c (List.mem_of_mem_getLast? last)⟩

theorem clean_names (some : parts ≠ []) (names : ∀ segment ∈ parts, IsName segment) :
    clean (ofSegments parts) = .ok (ofSegments parts) := by
  have again : parts.map cleanSegment = parts :=
    (List.map_congr_left fun segment member => (names segment member).cleanSegment).trans
      (List.map_id parts)
  have cleanable : ¬ Unclean (ofSegments parts) := by
    rw [Unclean, typedSegments_names names, not_or]
    refine ⟨some, ?_⟩
    rintro ⟨segment, member, gone⟩
    rw [(names segment member).cleanSegment] at gone
    exact (names segment member).some gone
  rw [clean_ok cleanable, typedSegments_names names, again]

/-- A typed path is refused if it cannot be cleaned. Any other becomes a path of names, one for each
typed segment, that stays as it is when it is cleaned or normalized again, and under which a record
is put that is made there. -/
theorem clean_fixed (typed : Text) :
    (Unclean typed ∧ ∃ refusal, clean typed = .error refusal ∧ refusal.kind = .invalidName) ∨
      ¬ Unclean typed ∧ ∃ path, clean typed = .ok path ∧
        Text.cut separator path = (typedSegments typed).map cleanSegment ∧
        (∀ segment ∈ Text.cut separator path, IsName segment) ∧
        clean path = .ok path ∧ normalize path = path ∧
        ∀ (store : Store) (isDirectory : Bool) (content : Json) (next : Store) (record : Record),
          store.create path isDirectory content = .ok (next, record) →
            record.path = path ∧ next.files = store.files ++ [(path, record)] := by
  by_cases unclean : Unclean typed
  · exact Or.inl ⟨unclean, _, clean_refused unclean, rfl⟩
  · have names := names_of_cleanable unclean
    have some : (typedSegments typed).map cleanSegment ≠ [] := by
      rw [Ne, List.map_eq_nil_iff]
      exact fun none => unclean (Or.inl none)
    have cut : Text.cut separator (ofSegments ((typedSegments typed).map cleanSegment)) =
        (typedSegments typed).map cleanSegment :=
      Text.cut_glue (fun segment member => (names segment member).valid.2) some
    have kept := normalize_names some names
    have again := clean_names some names
    refine Or.inr ⟨unclean, _, clean_ok unclean, cut, cut.symm ▸ names, again, kept, ?_⟩
    intro store isDirectory content next record made
    obtain ⟨_, absent, rfl, rfl⟩ := Store.create_ok made
    rw [kept] at absent
    refine ⟨kept, ?_⟩
    rw [kept]
    exact Table.put_new absent

theorem clean_fixed_accents : clean "\\Étape 1//_notes.md" = .ok "Etape_1/notes.md" ∧
    clean "Etape_1/notes.md" = .ok "Etape_1/notes.md" ∧
    normalize "Etape_1/notes.md" = "Etape_1/notes.md" ∧
    ∃ next record, Store.empty.create "Etape_1/notes.md" false (.str []) = .ok (next, record) ∧
      record.path = "Etape_1/notes.md" ∧ next.files = [(("Etape_1/notes.md" : Text), record)] := by
  have typed : clean "\\Étape 1//_notes.md" = .ok "Etape_1/notes.md" := rfl
  obtain ⟨next, record, made⟩ : ∃ next record,
      Store.empty.create "Etape_1/notes.md" false (.str []) = .ok (next, record) := ⟨_, _, rfl⟩
  obtain ⟨_, _, refused, _⟩ | ⟨_, path, cleaned, _, _, again, kept, stored⟩ :=
    clean_fixed "\\Étape 1//_notes.md"
  · rw [typed] at refused
    contradiction
  · cases Except.ok.inj (typed.symm.trans cleaned)
    exact ⟨typed, again, kept, next, record, made, stored _ _ _ _ _ made⟩

end Path
end LabEditor
