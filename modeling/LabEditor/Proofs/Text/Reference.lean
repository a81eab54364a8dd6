import LabEditor.Proofs.Text.Entity
import LabEditor.Proofs.Text.Splitting
import Mathlib.Data.List.TakeWhile

/-! Character references against their grammar: an ampersand begins the longest reference that it can,
and a text with too long a decimal number is the only one that is not read. -/
namespace LabEditor.Text

/-- A numeric reference behind its ampersand, without a semicolon, and its number. -/
inductive Numeric : Text → Nat → Prop where
  | decimal {run : Text} : run ≠ [] → (∀ c ∈ run, CodePoint.isDigit c = true) →
      Numeric ('#' :: run) (numberOf run)
  | hexadecimal {x : CodePoint} {run : Text} : x = 'x' ∨ x = 'X' → run ≠ [] →
      (∀ c ∈ run, (hexValue? c).isSome = true) → Numeric ('#' :: x :: run) (hexNumber run)

/-- What may stand at the end of a numeric reference. -/
def Stop (t : Text) : Prop :=
  t = [] ∨ t = ([';'] : Text)

/-- A reference behind its ampersand, and the characters that it stands for. -/
inductive Spells : Text → Text → Prop where
  | named : entity? name = some value → Spells name value
  | number : Numeric t n → Stop stop → Spells (t ++ stop) (numericReference n)

/-- A reference at the front of a text, with no longer one there. -/
structure Longest (t written value : Text) : Prop where
  spelling : Spells written value
  front : written <+: t
  longest : ∀ other value, Spells other value → other <+: t → other.length ≤ written.length

/-- The decimal number of a reference is not too long to be read. -/
def Short (written : Text) : Prop :=
  ∀ run : Text, (∀ c ∈ run, CodePoint.isDigit c = true) → ('#' : CodePoint) :: run <+: written →
    run.length ≤ maxDigits

/-- HTML without tags, and the text that it stands for. -/
inductive Reads : Text → Text → Prop where
  | nil : Reads [] []
  | plain {c : CodePoint} {t u : Text} : c ≠ '&' → Reads t u → Reads (c :: t) (c :: u)
  | ampersand : (∀ written value, Spells written value → ¬ written <+: t) → Reads t u →
      Reads ('&' :: t) ('&' :: u)
  | reference : Longest (written ++ t) written value → Short written → Reads t u →
      Reads ('&' :: (written ++ t)) (value ++ u)

variable {run : Text}

/-! A spelling stands for one text. -/

theorem Numeric.unique (first : Numeric t m) (second : Numeric t n) : m = n := by
  cases first with
  | decimal _ digits =>
    cases second with
    | decimal => rfl
    | hexadecimal sign =>
      have digit := digits _ List.mem_cons_self
      rcases sign with rfl | rfl <;> contradiction
  | hexadecimal sign =>
    cases second with
    | decimal _ digits =>
      have digit := digits _ List.mem_cons_self
      rcases sign with rfl | rfl <;> contradiction
    | hexadecimal => rfl

theorem Numeric.free (number : Numeric t n) : (';' : CodePoint) ∉ t := by
  intro member
  cases number with
  | decimal _ digits =>
    rcases List.mem_cons.mp member with same | inside
    · contradiction
    · exact absurd (digits _ inside) (by decide)
  | hexadecimal sign _ digits =>
    rcases List.mem_cons.mp member with same | inside
    · contradiction
    · rcases List.mem_cons.mp inside with rfl | inside
      · rcases sign with same | same <;> contradiction
      · exact absurd (digits _ inside) (by decide)

theorem Numeric.begins (number : Numeric t n) : ∃ u, t = ('#' : CodePoint) :: u := by
  cases number with
  | decimal => exact ⟨_, rfl⟩
  | hexadecimal => exact ⟨_, rfl⟩

theorem Numeric.unnamed (number : Numeric t n) (rest : Text) : entity? (t ++ rest) = none := by
  obtain ⟨_, rfl⟩ := number.begins
  rfl

/-- A number sign begins no name, and a semicolon ends a number. -/
theorem Numeric.unique_of_append (first : Numeric s m) (second : Numeric t n) (stop : Stop u)
    (other : Stop v) (same : s ++ u = t ++ v) : m = n := by
  have equal : s = t := by
    rcases stop with rfl | rfl <;> rcases other with rfl | rfl
    · simpa using same
    · rw [List.append_nil] at same
      exact absurd (same ▸ List.mem_append_right t List.mem_cons_self) first.free
    · rw [List.append_nil] at same
      exact absurd (same ▸ List.mem_append_right s List.mem_cons_self) second.free
    · exact List.append_cancel_right same
  subst equal
  exact first.unique second

theorem Spells.unique (first : Spells t u) (second : Spells t v) : u = v := by
  generalize written : t = w at second
  cases first with
  | named known =>
    cases second with
    | named other => exact Option.some.inj (known.symm.trans (written ▸ other))
    | number number =>
      rw [written, number.unnamed] at known
      contradiction
  | number number stop =>
    cases second with
    | named known =>
      rw [← written, number.unnamed] at known
      contradiction
    | number other last => rw [number.unique_of_append other stop last written]

theorem Longest.unique (first : Longest t written u) (second : Longest t other v) :
    written = other ∧ u = v := by
  have same : written = other :=
    (List.prefix_of_prefix_length_le first.front second.front
      (second.longest _ _ first.spelling first.front)).eq_of_length_le
        (first.longest _ _ second.spelling second.front)
  subst same
  exact ⟨rfl, first.spelling.unique second.spelling⟩

/-! What is found behind an ampersand is the longest reference. -/

theorem length_le_takeWhile {run : Text} (all : ∀ c ∈ run, p c = true) (front : run <+: t) :
    run.length ≤ (t.takeWhile p).length := by
  obtain ⟨rest, rfl⟩ := front
  rw [List.takeWhile_append_of_pos all, List.length_append]
  exact Nat.le_add_right _ _

/-- A run at the front of a text, and the semicolon that may follow it. -/
theorem exists_stop (p : CodePoint → Bool) (apart : p ';' = false) (t : Text) :
    ∃ stop, Stop stop ∧
      t = t.takeWhile p ++ stop ++ afterSemicolon (t.drop (t.takeWhile p).length) ∧
      ∀ run other : Text, (∀ c ∈ run, p c = true) → Stop other → run ++ other <+: t →
        (run ++ other).length ≤ (t.takeWhile p ++ stop).length := by
  have whole := List.prefix_iff_eq_append.mp (List.takeWhile_prefix (l := t) p)
  generalize t.drop (t.takeWhile p).length = behind at whole ⊢
  by_cases semicolon : ∃ rest, behind = (';' : CodePoint) :: rest
  · obtain ⟨rest, rfl⟩ := semicolon
    refine ⟨[';'], .inr rfl, ?_, fun run other all stop front => ?_⟩
    · rw [afterSemicolon, List.append_assoc]
      exact whole.symm
    · have bound := length_le_takeWhile all ((List.prefix_append run _).trans front)
      rw [List.length_append, List.length_append]
      refine Nat.add_le_add bound ?_
      rcases stop with rfl | rfl
      · exact Nat.zero_le _
      · exact le_rfl
  · refine ⟨[], .inl rfl, ?_, fun run other all stop front => ?_⟩
    · rw [afterSemicolon.eq_2 behind fun rest same => semicolon ⟨rest, same⟩, List.append_nil, whole]
    · rw [List.append_nil]
      rcases stop with rfl | rfl
      · rw [List.append_nil] at front ⊢
        exact length_le_takeWhile all front
      · obtain ⟨rest, shape⟩ := front
        have run_eq : t.takeWhile p = run := by
          rw [← shape, List.append_assoc, List.takeWhile_append_of_pos all, List.singleton_append,
            List.takeWhile_cons_of_neg (by simp [apart]), List.append_nil]
        rw [run_eq, ← shape, List.append_assoc] at whole
        exact absurd ⟨rest, List.append_cancel_left whole⟩ semicolon

theorem takeWhile_ne_nil {p : CodePoint → Bool} (some : run ≠ []) (all : ∀ c ∈ run, p c = true)
    (front : run ++ stop <+: t) : t.takeWhile p ≠ [] := by
  obtain ⟨rest, rfl⟩ := front
  rw [List.append_assoc, List.takeWhile_append_of_pos all]
  exact List.append_ne_nil_of_left_ne_nil some _

theorem entity?_some_iff : (∃ value, entity? (c :: t) = some value) ↔
    ∃ name value, (name, value) ∈ entities c ∧ (name : Text) = c :: t := by
  rw [← Option.isSome_iff_exists, entity?, Option.isSome_map, List.find?_isSome]
  simp

theorem longestName_known (some : longestName t names ≠ []) :
    longestName t names <+: t ∧ ∃ name value, (name, value) ∈ names ∧ longestName t names = name := by
  induction names with
  | nil => contradiction
  | cons entry others ih =>
    rw [longestName] at some ⊢
    split
    · rename_i chosen
      rw [Bool.and_eq_true] at chosen
      exact ⟨startsWith_iff.mp chosen.1, _, _, List.mem_cons_self, rfl⟩
    · rename_i passed
      rw [if_neg passed] at some
      obtain ⟨front, name, value, member, same⟩ := ih some
      exact ⟨front, name, value, List.mem_cons_of_mem _ member, same⟩

theorem length_le_longestName {name value : String} (member : (name, value) ∈ names)
    (front : (name : Text) <+: t) : (name : Text).length ≤ (longestName t names).length := by
  induction names with
  | nil => cases member
  | cons entry others ih =>
    rw [longestName]
    split
    · rename_i chosen
      rw [Bool.and_eq_true, decide_eq_true_eq] at chosen
      rcases List.mem_cons.mp member with rfl | member
      · exact le_rfl
      · exact (ih member).trans chosen.2.le
    · rename_i passed
      rcases List.mem_cons.mp member with rfl | member
      · rw [startsWith_iff.mpr front, Bool.true_and, decide_eq_true_eq, not_lt] at passed
        exact passed
      · exact ih member

/-- What a reference that was looked for is to be. -/
def Reference.Sound (t : Text) : Reference → Prop
  | .read value rest => ∃ written, t = written ++ rest ∧ Longest t written value ∧ Short written
  | .tooLong =>
    ∃ run : Text, (∀ c ∈ run, c.isDigit = true) ∧ ('#' : CodePoint) :: run <+: t ∧ maxDigits < run.length
  | .none => ∀ written value, Spells written value → ¬ written <+: t

theorem Spells.begins (spelled : Spells t value) :
    (∃ c u, t = c :: u ∧ ∃ name value, (name, value) ∈ entities c ∧ (name : Text) = c :: u) ∨
      ∃ u, t = ('#' : CodePoint) :: u := by
  cases spelled with
  | named known =>
    rcases t with _ | ⟨c, t⟩
    · contradiction
    · exact .inl ⟨c, t, rfl, entity?_some_iff.mp ⟨_, known⟩⟩
  | number number =>
    obtain ⟨u, rfl⟩ := number.begins
    exact .inr ⟨_, rfl⟩

/-- A reference behind a number sign is a number in one of two forms. -/
theorem Spells.numbered (spelled : Spells other value) (front : other <+: '#' :: t) :
    ∃ run stop, Stop stop ∧ run ≠ [] ∧
      (other = ('#' : CodePoint) :: (run ++ stop) ∧ (∀ c ∈ run, CodePoint.isDigit c = true) ∧
        run ++ stop <+: t ∨
        ∃ x : CodePoint, other = ('#' : CodePoint) :: x :: (run ++ stop) ∧ (x = 'x' ∨ x = 'X') ∧
          (∀ c ∈ run, (hexValue? c).isSome = true) ∧ x :: (run ++ stop) <+: t) := by
  cases spelled with
  | named known =>
    rcases other with _ | ⟨c, other⟩
    · contradiction
    · obtain ⟨rfl, _⟩ := List.cons_prefix_cons.mp front
      contradiction
  | number number stop =>
    cases number with
    | decimal some all =>
      exact ⟨_, _, stop, some, .inl ⟨rfl, all, (List.cons_prefix_cons.mp front).2⟩⟩
    | hexadecimal sign some all =>
      exact ⟨_, _, stop, some, .inr ⟨_, rfl, sign, all, (List.cons_prefix_cons.mp front).2⟩⟩

theorem Reference.sound_decimal (some : t.takeWhile CodePoint.isDigit ≠ [])
    (few : (t.takeWhile CodePoint.isDigit).length ≤ maxDigits) :
    Sound ('#' :: t) (.read (numericReference (numberOf (t.takeWhile CodePoint.isDigit)))
      (afterSemicolon (t.drop (t.takeWhile CodePoint.isDigit).length))) := by
  obtain ⟨stop, ends, whole, longest⟩ := exists_stop CodePoint.isDigit rfl t
  have digits : ∀ c ∈ t.takeWhile CodePoint.isDigit, CodePoint.isDigit c = true :=
    fun c member => List.mem_takeWhile_imp member
  refine ⟨('#' : CodePoint) :: t.takeWhile CodePoint.isDigit ++ stop, congrArg (('#' : CodePoint) :: ·) whole,
    ⟨.number (.decimal some digits) ends, List.cons_prefix_cons.mpr ⟨rfl, _, whole.symm⟩, ?_⟩, ?_⟩
  · intro other value spelled front
    obtain ⟨run, last, ends, _, form⟩ := spelled.numbered front
    rcases form with ⟨rfl, all, front⟩ | ⟨x, rfl, sign, _, front⟩
    · exact Nat.succ_le_succ (longest run last all ends front)
    · obtain ⟨rest, rfl⟩ := front
      rcases sign with rfl | rfl <;> contradiction
  · intro run all front
    have inside : run <+: t := (List.cons_prefix_cons.mp front).2.trans ⟨_, whole.symm⟩
    exact (length_le_takeWhile all inside).trans few

theorem Reference.sound_hexadecimal {x : CodePoint} (sign : x = 'x' ∨ x = 'X')
    (some : t.takeWhile (fun c => (hexValue? c).isSome) ≠ []) :
    let run := t.takeWhile fun c => (hexValue? c).isSome
    Sound ('#' :: x :: t)
      (.read (numericReference (hexNumber run)) (afterSemicolon (t.drop run.length))) := by
  intro run
  have letter : x.isDigit = false := by
    rcases sign with rfl | rfl <;> rfl
  obtain ⟨stop, ends, whole, longest⟩ := exists_stop (fun c => (hexValue? c).isSome) rfl t
  have digits : ∀ c ∈ run, (hexValue? c).isSome = true :=
    fun c member => List.mem_takeWhile_imp (p := fun c => (hexValue? c).isSome) member
  refine ⟨('#' : CodePoint) :: x :: run ++ stop, congrArg (('#' : CodePoint) :: x :: ·) whole,
    ⟨.number (.hexadecimal sign some digits) ends,
      List.cons_prefix_cons.mpr ⟨rfl, List.cons_prefix_cons.mpr ⟨rfl, _, whole.symm⟩⟩, ?_⟩, ?_⟩
  · intro other value spelled front
    obtain ⟨run, last, ends, some, form⟩ := spelled.numbered front
    rcases form with ⟨rfl, all, front⟩ | ⟨y, rfl, _, all, front⟩
    · obtain ⟨c, run, rfl⟩ := List.exists_cons_of_ne_nil some
      obtain ⟨rfl, _⟩ := List.cons_prefix_cons.mp front
      rw [all c List.mem_cons_self] at letter
      contradiction
    · exact Nat.add_le_add_right (longest run last all ends (List.cons_prefix_cons.mp front).2) 2
  · rintro (_ | ⟨c, run⟩) all front
    · exact Nat.zero_le _
    · obtain ⟨rfl, _⟩ := List.cons_prefix_cons.mp (List.cons_prefix_cons.mp front).2
      rw [all c List.mem_cons_self] at letter
      contradiction

theorem Reference.sound_numbered (t : Text) : Sound ('#' :: t) (.numbered t) := by
  unfold numbered
  dsimp only
  split
  · rename_i empty
    rw [List.isEmpty_iff] at empty
    -- Without decimal digits only the hexadecimal form is left.
    have form {other value : Text} (spelled : Spells other value) (front : other <+: '#' :: t) :
        ∃ x u, t = x :: u ∧ (x = 'x' ∨ x = 'X') ∧ u.takeWhile (fun c => (hexValue? c).isSome) ≠ [] := by
      obtain ⟨run, stop, _, some, form⟩ := spelled.numbered front
      rcases form with ⟨_, all, front⟩ | ⟨x, _, sign, all, rest, rfl⟩
      · exact absurd empty (takeWhile_ne_nil some all front)
      · exact ⟨x, _, rfl, sign, takeWhile_ne_nil some all (List.prefix_append _ rest)⟩
    split
    · rename_i x u
      split
      · rename_i signed
        simp only [Bool.and_eq_true, Bool.or_eq_true, beq_iff_eq, Bool.not_eq_true',
          List.isEmpty_eq_false_iff] at signed
        exact sound_hexadecimal signed.1 signed.2
      · rename_i unsigned
        intro written value spelled front
        obtain ⟨y, v, same, sign, some⟩ := form spelled front
        cases same
        refine unsigned ?_
        simp only [Bool.and_eq_true, Bool.or_eq_true, beq_iff_eq, Bool.not_eq_true',
          List.isEmpty_eq_false_iff]
        exact ⟨sign, some⟩
    · intro written value spelled front
      obtain ⟨_, _, same, _⟩ := form spelled front
      contradiction
  · rename_i some
    rw [List.isEmpty_iff] at some
    rw [number?]
    split
    · rename_i n read
      split at read <;> cases read
      rename_i few
      exact sound_decimal some few
    · rename_i read
      split at read
      · contradiction
      · rename_i long
        exact ⟨t.takeWhile CodePoint.isDigit, fun c member => List.mem_takeWhile_imp member,
          List.cons_prefix_cons.mpr ⟨rfl, List.takeWhile_prefix _⟩, not_le.mp long⟩

theorem Reference.sound_named (unnumbered : ∀ u, t ≠ ('#' : CodePoint) :: u) : Sound t (.named t) := by
  have longest {written value : Text} (spelled : Spells written value) (front : written <+: t) :
      0 < written.length ∧ written.length ≤ (longestName t (entities (t.headD ';'))).length := by
    rcases spelled.begins with ⟨c, u, rfl, name, value, member, same⟩ | ⟨u, rfl⟩
    · obtain ⟨rest, rfl⟩ := front
      refine ⟨Nat.succ_pos _, ?_⟩
      have known : (name, value) ∈ entities ((c :: u ++ rest).headD ';') := member
      have bound := length_le_longestName known (same ▸ List.prefix_append (c :: u) rest)
      rwa [same] at bound
    · obtain ⟨rest, rfl⟩ := front
      exact absurd rfl (unnumbered (u ++ rest))
  rw [named]
  split
  · rename_i none
    intro written value spelled front
    have bound := longest spelled front
    rw [none] at bound
    exact absurd bound.1 (not_lt.mpr bound.2)
  · rename_i some
    obtain ⟨front, known⟩ := longestName_known some
    obtain ⟨c, written, found⟩ := List.exists_cons_of_ne_nil some
    rw [found] at front known ⊢
    obtain ⟨name, _, member, same⟩ := known
    have first : t.headD ';' = c := by
      obtain ⟨rest, rfl⟩ := front
      rfl
    rw [first] at member
    obtain ⟨value, read⟩ := entity?_some_iff.mpr ⟨name, _, member, same.symm⟩
    rw [read]
    refine ⟨c :: written, (List.prefix_iff_eq_append.mp front).symm, ⟨.named read, front, ?_⟩, ?_⟩
    · intro other value spelled front
      exact found ▸ (longest spelled front).2
    · intro run _ number
      obtain ⟨rest, shape⟩ := number.trans front
      exact absurd shape.symm (unnumbered _)

theorem Reference.sound_of (t : Text) : Sound t (.of t) := by
  by_cases numbered : ∃ u, t = ('#' : CodePoint) :: u
  · obtain ⟨u, rfl⟩ := numbered
    exact sound_numbered u
  · have unnumbered (u : Text) : t ≠ ('#' : CodePoint) :: u := fun same => numbered ⟨u, same⟩
    rw [Reference.of.eq_2 t unnumbered]
    exact sound_named unnumbered

theorem reads_of_unescape (read : unescapeFrom? 0 html = some t) : Reads html t := by
  match html with
  | [] =>
    cases read
    exact .nil
  | c :: html =>
    rw [unescapeFrom?] at read
    split at read
    · rename_i ampersand
      subst ampersand
      have sound := Reference.sound_of html
      split at read <;> rename_i found <;> rw [found] at sound
      · obtain ⟨written, rfl, longest, short⟩ := sound
        rw [List.length_append, Nat.add_sub_cancel, unescapeFrom?_skip] at read
        obtain ⟨u, rest, rfl⟩ := Option.map_eq_some_iff.mp read
        exact .reference longest short (reads_of_unescape rest)
      · contradiction
      · obtain ⟨u, rest, rfl⟩ := Option.map_eq_some_iff.mp read
        exact .ampersand sound (reads_of_unescape rest)
    · rename_i apart
      obtain ⟨u, rest, rfl⟩ := Option.map_eq_some_iff.mp read
      exact .plain apart (reads_of_unescape rest)
termination_by html.length

theorem unescape_of_reads (reads : Reads html t) : unescapeFrom? 0 html = some t := by
  induction reads with
  | nil => rfl
  | plain apart _ ih => rw [unescapeFrom?, if_neg apart, ih, Option.map_some]
  | @ampersand t u none _ ih =>
    have sound := Reference.sound_of t
    rw [unescapeFrom?, if_pos rfl]
    split <;> rename_i found <;> rw [found] at sound
    · obtain ⟨written, _, longest, _⟩ := sound
      exact absurd longest.front (none _ _ longest.spelling)
    · obtain ⟨run, all, front, long⟩ := sound
      have some : run ≠ [] := List.ne_nil_of_length_pos (Nat.zero_lt_of_lt long)
      exact absurd (List.append_nil _ ▸ front) (none _ _ (.number (.decimal some all) (.inl rfl)))
    · rw [ih, Option.map_some]
  | @reference written t value u longest short _ ih =>
    refine (unescape_reference written ?_).trans (by rw [ih, Option.map_some])
    have sound := Reference.sound_of (written ++ t)
    cases found : Reference.of (written ++ t) <;> rw [found] at sound
    · obtain ⟨other, whole, other_longest, _⟩ := sound
      obtain ⟨rfl, rfl⟩ := longest.unique other_longest
      rw [List.append_cancel_left whole]
    · obtain ⟨run, all, front, long⟩ := sound
      have some : run ≠ [] := List.ne_nil_of_length_pos (Nat.zero_lt_of_lt long)
      have spelled : Spells (('#' : CodePoint) :: run ++ []) _ := .number (.decimal some all) (.inl rfl)
      rw [List.append_nil] at spelled
      have inside : ('#' : CodePoint) :: run <+: written :=
        List.prefix_of_prefix_length_le front longest.front
        (longest.longest _ _ spelled front)
      exact absurd (short run all inside) (not_le.mpr long)
    · exact absurd longest.front (sound _ _ longest.spelling)

/-- Reading HTML is reading its character references from left to right, the longest first. -/
theorem unescape_iff : unescapeHtml? html = some t ↔ Reads html t :=
  ⟨reads_of_unescape, unescape_of_reads⟩

/-- No decimal number behind an ampersand and a number sign is too long to be read. -/
def ShortNumbers (html : Text) : Prop :=
  ∀ run : Text, (∀ c ∈ run, CodePoint.isDigit c = true) → ('&' : CodePoint) :: '#' :: run <:+: html →
    run.length ≤ maxDigits

theorem ShortNumbers.part (short : ShortNumbers html) (part : rest <:+: html) : ShortNumbers rest :=
  fun run all inside => short run all (inside.trans part)

theorem exists_reads (short : ShortNumbers html) : ∃ t, Reads html t := by
  match html with
  | [] => exact ⟨[], .nil⟩
  | c :: html =>
    by_cases ampersand : c = '&'
    · subst ampersand
      have sound := Reference.sound_of html
      cases found : Reference.of html <;> rw [found] at sound
      · obtain ⟨written, rfl, longest, few⟩ := sound
        obtain ⟨t, reads⟩ := exists_reads
          (short.part (List.suffix_append (('&' : CodePoint) :: written) _).isInfix)
        exact ⟨_, .reference longest few reads⟩
      · obtain ⟨run, all, front, long⟩ := sound
        have inside : ('&' : CodePoint) :: '#' :: run <:+: '&' :: html :=
          (List.cons_prefix_cons.mpr ⟨rfl, front⟩).isInfix
        exact absurd (short run all inside) (not_le.mpr long)
      · obtain ⟨t, reads⟩ := exists_reads (short.part (List.suffix_cons _ _).isInfix)
        exact ⟨_, .ampersand sound reads⟩
    · obtain ⟨t, reads⟩ := exists_reads (short.part (List.suffix_cons _ _).isInfix)
      exact ⟨_, .plain ampersand reads⟩
termination_by html.length

end LabEditor.Text
