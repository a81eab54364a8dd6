import LabEditor.Scan
import Mathlib.Data.List.Forall2

/-! Scanning as a judgment. Each element is plain or begins a match, which is read with all that
follows it in sight; the scan of a sequence is the only list of pieces that the judgment allows. -/
namespace LabEditor
variable {σ α β γ : Type}

/-- What is left of two lists begins within one of them. -/
theorem suffix_append {front behind part : List σ} (tail : part <:+ front ++ behind) :
    (∃ start, start ≠ [] ∧ start <:+ front ∧ part = start ++ behind) ∨ part <:+ behind := by
  obtain ⟨skipped, same⟩ := tail
  rcases List.append_eq_append_iff.mp same with ⟨start, here, whole⟩ | ⟨more, _, later⟩
  · by_cases none : start = []
    · rw [none, List.nil_append] at whole
      exact Or.inr (whole ▸ List.suffix_rfl)
    · exact Or.inl ⟨start, none, ⟨skipped, here.symm⟩, whole⟩
  · exact Or.inr ⟨more, later.symm⟩

/-- What relation to some element of a list shows of an element. -/
theorem forall_of_forall₂ {R : α → β → Prop} {P : α → Prop} {xs : List α} {ys : List β}
    (related : List.Forall₂ R xs ys) (each : ∀ x y, y ∈ ys → R x y → P x) : ∀ x ∈ xs, P x := by
  induction related with
  | nil => exact fun _ none => absurd none List.not_mem_nil
  | cons here _ ih =>
    refine List.forall_mem_cons.mpr ⟨each _ _ List.mem_cons_self here, ih fun x y member => ?_⟩
    exact each x y (List.mem_cons_of_mem _ member)

theorem forall₂_trans {R : α → β → Prop} {S : β → γ → Prop} {T : α → γ → Prop} {xs : List α}
    {ys : List β}
    {zs : List γ} (step : ∀ x y z, R x y → S y z → T x z) (left : List.Forall₂ R xs ys)
    (right : List.Forall₂ S ys zs) : List.Forall₂ T xs zs := by
  induction left generalizing zs with
  | nil =>
    cases right
    exact .nil
  | cons here _ ih =>
    cases right with
    | cons next others => exact .cons (step _ _ _ here next) (ih others)

namespace Piece
variable {ps : List (Piece σ α)}

def map (f : α → β) : Piece σ α → Piece σ β
  | .plain x => .plain x
  | .hit value => .hit (f value)

@[simp] theorem map_id (ps : List (Piece σ α)) : ps.map (map id) = ps := by
  induction ps with
  | nil => rfl
  | cons piece ps ih => cases piece <;> simp [map, ih]

def isHit (piece : Piece σ α) : Bool :=
  piece.value?.isSome

/-- The elements of pieces, given those that stand for each match. -/
def writeAll (f : α → List σ) (ps : List (Piece σ α)) : List σ :=
  ps.flatMap (write f)

@[simp] theorem writeAll_nil (f : α → List σ) : writeAll f [] = [] := rfl

@[simp] theorem writeAll_plain (f : α → List σ) (x : σ) (ps : List (Piece σ α)) :
    writeAll f (.plain x :: ps) = x :: writeAll f ps := rfl

@[simp] theorem writeAll_hit (f : α → List σ) (value : α) (ps : List (Piece σ α)) :
    writeAll f (.hit value :: ps) = f value ++ writeAll f ps := rfl

@[simp] theorem writeAll_append (f : α → List σ) (ps qs : List (Piece σ α)) :
    writeAll f (ps ++ qs) = writeAll f ps ++ writeAll f qs :=
  List.flatMap_append

@[simp] theorem writeAll_plains (f : α → List σ) (xs : List σ) :
    writeAll f (xs.map .plain) = xs := by
  induction xs with
  | nil => rfl
  | cons x xs ih => rw [List.map_cons, writeAll_plain, ih]

theorem writeAll_map (f : β → List σ) (g : α → β) (ps : List (Piece σ α)) :
    writeAll f (ps.map (map g)) = writeAll (f ∘ g) ps := by
  induction ps with
  | nil => rfl
  | cons piece ps ih =>
    cases piece with
    | plain x => simp only [List.map_cons, map, writeAll_plain, ih]
    | hit value => simp only [List.map_cons, map, writeAll_hit, ih, Function.comp_apply]

theorem writeAll?_map (f : β → Except ε (List σ)) (g : α → β) (ps : List (Piece σ α)) :
    writeAll? f (ps.map (map g)) = writeAll? (f ∘ g) ps := by
  induction ps with
  | nil => rfl
  | cons piece ps ih =>
    cases piece <;> simp only [List.map_cons, map, writeAll?, ih, Function.comp_apply]

theorem writeAll?_eq {f : α → Except ε (List σ)} {g : α → List σ}
    (each : ∀ value, .hit value ∈ ps → f value = .ok (g value)) :
      writeAll? f ps = .ok (writeAll g ps) := by
  induction ps with
  | nil => rfl
  | cons piece ps ih =>
    have later := ih fun value member => each value (List.mem_cons_of_mem piece member)
    cases piece with
    | plain x =>
      rw [writeAll?, later]
      rfl
    | hit value =>
      rw [writeAll?, each value List.mem_cons_self, later]
      rfl

/-- Whatever each match is written as, if it can be written. -/
theorem writeAll?_ok {f : α → Except ε (List σ)} {g : α → List σ}
    (agree : ∀ value, .hit value ∈ ps → ∀ xs, f value = .ok xs → xs = g value)
    (done : writeAll? f ps = .ok out) : out = writeAll g ps := by
  induction ps generalizing out with
  | nil => cases done; rfl
  | cons piece ps ih =>
    have later : ∀ value, .hit value ∈ ps → ∀ xs, f value = .ok xs → xs = g value :=
      fun value member => agree value (List.mem_cons_of_mem piece member)
    cases piece with
    | plain x =>
      cases rest : writeAll? f ps with
      | error e => simp [writeAll?, rest, Except.map] at done
      | ok written =>
        simp only [writeAll?, rest, Except.map, Except.ok.injEq] at done
        rw [← done, ih later rest, writeAll_plain]
    | hit value =>
      cases here : f value with
      | error e => simp [writeAll?, here] at done
      | ok xs =>
        cases rest : writeAll? f ps with
        | error e => simp [writeAll?, here, rest, Except.map] at done
        | ok written =>
          simp only [writeAll?, here, rest, Except.map, Except.ok.injEq] at done
          rw [← done, ih later rest, writeAll_hit, agree value List.mem_cons_self xs here]

/-- A sequence can be written if each match can be. -/
theorem writeAll?_total_iff {f : α → Except ε (List σ)} :
    (∃ out, writeAll? f ps = .ok out) ↔ ∀ value, .hit value ∈ ps → ∃ xs, f value = .ok xs := by
  have mapped {outcome : Except ε (List σ)} (g : List σ → List σ) :
      (∃ out, outcome.map g = .ok out) ↔ ∃ out, outcome = .ok out := by
    cases outcome with
    | error e => simp [Except.map]
    | ok xs => simp [Except.map]
  induction ps with
  | nil => exact iff_of_true ⟨[], rfl⟩ fun _ none => absurd none List.not_mem_nil
  | cons piece ps ih =>
    cases piece with
    | plain x =>
      refine (mapped _).trans (ih.trans ?_)
      simp
    | hit value =>
      rw [writeAll?]
      cases here : f value with
      | error e => simp [here]
      | ok xs => simp [mapped, ih, here]

/-- Whether a sequence can be written depends on which matches can be, not on what they become. -/
theorem writeAll?_unit {f g : α → Except ε (List σ)}
    (each : ∀ value, (f value).map (fun _ => ()) = (g value).map fun _ => ())
    (ps : List (Piece σ α)) :
    (writeAll? f ps).map (fun _ => ()) = (writeAll? g ps).map fun _ => () := by
  have lift : ∀ {x y : Except ε (List σ)} (h k : List σ → List σ),
      x.map (fun _ => ()) = y.map (fun _ => ()) →
        (x.map h).map (fun _ => ()) = (y.map k).map fun _ => () := by
    rintro (_ | _) (_ | _) h k same
    · exact same
    · contradiction
    · contradiction
    · rfl
  induction ps with
  | nil => rfl
  | cons piece ps ih =>
    cases piece with
    | plain x => exact lift _ _ ih
    | hit value =>
      have here := each value
      rw [writeAll?, writeAll?]
      cases first : f value with
      | error e =>
        cases second : g value with
        | error d => simpa [first, second] using here
        | ok ys => simp [first, second, Except.map] at here
      | ok xs =>
        cases second : g value with
        | error d => simp [first, second, Except.map] at here
        | ok ys => exact lift _ _ ih

theorem values_map (g : α → β) (ps : List (Piece σ α)) :
    (ps.map (map g)).filterMap value? = (ps.filterMap value?).map g := by
  induction ps with
  | nil => rfl
  | cons piece ps ih => cases piece <;> simp [List.filterMap_cons, map, value?, ih]

@[simp] theorem values_plains (xs : List σ) :
    (xs.map (.plain : σ → Piece σ α)).filterMap value? = [] := by
  induction xs with
  | nil => rfl
  | cons x xs ih => exact ih

theorem mem_values {value : α} : value ∈ ps.filterMap value? ↔ .hit value ∈ ps := by
  rw [List.mem_filterMap]
  constructor
  · rintro ⟨piece, member, same⟩
    cases piece with
    | plain x => contradiction
    | hit other =>
      cases same
      exact member
  · exact fun member => ⟨_, member, rfl⟩

/-- Numbers take the place of the matches, from a first number on. -/
def number : (first : Nat) → List (Piece σ α) → List (Piece σ Nat)
  | _, [] => []
  | first, .plain x :: ps => .plain x :: number first ps
  | first, .hit _ :: ps => .hit first :: number (first + 1) ps

/-- To set matches aside is to number them. -/
theorem setAside_eq (token : Nat → List σ) (first : Nat) (ps : List (Piece σ α)) :
    setAside token first ps = (writeAll token (number first ps), ps.filterMap value?) := by
  induction ps generalizing first with
  | nil => rfl
  | cons piece ps ih =>
    cases piece with
    | plain x => simp only [setAside, ih, number, writeAll_plain, List.filterMap_cons, value?]
    | hit value => simp only [setAside, ih, number, writeAll_hit, List.filterMap_cons, value?]

theorem values_number (first : Nat) (ps : List (Piece σ α)) :
    (number first ps).filterMap value? = List.range' first (ps.filterMap value?).length := by
  induction ps generalizing first with
  | nil => rfl
  | cons piece ps ih =>
    cases piece with
    | plain x => exact ih first
    | hit value => exact congrArg (first :: ·) (ih (first + 1))

/-- Where all matches are written alike, their numbers are too. -/
theorem writeAll_number (xs : List σ) (first : Nat) (ps : List (Piece σ α)) :
    writeAll (fun _ => xs) (number first ps) = writeAll (fun _ => xs) ps := by
  induction ps generalizing first with
  | nil => rfl
  | cons piece ps ih => cases piece <;> simp [number, ih]

/-- A list holds, from a place on, another list. -/
def Lists (values : List α) (first : Nat) (part : List α) : Prop :=
  ∀ i value, part[i]? = some value → values[first + i]? = some value

theorem lists_append (front part behind : List α) :
    Lists (front ++ part ++ behind) front.length part := by
  intro i value found
  have inside : i < part.length := (List.getElem?_eq_some_iff.mp found).1
  rw [List.append_assoc, List.getElem?_append_right (Nat.le_add_right _ _), Nat.add_sub_cancel_left,
    List.getElem?_append_left inside, found]

theorem Lists.left {values : List α} (lists : Lists values first (part ++ more)) :
    Lists values first part := by
  intro i value found
  refine lists i value ?_
  rw [List.getElem?_append_left (List.getElem?_eq_some_iff.mp found).1, found]

theorem Lists.right {values : List α} (lists : Lists values first (part ++ more)) :
    Lists values (first + part.length) more := by
  intro i value found
  rw [Nat.add_assoc]
  refine lists (part.length + i) value ?_
  rw [List.getElem?_append_right (Nat.le_add_right _ _), Nat.add_sub_cancel_left, found]

/-- A list holds, from a place on, the values of some pieces in order. -/
abbrev Holds (values : List α) (first : Nat) (ps : List (Piece σ α)) : Prop :=
  Lists values first (ps.filterMap value?)

theorem holds_values (ps : List (Piece σ α)) : Holds (ps.filterMap value?) 0 ps := by
  intro i value found
  rwa [Nat.zero_add]

theorem Holds.tail {values : List α} {piece : Piece σ α}
    (holds : Holds values first (piece :: ps)) :
    Holds values (first + if piece.isHit then 1 else 0) ps := by
  intro i value found
  cases piece with
  | plain x => exact holds i value found
  | hit other =>
    have here := holds (i + 1) value found
    rwa [Nat.add_comm i, ← Nat.add_assoc] at here

/-- A number leads back to what it stands for. -/
theorem number_map {values : List α} (holds : Holds values first ps) :
    (number first ps).map (map fun n => values[n]?) = ps.map (map some) := by
  induction ps generalizing first with
  | nil => rfl
  | cons piece ps ih =>
    have rest := ih holds.tail
    cases piece with
    | plain x => exact congrArg (Piece.plain x :: ·) rest
    | hit value =>
      have here : values[first]? = some value := holds 0 value rfl
      simp only [number, List.map_cons, map, here]
      exact congrArg (Piece.hit (some value) :: ·) rest

theorem Holds.lt_length {values : List α} (holds : Holds values first ps)
    (member : .hit n ∈ number first ps) : n < values.length := by
  induction ps generalizing first with
  | nil => contradiction
  | cons piece ps ih =>
    have rest := holds.tail
    cases piece with
    | plain x => exact ih rest (List.mem_of_ne_of_mem (by simp) member)
    | hit value =>
      rcases List.mem_cons.mp member with same | later
      · have here : values[first]? = some value := holds 0 value rfl
        cases same
        exact (List.getElem?_eq_some_iff.mp here).1
      · exact ih rest later

theorem number_append (first : Nat) (ps qs : List (Piece σ α)) :
    number first (ps ++ qs) = number first ps ++
      number (first + (ps.filterMap value?).length) qs := by
  induction ps generalizing first with
  | nil => rfl
  | cons piece ps ih =>
    cases piece with
    | plain x => exact congrArg (Piece.plain x :: ·) (ih first)
    | hit value =>
      have rest := ih (first + 1)
      rw [Nat.add_right_comm, Nat.add_assoc] at rest
      exact congrArg (Piece.hit first :: ·) rest

theorem number_plains (first : Nat) (xs : List σ) :
    number first (xs.map (.plain : σ → Piece σ α)) = xs.map .plain := by
  induction xs with
  | nil => rfl
  | cons x xs ih => exact congrArg (Piece.plain x :: ·) ih

theorem plain_mem_number (member : .plain x ∈ number first ps) : .plain x ∈ ps := by
  induction ps generalizing first with
  | nil => contradiction
  | cons piece ps ih =>
    cases piece with
    | plain other =>
      rcases List.mem_cons.mp member with same | later
      · cases same
        exact List.mem_cons_self
      · exact List.mem_cons_of_mem _ (ih later)
    | hit value =>
      rcases List.mem_cons.mp member with same | later
      · cases same
      · exact List.mem_cons_of_mem _ (ih later)

/-- Lines of pieces as one line, with a separator between neighbours. -/
def glue (sep : CodePoint) (lines : List (List (Piece CodePoint α))) : List (Piece CodePoint α) :=
  [.plain sep].intercalate lines

theorem glue_cons (sep : CodePoint) (line : List (Piece CodePoint α)) (more : lines ≠ []) :
    glue sep (line :: lines) = line ++ .plain sep :: glue sep lines := by
  obtain ⟨next, lines, rfl⟩ := List.exists_cons_of_ne_nil more
  simp [glue, List.intercalate_cons_cons]

theorem writeAll_glue (f : α → Text) (sep : CodePoint) (lines : List (List (Piece CodePoint α))) :
    writeAll f (glue sep lines) = Text.glue sep (lines.map (writeAll f)) := by
  induction lines with
  | nil => rfl
  | cons line lines ih =>
    cases lines with
    | nil => simp [glue, Text.glue]
    | cons next lines =>
      rw [glue_cons sep line (by simp), writeAll_append, writeAll_plain, ih]
      rfl

/-- Each line numbered, where the numbers go on from line to line. -/
def numberLines : (first : Nat) → List (List (Piece σ α)) → List (List (Piece σ Nat))
  | _, [] => []
  | first, line :: lines =>
    number first line :: numberLines (first + (line.filterMap value?).length) lines

theorem number_glue (first : Nat) (sep : CodePoint) (lines : List (List (Piece CodePoint α))) :
    number first (glue sep lines) = glue sep (numberLines first lines) := by
  induction lines generalizing first with
  | nil => rfl
  | cons line lines ih =>
    cases lines with
    | nil => simp [glue, numberLines]
    | cons next lines =>
      have shape : numberLines first (line :: next :: lines) = number first line ::
          numberLines (first + (line.filterMap value?).length) (next :: lines) := rfl
      have more : numberLines (first + (line.filterMap value?).length) (next :: lines) ≠ [] :=
        List.cons_ne_nil _ _
      rw [glue_cons sep line (by simp), number_append, number, ih, shape, glue_cons sep _ more]

theorem glue_map (f : α → β) (sep : CodePoint) (lines : List (List (Piece CodePoint α))) :
    (glue sep lines).map (map f) = glue sep (lines.map (List.map (map f))) := by
  induction lines with
  | nil => rfl
  | cons line lines ih =>
    cases lines with
    | nil => simp [glue]
    | cons next lines =>
      have more : (next :: lines).map (List.map (map f)) ≠ [] := by simp
      rw [glue_cons sep line (by simp), List.map_append, List.map_cons, ih,
        List.map_cons (a := line), glue_cons sep _ more]
      rfl

theorem mem_glue {piece : Piece CodePoint α} (member : piece ∈ glue sep lines) :
    piece = .plain sep ∨ ∃ line ∈ lines, piece ∈ line := by
  induction lines with
  | nil => contradiction
  | cons line lines ih =>
    by_cases more : lines = []
    · simp only [more, glue, List.intercalate_singleton] at member
      exact Or.inr ⟨line, List.mem_cons_self, member⟩
    · rw [glue_cons sep line more, List.mem_append, List.mem_cons] at member
      rcases member with here | same | later
      · exact Or.inr ⟨line, List.mem_cons_self, here⟩
      · exact Or.inl same
      · exact (ih later).imp_right fun ⟨other, known, inside⟩ =>
          ⟨other, List.mem_cons_of_mem _ known, inside⟩

theorem values_glue (sep : CodePoint) (lines : List (List (Piece CodePoint α))) :
    (glue sep lines).filterMap value? = lines.flatMap (List.filterMap value?) := by
  induction lines with
  | nil => rfl
  | cons line lines ih =>
    cases lines with
    | nil => simp [glue]
    | cons next lines =>
      rw [glue_cons sep line (by simp), List.filterMap_append, List.flatMap_cons, ← ih]
      rfl

end Piece

namespace Pattern

inductive Scans (p : Pattern σ α) : Option σ → List σ → List (Piece σ α) → Prop where
  | done : Scans p before [] []
  | plain : p before (x :: xs) = none → Scans p (some x) xs ps →
      Scans p before (x :: xs) (.plain x :: ps)
  | hit : p before (x :: (xs ++ rest)) = some (value, rest) → Scans p ((x :: xs).getLast?) rest ps →
      Scans p before (x :: (xs ++ rest)) (.hit value :: ps)

variable {p : Pattern σ α} {before : Option σ} {xs : List σ} {ps : List (Piece σ α)}

theorem scan_skip (p : Pattern σ α) (x : σ) (xs rest : List σ) :
    p.scan (some x) xs.length (xs ++ rest) = p.scan ((x :: xs).getLast?) 0 rest := by
  induction xs generalizing x with
  | nil => rfl
  | cons y ys ih =>
    rw [List.getLast?_cons_cons, ← ih y]
    rfl

theorem Scans.scan (scans : p.Scans before xs ps) : p.scan before 0 xs = ps := by
  induction scans with
  | done => rfl
  | plain none _ ih => simp only [Pattern.scan, none, ih]
  | @hit before x xs rest value ps found _ ih =>
    have size : (xs ++ rest).length - rest.length = xs.length := by simp
    simp only [Pattern.scan, found, size, scan_skip, ih]

/-- A pattern that takes at least the element at its place, and what it takes stands before the
rest. -/
def Consumes (p : Pattern σ α) : Prop :=
  ∀ before x xs value rest, p before (x :: xs) = some (value, rest) → ∃ taken, xs = taken ++ rest

theorem scans_scan (consumes : p.Consumes) (before : Option σ) (xs : List σ) :
    p.Scans before xs (p.scan before 0 xs) := by
  match xs with
  | [] => exact .done
  | x :: xs =>
    cases found : p before (x :: xs) with
    | none =>
      simp only [Pattern.scan, found]
      exact .plain found (scans_scan consumes (some x) xs)
    | some result =>
      obtain ⟨value, rest⟩ := result
      obtain ⟨taken, rfl⟩ := consumes before x xs value rest found
      have size : (taken ++ rest).length - rest.length = taken.length := by simp
      have shorter : rest.length < (taken ++ rest).length + 1 := by
        rw [List.length_append]
        omega
      simp only [Pattern.scan, found, size, scan_skip]
      exact .hit found (scans_scan consumes _ rest)
termination_by xs.length

/-- A scan goes on behind a sequence if no match reaches beyond it. -/
theorem Scans.append (within : ∀ before x xs, p before (x :: xs ++ behind) =
      (p before (x :: xs)).map fun (value, rest) => (value, rest ++ behind))
    (scans : p.Scans before xs ps) (later : ∀ before, p.Scans before behind qs) :
    p.Scans before (xs ++ behind) (ps ++ qs) := by
  induction scans with
  | done => exact later _
  | @plain before x xs ps none _ ih =>
    have here : p before (x :: xs ++ behind) = Option.none := by rw [within, none, Option.map_none]
    exact .plain here ih
  | @hit before x xs rest value ps found _ ih =>
    have here : p before (x :: (xs ++ (rest ++ behind))) = some (value, rest ++ behind) := by
      rw [← List.append_assoc, ← List.cons_append, within, found, Option.map_some]
    rw [List.cons_append, List.append_assoc]
    exact .hit here ih

theorem Scans.other_before (same : ∀ xs, p other xs = p before xs) (scans : p.Scans before xs ps) :
    p.Scans other xs ps := by
  cases scans with
  | done => exact .done
  | plain none rest => exact .plain ((same _).trans none) rest
  | hit found rest => exact .hit ((same _).trans found) rest

/-- What is read as a whole is written as a whole. -/
theorem Scans.writeAll {f : α → List σ}
    (whole : ∀ before xs value rest, p before xs = some (value, rest) →
      xs = f value ++ rest) (scans : p.Scans before xs ps) : Piece.writeAll f ps = xs := by
  induction scans with
  | done => rfl
  | plain _ _ ih => rw [Piece.writeAll_plain, ih]
  | hit found _ ih => rw [Piece.writeAll_hit, ih, ← whole _ _ _ _ found]

/-- A pattern that matches written matches as a whole, and nowhere else, finds them again. -/
theorem scans_writeAll {p : Pattern σ β} {f : α → List σ} {g : α → β} (ps : List (Piece σ α))
    (plain : ∀ x, .plain x ∈ ps → ∀ before rest, p before (x :: rest) = none)
    (hit : ∀ value rest, .hit value :: rest <:+ ps → f value ≠ [] ∧
      ∀ before, p before (f value ++ Piece.writeAll f rest) = some (g value, Piece.writeAll f rest))
    (before : Option σ) : p.Scans before (Piece.writeAll f ps) (ps.map (Piece.map g)) := by
  induction ps generalizing before with
  | nil => exact .done
  | cons piece ps ih =>
    have scans := ih (fun x member => plain x (List.mem_cons_of_mem _ member))
      fun value rest tail => hit value rest (tail.trans (List.suffix_cons _ _))
    cases piece with
    | plain x => exact .plain (plain x List.mem_cons_self before _) (scans (some x))
    | hit value =>
      obtain ⟨some, found⟩ := hit value ps List.suffix_rfl
      obtain ⟨x, xs, same⟩ := List.exists_cons_of_ne_nil some
      have here := found before
      simp only [Piece.writeAll_hit, same] at here ⊢
      exact .hit here (scans _)

theorem length_scan_le (p : Pattern σ α) (before : Option σ) (skip : Nat) (xs : List σ) :
    (p.scan before skip xs).length ≤ xs.length := by
  induction xs generalizing before skip with
  | nil => cases skip <;> exact Nat.le_refl 0
  | cons x xs ih =>
    cases skip with
    | succ skip => exact Nat.le_succ_of_le (ih _ _)
    | zero =>
      rw [Pattern.scan]
      split
      · exact Nat.succ_le_succ (ih _ _)
      · exact Nat.succ_le_succ (ih _ _)

theorem mem_of_plain_mem_scan (member : .plain y ∈ p.scan before skip xs) : y ∈ xs := by
  induction xs generalizing before skip with
  | nil => contradiction
  | cons x xs ih =>
    cases skip with
    | succ skip => exact List.mem_cons_of_mem x (ih member)
    | zero =>
      rw [Pattern.scan] at member
      split at member
      · rcases List.mem_cons.mp member with same | later
        · cases same
        · exact List.mem_cons_of_mem x (ih later)
      · rcases List.mem_cons.mp member with same | later
        · cases same
          exact List.mem_cons_self
        · exact List.mem_cons_of_mem x (ih later)

/-- Each match was read where it begins. -/
theorem read_of_hit_mem_scan (member : .hit value ∈ p.scan before skip xs) :
    ∃ seen suffix rest, suffix <:+ xs ∧ p seen suffix = some (value, rest) := by
  induction xs generalizing before skip with
  | nil => contradiction
  | cons x xs ih =>
    have later {seen skipped} (inside : .hit value ∈ p.scan seen skipped xs) :
        ∃ seen suffix rest, suffix <:+ x :: xs ∧ p seen suffix = some (value, rest) := by
      obtain ⟨seen, suffix, rest, tail, found⟩ := ih inside
      exact ⟨seen, suffix, rest, tail.trans (List.suffix_cons x xs), found⟩
    cases skip with
    | succ skip => exact later member
    | zero =>
      rw [Pattern.scan] at member
      split at member
      · rename_i other rest found
        rcases List.mem_cons.mp member with same | inside
        · cases same
          exact ⟨before, x :: xs, rest, List.suffix_rfl, found⟩
        · exact later inside
      · rcases List.mem_cons.mp member with same | inside
        · cases same
        · exact later inside

theorem scans_pieces (consumes : p.Consumes) (xs : List σ) : p.Scans none xs (p.pieces xs) :=
  scans_scan consumes none xs

/-- Where no match begins, all is plain. -/
theorem scans_plain (never : ∀ before x suffix, x :: suffix <:+ xs → p before (x :: suffix) = none)
    (before : Option σ) : p.Scans before xs (xs.map .plain) := by
  induction xs generalizing before with
  | nil => exact .done
  | cons x xs ih =>
    refine .plain (never before x xs List.suffix_rfl) (ih ?_ _)
    exact fun before y suffix tail => never before y suffix (tail.trans (List.suffix_cons x xs))

theorem replace_eq (p : Pattern σ α) (f : α → List σ) (xs : List σ) :
    p.replace f xs = Piece.writeAll f (p.pieces xs) := rfl

theorem Scans.pieces (scans : p.Scans none xs ps) : p.pieces xs = ps :=
  scans.scan

/-- Where no match begins, nothing is replaced. -/
theorem replace_eq_self (never : ∀ before x suffix, x :: suffix <:+ xs →
    p before (x :: suffix) = none)
    (f : α → List σ) : p.replace f xs = xs := by
  rw [replace_eq, (scans_plain never none).pieces, Piece.writeAll_plains]

/-- Where nothing is found, no match begins anywhere. -/
theorem never_of_values (none : (p.scan before 0 xs).filterMap Piece.value? = []) :
    ∀ x suffix, x :: suffix <:+ xs → ∃ seen, p seen (x :: suffix) = .none := by
  induction xs generalizing before with
  | nil => exact fun x suffix tail => absurd (List.suffix_nil.mp tail) (List.cons_ne_nil x suffix)
  | cons y ys ih =>
    rw [Pattern.scan] at none
    split at none
    · contradiction
    · rename_i here
      intro x suffix tail
      rcases List.suffix_cons_iff.mp tail with whole | later
      · exact ⟨before, whole ▸ here⟩
      · exact ih none x suffix later

/-- Where nothing is found, all is plain. -/
theorem scan_plain (none : (p.scan before 0 xs).filterMap Piece.value? = []) :
    p.scan before 0 xs = xs.map .plain := by
  induction xs generalizing before with
  | nil => rfl
  | cons y ys ih =>
    rw [Pattern.scan] at none ⊢
    split at none
    · contradiction
    · exact congrArg (Piece.plain y :: ·) (ih none)

/-- Behind a sequence in which no match begins, a scan goes on. -/
theorem Scans.over {front behind : List σ}
    (never : ∀ part, part <:+ front → part ≠ [] → ∀ before, p before (part ++ behind) = none)
    (later : ∀ before, p.Scans before behind ps) (before : Option σ) :
    p.Scans before (front ++ behind) (front.map .plain ++ ps) := by
  induction front generalizing before with
  | nil => exact later before
  | cons x front ih =>
    have here := never (x :: front) List.suffix_rfl (List.cons_ne_nil x front) before
    exact .plain here (ih (fun part tail => never part (tail.trans (List.suffix_cons x front))) _)

/-- Patterns that read alike everywhere in a sequence find the same in it. -/
theorem scan_congr {q : Pattern σ α} {skip : Nat}
    (same : ∀ before suffix, suffix <:+ xs → p before suffix = q before suffix) :
    p.scan before skip xs = q.scan before skip xs := by
  induction xs generalizing before skip with
  | nil => cases skip <;> rfl
  | cons x xs ih =>
    have later : ∀ before suffix, suffix <:+ xs → p before suffix = q before suffix :=
      fun before suffix tail => same before suffix (tail.trans (List.suffix_cons x xs))
    cases skip with
    | succ skip => exact ih later
    | zero =>
      rw [Pattern.scan, Pattern.scan, same before _ List.suffix_rfl]
      cases q before (x :: xs) with
      | none => exact congrArg (_ :: ·) (ih later)
      | some found => exact congrArg (_ :: ·) (ih later)

theorem Scans.ne_nil (scans : p.Scans before (x :: xs) ps) : ps ≠ [] := by
  cases scans <;> exact List.cons_ne_nil _ _

/-- Behind a first element that is plain stand the pieces of what follows it. -/
theorem Scans.tail (apart : p before (x :: xs) = none) (same : ∀ xs, p none xs = p (some x) xs)
    (scans : p.Scans before (x :: xs) ps) : ps = .plain x :: p.pieces xs := by
  cases scans with
  | plain _ later => rw [(later.other_before same).pieces]
  | hit found _ => cases apart.symm.trans found

end Pattern
end LabEditor
