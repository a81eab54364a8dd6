import LabEditor.Detection.Basic
import LabEditor.Proofs.Detection.Rule
import LabEditor.Proofs.Detection.Vault
import Mathlib.Data.List.Induction

/-! Detection as one pass over the lines of a page. A line is left alone if it is tagged, blank,
taken in by a code tag, or holds code; for any other, the first rule that applies decides. -/
namespace LabEditor.Detection

open Markup (tagLine? Block)

variable {rule first second : Rule} {line t : Text} {lines above : List Text} {inBlock : Bool}

/-- Whether code follows the tag of a line, if it has one. -/
def opening? (line : Text) : Option Bool :=
  ((tagLine? line).map Markup.TagLine.role).map Markup.Role.opensCode

/-- Whether the next line belongs to a code tag. -/
def after (inBlock : Bool) (line : Text) : Bool :=
  match opening? line with
  | some opens => opens
  | none => inBlock && !Text.isBlankText line

/-- What one pass makes of a line that may hold code. -/
def rewrite (rule : Rule) (inBlock holds : Bool) (line : Text) : Text :=
  if Block.isBodyLine line && !(inBlock || holds) then (rule line).getD line else line

theorem rewrite_held (rule : Rule) (inBlock : Bool) (line : Text) :
    rewrite rule inBlock true line = line := by
  rw [rewrite, Bool.or_true, Bool.not_true, Bool.and_false]
  rfl

theorem isBodyLine_eq (line : Text) :
    Block.isBodyLine line = (!Text.isBlankText line && (opening? line).isNone) := by
  rw [Block.isBodyLine, opening?, Option.isNone_map, Option.isNone_map]

theorem apply_cons (rule : Rule) (inBlock : Bool) (line : Text) (lines : List Text) :
    apply rule inBlock (line :: lines) =
      rewrite rule inBlock (tokenPattern.occurs line) line ::
        apply rule (after inBlock line) lines := by
  rw [apply, rewrite, after, isBodyLine_eq, opening?]
  cases tag : tagLine? line with
  | some tag => simp
  | none =>
    cases blank : Text.isBlankText line with
    | true => simp
    | false =>
      cases alone : inBlock || tokenPattern.occurs line with
      | true => simp
      | false => simp

theorem after_body (body : Block.isBodyLine line = true) (inBlock : Bool) :
    after inBlock line = inBlock := by
  rw [isBodyLine_eq, Bool.and_eq_true, Option.isNone_iff_eq_none, Bool.not_eq_true'] at body
  rw [after, body.2, body.1, Bool.not_false, Bool.and_true]

/-- A line that a rule leaves alone, outside of code tags, and that leads into none. -/
def Settled (rule : Rule) (t : Text) : Prop :=
  opening? t = some false ∨ Block.isBodyLine t = true ∧ rule t = none

theorem Settled.after (settled : Settled rule t) : Detection.after false t = false := by
  rcases settled with tagged | ⟨body, _⟩
  · rw [Detection.after, tagged]
  · exact after_body body false

theorem Settled.rewrite (settled : Settled rule t) (inBlock holds : Bool) :
    Detection.rewrite rule inBlock holds t = t := by
  rcases settled with tagged | ⟨_, none⟩
  · rw [Detection.rewrite, isBodyLine_eq, tagged, Option.isNone_some, Bool.and_false,
      Bool.false_and, if_neg (by decide)]
  · rw [Detection.rewrite, none]
    exact ite_self t

/-- Two passes are one if the second rule leaves alone what the first one has made. -/
theorem apply_apply (first second : Rule)
    (settled : ∀ line t, first line = some t → Settled second t)
    (inBlock : Bool) (lines : List Text) : apply second inBlock (apply first inBlock lines) =
      apply (fun line => first line <|> second line) inBlock lines := by
  induction lines generalizing inBlock with
  | nil => rfl
  | cons line lines ih =>
    rw [apply_cons first, apply_cons second, apply_cons]
    by_cases go : (Block.isBodyLine line && !(inBlock || tokenPattern.occurs line)) = true
    · -- Outside of code tags: what the first rule has made must not hide or open one.
      cases found : first line with
      | none =>
        have kept : rewrite first inBlock (tokenPattern.occurs line) line = line := by
          rw [rewrite, found]
          exact ite_self line
        rw [kept, ih, rewrite, rewrite, found]
        rfl
      | some t =>
        have made := settled line t found
        simp only [Bool.and_eq_true, Bool.not_eq_true', Bool.or_eq_false_iff] at go
        obtain ⟨body, outside, free⟩ := go
        have changed (rule : Rule) (same : rule line = some t) :
            rewrite rule inBlock (tokenPattern.occurs line) line = t := by
          rw [rewrite, body, outside, free, same]
          rfl
        rw [changed first found, made.rewrite, after_body body, outside, made.after, ih,
          ← outside, changed]
        simp [found]
    · have kept (rule : Rule) : rewrite rule inBlock (tokenPattern.occurs line) line = line :=
        if_neg go
      rw [kept, kept, kept, ih]

theorem IsHeading.opening? (heading : IsHeading t) : Detection.opening? t = some false := by
  obtain ⟨tag, read, closed⟩ := heading.tag
  rw [Detection.opening?, read, Option.map_some, Option.map_some, closed]

theorem IsSnippet.body (snippet : IsSnippet t code mark) : Block.isBodyLine t = true := by
  rw [Block.isBodyLine, snippet.visible, snippet.untagged]
  rfl

theorem snippet_settled (found : asExec line = some t) : Settled asCopy t := by
  obtain ⟨_, _, code, _, _, _, snippet⟩ := of_asExec found
  refine Or.inr ⟨snippet.body, ?_⟩
  cases copied : asCopy t with
  | none => rfl
  | some other =>
    obtain ⟨c, rest, _, rfl, indent, _⟩ := of_asCopy copied
    cases Option.some.inj snippet.front
    rcases indent with same | same <;> contradiction

theorem heading_settled (found : asHeading line = some t) (rule : Rule) : Settled rule t := by
  obtain ⟨_, _, rfl⟩ := of_asHeading found
  exact Or.inl (IsHeading.opening? ⟨_, rfl⟩)

/-- The rules, each over all lines, are one rule. -/
theorem applyAll_eq (lines : List Text) : applyAll lines = apply guessLine false lines := by
  have exec :=
    apply_apply asHeading asExec (fun line t found => heading_settled found asExec) false lines
  have copy := apply_apply (fun line => asHeading line <|> asExec line) asCopy
    (fun line t found => by
      rcases (Option.orElse_eq_some _ _ _).mp found with heading | ⟨_, exec⟩
      · exact heading_settled heading asCopy
      · exact snippet_settled exec) false lines
  rw [← exec] at copy
  exact copy

/-! What the passes make of a line depends on the line and on the lines above it. -/

/-- A line with a tag that is spelled neither as a heading nor as an image. -/
def OpensCode (line : Text) : Prop :=
  ∃ tag, tagLine? line = some tag ∧ Text.lower tag.spelling ∉ [("h1" : Text), "h2", "img"]

/-- The lines above lead into a code tag: no line behind it is tagged or blank. -/
def InCode (above : List Text) : Prop :=
  ∃ front line between, above = front ++ line :: between ∧ OpensCode line ∧
    ∀ other ∈ between, tagLine? other = none ∧ Text.isBlankText other = false

theorem opening?_eq_true : opening? line = some true ↔ OpensCode line := by
  simp only [opening?, Option.map_map, Option.map_eq_some_iff, OpensCode, Function.comp_apply,
    Markup.TagLine.opensCode_iff]

theorem isBodyLine_iff : Block.isBodyLine line = true ↔
    tagLine? line = none ∧ Text.isBlankText line = false := by
  rw [Block.isBodyLine, Bool.and_eq_true, Bool.not_eq_true', Option.isNone_iff_eq_none, and_comm]

theorem after_eq_true : after inBlock line = true ↔
    OpensCode line ∨ Block.isBodyLine line = true ∧ inBlock = true := by
  rw [after, isBodyLine_eq, ← opening?_eq_true]
  cases opening? line with
  | some opens => simp
  | none => simp [and_comm]

theorem inCode_concat : InCode (above ++ [line]) ↔
    OpensCode line ∨ Block.isBodyLine line = true ∧ InCode above := by
  constructor
  · rintro ⟨front, opener, between, same, opens, body⟩
    rcases List.eq_nil_or_concat between with rfl | ⟨between, last, rfl⟩
    · obtain ⟨_, last⟩ := List.append_inj' same rfl
      exact Or.inl (List.singleton_inj.mp last ▸ opens)
    · rw [List.concat_eq_append, ← List.cons_append, ← List.append_assoc] at same
      obtain ⟨rfl, last⟩ := List.append_inj' same rfl
      cases List.singleton_inj.mp last
      refine Or.inr ⟨isBodyLine_iff.mpr (body line (by simp)), front, opener, between, rfl, opens, ?_⟩
      exact fun other member => body other (by simp [member])
  · rintro (opens | ⟨body, front, opener, between, rfl, opens, all⟩)
    · exact ⟨above, line, [], rfl, opens, fun _ none => absurd none List.not_mem_nil⟩
    · refine ⟨front, opener, between ++ [line], by simp, opens, fun other member => ?_⟩
      rcases List.mem_append.mp member with inside | last
      · exact all other inside
      · exact List.mem_singleton.mp last ▸ isBodyLine_iff.mp body

theorem foldl_after (above : List Text) : above.foldl after false = true ↔ InCode above := by
  induction above using List.reverseRecOn with
  | nil => exact iff_of_false Bool.false_ne_true (by rintro ⟨_, _, _, same, _⟩; simp at same)
  | append_singleton above line ih =>
    rw [List.foldl_concat, after_eq_true, ih, inCode_concat]

instance (above : List Text) : Decidable (InCode above) :=
  decidable_of_iff _ (foldl_after above)

/-- A line that no rule may change. -/
def LeftAlone (above : List Text) (line : Text) : Prop :=
  (tagLine? line).isSome = true ∨ Text.isBlankText line = true ∨
    tokenPattern.occurs line = true ∨ InCode above

instance (above : List Text) (line : Text) : Decidable (LeftAlone above line) :=
  inferInstanceAs (Decidable (_ ∨ _ ∨ _ ∨ _))

theorem length_apply (rule : Rule) (inBlock : Bool) (lines : List Text) :
    (apply rule inBlock lines).length = lines.length := by
  induction lines generalizing inBlock with
  | nil => rfl
  | cons line lines ih => rw [apply_cons, List.length_cons, List.length_cons, ih]

theorem apply_getElem? (rule : Rule) (inBlock : Bool) (lines : List Text) (i : Nat) :
    (apply rule inBlock lines)[i]? = lines[i]?.map fun line =>
      rewrite rule ((lines.take i).foldl after inBlock) (tokenPattern.occurs line) line := by
  induction lines generalizing inBlock i with
  | nil => rfl
  | cons line lines ih =>
    rw [apply_cons]
    cases i with
    | zero => rfl
    | succ i => exact ih (after inBlock line) i

theorem rewrite_above (above : List Text) (line : Text) :
    rewrite rule (above.foldl after false) (tokenPattern.occurs line) line =
      if LeftAlone above line then line else (rule line).getD line := by
  have free : (Block.isBodyLine line &&
      !(above.foldl after false || tokenPattern.occurs line)) = true ↔ ¬ LeftAlone above line := by
    rw [LeftAlone, ← foldl_after, Bool.and_eq_true, isBodyLine_iff, Bool.not_eq_true',
      Bool.or_eq_false_iff]
    cases tagLine? line <;> simp [and_comm]
  rw [rewrite]
  by_cases alone : LeftAlone above line
  · rw [if_pos alone, if_neg (fun go => free.mp go alone)]
  · rw [if_neg alone, if_pos (free.mpr alone)]

/-- The three passes keep the number of lines, and for each line that may be changed the first rule
that applies decides. -/
theorem applyAll_first_match (lines : List Text) :
    (applyAll lines).length = lines.length ∧
      ∀ i, (applyAll lines)[i]? = lines[i]?.map fun line =>
        if LeftAlone (lines.take i) line then line
        else (asHeading line).getD ((asExec line).getD ((asCopy line).getD line)) := by
  have each (i : Nat) : (applyAll lines)[i]? = lines[i]?.map fun line =>
      if LeftAlone (lines.take i) line then line
      else (asHeading line).getD ((asExec line).getD ((asCopy line).getD line)) := by
    rw [applyAll_eq, apply_getElem?]
    congr 1
    funext line
    rw [rewrite_above, guessLine]
    congr 1
    cases asHeading line <;> cases asExec line <;> cases asCopy line <;> rfl
  refine ⟨?_, each⟩
  rw [applyAll_eq, length_apply]

example : applyAll ["\x7b\x7bexec\x7d\x7d", "$ ls", "", "Setup", "$ ls"] =
    ["\x7b\x7bexec\x7d\x7d", "$ ls", "", "\x7b\x7bh1\x7d\x7d Setup", "`ls`\x7b\x7bexec\x7d\x7d"] := by
  decide

end LabEditor.Detection
