import LabEditor.Markup.Block
import LabEditor.Proofs.Markup.Tag
import LabEditor.Proofs.Scan

/-! What the blocks of a page hold. Each text of a block lies on one line, code has at least one
line, and links bring nothing into a text but brackets. -/
namespace LabEditor.Markup
variable {line : Text} {lines : List Text}

theorem take_of_linkable (read : linkable before t = some (found, rest)) :
    ∃ n, found = .kept (t.take n) ∨ found = .address (t.take n) := by
  simp only [linkable] at read
  split at read
  · cases read
    exact ⟨_, Or.inl rfl⟩
  · obtain ⟨⟨address, behind⟩, here, same⟩ := Option.map_eq_some_iff.mp read
    cases same
    simp only [address?] at here
    repeat' split at here
    · contradiction
    · contradiction
    · contradiction
    · cases here
      exact ⟨_, Or.inr rfl⟩

theorem mem_of_mem_linkAddresses (member : c ∈ linkAddresses t) (no : c ∉ ("[]()" : Text)) :
    c ∈ t := by
  obtain ⟨piece, inside, written⟩ := List.mem_flatMap.mp member
  cases piece with
  | plain d =>
    cases List.mem_singleton.mp written
    exact Pattern.mem_of_plain_mem_scan inside
  | hit found =>
    obtain ⟨seen, suffix, rest, tail, read⟩ := Pattern.read_of_hit_mem_scan inside
    have outside {n : Nat} (taken : c ∈ suffix.take n) : c ∈ t :=
      tail.subset (List.mem_of_mem_take taken)
    obtain ⟨n, rfl | rfl⟩ := take_of_linkable read
    · exact outside written
    · have cases : c = '[' ∨ c ∈ suffix.take n ∨ c = ']' ∨ c = '(' ∨ c ∈ suffix.take n ∨
          c = ')' := by
        simpa [Piece.write, Linkable.write] using written
      rcases cases with rfl | taken | rfl | rfl | taken | rfl
      · exact absurd (by decide) no
      · exact outside taken
      · exact absurd (by decide) no
      · exact absurd (by decide) no
      · exact outside taken
      · exact absurd (by decide) no

theorem length_lines_le (page : Text) : (Markup.lines page).length ≤ page.length + 1 :=
  (Text.length_cut_le '\n' (Text.joinLineEnds page)).trans
    (Nat.succ_le_succ (Text.length_joinLineEnds_le page))

namespace Block

/-- A block as a page can hold it. -/
def Whole : Block → Prop
  | .heading level text => 0 < level ∧ ('\n' : CodePoint) ∉ text
  | .exec lines _ | .copy lines => lines ≠ [] ∧ ∀ l ∈ lines, ('\n' : CodePoint) ∉ l
  | .image alt title path => ('\n' : CodePoint) ∉ alt ∧ ('\n' : CodePoint) ∉ title ∧ ('\n' : CodePoint) ∉ path
  | .bullet text => ('\n' : CodePoint) ∉ text
  | .blank => True

theorem mem_of_mem_fileName (member : c ∈ fileName t) : c ∈ t := by
  have inside : c ∈ (Text.splitWhen (· == '/') t.reverse).1 := List.mem_reverse.mp member
  rw [Text.splitWhen_eq] at inside
  exact List.mem_reverse.mp ((List.takeWhile_prefix _).subset inside)

/-- A block without some character in its texts. -/
def Free (c : CodePoint) : Block → Prop
  | .heading _ text | .bullet text => c ∉ text
  | .exec lines _ | .copy lines => ∀ l ∈ lines, c ∉ l
  | .image alt title path => c ∉ alt ∧ c ∉ title ∧ c ∉ path
  | .blank => True

theorem free_ofPlainLine (free : c ∉ line) : (ofPlainLine line).Free c := by
  unfold ofPlainLine
  split
  · trivial
  · exact fun inside => free (Text.mem_of_mem_trim inside)

theorem free_ofImage (apart : c ∉ ("image" : Text)) (free : c ∉ content) :
    (ofImage content).Free c := by
  have part (i : Nat) : c ∉ (((Text.cut '|' content).map Text.trim)[i]?).getD [] := by
    intro member
    cases found : ((Text.cut '|' content).map Text.trim)[i]? with
    | none => simp [found] at member
    | some trimmed =>
      rw [found, Option.getD_some] at member
      obtain ⟨raw, inside, rfl⟩ := List.mem_map.mp (List.mem_of_getElem? found)
      exact free (Text.mem_of_mem_cut inside (Text.mem_of_mem_trim member))
  refine ⟨?_, part 1, ?_⟩
  · split
    · exact apart
    · exact part 0
  · split
    · exact free
    · exact part 2

theorem mem_ofCode {make : List Text → Block} :
    block ∈ ofCode lines make ↔ lines ≠ [] ∧ block = make lines := by
  unfold ofCode
  split
  · rename_i none
    simp [List.isEmpty_iff.mp none]
  · rename_i some
    simp [List.isEmpty_iff.not.mp some]

/-- The block of a tag line: a heading, an image, or code with at least one line. -/
theorem of_mem_ofTagLine (member : block ∈ ofTagLine tag body) :
    (∃ level, 0 < level ∧ block = .heading level tag.content) ∨ block = ofImage tag.content ∨
      ∃ lines, lines ≠ [] ∧ lines.length ≤ body.length + 1 ∧
        (∀ l ∈ lines, l = tag.content ∨ l ∈ body) ∧
        (block = .copy lines ∨ ∃ interrupt, block = .exec lines interrupt) := by
  have size : (if tag.content.isEmpty then body else tag.content :: body).length ≤
      body.length + 1 := by
    split
    · exact Nat.le_succ _
    · exact Nat.le_refl _
  have origin : ∀ l ∈ (if tag.content.isEmpty then body else tag.content :: body),
      l = tag.content ∨ l ∈ body := by
    intro l inside
    split at inside
    · exact Or.inr inside
    · exact List.mem_cons.mp inside
  unfold ofTagLine at member
  cases role : tag.role with
  | heading level =>
    rw [role] at member
    exact Or.inl ⟨level, TagLine.heading_pos role, List.mem_singleton.mp member⟩
  | image =>
    rw [role] at member
    exact Or.inr (Or.inl (List.mem_singleton.mp member))
  | copy =>
    rw [role] at member
    obtain ⟨some, same⟩ := mem_ofCode.mp member
    exact Or.inr (Or.inr ⟨_, some, size, origin, Or.inl same⟩)
  | exec interrupt =>
    rw [role] at member
    obtain ⟨some, same⟩ := mem_ofCode.mp member
    exact Or.inr (Or.inr ⟨_, some, size, origin, Or.inr ⟨interrupt, same⟩⟩)

/-- What holds of the blocks of plain lines and of tag lines holds of all blocks of a page. -/
theorem forall_ofLinesFrom {P : Block → Prop} (plain : ∀ line ∈ lines, P (ofPlainLine line))
    (tagged : ∀ line ∈ lines, ∀ tag, tagLine? line = some tag → ∀ body, body ⊆ lines →
      ∀ block ∈ ofTagLine tag body, P block) : ∀ block ∈ ofLinesFrom skip lines, P block := by
  induction lines generalizing skip with
  | nil => simp [ofLinesFrom]
  | cons line lines ih =>
    have others {skip : Nat} : ∀ block ∈ ofLinesFrom skip lines, P block :=
      ih (fun l member => plain l (List.mem_cons_of_mem line member))
        (fun l member tag read body part =>
          tagged l (List.mem_cons_of_mem line member) tag read body
            (List.subset_cons_of_subset line part))
    cases skip with
    | succ skip => exact others
    | zero =>
      intro block member
      rw [ofLinesFrom] at member
      split at member
      · rcases List.mem_cons.mp member with rfl | later
        · exact plain line List.mem_cons_self
        · exact others block later
      · rename_i tag read
        rcases List.mem_append.mp member with here | later
        · refine tagged line List.mem_cons_self tag read _ (fun l inside => ?_) block here
          split at inside
          · exact List.mem_cons_of_mem line ((List.takeWhile_prefix _).subset inside)
          · contradiction
        · exact others block later

/-- A block holds no character that its lines lack, except for the name of an unnamed image. -/
theorem free_ofLinesFrom (apart : c ∉ ("image" : Text)) (free : ∀ l ∈ lines, c ∉ l) :
    ∀ block ∈ ofLinesFrom skip lines, block.Free c := by
  refine forall_ofLinesFrom (fun line member => free_ofPlainLine (free line member)) ?_
  intro line member tag read body part block inside
  have content : c ∉ tag.content := fun here => free line member (mem_of_mem_content read here)
  rcases of_mem_ofTagLine inside with ⟨level, _, rfl⟩ | rfl | ⟨code, _, _, origin, same⟩
  · exact content
  · exact free_ofImage apart content
  · have each : ∀ l ∈ code, c ∉ l := by
      intro l known
      rcases origin l known with rfl | here
      · exact content
      · exact free l (part here)
    rcases same with rfl | ⟨interrupt, rfl⟩
    · exact each
    · exact each

theorem length_ofTagLine_le (tag : TagLine) (body : List Text) :
    (ofTagLine tag body).length ≤ 1 := by
  have code (lines : List Text) (make : List Text → Block) : (ofCode lines make).length ≤ 1 := by
    unfold ofCode
    split
    · exact Nat.zero_le 1
    · exact Nat.le_refl 1
  unfold ofTagLine
  cases tag.role with
  | heading level => exact Nat.le_refl 1
  | image => exact Nat.le_refl 1
  | copy => exact code _ _
  | exec interrupt => exact code _ _

/-- No line makes more than one block. -/
theorem length_ofLinesFrom_le (skip : Nat) (lines : List Text) :
    (ofLinesFrom skip lines).length ≤ lines.length := by
  induction lines generalizing skip with
  | nil => simp [ofLinesFrom]
  | cons line lines ih =>
    cases skip with
    | succ skip => exact Nat.le_succ_of_le (ih skip)
    | zero =>
      rw [ofLinesFrom]
      split
      · exact Nat.succ_le_succ (ih 0)
      · rename_i tag read
        have one :=
          length_ofTagLine_le tag (if tag.role.opensCode then lines.takeWhile isBodyLine else [])
        have others := ih (if tag.role.opensCode then lines.takeWhile isBodyLine else []).length
        rw [List.length_append, List.length_cons]
        omega

theorem length_of_page_le (page : Text) :
    (ofLines (Markup.lines page)).length ≤ page.length + 1 :=
  (length_ofLinesFrom_le 0 (Markup.lines page)).trans (length_lines_le page)

theorem whole_of_page (page : Text) : ∀ block ∈ ofLines (Markup.lines page), block.Whole := by
  have free : ∀ block ∈ ofLines (Markup.lines page), block.Free '\n' :=
    free_ofLinesFrom (by decide) fun l member => Text.cut_free member
  suffices ∀ block ∈ ofLines (Markup.lines page), block.Free '\n' → block.Whole from
    fun block member => this block member (free block member)
  refine forall_ofLinesFrom (fun line _ free => ?_) (fun line _ tag _ body _ block inside free => ?_)
  · unfold ofPlainLine
    split
    · trivial
    · rename_i visible
      rwa [ofPlainLine, if_neg visible] at free
  · rcases of_mem_ofTagLine inside with ⟨level, pos, rfl⟩ | rfl | ⟨code, some, _, _, same⟩
    · exact ⟨pos, free⟩
    · exact free
    · rcases same with rfl | ⟨interrupt, rfl⟩
      · exact ⟨some, free⟩
      · exact ⟨some, free⟩

end Block
end LabEditor.Markup
