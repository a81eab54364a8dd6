import LabEditor.Proofs.Detection.Parts
import LabEditor.Proofs.Detection.Span
import LabEditor.Proofs.Token

/-! A protected page line by line. Each line has numbers in the places of its code spans, each
block has a number for a line, and these numbers stand for what was set aside. -/
namespace LabEditor.Detection

variable {spans : List Text}

/-- A line with the spans found in it; a block is a span of its own. -/
def spansOf : Piece Text Text → List (Piece CodePoint Text)
  | .plain line => inlinePattern.pieces line
  | .hit block => [.hit block]

/-- The lines of a page, where whole blocks are set aside already, with numbers for their spans. -/
def numbered : (next : Nat) → List (Piece Text Nat) → List (List (Piece CodePoint Nat))
  | _, [] => []
  | next, .plain line :: ps =>
    Piece.number next (inlinePattern.pieces line) ::
      numbered (next + ((inlinePattern.pieces line).filterMap Piece.value?).length) ps
  | next, .hit n :: ps => [.hit n] :: numbered next ps

/-- A line with the spans found in it, where the token of a block is a text like any other. -/
def scanned : Piece Text Nat → List (Piece CodePoint Text)
  | .plain line => inlinePattern.pieces line
  | .hit n => (spanMarks.token n).map .plain

theorem token_free (n : Nat) : ('\x60' : CodePoint) ∉ spanMarks.token n :=
  TokenMarks.not_mem_token (by decide) (by decide) n

theorem pieces_tokens (ps : List (Piece Text Nat)) :
    inlinePattern.pieces (Text.glue '\n' (Piece.writeAll (fun n => [spanMarks.token n]) ps)) =
      Piece.glue '\n' (ps.map scanned) := by
  rw [pieces_glue]
  congr 1
  induction ps with
  | nil => rfl
  | cons piece ps ih =>
    cases piece with
    | plain line => exact congrArg (inlinePattern.pieces line :: ·) ih
    | hit n =>
      rw [Piece.writeAll_hit, List.map_append, ih, List.map_singleton, pieces_free (token_free n)]
      rfl

theorem values_scanned_hit (n : Nat) : (scanned (.hit n)).filterMap Piece.value? = [] := by
  simp [scanned, Piece.value?]

theorem spell_numbered (next : Nat) (ps : List (Piece Text Nat)) :
    (Piece.numberLines next (ps.map scanned)).map spanMarks.spell =
      (numbered next ps).map spanMarks.spell := by
  induction ps generalizing next with
  | nil => rfl
  | cons piece ps ih =>
    cases piece with
    | plain line => exact congrArg (spanMarks.spell _ :: ·) (ih _)
    | hit n =>
      have token : spanMarks.spell ((spanMarks.token n).map .plain) = spanMarks.spell [.hit n] := by
        rw [TokenMarks.spell, Piece.writeAll_plains]
        exact (List.append_nil _).symm
      rw [List.map_cons, Piece.numberLines, values_scanned_hit, List.map_cons, List.length_nil,
        Nat.add_zero, ih, scanned, Piece.number_plains, token]
      rfl

/-- A protected page, line by line. -/
theorem protect_text (page : Text) : (protect page).text = Text.glue '\n'
    ((numbered ((parts page).filterMap Piece.value?).length (Piece.number 0 (parts page))).map
      spanMarks.spell) := by
  rw [protect]
  simp only [Piece.setAside_eq]
  rw [← parts, pieces_tokens, Piece.number_glue, Piece.writeAll_glue]
  exact congrArg (Text.glue '\n') (spell_numbered _ _)

/-- The spans of the lines between the blocks. -/
def inlines (ps : List (Piece Text Text)) : List Text :=
  ps.flatMap fun
    | .plain line => (inlinePattern.pieces line).filterMap Piece.value?
    | .hit _ => []

theorem values_scanned (first : Nat) (ps : List (Piece Text Text)) :
    ((Piece.number first ps).map scanned).flatMap (List.filterMap Piece.value?) = inlines ps := by
  induction ps generalizing first with
  | nil => rfl
  | cons piece ps ih =>
    cases piece with
    | plain line =>
      rw [Piece.number, List.map_cons, List.flatMap_cons, ih]
      rfl
    | hit block =>
      rw [Piece.number, List.map_cons, List.flatMap_cons, ih, values_scanned_hit]
      rfl

theorem protect_spans (page : Text) :
    (protect page).spans = (parts page).filterMap Piece.value? ++ inlines (parts page) := by
  rw [protect]
  simp only [Piece.setAside_eq]
  rw [← parts, pieces_tokens, Piece.values_glue, values_scanned]

/-- A line in which each number stands for a span. -/
def Stands (spans : List Text) (numbers : List (Piece CodePoint Nat)) (line : List (Piece CodePoint Text)) :
    Prop :=
  numbers.map (Piece.map fun n => spans[n]?) = line.map (Piece.map some)

theorem stands_numbered {ps : List (Piece Text Text)} (blocks : Piece.Holds spans first ps)
    (later : Piece.Lists spans next (inlines ps)) :
    List.Forall₂ (Stands spans) (numbered next (Piece.number first ps)) (ps.map spansOf) := by
  induction ps generalizing first next with
  | nil => exact .nil
  | cons piece ps ih =>
    cases piece with
    | plain line => exact .cons (Piece.number_map later.left) (ih blocks.tail later.right)
    | hit block =>
      have here : spans[first]? = some block := blocks 0 block rfl
      refine .cons ?_ (ih blocks.tail later)
      rw [Stands, spansOf, List.map_singleton, List.map_singleton, Piece.map, Piece.map, here]

theorem stands_protected (page : Text) : List.Forall₂ (Stands (protect page).spans)
    (numbered ((parts page).filterMap Piece.value?).length (Piece.number 0 (parts page)))
    ((parts page).map spansOf) := by
  rw [protect_spans]
  refine stands_numbered ?_ ?_
  · exact Piece.lists_append [] ((parts page).filterMap Piece.value?) (inlines (parts page))
  · have lists := Piece.lists_append ((parts page).filterMap Piece.value?) (inlines (parts page)) []
    rwa [List.append_nil] at lists

/-- A line without the carriage return that may end it. -/
def chompPieces : List (Piece CodePoint α) → List (Piece CodePoint α)
  | [] => []
  | [.plain '\r'] => []
  | piece :: ps => piece :: chompPieces ps

theorem chompPieces_cons (piece : Piece CodePoint α) (more : ps ≠ []) :
    chompPieces (piece :: ps) = piece :: chompPieces ps := by
  rw [chompPieces]
  rintro rfl rfl
  contradiction

theorem chompPieces_append_return (ps : List (Piece CodePoint α)) :
    chompPieces (ps ++ [.plain '\r']) = ps := by
  induction ps with
  | nil => rfl
  | cons piece ps ih => rw [List.cons_append, chompPieces_cons piece (by simp), ih]

theorem chompPieces_cases (ps : List (Piece CodePoint α)) :
    ps = chompPieces ps ∨ ps = chompPieces ps ++ [.plain '\r'] := by
  fun_induction chompPieces ps with
  | case1 => exact Or.inl rfl
  | case2 => exact Or.inr rfl
  | case3 piece ps _ ih => exact ih.imp (congrArg (piece :: ·)) (congrArg (piece :: ·))

theorem chompPieces_map (f : α → β) (ps : List (Piece CodePoint α)) :
    (chompPieces ps).map (Piece.map f) = chompPieces (ps.map (Piece.map f)) := by
  fun_induction chompPieces ps with
  | case1 => rfl
  | case2 => rfl
  | case3 piece ps apart ih =>
    rw [List.map_cons, List.map_cons, ih, chompPieces]
    intro same none
    refine apart ?_ (List.map_eq_nil_iff.mp none)
    cases piece with
    | plain c => exact congrArg Piece.plain (Piece.plain.inj same)
    | hit value => contradiction

theorem chomp_token (n : Nat) : Text.chomp (spanMarks.token n) = spanMarks.token n := by
  rw [TokenMarks.token, Text.chomp_append _ (by simp), Text.chomp_singleton (by decide)]

theorem spell_chomp (ps : List (Piece CodePoint Nat)) :
    Text.chomp (spanMarks.spell ps) = spanMarks.spell (chompPieces ps) := by
  fun_induction chompPieces ps with
  | case1 => rfl
  | case2 => rfl
  | case3 piece ps apart ih =>
    have front : spanMarks.spell (piece :: ps) =
        piece.write spanMarks.token ++ spanMarks.spell ps := rfl
    have behind : spanMarks.spell (piece :: chompPieces ps) =
        piece.write spanMarks.token ++ spanMarks.spell (chompPieces ps) := rfl
    rw [front, behind, ← ih]
    by_cases last : ps = []
    · subst last
      simp only [TokenMarks.spell, Piece.writeAll_nil, Text.chomp, List.append_nil]
      cases piece with
      | plain c => exact Text.chomp_singleton fun same => apart (congrArg Piece.plain same) rfl
      | hit n => exact chomp_token n
    · refine Text.chomp_append _ ?_
      obtain ⟨next, rest, rfl⟩ := List.exists_cons_of_ne_nil last
      cases next <;> simp [TokenMarks.spell, TokenMarks.token]

theorem number_chomp (first : Nat) (ps : List (Piece CodePoint α)) :
    Piece.number first (chompPieces ps) = chompPieces (Piece.number first ps) := by
  fun_induction chompPieces ps generalizing first with
  | case1 => rfl
  | case2 => rfl
  | case3 piece ps apart ih =>
    cases piece with
    | plain c =>
      rw [Piece.number, Piece.number, chompPieces, ih]
      intro same none
      refine apart (congrArg Piece.plain (Piece.plain.inj same)) ?_
      cases ps with
      | nil => rfl
      | cons next ps => cases next <;> contradiction
    | hit value =>
      rw [Piece.number, Piece.number, chompPieces, ih]
      exact fun same => by contradiction

theorem values_chomp (ps : List (Piece CodePoint α)) :
    (chompPieces ps).filterMap Piece.value? = ps.filterMap Piece.value? := by
  rcases chompPieces_cases ps with same | same
  · rw [← same]
  · conv_rhs => rw [same]
    simp [Piece.value?]

/-- The spans of a line are the same without the carriage return of its end. -/
theorem pieces_chomp (line : Text) :
    chompPieces (inlinePattern.pieces line) = inlinePattern.pieces (Text.chomp line) := by
  rcases Text.chomp_cases line with same | same
  · rcases chompPieces_cases (inlinePattern.pieces line) with kept | dropped
    · rw [← kept, ← same]
    · -- A line that is its own `chomp` has no carriage return for its last piece.
      have text := congrArg (Piece.writeAll id) dropped
      rw [text_pieces, Piece.writeAll_append] at text
      have shorter := congrArg Text.chomp text
      rw [← same, Piece.writeAll_plain, Piece.writeAll_nil,
        Text.chomp_append _ (by simp)] at shorter
      have sizes := congrArg List.length (text.symm.trans shorter)
      simp [Text.chomp] at sizes
  · conv_lhs => rw [same]
    rw [pieces_return, chompPieces_append_return]

theorem Stands.chomp (stands : Stands spans numbers line) :
    Stands spans (chompPieces numbers) (chompPieces line) := by
  rw [Stands, chompPieces_map, chompPieces_map]
  exact congrArg chompPieces stands

theorem Stands.plain_mem (stands : Stands spans numbers line) (member : .plain c ∈ numbers) :
    .plain c ∈ line := by
  have image : .plain c ∈ line.map (Piece.map some) := stands ▸ List.mem_map_of_mem member
  obtain ⟨piece, inside, same⟩ := List.mem_map.mp image
  cases piece with
  | plain d =>
    cases same
    exact inside
  | hit span => contradiction

theorem Stands.hit_mem (stands : Stands spans numbers line) (member : .hit n ∈ numbers) :
    ∃ span, spans[n]? = some span ∧ .hit span ∈ line := by
  have image : .hit spans[n]? ∈ line.map (Piece.map some) := stands ▸ List.mem_map_of_mem member
  obtain ⟨piece, inside, same⟩ := List.mem_map.mp image
  cases piece with
  | plain d => contradiction
  | hit span => exact ⟨span, (Piece.hit.inj same).symm, inside⟩

theorem Stands.writeAll (stands : Stands spans numbers line) :
    Piece.writeAll (fun n => (spans[n]?.map id).getD []) numbers = Piece.writeAll id line := by
  have through := Piece.writeAll_map (fun span? : Option Text => (span?.map id).getD [])
    (fun n => spans[n]?) numbers
  rw [stands, Piece.writeAll_map] at through
  exact through.symm

theorem spansOf_chomp (part : Piece Text Text) :
    chompPieces (spansOf part) = spansOf (chompPart part) := by
  cases part with
  | plain line => exact pieces_chomp line
  | hit block => rfl

theorem mem_spell {ps : List (Piece CodePoint Nat)} (member : c ∈ spanMarks.spell ps) :
    .plain c ∈ ps ∨ ∃ n, c ∈ spanMarks.token n := by
  obtain ⟨piece, inside, written⟩ := List.mem_flatMap.mp member
  cases piece with
  | plain d =>
    cases List.mem_singleton.mp written
    exact Or.inl inside
  | hit n => exact Or.inr ⟨n, written⟩

/-- The lines that the rules see: each is a line of the page with numbers in it. -/
theorem lines_protect (page : Text) : Markup.lines (protect page).text =
    (exceptLast chompPieces (numbered ((parts page).filterMap Piece.value?).length
      (Piece.number 0 (parts page)))).map spanMarks.spell := by
  have stands := stands_protected page
  have oneLine : ∀ line ∈ Text.cut '\n' page, ('\n' : CodePoint) ∉ line := fun line => Text.cut_free
  rw [protect_text, Text.lines_eq]
  generalize numbered _ _ = numbers at stands
  -- Both cutting the page and dropping its carriage returns go line by line from here on.
  have some : numbers ≠ [] := by
    rintro rfl
    exact parts_ne_nil page (List.map_eq_nil_iff.mp (List.forall₂_nil_left_iff.mp stands))
  have free : ∀ line ∈ numbers.map spanMarks.spell, ('\n' : CodePoint) ∉ line := by
    refine List.forall_mem_map.mpr (forall_of_forall₂ stands fun numbers line known stands member =>
      ?_)
    obtain ⟨part, inside, rfl⟩ := List.mem_map.mp known
    rcases mem_spell member with plain | ⟨n, token⟩
    · cases part with
      | plain line =>
        have here := Pattern.mem_of_plain_mem_scan (stands.plain_mem plain)
        exact oneLine line (plain_mem_parts inside) here
      | hit block => simpa [spansOf] using stands.plain_mem plain
    · exact TokenMarks.not_mem_token (by decide) (by decide) n token
  rw [Text.cut_glue free (by simpa using some), exceptLast_map spell_chomp]

/-- What the numbers of a line stand for makes up a line of the page. -/
theorem protected_lines (page : Text) : ∃ numbers,
    Markup.lines (protect page).text = numbers.map spanMarks.spell ∧
      List.Forall₂ (Stands (protect page).spans) numbers ((sheet page).map spansOf) := by
  refine ⟨_, lines_protect page, ?_⟩
  rw [sheet, ← exceptLast_map spansOf_chomp]
  exact exceptLast_forall₂ (fun _ _ => Stands.chomp) (stands_protected page)

/-- A line that gives way to a text when its numbers give way to spans. -/
def Restores (spans : List Text) (numbers : List (Piece CodePoint Nat)) (t : Text) : Prop :=
  ∃ line, Stands spans numbers line ∧ (∀ c, .plain c ∈ line → c ≠ spanMarks.opening) ∧
    Piece.writeAll id line = t

theorem tokens_spell {ps : List (Piece CodePoint Nat)}
    (unmarked : ∀ c, .plain c ∈ ps → c ≠ spanMarks.opening) :
    tokenPattern.pieces (spanMarks.spell ps) = ps.map (Piece.map Text.digits) :=
  (TokenMarks.scans_spell (fun c member _ => TokenMarks.read?_plain (unmarked c member))
    (fun n _ _ _ => TokenMarks.read?_token (by decide) n _) none).pieces

theorem Restores.unmarked (restores : Restores spans numbers t) :
    ∀ c, .plain c ∈ numbers → c ≠ spanMarks.opening := by
  obtain ⟨_, stands, unmarked, _⟩ := restores
  exact fun c member => unmarked c (stands.plain_mem member)

theorem tokens_glue {lines : List (List (Piece CodePoint Nat))}
    (related : List.Forall₂ (Restores spans) lines texts) :
    tokenPattern.pieces (Text.glue '\n' (lines.map spanMarks.spell)) =
      (Piece.glue '\n' lines).map (Piece.map Text.digits) := by
  have spelled : spanMarks.spell (Piece.glue '\n' lines) =
      Text.glue '\n' (lines.map spanMarks.spell) :=
    Piece.writeAll_glue _ _ _
  have apart :=
    forall_of_forall₂ related (P := fun line => ∀ c, .plain c ∈ line → c ≠ spanMarks.opening)
    fun _ _ _ => Restores.unmarked
  rw [← spelled]
  refine tokens_spell fun c member => ?_
  rcases Piece.mem_glue member with same | ⟨line, known, inside⟩
  · cases same
    decide
  · exact apart line known c inside

theorem writeAll_restores {lines : List (List (Piece CodePoint Nat))}
    (related : List.Forall₂ (Restores spans) lines texts) :
    Piece.writeAll (fun n => (spans[n]?.map id).getD []) (Piece.glue '\n' lines) =
      Text.glue '\n' texts := by
  rw [Piece.writeAll_glue]
  congr 1
  induction related with
  | nil => rfl
  | cons here _ ih =>
    obtain ⟨line, stands, _, same⟩ := here
    rw [List.map_cons, ih, stands.writeAll, same]

theorem restore_eq (spans : List Text) (t : Text) : restore spans t =
    Piece.writeAll? (fun digits => (resolve spans digits).map id) (tokenPattern.pieces t) := by
  have same : (fun digits => (resolve spans digits).map id) = resolve spans := by
    funext digits
    cases resolve spans digits <;> rfl
  rw [same, restore]

/-- Tokens give way to the spans that they stand for, or to nothing. -/
theorem of_restore {lines : List (List (Piece CodePoint Nat))}
    (related : List.Forall₂ (Restores spans) lines texts)
    (restored : restore spans (Text.glue '\n' (lines.map spanMarks.spell)) = .ok out) :
    out = Text.glue '\n' texts := by
  rw [restore_eq, tokens_glue related] at restored
  rw [of_writeAll?_resolve restored, writeAll_restores related]

theorem restore_total {lines : List (List (Piece CodePoint Nat))}
    (related : List.Forall₂ (Restores spans) lines texts)
    (few : spans.length ≤ 10 ^ Text.maxDigits) :
    restore spans (Text.glue '\n' (lines.map spanMarks.spell)) = .ok (Text.glue '\n' texts) := by
  have known : ∀ n, .hit n ∈ Piece.glue '\n' lines → n < spans.length := by
    intro n member
    rcases Piece.mem_glue member with same | ⟨line, inside, here⟩
    · cases same
    · have found :=
        forall_of_forall₂ related (P := fun line => ∀ n, .hit n ∈ line → n < spans.length)
        fun _ _ _ ⟨_, stands, _, _⟩ n member =>
          let ⟨_, found, _⟩ := stands.hit_mem member
          (List.getElem?_eq_some_iff.mp found).1
      exact found line inside n here
  rw [restore_eq, tokens_glue related, writeAll?_resolve id few known, writeAll_restores related]

end LabEditor.Detection
