import LabEditor.Proofs.Preview.Part
import LabEditor.Proofs.Preview.Stray
import LabEditor.Proofs.Preview.Styled
import LabEditor.Proofs.Text.Reference

/-! The preview of a page that is made of parts. Styled is not only the code that a marker directly
follows: code without a marker is styled together with all that follows it, up to the first code that
has one. -/
namespace LabEditor.Preview

variable {c t u behind : Text} {tags : List Text} {part : Part} {parts : List Part}
  {pieces : List (Piece Part StyledCode)} {reach : Reach}

/-- A page is the HTML of its parts, each on rows of its own. -/
def page (parts : List Part) : Text :=
  Text.glue '\n' (parts.map Part.html)

/-- What is shown of a part: its HTML, or the styled code in its place. -/
def shownPart : Piece Part StyledCode → Text
  | .plain part => part.html
  | .hit code => code.write

def shown (pieces : List (Piece Part StyledCode)) : Text :=
  Text.glue '\n' (pieces.map shownPart)

theorem Part.tagged_code (free : ('<' : CodePoint) ∉ c) :
    Tagged ["<code>", "</code></pre>", "</pre>"] ("pre><code>" ++ (c ++ codeClose)) :=
  (Tagged.of_tails (by decide)).append ((Tagged.of_free free).append (.of_tails (by decide)))

/-- Nothing of a part is read that is not read at the front of a code. -/
theorem fencedPattern_part (plain : part.Plain) (none : ∀ before, part.isCode = true →
      fencedPattern before (part.html ++ behind) = none) (inside : u <:+ part.html) (some : u ≠ [])
    (before : Option CodePoint) : fencedPattern before (u ++ behind) = .none := by
  cases part with
  | code c =>
    have whole : (Part.code c).html = ('<' : CodePoint) :: ("pre><code>" ++ (c ++ codeClose)) := rfl
    rw [whole] at inside
    rcases List.suffix_cons_iff.mp inside with rfl | inner
    · exact none before rfl
    · exact fencedPattern_unread (Part.tagged_code plain) (by decide) inner some behind before
  | marker kind interrupt =>
    exact fencedPattern_unread (Part.tagged_html plain rfl) (by decide) inside some behind before
  | paragraph t =>
    exact fencedPattern_unread (Part.tagged_html plain rfl) (by decide) inside some behind before

theorem scans_below {seen : Option Part} (plain : ∀ part ∈ parts, part.Plain)
    (scans : reachedCode.Scans seen parts pieces) : ∃ ps : List (Piece CodePoint Text),
      (∀ before, fencedPattern.Scans before (below parts) ps) ∧
        Piece.writeAll id ps = lineUp (pieces.map shownPart) := by
  induction scans with
  | done => exact ⟨[], fun _ => .done, rfl⟩
  | @plain seen part parts pieces none _ ih =>
    obtain ⟨here, others⟩ := List.forall_mem_cons.mp plain
    obtain ⟨ps, later, written⟩ := ih others
    have unread before (code : part.isCode = true) :
        fencedPattern before (part.html ++ below parts) = .none := by
      cases part with
      | code c =>
        rw [fencedPattern_code others here]
        exact congrArg (Option.map _) none
      | marker kind interrupt => cases code
      | paragraph t => cases code
    refine ⟨.plain '\n' :: (part.html.map .plain ++ ps), fun before => .plain ?_ ?_, ?_⟩
    · rfl
    · refine .over (fun u inside some before => ?_) later _
      exact fencedPattern_part here unread inside some before
    · rw [Piece.writeAll_plain, Piece.writeAll_append, Piece.writeAll_plains, written]
      simp [lineUp, shownPart]
  | @hit seen part between rest code pieces found _ ih =>
    obtain ⟨here, others⟩ := List.forall_mem_cons.mp plain
    obtain ⟨ps, later, written⟩ :=
      ih fun other member => others other (List.mem_append_right between member)
    cases part with
    | code c =>
      have shape : below (.code c :: (between ++ rest)) = ('\n' : CodePoint) :: '<' ::
          (("pre><code>" ++ (c ++ codeClose) ++ below between) ++ below rest) := by
        rw [below_cons, below_append, ← List.append_assoc]
        rfl
      refine ⟨.plain '\n' :: .hit code.write :: ps, fun before => ?_, ?_⟩
      · rw [shape]
        refine .plain rfl (.hit ?_ (later _))
        have read := fencedPattern_code others here (some '\n')
        rw [below_append, ← List.append_assoc] at read
        exact read.trans (congrArg (Option.map _) found)
      · rw [Piece.writeAll_plain, Piece.writeAll_hit, written]
        rfl
    | marker kind interrupt => cases found
    | paragraph t => cases found

/-- A page with each code that reaches a marker in the place of all that it reaches over. -/
theorem replace_page (plain : ∀ part ∈ parts, part.Plain) :
    fencedPattern.replace id (page parts) = shown (reachedCode.pieces parts) := by
  have scans := Pattern.scans_pieces consumes_reached parts
  obtain ⟨ps, each, written⟩ := scans_below plain scans
  rcases parts with _ | ⟨part, parts⟩
  · rfl
  · have rows : below (part :: parts) = ('\n' : CodePoint) :: page (part :: parts) :=
      lineUp_eq (List.cons_ne_nil _ _)
    have some : (reachedCode.pieces (part :: parts)).map shownPart ≠ [] :=
      mt List.map_eq_nil_iff.mp scans.ne_nil
    have whole := each none
    rw [rows] at whole
    rw [lineUp_eq some, whole.tail rfl fun _ => rfl] at written
    exact (List.cons.inj written).2

/-- The tags within a match, in which no code ends that its block could end with. -/
def innerTags : List Text :=
  ["<pre><code>", "<code>", "</code></pre>\n", "</pre>\n", "<p>", "</p>"]

theorem Tagged.glue {ts : List Text} (each : ∀ t ∈ ts, Tagged tags t) :
    Tagged tags (Text.glue '\n' ts) := by
  induction ts with
  | nil => exact .of_free List.not_mem_nil
  | cons t ts ih =>
    obtain ⟨here, others⟩ := List.forall_mem_cons.mp each
    have feed : Tagged tags ['\n'] := .of_free (by decide)
    by_cases more : ts = []
    · rw [more]
      exact here
    · rw [Text.glue_cons t more]
      exact here.append (feed.append (ih others))

/-- The tags of parts. -/
def partTags : List Text :=
  ["<pre><code>", "<code>", "</code></pre>", "</pre>", "<p>", "</p>"]

theorem tagged_part (plain : part.Plain) : Tagged partTags part.html := by
  cases part with
  | code c =>
    exact (Tagged.of_tails (by decide)).append
      ((Tagged.of_free plain).append (.of_tails (by decide)))
  | marker kind interrupt => exact (Part.tagged_html plain rfl).mono (by decide)
  | paragraph t => exact (Part.tagged_html plain rfl).mono (by decide)

/-- An end of code that other parts stand behind. -/
theorem tagged_closed (tagged : Tagged innerTags (below parts ++ ('\n' : CodePoint) :: t)) :
    Tagged innerTags (codeClose ++ (below parts ++ ('\n' : CodePoint) :: t)) := by
  obtain ⟨more, shape⟩ : ∃ more, below parts ++ ('\n' : CodePoint) :: t = ('\n' : CodePoint) :: more := by
    cases parts with
    | nil => exact ⟨t, rfl⟩
    | cons part parts => exact ⟨_, rfl⟩
  have whole : codeClose ++ ('\n' : CodePoint) :: more = (codeClose ++ (['\n'] : Text)) ++ more := by simp
  rw [shape] at tagged ⊢
  rw [whole]
  exact (Tagged.of_tails (by decide)).append (tagged.suffix (List.suffix_cons _ more))

theorem tagged_below (plain : ∀ part ∈ parts, part.Plain) (tagged : Tagged innerTags ('\n' :: t)) :
    Tagged innerTags (below parts ++ ('\n' : CodePoint) :: t) := by
  have feed : Tagged innerTags ['\n'] := .of_free (by decide)
  induction parts with
  | nil => exact tagged
  | cons part parts ih =>
    obtain ⟨here, others⟩ := List.forall_mem_cons.mp plain
    have later := ih others
    rw [below_cons, ← List.singleton_append, List.append_assoc, List.append_assoc]
    refine feed.append ?_
    cases part with
    | code c =>
      rw [Part.html, List.append_assoc, List.append_assoc]
      exact (Tagged.of_tails (by decide)).append
        ((Tagged.of_free here).append (tagged_closed later))
    | marker kind interrupt => exact ((Part.tagged_html here rfl).mono (by decide)).append later
    | paragraph t => exact ((Part.tagged_html here rfl).mono (by decide)).append later

theorem tagged_inside (plain : ∀ part ∈ parts, part.Plain) (free : ('<' : CodePoint) ∉ c) :
    Tagged innerTags (inside parts c) := by
  unfold inside
  split
  · rename_i first middle
    have opening : Tagged innerTags ('\n' :: codeOpen) := .of_tails (by decide)
    have last : Tagged innerTags ('\n' :: (codeOpen ++ c)) := opening.append (.of_free free)
    obtain ⟨here, others⟩ := List.forall_mem_cons.mp plain
    exact (Tagged.of_free here).append (tagged_closed (tagged_below others last))
  · exact .of_free free

/-- What the code of a page that is found with a marker is written with. -/
theorem tagged_reached {code : StyledCode} (plain : ∀ part ∈ parts, part.Plain)
    (found : .hit code ∈ reachedCode.pieces parts) : Tagged innerTags code.html := by
  obtain ⟨seen, suffix, rest, tail, read⟩ := Pattern.read_of_hit_mem_scan found
  obtain ⟨reach, first, rfl, rfl, _⟩ := of_reachedCode read
  have shape := of_firstMarked? first
  have known (part : Part) (member : part ∈ reach.front ∨ part = .code reach.code) :
      part.Plain := by
    refine plain part (tail.subset ?_)
    rw [shape, List.mem_append, List.mem_cons]
    exact member.imp_right .inl
  have free : ('<' : CodePoint) ∉ reach.code := known (.code reach.code) (.inr rfl)
  exact tagged_inside (fun part member => known part (.inl member)) (strip_free free)

theorem tagged_write {code : StyledCode} (tagged : Tagged innerTags code.html) :
    Tagged pageTags code.write := by
  have opening : Tagged pageTags (openTag code.kind code.interrupt) :=
    (tagged_openTag code.kind code.interrupt).mono (by decide)
  have shape := styledBlock_append code.kind code.html code.interrupt []
  rw [List.append_nil, List.append_nil] at shape
  rw [StyledCode.write, shape]
  exact opening.append ((tagged.mono (by decide)).append (.of_tails (by decide)))

theorem tagged_shown (plain : ∀ part, .plain part ∈ pieces → part.Plain)
    (coded : ∀ code, .hit code ∈ pieces → Tagged innerTags code.html) :
    Tagged pageTags (shown pieces) := by
  refine .glue fun t member => ?_
  obtain ⟨piece, known, rfl⟩ := List.mem_map.mp member
  cases piece with
  | plain part => exact (tagged_part (plain part known)).mono (by decide)
  | hit code => exact tagged_write (coded code known)

/-- Without tokens on it, a page is shown with each code that reaches a marker styled. -/
theorem finish_page (plain : ∀ part ∈ parts, part.Plain)
    (tokenless : stashedPattern.findAll (page parts) = []) (blocks : List Marked) :
    finish blocks (page parts) = .ok (shown (reachedCode.pieces parts)) := by
  have rendered : stashedPattern.pieces (page parts) = (page parts).map .plain :=
    Pattern.scan_plain tokenless
  have written (write : Text → Except Fault Text) :
      Piece.writeAll? write (stashedPattern.pieces (page parts)) = .ok (page parts) := by
    have none : (stashedPattern.pieces (page parts)).filterMap Piece.value? = [] := tokenless
    have each : ∀ digits, .hit digits ∈ stashedPattern.pieces (page parts) →
        write digits = .ok [] :=
      fun digits found => absurd (Piece.mem_values.mpr found) (none ▸ List.not_mem_nil)
    rw [Piece.writeAll?_eq each, rendered, Piece.writeAll_plains]
  have tagged : Tagged pageTags (shown (reachedCode.pieces parts)) :=
    tagged_shown (fun part found => plain part (Pattern.mem_of_plain_mem_scan found))
      fun _ found => tagged_reached plain found
  rw [finish, written, Except.map, replace_page plain, tagged.replaced]

/-- A token stands for nothing where no block is set aside. -/
theorem finish_tokens (tokens : stashedPattern.findAll t ≠ []) (out : Text) :
    finish [] t ≠ .ok out := by
  intro done
  obtain ⟨digits, others, found⟩ := List.exists_cons_of_ne_nil tokens
  have member : digits ∈ stashedPattern.findAll t := found ▸ List.mem_cons_self
  obtain ⟨block, resolved⟩ := (finish_total_iff [] t).mp ⟨out, done⟩ digits member
  unfold resolve at resolved
  split at resolved <;> contradiction

/-- The styled code of a page, as HTML. -/
def codePattern : Pattern CodePoint (Kind × Text) :=
  fun before t => blockPattern before t <|> spanPattern before t

theorem codePattern_write {code : StyledCode} (tagged : Tagged innerTags code.html)
    (before : Option CodePoint) (rest : Text) :
    codePattern before (code.write ++ rest) = some ((code.kind, code.html), rest) := by
  rw [codePattern, StyledCode.write, blockPattern_styled tagged (by decide)]
  rfl

theorem codePattern_part (plain : part.Plain) (inside : u <:+ part.html) (some : u ≠ [])
    (behind : Text) (before : Option CodePoint) : codePattern before (u ++ behind) = none := by
  have tagged := tagged_part plain
  have block : Text.after? "<div class=\"" (u ++ behind) = none :=
    tagged.unread (by decide) inside some behind
  have span : Text.after? "<code class=\"" (u ++ behind) = none :=
    tagged.unread (by decide) inside some behind
  rw [codePattern, blockPattern, spanPattern, block, span]
  rfl

theorem scans_codes (plain : ∀ part, .plain part ∈ pieces → part.Plain)
    (coded : ∀ code, .hit code ∈ pieces → Tagged innerTags code.html) :
    ∃ ps : List (Piece CodePoint (Kind × Text)),
      (∀ before, codePattern.Scans before (lineUp (pieces.map shownPart)) ps) ∧
        ps.filterMap Piece.value? =
          (pieces.filterMap Piece.value?).map fun code => (code.kind, code.html) := by
  induction pieces with
  | nil => exact ⟨[], fun _ => .done, rfl⟩
  | cons piece pieces ih =>
    obtain ⟨ps, later, values⟩ :=
      ih (fun part member => plain part (List.mem_cons_of_mem piece member))
        fun code member => coded code (List.mem_cons_of_mem piece member)
    cases piece with
    | plain part =>
      have here : part.Plain := plain part List.mem_cons_self
      have unread : ∀ u, u <:+ part.html → u ≠ [] → ∀ before,
          codePattern before (u ++ lineUp (pieces.map shownPart)) = none :=
        fun u inside some before => codePattern_part here inside some _ before
      refine ⟨.plain '\n' :: (part.html.map .plain ++ ps),
        fun before => .plain rfl (.over unread later _), ?_⟩
      rw [List.filterMap_cons, List.filterMap_append, Piece.values_plains]
      exact values
    | hit code =>
      refine ⟨.plain '\n' :: .hit (code.kind, code.html) :: ps, fun before => .plain rfl ?_, ?_⟩
      · have some : code.write ≠ [] := List.cons_ne_nil _ _
        obtain ⟨c, more, shape⟩ := List.exists_cons_of_ne_nil some
        have read := codePattern_write (coded code List.mem_cons_self) (.some '\n')
          (lineUp (pieces.map shownPart))
        change codePattern.Scans _ (code.write ++ lineUp (pieces.map shownPart)) _
        rw [shape] at read ⊢
        exact .hit read (later _)
      · exact congrArg ((code.kind, code.html) :: ·) values

theorem findAll_codes (plain : ∀ part, .plain part ∈ pieces → part.Plain)
    (coded : ∀ code, .hit code ∈ pieces → Tagged innerTags code.html) :
    codePattern.findAll (shown pieces) =
      (pieces.filterMap Piece.value?).map fun code => (code.kind, code.html) := by
  obtain ⟨ps, scans, values⟩ := scans_codes plain coded
  by_cases some : pieces = []
  · rw [some]
    rfl
  · have whole := scans none
    rw [lineUp_eq (mt List.map_eq_nil_iff.mp some)] at whole
    rw [whole.tail rfl fun _ => rfl] at values
    exact values

/-- Behind a code without a marker stands no code with one. -/
def Orderly (parts : List Part) : Prop :=
  ∀ c rest, .code c :: rest <:+ parts → rest.head?.any Part.isMarker = false →
    ∀ d kind interrupt, ¬ [.code d, .marker kind interrupt] <:+: rest

theorem firstMarked?_tail (none : firstMarked? (part :: parts) = none) :
    firstMarked? parts = .none := by
  rw [firstMarked?.eq_def] at none
  split at none
  · rename_i empty
    cases empty
  · contradiction
  · rename_i shape
    cases shape
    exact Option.map_eq_none_iff.mp none

theorem firstMarked?_eq_none_iff : firstMarked? parts = none ↔
    ∀ d kind interrupt, ¬ [.code d, .marker kind interrupt] <:+: parts := by
  constructor
  · rintro none d kind interrupt ⟨front, behind, rfl⟩
    induction front with
    | nil => cases none
    | cons part front ih => exact ih (firstMarked?_tail none)
  · intro never
    cases found : firstMarked? parts with
    | none => rfl
    | some reach =>
      refine absurd ⟨reach.front, reach.rest, ?_⟩ (never reach.code reach.kind reach.interrupt)
      rw [of_firstMarked? found]
      simp

/-- On an orderly page a code reaches no marker but one directly behind it. -/
theorem Orderly.reached (orderly : Orderly parts) (before : Option Part) {suffix : List Part}
    (part : suffix <:+ parts) : reachedCode before suffix = markedCode before suffix := by
  rcases suffix with _ | ⟨_ | _ | _, rest⟩
  · rfl
  · rename_i c
    cases marked : rest.head?.any Part.isMarker with
    | false =>
      have none : firstMarked? rest = none :=
        firstMarked?_eq_none_iff.mpr (orderly c rest part marked)
      have reached : reachedCode before (.code c :: rest) = .none := by
        rw [reachedCode, firstMarked?_cons (.inr marked), none]
        rfl
      rw [reached]
      rcases rest with _ | ⟨_ | _ | _, rest⟩
      · rfl
      · rfl
      · contradiction
      · rfl
    | true =>
      rcases rest with _ | ⟨_ | _ | _, rest⟩
      · contradiction
      · contradiction
      · rfl
      · contradiction
  · rfl
  · rfl

/-- On any other page, some code is shown with what follows it. -/
theorem orderly_of_free {seen : Option Part} (scans : reachedCode.Scans seen parts pieces)
    (free : ∀ code, .hit code ∈ pieces → ('<' : CodePoint) ∉ code.html) : Orderly parts := by
  induction scans with
  | done => exact fun c rest part => absurd (List.suffix_nil.mp part) (List.cons_ne_nil _ _)
  | @plain seen part parts pieces none _ ih =>
    intro c rest suffix unmarked
    rcases List.suffix_cons_iff.mp suffix with same | later
    · cases same
      exact firstMarked?_eq_none_iff.mp (firstMarked?_tail (Option.map_eq_none_iff.mp none))
    · exact ih (fun code member => free code (List.mem_cons_of_mem _ member)) c rest later unmarked
  | @hit seen part between rest code pieces found _ ih =>
    obtain ⟨reach, first, rfl, rfl, code⟩ := of_reachedCode found
    have shape := of_firstMarked? first
    have single : reach.front = [] := by
      have within : ('<' : CodePoint) ∉ reach.styled.html := free _ List.mem_cons_self
      cases front : reach.front with
      | nil => rfl
      | cons first middle =>
        rw [front] at shape
        cases (List.cons.inj shape).1
        refine absurd ?_ within
        rw [Reach.styled, front]
        match part, code with
        | .code c, _ => exact List.mem_append_right c (List.mem_append_left _ (by decide))
    rw [single, List.nil_append] at shape
    rw [shape]
    intro c rest suffix unmarked
    rcases List.suffix_cons_iff.mp suffix with same | inner
    · cases same
      contradiction
    · rcases List.suffix_cons_iff.mp inner with same | later
      · cases same
      · exact ih (fun code member => free code (List.mem_cons_of_mem _ member)) c rest later unmarked

theorem free_of_marked {code : StyledCode} (plain : ∀ part ∈ parts, part.Plain)
    (found : .hit code ∈ markedCode.pieces parts) : ('<' : CodePoint) ∉ code.html := by
  obtain ⟨seen, suffix, rest, tail, read⟩ := Pattern.read_of_hit_mem_scan found
  unfold markedCode at read
  split at read
  · rename_i c kind interrupt rest
    cases read
    have free : ('<' : CodePoint) ∉ c := plain (.code c) (tail.subset List.mem_cons_self)
    exact strip_free free
  · contradiction

/-- What a reader of the page gets of a code: its kind, and the text that its HTML stands for. -/
def StyledCode.Reads (code : StyledCode) (entry : Kind × Text) : Prop :=
  entry.1 = code.kind ∧ Text.Reads code.html entry.2

/-- The code read from a page is some styled code in order; nothing but too long a number in a
character reference keeps it from being read. -/
def Lists (html : Text) (styled : List StyledCode) : Prop :=
  (∀ entries, codeBlocks html = .ok entries ↔ List.Forall₂ StyledCode.Reads styled entries) ∧
    ((∀ code ∈ styled, Text.ShortNumbers code.html) → ∃ entries, codeBlocks html = .ok entries)

theorem codeBlocks_shown (plain : ∀ part, .plain part ∈ pieces → part.Plain)
    (coded : ∀ code, .hit code ∈ pieces → Tagged innerTags code.html) :
    codeBlocks (shown pieces) = (pieces.filterMap Piece.value?).mapM fun code =>
      (codeText code.html).map fun t => (code.kind, t) := by
  have found : Pattern.findAll (fun before t => blockPattern before t <|> spanPattern before t)
      (shown pieces) = (pieces.filterMap Piece.value?).map fun code => (code.kind, code.html) :=
    findAll_codes plain coded
  rw [codeBlocks, found, List.mapM_map]
  rfl

theorem read_iff (code : StyledCode) (entry : Kind × Text) :
    ((codeText code.html).map fun t => (code.kind, t)) = .ok entry ↔ code.Reads entry := by
  obtain ⟨kind, t⟩ := entry
  rw [Outcome.map_eq_ok, StyledCode.Reads, ← Text.unescape_iff, codeText]
  cases Text.unescapeHtml? code.html with
  | none => simp
  | some u => simp [eq_comm, and_comm]

theorem lists_shown (plain : ∀ part, .plain part ∈ pieces → part.Plain)
    (coded : ∀ code, .hit code ∈ pieces → Tagged innerTags code.html) :
    Lists (shown pieces) (pieces.filterMap Piece.value?) := by
  rw [Lists, codeBlocks_shown plain coded]
  refine ⟨fun entries => ?_, fun short => ?_⟩
  · rw [Outcome.mapM_eq_ok_iff]
    simp only [read_iff]
  · have each : ∀ code ∈ pieces.filterMap Piece.value?, ∃ entry,
        ((codeText code.html).map fun t => (code.kind, t)) = .ok entry ∧ True := by
      intro code member
      obtain ⟨t, reads⟩ := Text.exists_reads (short code member)
      exact ⟨(code.kind, t), (read_iff code _).mpr ⟨rfl, reads⟩, trivial⟩
    obtain ⟨entries, done, _⟩ := Outcome.mapM_ok_iff.mpr each
    exact ⟨entries, done⟩

/-- On a page of code blocks, markers and other paragraphs, the code that a marker directly follows is
styled and all else stays as it is, exactly if the page holds no token and no code stands unmarked in
front of marked code. In general, unmarked code is styled together with all that follows it up to the
first marked code. A reader of the page gets the styled code in order. -/
theorem render_parts_iff (plain : ∀ part ∈ parts, part.Plain) :
    ((∀ source, render (fun _ => page parts) source = .ok (shown (markedCode.pieces parts))) ↔
      stashedPattern.findAll (page parts) = [] ∧ Orderly parts) ∧
    (stashedPattern.findAll (page parts) = [] →
      ∀ source, render (fun _ => page parts) source = .ok (shown (reachedCode.pieces parts))) ∧
    Lists (shown (markedCode.pieces parts)) (markedCode.findAll parts) ∧
    Lists (shown (reachedCode.pieces parts)) (reachedCode.findAll parts) := by
  have kept (p : Pattern Part StyledCode) (part : Part) (found : .plain part ∈ p.pieces parts) :
      part.Plain := plain part (Pattern.mem_of_plain_mem_scan found)
  have coded (code : StyledCode) (found : .hit code ∈ markedCode.pieces parts) :
      Tagged innerTags code.html := .of_free (free_of_marked plain found)
  have reached (code : StyledCode) (found : .hit code ∈ reachedCode.pieces parts) :
      Tagged innerTags code.html := tagged_reached plain found
  have rendered (tokenless : stashedPattern.findAll (page parts) = []) (source : Text) :
      render (fun _ => page parts) source = .ok (shown (reachedCode.pieces parts)) :=
    finish_page plain tokenless _
  refine ⟨⟨fun claimed => ?_, fun ⟨tokenless, orderly⟩ source => ?_⟩, rendered,
    lists_shown (kept _) coded, lists_shown (kept _) reached⟩
  · have tokenless : stashedPattern.findAll (page parts) = [] := by
      by_contra tokens
      exact finish_tokens tokens _ (claimed [])
    have scans := Pattern.scans_pieces consumes_reached parts
    refine ⟨tokenless, orderly_of_free scans fun code found => ?_⟩
    -- Both pages are the same, so they hold the same code, and no marked code holds a tag.
    have same := Except.ok.inj ((rendered tokenless []).symm.trans (claimed []))
    have codes := congrArg codePattern.findAll same
    rw [findAll_codes (kept _) reached, findAll_codes (kept _) coded] at codes
    have member : (code.kind, code.html) ∈ ((reachedCode.pieces parts).filterMap Piece.value?).map
        fun code => (code.kind, code.html) :=
      List.mem_map.mpr ⟨code, Piece.mem_values.mpr found, rfl⟩
    rw [codes] at member
    obtain ⟨other, known, shape⟩ := List.mem_map.mp member
    have free := free_of_marked plain (Piece.mem_values.mp known)
    rwa [(Prod.mk.inj shape).2] at free
  · have same : reachedCode.pieces parts = markedCode.pieces parts :=
      Pattern.scan_congr fun before suffix part => orderly.reached before part
    rw [← same]
    exact rendered tokenless source

theorem render_parts_iff_marked :
    let parts : List Part := [.code "it&apos;s\n", .marker .exec true, .paragraph "x", .code "b\n"]
    let html : Text := Text.glue '\n'
      ["<div class=\"exec-block\" data-interrupt=\"true\"><pre><code>it&apos;s</code></pre></div>",
        "<p>x</p>", "<pre><code>b\n</code></pre>"]
    (∀ part ∈ parts, part.Plain) ∧ stashedPattern.findAll (page parts) = [] ∧
      (∀ source, render (fun _ => page parts) source = .ok html) ∧
        codeBlocks html = .ok [(.exec, "it's")] := by
  intro parts html
  have plain : ∀ part ∈ parts, part.Plain := by decide
  have tokenless : stashedPattern.findAll (page parts) = [] := by decide
  have same : shown (reachedCode.pieces parts) = html := by decide
  have styled : reachedCode.findAll parts = [⟨.exec, "it&apos;s", true⟩] := by decide
  obtain ⟨_, rendered, _, listed, _⟩ := render_parts_iff plain
  rw [same] at rendered listed
  rw [styled] at listed
  refine ⟨plain, tokenless, rendered tokenless, (listed _).mpr (.cons ⟨rfl, ?_⟩ .nil)⟩
  exact Text.unescape_iff.mp (by decide)

/-- Code without a marker is shown with the marker of other code, and as one with it. -/
theorem unmarked_code_styled :
    let parts : List Part := [.code "a\n", .paragraph "x", .code "b\n", .marker .exec false]
    let html : Text := Text.glue '\n' ["<div class=\"exec-block\"><pre><code>a", "</code></pre>", "<p>x</p>",
      "<pre><code>b</code></pre></div>"]
    (∀ part ∈ parts, part.Plain) ∧ (∀ source, render (fun _ => page parts) source = .ok html) ∧
      html ≠ shown (markedCode.pieces parts) ∧
        codeBlocks html = .ok [(.exec, "a\n</code></pre>\n<p>x</p>\n<pre><code>b")] := by
  intro parts html
  have plain : ∀ part ∈ parts, part.Plain := by decide
  have same : shown (reachedCode.pieces parts) = html := by decide
  refine ⟨plain, fun source => ?_, by decide, by decide⟩
  rw [← same]
  exact finish_page plain (by decide) _

end LabEditor.Preview
