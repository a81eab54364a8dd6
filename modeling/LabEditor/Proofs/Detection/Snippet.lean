import LabEditor.Proofs.Detection.Rule
import LabEditor.Proofs.Markup.Link

/-! How far the quotation of a snippet is read as code. Code with a backtick in it stands between two
and two backticks, and nothing is looked at but whether there is one. A code span ends at a run of
exactly two, and what keeps its addresses ends at any two in a row; so code with two backticks in a
row is cut short by one of them or by both. -/
namespace LabEditor.Detection

open Markup (linkAddresses afterKept? afterMark? afterTicks? ticksClosed?)

variable {line t code front behind rest mark marker : Text}

/-- The first two backticks in a row. -/
theorem afterMark?_pair (first : Text.hasPart "\x60\x60" (front ++ (['\x60'] : Text)) = false)
    (oneLine : ('\n' : CodePoint) ∉ front) (rest : Text) :
    afterMark? (List.replicate 2 '\x60') (front ++ ('\x60' : CodePoint) :: '\x60' :: rest) = some rest := by
  induction front with
  | nil => rfl
  | cons c front ih =>
    obtain ⟨here, oneLine⟩ := not_or.mp (List.mem_cons.not.mp oneLine)
    obtain ⟨noStart, later⟩ := Bool.or_eq_false_iff.mp first
    have unopened : Text.after? (List.replicate 2 '\x60')
        (c :: (front ++ ('\x60' : CodePoint) :: '\x60' :: rest)) = none := by
      cases opened : Text.after? (List.replicate 2 '\x60')
        (c :: (front ++ ('\x60' : CodePoint) :: '\x60' :: rest)) with
      | none => rfl
      | some behind =>
        have inside : "\x60\x60" <+: c :: (front ++ (['\x60'] : Text)) :=
          List.prefix_of_prefix_length_le ⟨behind, (Text.after?_eq_some.mp opened).symm⟩
            ⟨'\x60' :: rest, by simp⟩ (by simp)
        exact absurd (noStart.symm.trans (Text.startsWith_iff.mpr inside)) Bool.false_ne_true
    rw [List.cons_append, afterMark?, unopened]
    simp only [if_neg (Ne.symm here)]
    exact ih later oneLine

/-- The rules for code, each with the marker that it puts behind the code. -/
def Quotes (line t marker : Text) : Prop :=
  asExec line = some t ∧ marker = "\x7b\x7bexec\x7d\x7d" ∨
    asCopy line = some t ∧ marker = "\x7b\x7bcopy\x7d\x7d"

theorem Quotes.snippet (quotes : Quotes line t marker) :
    ∃ code mark, code <:+: line ∧ IsSnippet t code mark ∧ marker = ('{' : CodePoint) :: mark ∧
      linkAddresses marker = marker := by
  rcases quotes with ⟨found, rfl⟩ | ⟨found, rfl⟩
  · obtain ⟨c, rest, code, rfl, _, origin, snippet⟩ := of_asExec found
    exact ⟨code, _, origin.trans (List.suffix_cons c rest).isInfix, snippet, rfl, by decide⟩
  · obtain ⟨c, rest, code, rfl, _, origin, snippet⟩ := of_asCopy found
    exact ⟨code, _, origin.trans (List.suffix_cons c rest).isInfix, snippet, rfl, by decide⟩

theorem IsSnippet.first_span_iff (snippet : IsSnippet t code mark) :
    (inlinePattern.findAll t).head? = some (inlineCode code) ↔ ¬ HoldsRun 2 code := by
  obtain ⟨rfl, full, oneLine⟩ := snippet
  by_cases ticked : ('\x60' : CodePoint) ∈ code
  · have inside : HoldsRun 2 ((' ' : CodePoint) :: code ++ ([' '] : Text)) ↔ HoldsRun 2 code := by
      have line : ('\n' : CodePoint) ∉ (' ' : CodePoint) :: code := by simpa using oneLine
      have opening := holdsRun_apart (n := 2) (c := ' ') (by decide) (by decide) 0 code
      rw [List.replicate_zero, List.nil_append, or_iff_right (by decide)] at opening
      rw [holdsRun_concat (by decide) (by decide) (by decide) line, opening]
    have whole := Detection.first_span_iff (quotable_padded oneLine) (d := '{') (by decide) 1 mark
    rw [inside] at whole
    rw [inlineCode_ticked ticked, ← whole, List.append_assoc, List.append_assoc]
  · have whole := Detection.first_span_iff (quotable_free full oneLine ticked) (d := '{') (by decide)
      0 mark
    have none (n : Nat) (some : n ≠ 0) : ¬ HoldsRun n code := fun holds => ticked (holds.tick some)
    rw [inlineCode_free ticked, iff_true_intro (none 2 (by decide)), iff_true, List.append_assoc,
      List.append_assoc]
    exact whole.mpr (none 1 (by decide))

theorem afterKept?_free (full : code ≠ []) (oneLine : ('\n' : CodePoint) ∉ code)
    (free : ('\x60' : CodePoint) ∉ code) (rest : Text) :
    afterKept? ('\x60' :: (code ++ ('\x60' : CodePoint) :: rest)) = some rest := by
  have run : Text.run '\x60' ('\x60' :: (code ++ ('\x60' : CodePoint) :: rest)) = 1 := by
    have first : (code ++ ('\x60' : CodePoint) :: rest).head? ≠ some ('\x60' : CodePoint) := by
      rw [List.head?_append_of_ne_nil _ full]
      exact (quotable_free full oneLine free).first
    exact Text.run_replicate first 1
  have closed : ticksClosed? 1 ('\x60' :: (code ++ ('\x60' : CodePoint) :: rest)) = some rest :=
    Markup.ticksClosed?_skip full free oneLine _
  simp only [afterKept?, run, afterTicks?, closed]

theorem afterKept?_padded (first : Text.hasPart "\x60\x60" (front ++ (['\x60'] : Text)) = false)
    (oneLine : ('\n' : CodePoint) ∉ front) (rest : Text) :
    afterKept? ('\x60' :: '\x60' :: ' ' :: (front ++ ('\x60' : CodePoint) :: '\x60' :: rest)) =
      some rest := by
  have closed : ticksClosed? 2
      ('\x60' :: '\x60' :: ' ' :: (front ++ ('\x60' : CodePoint) :: '\x60' :: rest)) = some rest := by
    refine (Markup.ticksClosed?_eq 2 (' ' :: (front ++ ('\x60' : CodePoint) :: '\x60' :: rest))).trans ?_
    exact afterMark?_pair first oneLine rest
  have run : Text.run '\x60'
      ('\x60' :: '\x60' :: ' ' :: (front ++ ('\x60' : CodePoint) :: '\x60' :: rest)) = 2 :=
    Text.run_replicate (by simp) 2
  simp only [afterKept?, run, afterTicks?, closed]

theorem getLast?_inlineCode (code : Text) : (inlineCode code).getLast? = some ('\x60' : CodePoint) := by
  rw [inlineCode]
  split
  · rw [List.getLast?_append_of_ne_nil _ (by simp)]
    rfl
  · exact List.getLast?_concat

theorem IsSnippet.linkAddresses_pair
    (snippet : IsSnippet t (front ++ ('\x60' : CodePoint) :: '\x60' :: behind) mark)
    (first : Text.hasPart "\x60\x60" (front ++ (['\x60'] : Text)) = false) : linkAddresses t =
      "\x60\x60 " ++ front ++ ("\x60\x60" : Text) ++
        linkAddresses (behind ++ " \x60\x60" ++ ('{' : CodePoint) :: mark) := by
  obtain ⟨rfl, full, oneLine⟩ := snippet
  have line : ('\n' : CodePoint) ∉ front := fun member => oneLine (List.mem_append_left _ member)
  have kept := afterKept?_padded first line (behind ++ " \x60\x60" ++ ('{' : CodePoint) :: mark)
  have shape : inlineCode (front ++ ('\x60' : CodePoint) :: '\x60' :: behind) ++ ('{' : CodePoint) :: mark =
      ("\x60\x60 " ++ front ++ "\x60\x60") ++
        (behind ++ " \x60\x60" ++ ('{' : CodePoint) :: mark) := by
    rw [inlineCode_ticked (by simp)]
    simp
  have last : ("\x60\x60 " ++ front ++ "\x60\x60").getLast?.any Text.isWordChar =
      false := by
    rw [List.getLast?_append_of_ne_nil _ (by simp)]
    decide
  rw [shape]
  refine Markup.linkAddresses_kept (by simp) ?_ last
  simpa using kept

theorem IsSnippet.linkAddresses_whole (snippet : IsSnippet t code mark)
    (apart : Text.hasPart "\x60\x60" code = false) :
    linkAddresses t = inlineCode code ++ linkAddresses ('{' :: mark) := by
  obtain ⟨rfl, full, oneLine⟩ := snippet
  have last : (inlineCode code).getLast?.any Text.isWordChar = false := by
    rw [getLast?_inlineCode]
    decide
  by_cases ticked : ('\x60' : CodePoint) ∈ code
  · have line : ('\n' : CodePoint) ∉ code ++ ([' '] : Text) := by simp [oneLine]
    have first : Text.hasPart "\x60\x60" (code ++ ([' '] : Text) ++ (['\x60'] : Text)) = false := by
      rw [List.append_assoc, List.singleton_append, Text.hasPart_apart (by decide) (by decide), apart]
      rfl
    refine Markup.linkAddresses_kept (by simp [inlineCode_ticked ticked]) ?_ last
    simpa [inlineCode_ticked ticked] using afterKept?_padded first line ('{' :: mark)
  · refine Markup.linkAddresses_kept (by simp [inlineCode_free ticked]) ?_ last
    simpa [inlineCode_free ticked] using afterKept?_free full oneLine ticked ('{' :: mark)

/-- The code of a snippet stands in the line as it is. It is read back as one code span exactly if it
holds no run of exactly two backticks. Its addresses are kept if no two of its backticks stand in a
row; otherwise they are kept up to the first two that do, and what follows is linked like any text. -/
theorem snippet_span_and_links (quotes : Quotes line t marker) :
    ∃ code, code <:+: line ∧ t = inlineCode code ++ marker ∧
      ((inlinePattern.findAll t).head? = some (inlineCode code) ↔ ¬ HoldsRun 2 code) ∧
      (Text.hasPart "\x60\x60" code = false → linkAddresses t = t) ∧
      ∀ front behind, code = front ++ ("\x60\x60" : Text) ++ behind →
        Text.hasPart "\x60\x60" (front ++ (['\x60'] : Text)) = false → linkAddresses t =
          "\x60\x60 " ++ front ++ "\x60\x60" ++
            linkAddresses (behind ++ " \x60\x60" ++ marker) := by
  obtain ⟨code, mark, origin, snippet, rfl, settled⟩ := quotes.snippet
  refine ⟨code, origin, snippet.shape, snippet.first_span_iff, fun apart => ?_, ?_⟩
  · rw [snippet.linkAddresses_whole apart, settled, ← snippet.shape]
  · rintro front behind rfl first
    rw [List.append_assoc] at snippet
    exact snippet.linkAddresses_pair first

theorem snippet_span_and_links_tick :
    let line : Text := "$ echo it`s at http://x.y"
    let marker : Text := "\x7b\x7bexec\x7d\x7d"
    let t := "`` echo it`s at http://x.y ``" ++ marker
    Quotes line t marker ∧ ∃ code, code <:+: line ∧ t = inlineCode code ++ marker ∧
      ((inlinePattern.findAll t).head? = some (inlineCode code) ↔ ¬ HoldsRun 2 code) ∧
      (Text.hasPart "\x60\x60" code = false → linkAddresses t = t) := by
  intro line marker t
  have quotes : Quotes line t marker := Or.inl ⟨by decide, rfl⟩
  obtain ⟨code, origin, shape, span, links, _⟩ := snippet_span_and_links quotes
  exact ⟨quotes, code, origin, shape, span, links⟩

/-- Two backticks in a row close the quotation of a command. -/
theorem two_ticks_close :
    let line : Text := "$ a``http://x.y"
    let span : Text := "`` a``http://x.y ``"
    let t := span ++ "\x7b\x7bexec\x7d\x7d"
    inlinePattern.findAll line = [] ∧ asExec line = some t ∧
      (inlinePattern.findAll t).head? ≠ some span ∧ linkAddresses t ≠ t := by
  decide

end LabEditor.Detection
