import LabEditor.Conversion
import LabEditor.Proofs.Detection.LineEnd
import LabEditor.Proofs.Detection.Sniff
import LabEditor.Proofs.Markup.Written

/-! Conversion does not look at line ends. A page is seen line by line only, so detection is all that
could tell its line ends apart; and what detection makes of a page has the line ends of the page. -/
namespace LabEditor

open Detection (detect detectIn guess looksLikeMarkdown spanMarks)
open Markup (toMarkdown)

variable {t page path out : Text} {auto : Bool}

/-- A record that holds a text is converted as that text. -/
theorem convertContent_text (path t : Text) (auto : Bool) :
    convertContent path (.str t) auto = (convertFile path t auto).map .str := by
  rw [convertContent, convertFile]
  split <;> rfl

theorem toMarkdown_joinLineEnds (joined : ('\r' : CodePoint) ∉ Text.joinLineEnds page) :
    toMarkdown (Text.joinLineEnds page) = toMarkdown page := by
  rw [toMarkdown, Markup.lines, Text.joinLineEnds_free joined]
  rfl

theorem toMarkdown_detect_joinLineEnds (unmarked : spanMarks.opening ∉ page)
    (joined : ('\r' : CodePoint) ∉ Text.joinLineEnds page) :
    (detect (Text.joinLineEnds page)).map toMarkdown = (detect page).map toMarkdown := by
  rw [Detection.detect_joinLineEnds unmarked joined]
  cases found : detect page with
  | error cause => rfl
  | ok out =>
    have same : Text.joinLineEnds (Text.joinLineEnds out) = Text.joinLineEnds out := by
      rw [Detection.of_detect unmarked found, ← Detection.guess_joinLineEnds joined,
        Detection.joinLineEnds_guess joined]
    have lines : toMarkdown (Text.joinLineEnds out) = toMarkdown out := by
      rw [toMarkdown, Markup.lines, same]
      rfl
    exact congrArg Except.ok lines

theorem toMarkdown_detectIn_joinLineEnds (unmarked : spanMarks.opening ∉ page)
    (joined : ('\r' : CodePoint) ∉ Text.joinLineEnds page) (file? : Option Text) :
    (detectIn (Text.joinLineEnds page) file?).map toMarkdown =
      (detectIn page file?).map toMarkdown := by
  rw [detectIn, detectIn, Detection.looksLikeMarkdown_joinLineEnds]
  split
  · exact toMarkdown_detect_joinLineEnds unmarked joined
  · exact congrArg Except.ok (toMarkdown_joinLineEnds joined)

/-- A page in the form of the platform, with tags guessed first if `auto` is set. -/
def convertPage (page : Text) (file? : Option Text) (auto : Bool) : Except Fault Text :=
  if auto then (detectIn page file?).map toMarkdown else .ok (toMarkdown page)

theorem convertFile_page (markdown : treatedAsMarkdown path = true) (t : Text) (auto : Bool) :
    convertFile path t auto = convertPage t (some path) auto := by
  rw [convertFile, markdown]
  rfl

theorem convertPage_joinLineEnds (unmarked : spanMarks.opening ∉ page)
    (joined : ('\r' : CodePoint) ∉ Text.joinLineEnds page) (file? : Option Text) (auto : Bool) :
    convertPage (Text.joinLineEnds page) file? auto = convertPage page file? auto := by
  cases auto with
  | true => exact toMarkdown_detectIn_joinLineEnds unmarked joined file?
  | false => exact congrArg Except.ok (toMarkdown_joinLineEnds joined)

theorem detectIn_eq (unmarked : spanMarks.opening ∉ page) (addressable : page.Addressable)
    (file? : Option Text) : detectIn page file? =
      .ok (if looksLikeMarkdown page file? then guess page else page) := by
  rw [detectIn]
  split
  · exact Detection.detect_total unmarked (addressable.few (by omega))
  · rfl

theorem convertPage_total (unmarked : spanMarks.opening ∉ page) (addressable : page.Addressable)
    (file? : Option Text) (auto : Bool) : ∃ out, convertPage page file? auto = .ok out := by
  have found := detectIn_eq unmarked addressable file?
  cases auto with
  | true => exact ⟨_, congrArg (Except.map toMarkdown) found⟩
  | false => exact ⟨toMarkdown page, rfl⟩

theorem convertFile_total (unmarked : spanMarks.opening ∉ t) (addressable : t.Addressable)
    (path : Text) (auto : Bool) : ∃ out, convertFile path t auto = .ok out := by
  cases markdown : treatedAsMarkdown path with
  | true =>
    rw [convertFile_page markdown]
    exact convertPage_total unmarked addressable (some path) auto
  | false => exact ⟨t, by rw [convertFile, markdown]; rfl⟩

/-- Conversion brings no character into a text that is not one of ASCII. -/
theorem convertFile_free (unmarked : spanMarks.opening ∉ t) (addressable : t.Addressable) {c : CodePoint}
    (beyond : 0x80 ≤ c.toNat) (free : c ∉ t) (found : convertFile path t auto = .ok out) : c ∉ out := by
  rw [convertFile, detectIn_eq unmarked addressable] at found
  split at found
  · cases found
    exact free
  · split at found <;> cases found
    · refine Markup.toMarkdown_free beyond ?_
      split
      · exact Detection.guess_free beyond free
      · exact free
    · exact Markup.toMarkdown_free beyond free

theorem convertFile_encodable (unmarked : spanMarks.opening ∉ t) (addressable : t.Addressable)
    (encodable : t.isEncodable = true) (found : convertFile path t auto = .ok out) :
    out.isEncodable = true := by
  refine Text.isEncodable_iff.mpr fun unit => ?_
  have beyond : 0x80 ≤ (CodePoint.half unit).toNat := Nat.le_add_right_of_le (by decide)
  exact convertFile_free unmarked addressable beyond (Text.isEncodable_iff.mp encodable unit) found

/-- A text without carriage returns and without marks of tokens, and the same text with both
characters at each line end, are converted to the same page. A page that fits a machine is
converted. -/
theorem convert_withReturns (t : Text) (free : ('\r' : CodePoint) ∉ t) (unmarked : spanMarks.opening ∉ t)
    (auto : Bool) :
    convertText (Text.withReturns t) auto = convertText t auto ∧
      (∀ path, treatedAsMarkdown path = true →
        convertFile path (Text.withReturns t) auto = convertFile path t auto) ∧
      (t.Addressable →
        (∃ out, convertText t auto = .ok out) ∧ ∀ path, ∃ out, convertFile path t auto = .ok out) := by
  have joins := Text.joinLineEnds_withReturns free
  have joined : ('\r' : CodePoint) ∉ Text.joinLineEnds (Text.withReturns t) := by rwa [joins]
  have unmarkedStill : spanMarks.opening ∉ Text.withReturns t := by
    rwa [← Text.mem_joinLineEnds (by decide), joins]
  have pages := fun file? => convertPage_joinLineEnds unmarkedStill joined file? auto
  rw [joins] at pages
  refine ⟨(pages none).symm, fun path markdown => ?_, fun addressable => ⟨?_, fun path => ?_⟩⟩
  · rw [convertFile_page markdown, convertFile_page markdown, pages]
  · exact convertPage_total unmarked addressable none auto
  · exact convertFile_total unmarked addressable path auto

theorem convert_withReturns_fence :
    convertText "Setup\r\n\x60\x60\x60\r\n$ ls\r\n\x60\x60\x60\r\n" true =
        convertText "Setup\n\x60\x60\x60\n$ ls\n\x60\x60\x60\n" true ∧
      convertFile "lab.md" "Setup\r\n\x60\x60\x60\r\n$ ls\r\n\x60\x60\x60\r\n" true =
        convertFile "lab.md" "Setup\n\x60\x60\x60\n$ ls\n\x60\x60\x60\n" true ∧
      ∃ out, convertText "Setup\n\x60\x60\x60\n$ ls\n\x60\x60\x60\n" true = .ok out := by
  obtain ⟨texts, files, total⟩ := convert_withReturns
    "Setup\n\x60\x60\x60\n$ ls\n\x60\x60\x60\n" (by decide) (by decide) true
  exact ⟨texts, files "lab.md" (by decide), (total (by decide)).1⟩

end LabEditor
