import LabEditor.Proofs.Preview.Tagged

/-! A rendered page that is made of code blocks, markers and other paragraphs, each on rows of its
own. A code block is read up to the first end of code that a marker follows, over whatever parts
stand between. -/
namespace LabEditor.Preview

variable {c t u front behind : Text} {tags : List Text} {kind : Kind} {interrupt : Bool}

/-- A part of a rendered page. -/
inductive Part where
  | code (html : Text)
  | marker (kind : Kind) (interrupt : Bool)
  | paragraph (html : Text)
deriving DecidableEq, Repr

def codeOpen : Text := "<pre><code>"

def codeClose : Text := "</code></pre>"

namespace Part

def markerText (kind : Kind) (interrupt : Bool) : Text :=
  let flag : Text := if interrupt then " interrupt" else []
  "\x7b\x7b" ++ (kind.name ++ (flag ++ "\x7d\x7d"))

def html : Part → Text
  | .code c => codeOpen ++ (c ++ codeClose)
  | .marker kind interrupt => "<p>" ++ (markerText kind interrupt ++ "</p>")
  | .paragraph t => "<p>" ++ (t ++ "</p>")

/-- A part that holds no tags of its own, and no marker if it is a paragraph. -/
def Plain : Part → Prop
  | .code c => ('<' : CodePoint) ∉ c
  | .marker _ _ => True
  | .paragraph t => ('<' : CodePoint) ∉ t ∧ Text.hasPart "\x7b\x7b" t = false

instance : DecidablePred Plain
  | .code c => inferInstanceAs (Decidable (('<' : CodePoint) ∉ c))
  | .marker _ _ => inferInstanceAs (Decidable True)
  | .paragraph t => inferInstanceAs (Decidable (('<' : CodePoint) ∉ t ∧ Text.hasPart "\x7b\x7b" t = false))

def isMarker : Part → Bool
  | .marker _ _ => true
  | _ => false

def isCode : Part → Bool
  | .code _ => true
  | _ => false

theorem tagged_paragraph (free : ('<' : CodePoint) ∉ t) :
    Tagged ["<p>", "</p>"] ("<p>" ++ (t ++ "</p>")) :=
  (Tagged.of_tails (by decide)).append ((Tagged.of_free free).append (.of_tails (by decide)))

theorem markerText_free (kind : Kind) (interrupt : Bool) : ('<' : CodePoint) ∉ markerText kind interrupt := by
  cases kind <;> cases interrupt <;> decide

theorem tagged_html {part : Part} (plain : part.Plain) (other : part.isCode = false) :
    Tagged ["<p>", "</p>"] part.html := by
  cases part with
  | code c => contradiction
  | marker kind interrupt => exact tagged_paragraph (markerText_free kind interrupt)
  | paragraph t => exact tagged_paragraph plain.1

end Part

variable {part : Part} {parts : List Part}

/-- Texts one below the other, each of them behind a line feed. -/
def lineUp (ts : List Text) : Text :=
  ts.flatMap ('\n' :: ·)

theorem lineUp_eq {ts : List Text} (some : ts ≠ []) :
    lineUp ts = ('\n' : CodePoint) :: Text.glue '\n' ts := by
  induction ts with
  | nil => contradiction
  | cons t ts ih =>
    cases ts with
    | nil => simp [lineUp, Text.glue]
    | cons next ts =>
      rw [Text.glue_cons t (List.cons_ne_nil next ts), ← ih (List.cons_ne_nil next ts)]
      rfl

/-- Parts that stand below something on their page. -/
def below (parts : List Part) : Text :=
  lineUp (parts.map Part.html)

theorem below_cons (part : Part) (parts : List Part) :
    below (part :: parts) = ('\n' : CodePoint) :: (part.html ++ below parts) := rfl

theorem below_append (front behind : List Part) :
    below (front ++ behind) = below front ++ below behind := by
  rw [below, List.map_append, lineUp, List.flatMap_append]
  rfl

theorem markedEnd?_marker (kind : Kind) (interrupt : Bool) (parts : List Part) :
    markedEnd? (codeClose ++ below (.marker kind interrupt :: parts)) =
      some ((kind, interrupt), below parts) := by
  cases kind <;> cases interrupt <;> rfl

theorem marker?_unmarked (unmarked : Text.hasPart "\x7b\x7b" t = false) (behind : Text) :
    marker? (t ++ ('<' : CodePoint) :: behind) = none := by
  have none : Text.after? "\x7b\x7b" t = .none := by
    cases t with
    | nil => rfl
    | cons c t =>
      have here : Text.startsWith (c :: t) "\x7b\x7b" = false := (Bool.or_eq_false_iff.mp unmarked).1
      exact Option.isSome_eq_false_iff.mp here |> Option.isNone_iff_eq_none.mp
  have unread : Text.after? "\x7b\x7b" (t ++ ('<' : CodePoint) :: behind) = .none := by
    rw [Text.after?_stop (by decide), none, Option.map_none]
  rw [marker?, unread]
  rfl

/-- An end of code without a marker right behind it. -/
theorem markedEnd?_other (plain : ∀ part ∈ parts, part.Plain)
    (other : parts.head?.any Part.isMarker = false) : markedEnd? (codeClose ++ below parts) = none := by
  cases parts with
  | nil => rfl
  | cons part parts =>
    cases part with
    | code c => rfl
    | marker kind interrupt => contradiction
    | paragraph t =>
      have unmarked : marker? (t ++ ('<' : CodePoint) :: (("/p>" : Text) ++ below parts)) = none :=
        marker?_unmarked (plain (.paragraph t) List.mem_cons_self).2 _
      have shape : below (.paragraph t :: parts) =
          ('\n' : CodePoint) :: ("<p>" ++ (t ++ ('<' : CodePoint) :: ("/p>" ++ below parts))) := by
        rw [below_cons, Part.html, List.append_assoc, List.append_assoc]
        rfl
      have closed (x : Text) : Text.after? "</code></pre>" (codeClose ++ x) = some x :=
        Text.after?_append _ _
      have opened (x : Text) : Text.after? "<p>" (Text.trimStart ('\n' :: ("<p>" ++ x))) =
        some x := rfl
      rw [shape]
      simp only [markedEnd?, closed, opened, unmarked, Option.bind_eq_bind, Option.bind_some,
        Option.bind_none]

/-- The first code of a page that a marker directly follows. -/
structure Reach where
  /-- The parts before it. -/
  front : List Part
  code : Text
  kind : Kind
  interrupt : Bool
  /-- The parts behind its marker. -/
  rest : List Part

namespace Reach

def push (part : Part) (reach : Reach) : Reach :=
  { reach with front := part :: reach.front }

/-- The text from the first part on, up to the end of the code. -/
def taken (reach : Reach) : Text :=
  below reach.front ++ ('\n' : CodePoint) :: (codeOpen ++ reach.code)

end Reach

variable {reach : Reach}

def firstMarked? : List Part → Option Reach
  | [] => none
  | .code c :: .marker kind interrupt :: rest => some ⟨[], c, kind, interrupt, rest⟩
  | part :: parts => (firstMarked? parts).map (Reach.push part)

theorem firstMarked?_cons (other : part.isCode = false ∨ parts.head?.any Part.isMarker = false) :
    firstMarked? (part :: parts) = (firstMarked? parts).map (Reach.push part) := by
  refine firstMarked?.eq_3 _ _ ?_
  rintro c kind interrupt rest rfl rfl
  simp [Part.isCode, Part.isMarker] at other

theorem markedEnd?_unread (tagged : Tagged tags front) (apart : Apart codeClose tags)
    (part : u <:+ front) (some : u ≠ []) (behind : Text) : markedEnd? (u ++ behind) = none := by
  have unread : Text.after? "</code></pre>" (u ++ behind) = none :=
    tagged.unread apart part some behind
  rw [markedEnd?, unread]
  rfl

/-- The end of a code block that no marker follows is read over. -/
theorem upTo?_end (plain : ∀ part ∈ parts, part.Plain)
    (other : parts.head?.any Part.isMarker = false) : upTo? markedEnd? (codeClose ++ below parts) =
      (upTo? markedEnd? (below parts)).map fun (t, found) => (codeClose ++ t, found) := by
  refine upTo?_skip fun u part some => ?_
  have tagged : Tagged ["</pre>"] "/code></pre>" := .of_tails (by decide)
  have part : u <:+ '<' :: "/code></pre>" := part
  rcases List.suffix_cons_iff.mp part with rfl | inner
  · exact markedEnd?_other plain other
  · exact markedEnd?_unread tagged (by decide) inner some _

/-- What stands in a match that begins at a code: the code, or all from it to the end of another. -/
def inside : List Part → Text → Text
  | .code c :: middle, code => c ++ (codeClose ++ (below middle ++ ('\n' : CodePoint) :: (codeOpen ++ code)))
  | _, code => code

theorem of_firstMarked? (found : firstMarked? parts = some reach) :
    parts = reach.front ++ .code reach.code :: .marker reach.kind reach.interrupt :: reach.rest := by
  induction parts using firstMarked?.induct generalizing reach with
  | case1 => contradiction
  | case2 c kind interrupt rest =>
    cases found
    rfl
  | case3 part parts other ih =>
    rw [firstMarked?.eq_3 _ _ other] at found
    obtain ⟨later, inner, rfl⟩ := Option.map_eq_some_iff.mp found
    exact congrArg (part :: ·) (ih inner)

theorem taken_code (found : firstMarked? (.code c :: parts) = some reach) :
    reach.taken = ('\n' : CodePoint) :: (codeOpen ++ inside reach.front reach.code) := by
  obtain ⟨front, code, kind, interrupt, rest⟩ := reach
  have shape := of_firstMarked? found
  cases front with
  | nil => rfl
  | cons first middle =>
    cases (List.cons.inj shape).1
    simp [Reach.taken, inside, below_cons, Part.html]

theorem upTo?_code (plain : ∀ part ∈ parts, part.Plain) (free : ('<' : CodePoint) ∉ c)
    (later : upTo? markedEnd? (below parts) = (firstMarked? parts).map fun reach =>
      (reach.taken, (reach.kind, reach.interrupt), below reach.rest)) :
    upTo? markedEnd? (c ++ (codeClose ++ below parts)) = (firstMarked? (.code c :: parts)).map
      fun reach =>
        (inside reach.front reach.code, (reach.kind, reach.interrupt), below reach.rest) := by
  have tagged : Tagged [] c := .of_free free
  rw [upTo?_skip fun u part some => markedEnd?_unread tagged (by decide) part some _]
  cases marked : parts.head?.any Part.isMarker with
  | false =>
    rw [upTo?_end plain marked, later, firstMarked?_cons (.inr marked)]
    cases firstMarked? parts <;> rfl
  | true =>
    match parts, marked with
    | .marker kind interrupt :: rest, _ =>
      have here : upTo? markedEnd? (codeClose ++ below (.marker kind interrupt :: rest)) =
          some ([], (kind, interrupt), below rest) :=
        upTo?_here (markedEnd?_marker kind interrupt rest)
      rw [here, firstMarked?]
      simp [inside]

theorem upTo?_below (plain : ∀ part ∈ parts, part.Plain) :
    upTo? markedEnd? (below parts) = (firstMarked? parts).map fun reach =>
      (reach.taken, (reach.kind, reach.interrupt), below reach.rest) := by
  induction parts with
  | nil => rfl
  | cons part parts ih =>
    obtain ⟨here, others⟩ := List.forall_mem_cons.mp plain
    cases code : part.isCode with
    | false =>
      have feed : Tagged ["<p>", "</p>"] ['\n'] := .of_free (by decide)
      have tagged : Tagged ["<p>", "</p>"] ('\n' :: part.html) :=
        feed.append (Part.tagged_html here code)
      rw [below_cons, ← List.cons_append,
        upTo?_skip fun u part some => markedEnd?_unread tagged (by decide) part some _,
        ih others, firstMarked?_cons (.inl code), Option.map_map, Option.map_map]
      refine Option.map_congr fun reach _ => ?_
      simp [Reach.taken, Reach.push, below_cons]
    | true =>
      match part, here, code with
      | .code c, free, _ =>
        have tagged : Tagged ["<pre><code>", "<code>"] ('\n' :: codeOpen) := .of_tails (by decide)
        have shape : below (.code c :: parts) =
            (('\n' : CodePoint) :: codeOpen) ++ (c ++ (codeClose ++ below parts)) := by
          simp [below_cons, Part.html]
        rw [shape, upTo?_skip fun u part some => markedEnd?_unread tagged (by decide) part some _,
          upTo?_code others free (ih others), Option.map_map]
        refine Option.map_congr fun reach found => ?_
        simp [taken_code found]

def strip (t : Text) : Text :=
  Text.dropEndWhile (· == '\n') t

theorem strip_free (free : ('<' : CodePoint) ∉ t) : ('<' : CodePoint) ∉ strip t :=
  mt (fun inner => (Text.dropEndWhile_isPrefix _ t).subset inner) free

theorem strip_inside (front : List Part) (code : Text) :
    strip (inside front code) = inside front (strip code) := by
  cases front with
  | nil => rfl
  | cons part middle =>
    cases part with
    | marker kind interrupt => rfl
    | paragraph t => rfl
    | code c =>
      have shape (t : Text) : inside (.code c :: middle) t =
          (c ++ (codeClose ++ (below middle ++ ('\n' : CodePoint) :: "<pre><code"))) ++
            ('>' : CodePoint) :: t := by
        have opening : codeOpen = "<pre><code" ++ (['>'] : Text) := rfl
        simp only [inside, opening, List.append_assoc, List.cons_append, List.nil_append]
      have apart : ('>' == '\n') = false := by decide
      have stays : Text.dropEndWhile (· == '\n') ('>' :: code) ≠ [] :=
        Text.dropEndWhile_ne_nil List.mem_cons_self apart
      have last : Text.dropEndWhile (· == '\n') ('>' :: code) = ('>' : CodePoint) :: strip code := by
        rw [Text.dropEndWhile, strip]
        cases Text.dropEndWhile (· == '\n') code <;> rfl
      rw [shape, shape, strip, Text.dropEndWhile_append stays, last]

/-- Code that is shown with a marker, as HTML. -/
structure StyledCode where
  kind : Kind
  html : Text
  interrupt : Bool
deriving DecidableEq, Repr

def StyledCode.write (code : StyledCode) : Text :=
  styledBlock code.kind code.html code.interrupt

def Reach.styled (reach : Reach) : StyledCode :=
  ⟨reach.kind, inside reach.front (strip reach.code), reach.interrupt⟩

/-- A code and the marker that directly follows it. -/
def markedCode : Pattern Part StyledCode := fun _ parts =>
  match parts with
  | .code c :: .marker kind interrupt :: rest => some (⟨kind, strip c, interrupt⟩, rest)
  | _ => none

/-- A code and all that follows it up to the first code with a marker. -/
def reachedCode : Pattern Part StyledCode := fun _ parts =>
  match parts with
  | .code c :: parts =>
    (firstMarked? (.code c :: parts)).map fun reach => (reach.styled, reach.rest)
  | _ => none

theorem of_reachedCode {before : Option Part} {code : StyledCode} {rest : List Part}
    (read : reachedCode before parts = some (code, rest)) :
    ∃ reach, firstMarked? parts = some reach ∧ code = reach.styled ∧ rest = reach.rest ∧
      (parts.head?.any Part.isCode = true) := by
  unfold reachedCode at read
  split at read
  · obtain ⟨reach, found, same⟩ := Option.map_eq_some_iff.mp read
    cases same
    exact ⟨reach, found, rfl, rfl, rfl⟩
  · contradiction

theorem consumes_reached : reachedCode.Consumes := by
  intro before part parts code rest read
  obtain ⟨reach, found, rfl, rfl, _⟩ := of_reachedCode read
  have shape := of_firstMarked? found
  cases front : reach.front with
  | nil =>
    rw [front] at shape
    exact ⟨[.marker reach.kind reach.interrupt], (List.cons.inj shape).2⟩
  | cons first middle =>
    rw [front] at shape
    refine ⟨middle ++ [.code reach.code, .marker reach.kind reach.interrupt], ?_⟩
    rw [(List.cons.inj shape).2]
    simp

/-- At the front of a code, what is read of the text is what is read of the parts. -/
theorem fencedPattern_code (plain : ∀ part ∈ parts, part.Plain) (free : ('<' : CodePoint) ∉ c)
    (before : Option CodePoint) : fencedPattern before ((Part.code c).html ++ below parts) =
      (reachedCode none (.code c :: parts)).map fun (code, rest) => (code.write, below rest) := by
  have opened (x : Text) : afterCodeOpen? (codeOpen ++ x) = some x := rfl
  rw [Part.html, List.append_assoc, List.append_assoc, fencedPattern, opened, reachedCode,
    Option.map_map]
  simp only [Option.bind_eq_bind, Option.bind_some, upTo?_code plain free (upTo?_below plain)]
  cases firstMarked? (.code c :: parts) with
  | none => rfl
  | some reach => exact congrArg (fun t => some (styledBlock _ t _, _)) (strip_inside _ _)

theorem fencedPattern_unread (tagged : Tagged tags front) (apart : Apart "<pre><code" tags)
    (part : u <:+ front) (some : u ≠ []) (behind : Text) (before : Option CodePoint) :
    fencedPattern before (u ++ behind) = none := by
  have unread : Text.after? "<pre><code" (u ++ behind) = none :=
    tagged.unread apart part some behind
  rw [fencedPattern, afterCodeOpen?, unread]
  rfl

end LabEditor.Preview
