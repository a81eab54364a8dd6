import LabEditor.Markdown.Definition
import LabEditor.Markdown.Emphasis
import LabEditor.Markdown.Target

/-! Running text: code spans, links, images, emphasis and line breaks. They are found one kind after
the other, so that code hides the signs of all others. The content of a link or of emphasis is read
for the kinds that come later. -/
namespace LabEditor.Markdown.Inline
open Node

/-- Reads the front of a running text, given the node before it: finds a node, or a stretch that
stays as it is, and returns the rest. -/
abbrev Rule := Option Node → List Node → Option (Option Node × List Node)

namespace Rule

/-- Replaces the matches of a rule in one sweep. The first `skip` nodes belong to a match already
found. -/
def sweepFrom (rule : Rule) : (before : Option Node) → (skip : Nat) → List Node → List Node
  | _, _, [] => []
  | before, skip + 1, _ :: xs => rule.sweepFrom before skip xs
  | before, 0, x :: xs =>
    match rule before (x :: xs) with
    | some (some found, rest) => found :: rule.sweepFrom (some found) (xs.length - rest.length) xs
    | some (none, rest) =>
      let more := xs.length - rest.length
      x :: xs.take more ++ rule.sweepFrom (some x) more xs
    | none => x :: rule.sweepFrom (some x) 0 xs

def sweep (rule : Rule) (xs : List Node) : List Node :=
  rule.sweepFrom none 0 xs

/-- Replaces the first match of a rule, if there is one, behind `skip` nodes that stay. -/
def replaceFirst? (rule : Rule) : (before : Option Node) → (skip : Nat) → List Node →
    Option (List Node)
  | _, _, [] => none
  | _, skip + 1, x :: xs => (rule.replaceFirst? (some x) skip xs).map (x :: ·)
  | before, 0, x :: xs =>
    match rule before (x :: xs) with
    | some (some found, rest) => some (found :: rest)
    | some (none, rest) =>
      (rule.replaceFirst? (some x) (xs.length - rest.length) xs).map (x :: ·)
    | none => (rule.replaceFirst? (some x) 0 xs).map (x :: ·)

/-- Replaces the first match again and again. A match can make room for another in front of it. -/
def exhaust (rule : Rule) : (tries : Nat) → List Node → List Node
  | 0, xs => xs
  | tries + 1, xs =>
    match rule.replaceFirst? none 0 xs with
    | some xs => rule.exhaust tries xs
    | none => xs

def replaceAll (rule : Rule) (xs : List Node) : List Node :=
  rule.exhaust xs.length xs

end Rule

/-- How many nodes at the front are this sign. -/
def countFront (sign : CodePoint) (xs : List Node) : Nat :=
  (xs.takeWhile (isChar sign)).length

/-- The rest after the next run of exactly `n` backticks, where `seen` have just been read. -/
def afterTicks? (n : Nat) : (seen : Nat) → List Node → Option (List Node)
  | seen, [] => if seen = n then some [] else none
  | seen, x :: xs =>
    if x.isChar '\x60' then afterTicks? n (seen + 1) xs
    else if seen = n then some (x :: xs)
    else afterTicks? n 0 xs

/-- Code between a run of backticks and the next run of as many. If there is none, fewer of the
backticks open the span. -/
def codeWithin? (xs : List Node) : (n : Nat) → Option (Node × List Node)
  | 0 => none
  | n + 1 =>
    match afterTicks? (n + 1) 0 (xs.drop (countFront '\x60' xs)) with
    | some rest =>
      let inner := (xs.drop (n + 1)).take (xs.length - rest.length - 2 * (n + 1))
      some (part (.codeSpan (Text.trim (plainAll inner))) [], rest)
    | none => codeWithin? xs n

/-- A code span. Backslashes in front of it stand in pairs for one backslash each; a single one
takes its meaning from the first backtick. -/
def codeRule : Rule := fun before xs =>
  if before.any (isChar '\\') then none
  else
    let backslashes := countFront '\\' xs
    if 0 < backslashes then
      if backslashes % 2 = 0 && (xs.drop backslashes).head?.any (isChar '\x60') then
        some (some (literal '\\'), xs.drop 2)
      else none
    else (codeWithin? xs (countFront '\x60' xs)).map fun (code, rest) => (some code, rest)

/-- A backslash takes the meaning from the sign behind it; in front of anything else it is text. -/
def escapeRule : Rule := fun _ xs =>
  match xs with
  | x :: y :: rest =>
    if x.isChar '\\' then
      match y.char? with
      | some c =>
        if ("\\\x60*_\x7b\x7d[]()>#+-.!|" : Text).contains c then some (some (literal c), rest)
        else some (none, rest)
      | none => some (none, rest)
    else none
  | _ => none

/-- The nodes up to the bracket that closes `depth` open ones, and the rest behind it. -/
def untilBracket? : (depth : Nat) → List Node → Option (List Node × List Node)
  | _, [] => none
  | depth, x :: xs =>
    if x.isChar ']' then
      if depth ≤ 1 then some ([], xs)
      else (untilBracket? (depth - 1) xs).map fun (inner, rest) => (x :: inner, rest)
    else
      (untilBracket? (if x.isChar '[' then depth + 1 else depth) xs).map fun (inner, rest) =>
        (x :: inner, rest)

/-- What stands in brackets that no exclamation mark precedes. -/
def bracketed? (before : Option Node) (xs : List Node) : Option (List Node × List Node) :=
  match xs with
  | x :: rest =>
    if x.isChar '[' && !before.any (isChar '!') then untilBracket? 1 rest else none
  | [] => none

/-- What stands in brackets behind an exclamation mark. -/
def imageText? (xs : List Node) : Option (List Node × List Node) :=
  match xs with
  | x :: y :: rest => if x.isChar '!' && y.isChar '[' then untilBracket? 1 rest else none
  | _ => none

def linkRule (inner : List Node → List Node) : Rule := fun before xs => do
  let (content, rest) ← bracketed? before xs
  let (target, rest) ← Target.read? rest
  pure (some (part (.link target.address target.title?) (inner content)), rest)

def imageRule : Rule := fun _ xs => do
  let (alt, rest) ← imageText? xs
  let (target, rest) ← Target.read? rest
  pure (some (part (.image target.address (plainAll alt) target.title?) []), rest)

/-- The name that some nodes spell, if they are characters alone. -/
def nameOf? (xs : List Node) : Option Text :=
  (xs.mapM char?).map fun t => Text.squeezeBlanks ' ' (Text.lower t)

/-- A name in brackets of its own behind a bracketed text; empty brackets repeat the text. -/
def nameBehind? (content xs : List Node) : Option (List Node × List Node) :=
  let xs := match xs with
    | x :: rest => if x.isBlank then rest else xs
    | [] => []
  match xs with
  | x :: rest =>
    let name := rest.takeWhile fun y => !y.isChar ']'
    match x.isChar '[', rest.drop name.length with
    | true, _ :: rest => some (if name.isEmpty then content else name, rest)
    | _, _ => none
  | [] => none

/-- What a call of a definition becomes; a call of an unknown name stays. -/
def called (definitions : List Definition) (name rest : List Node)
    (make : Definition → Node) : Option Node × List Node :=
  (((nameOf? name).bind (Definition.find? definitions)).map make, rest)

def callLink (inner : List Node → List Node) (content : List Node) (d : Definition) : Node :=
  part (.link d.address d.title?) (inner content)

def callImage (alt : List Node) (d : Definition) : Node :=
  part (.image d.address (plainAll alt) d.title?) []

def namedLinkRule (definitions : List Definition) (inner : List Node → List Node) : Rule :=
  fun before xs => do
    let (content, rest) ← bracketed? before xs
    let (name, rest) ← nameBehind? content rest
    pure (called definitions name rest (callLink inner content))

def namedImageRule (definitions : List Definition) : Rule := fun _ xs => do
  let (alt, rest) ← imageText? xs
  let (name, rest) ← nameBehind? alt rest
  pure (called definitions name rest (callImage alt))

def shortLinkRule (definitions : List Definition) (inner : List Node → List Node) : Rule :=
  fun before xs => do
    let (content, rest) ← bracketed? before xs
    pure (called definitions content rest (callLink inner content))

def shortImageRule (definitions : List Definition) : Rule := fun _ xs => do
  let (alt, rest) ← imageText? xs
  pure (called definitions alt rest (callImage alt))

/-- What stands between angle brackets. -/
def angled? (xs : List Node) : Option (List Node × List Node) :=
  match xs with
  | x :: xs =>
    let inner := xs.takeWhile fun y => !(y.isChar '<' || y.isChar '>')
    match x.isChar '<', xs.drop inner.length with
    | true, y :: rest => if y.isChar '>' then some (inner, rest) else none
    | _, _ => none
  | [] => none

/-- An address in angle brackets is a link to itself. -/
def addressRule : Rule := fun _ xs => do
  let (inner, rest) ← angled? xs
  let address := plainAll inner
  let scheme := (leadingText inner).map CodePoint.toLower
  if (["http://", "https://", "ftp://", "ftps://"] : List Text).any (Text.startsWith scheme) then
    pure (some (part (.link address none) (address.map literal)), rest)
  else none

/-- A reference to a character by its name or its number. -/
def referenceTo (byName : Bool) (c : CodePoint) : Text :=
  match if byName then Text.characterNames.find? (·.1 == c) else none with
  | some (_, name) => ('&' : CodePoint) :: name ++ ([';'] : Text)
  | none => ('&' : CodePoint) :: '#' :: Text.digits c.toNat ++ ([';'] : Text)

/-- A mail address in angle brackets is a link to it, written in references. -/
def mailRule : Rule := fun _ xs => do
  let (inner, rest) ← angled? xs
  let host := (inner.reverse.takeWhile fun y => !y.isChar '@').length
  let user := inner.take (inner.length - host - 1)
  if 0 < host && host < inner.length && !user.isEmpty && !inner.any (isChar ' ')
      && !user.any (isChar '!') then
    let address := plainAll inner
    let address := (Text.after? "mailto:" address).getD address
    pure (some (part (.link (("mailto:" ++ address).flatMap (referenceTo false)) none)
      [markup (address.flatMap (referenceTo true))]), rest)
  else none

def lineBreak : Node :=
  part .lineBreak []

/-- Two spaces in front of a line feed break the line. -/
def spacedBreakRule : Rule := fun _ xs =>
  match xs with
  | x :: y :: z :: rest =>
    if x.isChar ' ' && y.isChar ' ' && z.isChar '\n' then some (some lineBreak, rest) else none
  | _ => none

/-- The text of a comment and its end, unless another comment begins in it. -/
def untilCommentEnd? : List Node → Option (List Node × List Node)
  | [] => none
  | x :: xs =>
    let startsWith (t : Text) : Bool := Text.startsWith (leadingText (x :: xs)) t
    if startsWith "-->" then some ((x :: xs).take 3, (x :: xs).drop 3)
    else if startsWith "<!--" then none
    else (untilCommentEnd? xs).map fun (inner, rest) => (x :: inner, rest)

/-- A tag or a comment of HTML. -/
def tagRule : Rule := fun _ xs =>
  match angled? xs with
  | some (inner, rest) =>
    let name := if inner.head?.any (isChar '/') then inner.drop 1 else inner
    let word := name.takeWhile fun y => !y.isChar ' '
    if word.head?.any (fun y => y.char?.any CodePoint.isAlpha) && !word.any (isChar '@') then
      some (some (markup (('<' : CodePoint) :: plainAll inner ++ (['>'] : Text))), rest)
    else none
  | none =>
    if Text.startsWith (leadingText (xs.take 4)) "<!--" then
      (untilCommentEnd? (xs.drop 4)).map fun (inner, rest) =>
        (some (markup (plainAll (xs.take 4 ++ inner))), rest)
    else none

/-- A reference to a character stays. -/
def referenceRule : Rule := fun _ xs =>
  match xs with
  | x :: rest =>
    if x.isChar '&' then
      let body := (leadingText rest).takeWhile (· != (';' : CodePoint))
      let isReference := match body with
        | '#' :: 'x' :: t => !t.isEmpty && t.all fun c => (Text.hexValue? c).isSome
        | '#' :: t => !t.isEmpty && t.all CodePoint.isDigit
        | t => !t.isEmpty && t.all CodePoint.isAlphanum
      if isReference && (rest.drop body.length).head?.any (isChar ';') then
        some (some (markup (('&' : CodePoint) :: body ++ ([';'] : Text))), rest.drop (body.length + 1))
      else none
    else none
  | [] => none

/-- Up to three stars or low lines between blanks stand for themselves. -/
def loneRule : Rule := fun before xs =>
  let lone? (sign : CodePoint) : Option (Option Node × List Node) :=
    let run := countFront sign xs
    let rest := xs.drop run
    if 1 ≤ run && run ≤ 3 && before.all isBlank && rest.head?.all isBlank then
      some (some (markup (List.replicate run sign)), rest)
    else none
  lone? '*' <|> lone? '_'

def lineFeedRule : Rule := fun _ xs =>
  match xs with
  | x :: rest => if x.isChar '\n' then some (some lineBreak, rest) else none
  | [] => none

/-! Every reading below begins with one kind of node and goes on with all that come later. -/

def readLineFeeds (xs : List Node) : List Node :=
  Rule.sweep lineFeedRule xs

def readLowLines (xs : List Node) : List Node :=
  readLineFeeds (Emphasis.mark '_' readLineFeeds xs)

def readStars (xs : List Node) : List Node :=
  readLowLines (Emphasis.mark '*' readLowLines xs)

def readReferences (xs : List Node) : List Node :=
  readStars (Rule.sweep loneRule (Rule.sweep referenceRule xs))

def readAngled (xs : List Node) : List Node :=
  let xs := Rule.replaceAll mailRule (Rule.replaceAll addressRule xs)
  readReferences (Rule.replaceAll tagRule (Rule.sweep spacedBreakRule xs))

def readShortImages (definitions : List Definition) (xs : List Node) : List Node :=
  readAngled (Rule.replaceAll (shortImageRule definitions) xs)

def readShortLinks (definitions : List Definition) (xs : List Node) : List Node :=
  readShortImages definitions
    (Rule.replaceAll (shortLinkRule definitions (readShortImages definitions)) xs)

def readImages (definitions : List Definition) (xs : List Node) : List Node :=
  readShortLinks definitions
    (Rule.replaceAll (namedImageRule definitions) (Rule.replaceAll imageRule xs))

def readLinks (definitions : List Definition) (xs : List Node) : List Node :=
  readImages definitions (Rule.replaceAll (linkRule (readImages definitions)) xs)

def readNamedLinks (definitions : List Definition) (xs : List Node) : List Node :=
  readLinks definitions
    (Rule.replaceAll (namedLinkRule definitions (readLinks definitions)) xs)

/-- A running text with all of its nodes. -/
def read (definitions : List Definition) (xs : List Node) : List Node :=
  readNamedLinks definitions (Rule.sweep escapeRule (Rule.sweep codeRule xs))

/-- Reads the running texts of some parts: the text at the front of each part, and the text behind
it. Where a part has other parts already, its texts are read again, each by itself; so a link can
come to stand in a link behind code. `fuel` bounds the parts that are met on the way down and along.
-/
def readParts (definitions : List Definition) : (fuel : Nat) → List Node → List Node
  | 0, xs => xs
  | _ + 1, [] => []
  | fuel + 1, part kind content :: rest =>
    let readAll := read definitions
    let readUnder (content : List Node) : List Node :=
      lead content ++ readParts definitions fuel (fromFirstPart content)
    let text := (readAll (lead content)).map fun
      | part kind content => part kind (readUnder content)
      | x => x
    let others := fromFirstPart content
    let content := if others.isEmpty then text else readUnder (text ++ others)
    let behind := readAll (lead rest)
    part kind content ::
      lead behind ++ readParts definitions fuel (fromFirstPart behind ++ fromFirstPart rest)
  | fuel + 1, x :: rest => x :: readParts definitions fuel rest

end LabEditor.Markdown.Inline
