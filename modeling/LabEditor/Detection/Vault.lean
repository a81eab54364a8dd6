import LabEditor.Token

/-! Code spans set aside before detection and put back after it. Tokens of private characters stand
in for them. -/
namespace LabEditor.Detection

def spanMarks : TokenMarks := ⟨'\ue000', '\ue001'⟩

/-- A token, read as its digits. -/
def tokenPattern : Pattern CodePoint Text := fun _ t => spanMarks.read? t

/-- The character of a code fence at the front of a line, and how often it stands there. -/
def fenceRun? (line : Text) : Option (CodePoint × Nat) :=
  match line with
  | [] => none
  | c :: _ =>
    let n := (line.takeWhile (· == c)).length
    if (c = '\x60' || c = '~') && 3 ≤ n then some (c, n) else none

/-- How many of the lines come before the first one that closes a fence of at most `n` characters;
the longest fence that is closed at all counts, and none of less than three characters does. -/
def linesToClose? (c : CodePoint) (lines : List Text) : (n : Nat) → Option Nat
  | 0 => none
  | n + 1 =>
    if n + 1 < 3 then none
    else
      match lines.findIdx? fun line => Text.startsWith line (List.replicate (n + 1) c) with
      | some i => some i
      | none => linesToClose? c lines n

/-- A fenced block: whole lines from a fence to the line that closes it. -/
def fencedPattern : Pattern Text Text := fun _ lines =>
  match lines with
  | [] => none
  | line :: lines =>
    match fenceRun? line with
    | none => none
    | some (c, n) =>
      (linesToClose? c lines n).map fun i =>
        (Text.glue '\n' (line :: lines.take (i + 1)), lines.drop (i + 1))

/-- The rest after the next run of exactly `n` backticks on the line, where `seen` backticks have
just been read. -/
def afterExactTicks? (n : Nat) : (seen : Nat) → Text → Option Text
  | seen, [] => if seen = n then some [] else none
  | seen, c :: t =>
    if c = '\x60' then afterExactTicks? n (seen + 1) t
    else if seen = n then some (c :: t)
    else if c = '\n' then none
    else afterExactTicks? n 0 t

/-- An inline code span: a whole run of backticks, up to the next run of as many on the line. -/
def inlinePattern : Pattern CodePoint Text := fun before t =>
  let n := (t.takeWhile (· == ('\x60' : CodePoint))).length
  if n = 0 || before = some ('\x60' : CodePoint) then none
  else
    (afterExactTicks? n 0 (t.drop n)).map fun rest => (t.take (t.length - rest.length), rest)

/-- A text with tokens in place of its code spans, and the spans by their numbers. -/
structure Vault where
  text : Text
  spans : List Text
deriving DecidableEq, Repr

/-- Sets aside the fenced blocks, and then the inline spans of what is left. -/
def protect (t : Text) : Vault :=
  let (lines, blocks) :=
    Piece.setAside (fun n => [spanMarks.token n]) 0 (fencedPattern.pieces (Text.cut '\n' t))
  let (text, inlines) :=
    Piece.setAside spanMarks.token blocks.length (inlinePattern.pieces (Text.glue '\n' lines))
  ⟨text, blocks ++ inlines⟩

/-- A text with the spans put back for their tokens. A token of no span is an error. -/
def restore (spans : List Text) (t : Text) : Except Fault Text :=
  Piece.writeAll? (resolve spans) (tokenPattern.pieces t)

end LabEditor.Detection
