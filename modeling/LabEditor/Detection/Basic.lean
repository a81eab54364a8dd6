import LabEditor.Detection.Rule
import LabEditor.Detection.Vault
import LabEditor.Markup.Block
import LabEditor.Path.Basic

/-! Guessing the tags of a page that an author has not marked up. -/
namespace LabEditor.Detection

open Markup (tagLine?)

def markdownExtensions : List Text := [".md", ".markdown"]

/-- File types whose content is code or data, never a page. -/
def plainExtensions : List Text := [".sh", ".json"]

/-- A list marker at the front of a line, where blank lines may come before it, and a blank after
it. -/
def startsWithListMarker (t : Text) : Bool :=
  match Text.trimStart t with
  | [] => false
  | c :: rest =>
    if c = '-' || c = '+' || c = '*' then rest.head?.any Text.isBlank
    else
      match (c :: rest).dropWhile Text.isDigit with
      | d :: e :: _ => Text.isDigit c && (d = '.' || d = ')') && Text.isBlank e
      | _ => false

/-- Whether some line of the text, with all that follows it, starts with a list marker. -/
def hasListMarker : (atLineStart : Bool) → Text → Bool
  | _, [] => false
  | atLineStart, c :: t =>
    (atLineStart && startsWithListMarker (c :: t)) || hasListMarker (c == '\n') t

/-- Whether a text looks like a page; the type of its file decides if it is a known one. -/
def looksLikeMarkdown (t : Text) (file? : Option Text) : Bool :=
  let extension := (file?.map Path.extension).getD []
  if markdownExtensions.contains extension then true
  else if plainExtensions.contains extension then false
  else
    t.contains '#' || Text.hasPart "\x60\x60\x60" t || t.contains '*' || t.contains '[' ||
      t.contains '|' || hasListMarker true t

/-- Applies a rule to the lines that carry no tag, do not belong to a code tag, and hold no code set
aside. -/
def apply (rule : Rule) : (inBlock : Bool) → List Text → List Text
  | _, [] => []
  | inBlock, line :: lines =>
    match tagLine? line with
    | some tag => line :: apply rule tag.role.opensCode lines
    | none =>
      if Text.isBlankText line then line :: apply rule false lines
      else if inBlock || tokenPattern.occurs line then line :: apply rule inBlock lines
      else (rule line).getD line :: apply rule inBlock lines

/-- The rules in their order, each over all lines. -/
def rules : List Rule := [asHeading, asExec, asCopy]

def applyAll (lines : List Text) : List Text :=
  rules.foldl (fun lines rule => apply rule false lines) lines

/-- The page with tags guessed for its unmarked lines. -/
def detect (page : Text) : Except Fault Text :=
  let vault := protect page
  restore vault.spans (Text.glue '\n' (applyAll (Markup.lines vault.text)))

/-- Detection on a text that looks like a page; any other stays as it is. -/
def detectIn (t : Text) (file? : Option Text) : Except Fault Text :=
  if looksLikeMarkdown t file? then detect t else .ok t

end LabEditor.Detection
