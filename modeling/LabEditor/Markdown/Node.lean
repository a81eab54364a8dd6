import LabEditor.Text.Blank

/-! A Markdown page as a tree. The content of a part is one list: running text, character by
character, and the parts that stand in it. -/
namespace LabEditor.Markdown

inductive Align where
  | none
  | left
  | center
  | right
deriving DecidableEq, Repr, Inhabited

/-- What a part of a page is. Code is no content, since nothing in it is a part. -/
inductive Kind where
  | page
  | heading (level : Nat)
  | paragraph
  /-- An ordered list may start with another number than one. -/
  | list (ordered : Bool) (start : Text)
  | item
  | quote
  | rule
  | indentedCode (body : Text)
  | fencedCode (language body : Text)
  | table
  | tableHead
  | tableBody
  | row
  | cell (inHead : Bool) (align : Align)
  | codeSpan (text : Text)
  | link (address : Text) (title? : Option Text)
  | image (source alt : Text) (title? : Option Text)
  | emphasis
  | strong
  | lineBreak
deriving DecidableEq, Repr, Inhabited

namespace Kind

/-- Parts that stand on lines of their own. -/
def isBlock : Kind → Bool
  | codeSpan _ | link _ _ | image _ _ _ | emphasis | strong | lineBreak => false
  | _ => true

def isList : Kind → Bool
  | list _ _ => true
  | _ => false

end Kind

inductive Node where
  | char (c : CodePoint)
  /-- A sign that stands for itself, whatever it stands beside. -/
  | literal (c : CodePoint)
  /-- HTML that is kept as it is written. -/
  | markup (text : Text)
  | part (kind : Kind) (content : List Node)
deriving Inhabited, Repr

namespace Node

def ofText (t : Text) : List Node :=
  t.map char

def isChar (c : CodePoint) : Node → Bool
  | char d => c == d
  | _ => false

def isBlank : Node → Bool
  | char c => Text.isBlank c
  | _ => false

def isPart : Node → Bool
  | part _ _ => true
  | _ => false

/-- The characters in front of everything else. -/
def leadingText : List Node → Text
  | char c :: xs => c :: leadingText xs
  | _ => []

/-- The running text in front of the first part. -/
def lead (content : List Node) : List Node :=
  content.takeWhile fun x => !x.isPart

/-- The content from its first part on. -/
def fromFirstPart (content : List Node) : List Node :=
  content.dropWhile fun x => !x.isPart

/-- The last part of a content, with what stands in front of it and the running text behind it. -/
structure LastPart where
  front : List Node
  kind : Kind
  content : List Node
  behind : List Node

def lastPart? : List Node → Option LastPart
  | [] => none
  | x :: xs =>
    match lastPart? xs, x with
    | some last, _ => some { last with front := x :: last.front }
    | none, part kind content => some ⟨[], kind, content, xs⟩
    | none, _ => none

namespace LastPart

/-- The whole content again. -/
def join (last : LastPart) : List Node :=
  last.front ++ part last.kind last.content :: last.behind

end LastPart

def lastKind? (content : List Node) : Option Kind :=
  (lastPart? content).map (·.kind)

end Node
end LabEditor.Markdown
