import LabEditor.Markdown.Escape
import LabEditor.Markdown.Node

/-! What a link leads to: an address in parentheses, and maybe a title in quotes. Parentheses and
quotes need not be balanced; the end is then found by keeping several counts at once. -/
namespace LabEditor.Markdown

namespace Node

mutual

/-- The text alone, without images. -/
def plain : Node → Text
  | char c | literal c => [c]
  | markup text => text
  | part (.codeSpan text) _ => escapeCode text
  | part _ content => plainAll content

def plainAll : List Node → Text
  | [] => []
  | x :: xs => plain x ++ plainAll xs

end

/-- The content between blank characters at its ends. -/
def trim (xs : List Node) : List Node :=
  ((xs.dropWhile isBlank).reverse.dropWhile isBlank).reverse

def char? : Node → Option CodePoint
  | char c => some c
  | _ => none

end Node

structure Target where
  address : Text
  title? : Option Text
deriving DecidableEq, Repr, Inhabited

namespace Target
open Node

/-- A quotation that was begun: its sign, where it begins, and where it ended last. -/
structure Quotation where
  sign : CodePoint
  start : Nat
  stop? : Option Nat := none
deriving DecidableEq, Repr

/-- A title ends right in front of the parenthesis if its sign was the last thing read. -/
def Quotation.endsWith (quotation : Quotation) (last? : Option CodePoint) : Bool :=
  quotation.stop?.isSome && last? == some quotation.sign

/-- What is known at a place behind the opening parenthesis. Inside a quotation parentheses do not
count, but `spare` goes on counting in case the quotation turns out to be none. -/
structure Search where
  place : Nat := 0
  opened : Nat := 1
  spare : Nat := 1
  /-- The place behind the parenthesis that closes the spare count. -/
  spareEnd? : Option Nat := none
  first? : Option Quotation := none
  second? : Option Quotation := none
  /-- The last sign that is no space. -/
  last? : Option CodePoint := none
deriving Repr

namespace Search

def openParenthesis (s : Search) : Search :=
  if s.first?.isNone then { s with opened := s.opened + 1 }
  else { s with spare := s.spare - 1 }

def closeParenthesis (s : Search) : Search :=
  if s.first?.any (·.endsWith s.last?) || s.second?.any (·.endsWith s.last?) then
    { s with opened := 0 }
  else if s.first?.isNone then { s with opened := s.opened - 1 }
  else if s.spare = 0 then s
  else
    { s with
      spare := s.spare - 1
      spareEnd? := if s.spare = 1 then some (s.place + 1) else s.spareEnd? }

/-- The first quote sign begins a title, and the other sign a second one; both end where their sign
comes again. -/
def quote (s : Search) (sign : CodePoint) : Search :=
  match s.first?, s.second? with
  | none, _ =>
    { s with spare := s.opened, opened := 1, first? := some { sign, start := s.place + 1 } }
  | some first, none =>
    if sign = first.sign then { s with first? := some { first with stop? := some s.place } }
    else { s with second? := some { sign, start := s.place + 1 } }
  | some first, some second =>
    if sign = first.sign then { s with first? := some { first with stop? := some s.place } }
    else { s with second? := some { second with stop? := some s.place } }

/-- Reads one node; the place and the last sign are left as they are. -/
def look (s : Search) (c? : Option CodePoint) : Search :=
  match c? with
  | some '(' => s.openParenthesis
  | some ')' => s.closeParenthesis
  | some '"' => s.quote '"'
  | some '\'' => s.quote '\''
  | _ => s

/-- The state in which the parenthesis is closed, or the one at the end. -/
def run (s : Search) : List Node → Search
  | [] => s
  | x :: xs =>
    let s' := s.look x.char?
    if s'.opened = 0 then s'
    else
      run { s' with
        place := s.place + 1
        last? := if x.char? = some (' ' : CodePoint) then s.last? else x.char? } xs

end Search

/-- What a title in quotes says; its blanks are spaces. -/
def titleOf (title : List Node) : Text :=
  let t := plainAll (trim title)
  let quotes (c : CodePoint) : Bool := t.head? == some c && t.getLast? == some c
  (if quotes '"' || quotes '\'' then (t.drop 1).dropLast else t).map fun c =>
    if Text.isBlank c then ' ' else c

def ofNodes (address : List Node) (title? : Option (List Node)) : Target :=
  ⟨Text.trim (plainAll address), title?.map titleOf⟩

/-- The title between two quotes of one kind at the front. -/
def quoted? (xs : List Node) : Option (List Node × List Node) :=
  match xs with
  | x :: xs =>
    if x.isChar '"' || x.isChar '\'' then
      let title := xs.takeWhile fun y => y.char? != x.char?
      match xs.drop title.length with
      | _ :: rest => some (title, rest)
      | [] => none
    else none
  | [] => none

/-- An address in angle brackets, a title or none, and the closing parenthesis. -/
def angled? (xs : List Node) : Option (Target × List Node) :=
  match xs with
  | x :: xs =>
    let address := xs.takeWhile fun y => !(y.isChar '<' || y.isChar '>')
    match x.isChar '<', xs.drop address.length with
    | true, y :: rest =>
      if y.isChar '>' then
        let rest := rest.dropWhile isBlank
        let (title?, rest) := match quoted? rest with
          | some (title, rest) => (some title, rest.dropWhile isBlank)
          | none => (none, rest)
        match rest with
        | z :: rest => if z.isChar ')' then some (ofNodes address title?, rest) else none
        | [] => none
      else none
    | _, _ => none
  | [] => none

/-- Reads the target behind an opening parenthesis. Without a closing one the spare count decides;
if even that was closed by no parenthesis, all but the last two characters are the address, and the
last one is left. -/
def behindParenthesis? (xs : List Node) : Option (Target × List Node) :=
  let s := ({} : Search).run xs
  if s.opened = 0 then
    let parts (quotation : Quotation) (stop : Nat) : List Node × Option (List Node) :=
      (xs.take (quotation.start - 1), some ((xs.take stop).drop quotation.start))
    let (address, title?) :=
      match s.first?.filter (·.endsWith s.last?), s.second?.filter (·.endsWith s.last?) with
      | some first, _ => parts first (first.stop?.getD 0)
      | none, some second => parts second (second.stop?.getD 0)
      | none, none => (xs.take s.place, none)
    some (ofNodes address title?, xs.drop (s.place + 1))
  else if s.spare = 0 then
    match s.spareEnd? with
    | some stop => some (ofNodes (xs.take (stop - 1)) none, xs.drop stop)
    | none => some (ofNodes (xs.take (xs.length - 2)) none, xs.drop (xs.length - 1))
  else none

/-- A target in parentheses, and the rest. -/
def read? (xs : List Node) : Option (Target × List Node) :=
  match xs with
  | x :: xs =>
    if x.isChar '(' then
      let xs := xs.dropWhile isBlank
      angled? xs <|> behindParenthesis? xs
    else none
  | [] => none

end Target
end LabEditor.Markdown
