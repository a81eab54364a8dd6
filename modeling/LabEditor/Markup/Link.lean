import LabEditor.Scan
import LabEditor.Text.Case
import LabEditor.Text.Word

/-! Addresses in running text become links. Code spans and links that are there already keep their
form, addresses inside them included. -/
namespace LabEditor.Markup

/-- The rest of a line after the first occurrence of `mark`. -/
def afterMark? (mark : Text) : Text → Option Text
  | [] => if mark.isEmpty then some [] else none
  | c :: t =>
    match Text.after? mark (c :: t) with
    | some rest => some rest
    | none => if c = '\n' then none else afterMark? mark t

/-- A code span that opens with `n` backticks: at least one character and `n` backticks again, on
one line. -/
def ticksClosed? (n : Nat) (t : Text) : Option Text :=
  match Text.after? (List.replicate n '\x60') t with
  | some (c :: rest) => if c = '\n' then none else afterMark? (List.replicate n '\x60') rest
  | _ => none

/-- The rest after a code span that opens with at most `n` backticks, with as many as possible. -/
def afterTicks? : (n : Nat) → Text → Option Text
  | 0, _ => none
  | n + 1, t =>
    match ticksClosed? (n + 1) t with
    | some rest => some rest
    | none => afterTicks? n t

/-- The rest after a text in brackets with an address in parentheses. -/
def afterBrackets? (t : Text) : Option Text :=
  match t with
  | '[' :: inner =>
    match (Text.splitWhen (· == ']') inner).2 with
    | ']' :: '(' :: address =>
      match (Text.splitWhen (· == ')') address).2 with
      | ')' :: rest => some rest
      | _ => none
    | _ => none
  | _ => none

/-- Letters in addresses: those of ASCII and their case forms. -/
def isAddressLetter (c : CodePoint) : Bool :=
  (c.toNat < 0x80 && c.isAlphanum) || c == 'İ' || c == 'ı' || c == 'ſ' || c == '\u212a'

/-- Characters that can end an address. -/
def isAddressEnd (c : CodePoint) : Bool :=
  isAddressLetter c || ("-+&@#/%=~_|" : Text).contains c

def isAddressChar (c : CodePoint) : Bool :=
  isAddressEnd c || ("?!:,.;" : Text).contains c

def schemes : List Text := ["https", "http", "ftp", "file"]

/-- An address at a place that does not lie inside a word: a scheme, and the longest run of address
characters that ends well. -/
def address? (before : Option CodePoint) (t : Text) : Option (Text × Text) :=
  if before.any Text.isWordChar then none
  else
    match schemes.findSome? fun scheme =>
      (Text.afterWord? scheme t).bind (Text.after? "://") with
    | none => none
    | some place =>
      let body := Text.dropEndWhile (fun c => !isAddressEnd c) (place.takeWhile isAddressChar)
      if body.isEmpty then none
      else
        let size := t.length - place.length + body.length
        some (t.take size, t.drop size)

inductive Linkable where
  /-- A code span or a link. -/
  | kept (t : Text)
  | address (t : Text)
deriving DecidableEq, Repr

def linkable : Pattern CodePoint Linkable := fun before t =>
  let rest? := match t with
    | '\x60' :: _ => afterTicks? (t.takeWhile (· == ('\x60' : CodePoint))).length t
    | _ => afterBrackets? t
  match rest? with
  | some rest => some (.kept (t.take (t.length - rest.length)), rest)
  | none => (address? before t).map fun (found, rest) => (.address found, rest)

def Linkable.write : Linkable → Text
  | .kept t => t
  | .address t => ('[' : CodePoint) :: t ++ "](" ++ t ++ ([')'] : Text)

def linkAddresses (t : Text) : Text :=
  linkable.replace Linkable.write t

end LabEditor.Markup
