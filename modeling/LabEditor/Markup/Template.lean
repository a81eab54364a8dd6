import LabEditor.Failure

/-! Page fragments that an author can put in front of a page. -/
namespace LabEditor.Markup

def standardHeader : Text :=
  "\x7b\x7bh1\x7d\x7d Page Title\n\n" ++
  "\x7b\x7bimg\x7d\x7d Logo | Company Logo | /assets/logo.png\n\n" ++
  "* Introduction line 1.\n* Introduction line 2.\n\n" ++
  "\x7b\x7bh2\x7d\x7d Section 1\n\n* Point 1\n* Point 2"

def codeExample : Text :=
  "\x7b\x7bh2\x7d\x7d Code Example\n\n* Here is a command to run:\n\x7b\x7bexec\x7d\x7d\n" ++
  "echo \"Hello KillerCoda!\"\n\n* Here is some configuration to copy:\n\x7b\x7bcopy\x7d\x7d\n" ++
  "[settings]\nuser = admin\nmode = test"

def templates : Table Text :=
  [("standardHeader", standardHeader), ("codeExample", codeExample)]

/-- The page with the named fragment before it. -/
def insertTemplate (page name : Text) : Except Refusal Text :=
  match templates.get? name with
  | some template => .ok (template ++ ('\n' : CodePoint) :: '\n' :: page)
  | none => .error (.unknownTemplate name)

end LabEditor.Markup
