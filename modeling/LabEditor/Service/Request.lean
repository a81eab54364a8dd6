import LabEditor.Json.Access
import LabEditor.Json.Bytes
import LabEditor.Text.Blank
import LabEditor.Text.Case
import LabEditor.Text.Percent

/-! Requests to the editor, and what their bodies say. -/
namespace LabEditor.Service

structure Request where
  method : Text
  /-- The path without percent-encoding. -/
  path : Text
  query : Table Text
  /-- The object that the body holds, which is empty if the body holds none. -/
  body : Except Fault Json

/-- The path and the query of an address, as they are written. Tabs and line ends in an address do
not count, and what follows a number sign is not sent. -/
def splitAddress (address : Text) : Text × Text :=
  let kept := address.filter fun (c : CodePoint) => !(c == '\t' || c == '\n' || c == '\r')
  let (path, query) := Text.splitWhen (· == '?') (Text.splitWhen (· == '#') kept).1
  (path, query.drop 1)

/-- A name or a value in a query, where a plus sign stands for a space. -/
def queryText (t : Text) : Text :=
  Text.percentDecoded (t.map fun (c : CodePoint) => if c = '+' then ' ' else c)

/-- The fields of a query; the first one of a name counts. -/
def readQuery (query : Text) : Table Text :=
  Table.ofEntries ((Text.cut '&' query).reverse.map fun field =>
    let (name, value) := Text.splitWhen (· == '=') field
    (queryText name, queryText (value.drop 1)))

/-- The request to an address. A query that is given apart takes the place of that in the address.
-/
def Request.ofAddress (method address : Text) (query? : Option (Table Text))
    (body : Except Fault Json) : Request :=
  let (path, query) := splitAddress address
  ⟨method, Text.percentDecoded path, query?.getD (readQuery query), body⟩

/-- Whether a content type is that of JSON; parameters after a semicolon do not count. -/
def isJsonType (contentType : Text) : Bool :=
  let kind := Text.lower (Text.trim (Text.splitWhen (· == ';') contentType).1)
  kind == "application/json" ||
    (Text.startsWith kind "application/" && Text.startsWith kind.reverse (("+json" : Text).reverse))

/-- A value as the object of a body. -/
def bodyOf : Json → Json
  | .obj members => .obj members
  | _ => .obj []

/-- The object of a body of the given type, in the encoding that its first zero byte shows. -/
def readBody (limit : Nat) (contentType raw : Text) : Except Fault Json := do
  let bytes := Text.utf8Bytes raw
  if isJsonType contentType then
    let encoding := Text.Encoding.ofFirstZero bytes
    pure (bodyOf ((← Json.received (Json.readBytes limit true (some encoding) bytes)).getD .null))
  else pure (.obj [])

/-- A text of a body; null and no value stand for the empty text. -/
def textField (body : Json) (name : Text) : Except Failure Text := do
  match ← Failure.ofFault (body.memberOr name .null) with
  | .null => pure []
  | .str t => pure t
  | _ => throw (.refusal (.notText name))

/-- What a request is about. -/
inductive Endpoint where
  | page
  | config
  | tree
  | toggle
  | file (path : Text)
  | newFile
  | actions
  | convert
  | preview (path : Text)
  | settings
  | templates
  | insertTemplate
  | download
  | deploy
  | submissions
  | restore (id : Text)
  | scaffold
  | index
deriving DecidableEq, Repr

/-- The endpoint at a path. The path of a new file is that of a file too, for all other methods. -/
def Endpoint.ofPath? (method path : Text) : Option Endpoint :=
  if path = "/" then some .page
  else
    match Text.after? "/api/" path with
    | none => none
    | some place =>
      if place = "config" then some .config
      else if place = "tree" then some .tree
      else if place = "tree/toggle" then some .toggle
      else if place = "files/new" && method = "POST" then some .newFile
      else if place = "ops" then some .actions
      else if place = "convert" then some .convert
      else if place = "settings" then some .settings
      else if place = "templates" then some .templates
      else if place = "templates/insert" then some .insertTemplate
      else if place = "download-all" then some .download
      else if place = "deploy" then some .deploy
      else if place = "submissions" then some .submissions
      else if place = "lab/scaffold" then some .scaffold
      else if place = "lab/index" then some .index
      else
        match Text.after? "files/" place, Text.after? "preview/" place,
          Text.after? "submissions/" place with
        | some name, _, _ => some (.file name)
        | _, some name, _ => some (.preview name)
        | _, _, some rest =>
          match Text.splitWhen (· == '/') rest with
          | (id, action) => if action = "/restore" then some (.restore id) else none
        | none, none, none => none

/-- The methods of an endpoint. -/
def Endpoint.methods : Endpoint → List Text
  | .page | .config | .tree | .preview _ | .templates | .download | .submissions => ["GET"]
  | .file _ => ["GET", "PUT", "DELETE"]
  | .settings => ["GET", "PUT"]
  | .toggle | .newFile | .actions | .convert | .insertTemplate | .deploy | .restore _ | .scaffold
  | .index => ["POST"]

/-- What is answered to GET is answered to HEAD too. -/
def Endpoint.accepts (endpoint : Endpoint) (method : Text) : Bool :=
  endpoint.methods.contains (if method = "HEAD" then "GET" else method)

end LabEditor.Service
