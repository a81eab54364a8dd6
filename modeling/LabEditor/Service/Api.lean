import LabEditor.Archive.Basic
import LabEditor.Deployment.Basic
import LabEditor.Lab.Index
import LabEditor.Markup.Template
import LabEditor.Path.Clean
import LabEditor.Preview.Basic
import LabEditor.Service.Config
import LabEditor.Service.Request
import LabEditor.Workspace.Action

/-! The editor as a service: each request changes the state of the service and gets one answer. -/
namespace LabEditor.Service

/-- What the service works with. -/
structure State where
  config : Config
  workspace : Workspace
  connection : Deployment.Connection
  renderer : Preview.Renderer
  clock : Clock
  /-- The ids that are made for submissions to come, the next one first. -/
  ids : Nat → Text
  /-- The token for the remote repository, empty if there is none. -/
  token : Text

inductive Body where
  | json (value : Json)
  | archive (name : Text) (members : List Archived)
  | page
  | none
deriving Inhabited, Repr

structure Response where
  status : Nat
  body : Body
deriving Inhabited, Repr

/-- Steps of an answer. What was changed stays changed when a later step does not succeed. -/
abbrev Handler (α : Type) := ExceptT Failure (StateM State) α

def lift (outcome : Except Failure α) : Handler α :=
  ExceptT.mk (pure outcome)

def ofRefusal (outcome : Except Refusal α) : Handler α :=
  lift (Failure.ofRefusal outcome)

def ofFault (outcome : Except Fault α) : Handler α :=
  lift (Failure.ofFault outcome)

def workspace : Handler Workspace := do
  pure (← get).workspace

def setWorkspace (ws : Workspace) : Handler Unit :=
  modify fun state => { state with workspace := ws }

/-- Changes the workspace, unless the change does not succeed. -/
def change (f : Workspace → Except Failure (Workspace × α)) : Handler α := do
  let (ws, value) ← lift (f (← workspace))
  setWorkspace ws
  pure value

/-- Changes the store, unless the change is refused. -/
def changeStore (f : Store → Except Refusal (Store × α)) : Handler α :=
  change fun ws => (Failure.ofRefusal (f ws.store)).map fun (store, value) =>
    (ws.withStore store, value)

/-- The next id; no other submission gets it. -/
def takeId : Handler Text := do
  let ids := (← get).ids
  modify fun state => { state with ids := fun n => ids (n + 1) }
  pure (ids 0)

/-- Carries out steps over the connection. -/
def exchange (steps : Deployment.Exchange α) : Handler α := do
  let state ← get
  let (outcome, connection) := steps.run.run state.connection
  set { state with connection }
  lift outcome

/-- The answer to a request that was carried out. -/
def done (members : List (Text × Json)) : Body :=
  .json (.obj (("ok", .bool true) :: members))

def showConfig : Handler Body := do
  let state ← get
  let settings := state.workspace.settings
  let owner := Config.setting state.config "github_owner"
  let repository := Config.setting state.config "github_repo"
  pure (.json (.obj [
    ("theme", .str settings.theme.name),
    ("autoDetect", .bool settings.autoDetect),
    ("extensions", .texts allowedExtensions),
    ("deployConfigured", .bool (owner.truthy && repository.truthy))]))

def showTree : Handler Body := do
  let ws ← workspace
  let tree ← ofFault ws.listedTree
  pure (.json (.obj [("tree", .arr (Node.toJsonAll tree.children)),
    ("currentFile", ws.store.current)]))

def toggle (request : Json) : Handler Body := do
  let path := Text.trim (← lift (textField request "path"))
  if path.isEmpty then throw (.refusal .noFolderPath)
  let expanded ← change fun ws => ws.toggleFolder path
  pure (done [("path", .str path), ("expanded", .bool expanded)])

def writeFile (path : Text) (request : Json) : Handler Body := do
  let content ← lift (textField request "content")
  changeStore fun store => (store.write path (.str content)).map fun store => (store, ())
  pure (done [("path", .str path)])

def act (action : Action) : Handler Body := do
  pure (done (← change fun ws => action.apply ws))

/-- The words by which a query confirms a deletion. -/
def confirmations : List Text := ["1", "true", "yes"]

def deleteFile (path : Text) (query : Table Text) : Handler Body :=
  act (.delete path ((query.get? "confirm").any confirmations.contains))

def showFile (path : Text) : Handler Body := do
  pure (.json (← ofRefusal ((← workspace).store.get path)).toJson)

def newFile (request : Json) : Handler Body := do
  let typed := Text.trim (← lift (textField request "path"))
  if typed.isEmpty then throw (.refusal .noPath)
  let isDirectory := (← ofFault (request.memberOr "isDirectory" (.bool false))).truthy
  let path ← ofRefusal (Path.clean typed)
  let content ← lift (textField request "content")
  let record ← changeStore fun store => store.create path isDirectory (.str content)
  pure (done [("path", .str record.path)])

def convert (request : Json) : Handler Body := do
  let text ← lift (textField request "text")
  let path ← lift (textField request "path")
  let state ← get
  let auto := state.workspace.settings.autoDetect
  let markdown ← ofFault
    (if path.isEmpty then convertText text auto else convertFile path text auto)
  let html ← ofFault (if path.isEmpty then Preview.render state.renderer markdown
    else Preview.ofFile state.renderer path text auto)
  pure (.json (.obj [("markdown", .str markdown), ("html", .str html)]))

def preview (path : Text) : Handler Body := do
  let state ← get
  let content ← ofRefusal (state.workspace.store.read path)
  let auto := state.workspace.settings.autoDetect
  let markdown ← ofFault (convertContent path content auto)
  let html ← ofFault (Preview.ofContent state.renderer path content auto)
  pure (.json (.obj [("path", .str path), ("markdown", markdown), ("html", .str html)]))

def showSettings : Handler Body := do
  pure (.json (← workspace).settings.toJson)

def changeSettings (request : Json) : Handler Body := do
  let theme ← ofFault (request.memberOr "theme" .null)
  let autoDetect ← ofFault (request.memberOr "autoDetect" .null)
  change fun ws => .ok (ws.updateSettings theme autoDetect, ())
  showSettings

def showTemplates : Handler Body :=
  pure (.json (.obj (Markup.templates.map fun (name, text) => (name, .str text))))

def insertTemplate (request : Json) : Handler Body := do
  let text ← lift (textField request "text")
  let name ← lift (textField request "name")
  pure (.json (.obj [("text", .str (← ofRefusal (Markup.insertTemplate text name)))]))

def download : Handler Body := do
  let state ← get
  let members ← ofFault (Entry.ofWorkspace state.workspace true >>= archive)
  pure (.archive (archiveName state.clock) members)

/-- The paths that a request selects. -/
def selection (request : Json) : Except Failure (List Text) := do
  let files ← Failure.ofFault (request.memberOr "files" .null)
  if !files.truthy then throw (.refusal .nothingSelected)
  match files with
  | .arr items =>
    match items.mapM Json.text? with
    | some paths => pure paths
    | none => throw (.refusal .notPaths)
  | _ => throw (.refusal .notPaths)

/-- The selected files with their content for the platform; folders are skipped. -/
def selectedFiles (ws : Workspace) : List Text → Except Failure (List (Text × Json))
  | [] => .ok []
  | path :: paths => do
    let record ← Failure.ofRefusal (ws.store.get path)
    if record.isDirectory then selectedFiles ws paths
    else
      let content ← Failure.ofFault
        (convertContent record.path record.content ws.settings.autoDetect)
      pure ((record.path, content) :: (← selectedFiles ws paths))

/-- The client that a configuration describes. -/
def clientOf (config : Config) : Except Fault Deployment.Client :=
  match Config.setting config "github_api" with
  | .str host => .ok (.ofHost (Config.setting config "github_owner").display
      (Config.setting config "github_repo").display host)
  | _ => .error .notText

def deploy (request : Json) : Handler Body := do
  let state ← get
  let paths ← lift (selection request)
  let labName ← lift (textField request "labName")
  let authorName ← lift (textField request "authorName")
  let _ ← ofRefusal (Deployment.labFolder labName authorName)
  let owner := Config.setting state.config "github_owner"
  let repository := Config.setting state.config "github_repo"
  if !(owner.truthy && repository.truthy) then throw (.refusal .noRepository)
  let files ← lift (selectedFiles state.workspace paths)
  let client ← ofFault (clientOf state.config)
  modify fun state => { state with
    connection := state.connection.withHeaders (Deployment.clientHeaders state.token) }
  let message ← lift (textField request "message")
  let branch := (Config.setting state.config "github_branch").display
  let commit ← exchange (Deployment.deploy client branch files labName authorName message)
  let id ← takeId
  let submission ← change fun ws => .ok (ws.recordSubmission id state.clock labName authorName)
  pure (done [("commit", commit), ("submission", submission.summary)])

def showSubmissions : Handler Body := do
  pure (.json (.arr ((← workspace).submissions.map Submission.summary)))

def restore (id : Text) : Handler Body := do
  let submission ← change fun ws => ws.restoreSubmission id
  pure (done [("submission", submission.summary)])

/-- A text, or another one in place of the empty text. -/
def orElse (t instead : Text) : Text :=
  if t.isEmpty then instead else t

def scaffold (request : Json) : Handler Body := do
  let title ← lift (textField request "title")
  let image ← lift (textField request "imageid")
  let ws ← workspace
  let (store, outcome) :=
    Lab.scaffold ws.store (orElse title Lab.defaultTitle) (orElse image Lab.defaultImage)
  setWorkspace (ws.withStore store)
  pure (done [("created", .texts (← lift outcome))])

/-- Writes the descriptor of the lab, anew or over the old one. -/
def index (request : Json) : Handler Body := do
  let title := Text.trim (← lift (textField request "title"))
  if title.isEmpty then throw (.refusal .noLabTitle)
  let description ← lift (textField request "description")
  let image ← lift (textField request "imageid")
  let files ← ofFault (Lab.scanStore (← workspace).store)
  let descriptor := Lab.describe title description (orElse image Lab.defaultImage) files
  let content : Json := .str descriptor.indented
  changeStore fun store =>
    if store.has Lab.indexFile then
      (store.write Lab.indexFile content).map fun store => (store, ())
    else (store.create Lab.indexFile false content).map fun (store, _) => (store, ())
  pure (done [("index", descriptor)])

/-- The steps that answer a request to an endpoint. Only steps that need the body read it. -/
def handle (request : Request) : Endpoint → Handler Body
  | .page => pure .page
  | .config => showConfig
  | .tree => showTree
  | .toggle => body >>= toggle
  | .file path =>
    if request.method = "PUT" then body >>= writeFile path
    else if request.method = "DELETE" then deleteFile path request.query
    else showFile path
  | .newFile => body >>= newFile
  | .actions => do act (← lift (Action.ofJson (← body)))
  | .convert => body >>= convert
  | .preview path => preview path
  | .settings => if request.method = "PUT" then body >>= changeSettings else showSettings
  | .templates => showTemplates
  | .insertTemplate => body >>= insertTemplate
  | .download => download
  | .deploy => body >>= deploy
  | .submissions => showSubmissions
  | .restore id => restore id
  | .scaffold => body >>= scaffold
  | .index => body >>= index
where
  body : Handler Json := ofFault request.body

/-- The answer to the outcome of a request: a refusal is explained, unusable data is not. -/
def Response.ofOutcome : Except Failure Body → Response
  | .ok body => ⟨200, body⟩
  | .error (.refusal reason) =>
    ⟨reason.status, .json (.obj [("ok", .bool false), ("error", .str reason.message)])⟩
  | .error (.fault _) => ⟨500, .none⟩

/-- The answer without its body where only the head is asked for. -/
def Response.toMethod (response : Response) (method : Text) : Response :=
  if method = "HEAD" then { response with body := .none } else response

/-- Answers a request. A method that an endpoint does not have is not carried out; which methods it has may
be asked of each. -/
def respond (request : Request) (state : State) : Response × State :=
  match Endpoint.ofPath? request.method request.path with
  | none => (⟨404, .none⟩, state)
  | some endpoint =>
    if endpoint.accepts request.method then
      let (outcome, state) := (handle request endpoint).run.run state
      ((Response.ofOutcome outcome).toMethod request.method, state)
    else if request.method = "OPTIONS" then (⟨200, .none⟩, state)
    else (⟨405, .none⟩, state)

end LabEditor.Service
