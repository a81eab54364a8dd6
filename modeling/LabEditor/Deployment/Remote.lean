import LabEditor.Json.Access
import LabEditor.Json.Bytes

/-! The remote repository: requests to its object store, and the record of what was asked. How the
other side answers is not known beforehand; it may depend on all that was asked before. -/
namespace LabEditor.Deployment

/-- A file to be committed. -/
structure Blob where
  path : Text
  mode : Text
  content : Json
deriving Inhabited, Repr

/-- The five requests of a deployment. Object names come from earlier answers, which may hold any
value in their place. -/
inductive Request where
  | branchHead (branch : Text)
  | commit (name : Json)
  | createTree (base : Json) (blobs : List Blob)
  | createCommit (message : Text) (tree parent : Json)
  | moveBranch (branch : Text) (commit : Json)
deriving Inhabited, Repr

namespace Request

def method : Request → Text
  | .branchHead .. | .commit .. => "GET"
  | .createTree .. | .createCommit .. => "POST"
  | .moveBranch .. => "PATCH"

/-- The address below the one of the repository. -/
def suffix : Request → Text
  | .branchHead branch => "ref/heads/" ++ branch
  | .commit name => "commits/" ++ name.display
  | .createTree .. => "trees"
  | .createCommit .. => "commits"
  | .moveBranch branch _ => "refs/heads/" ++ branch

def blobJson (blob : Blob) : Json :=
  .obj [("path", .str blob.path), ("mode", .str blob.mode), ("type", .str "blob"),
    ("content", blob.content)]

/-- What is sent along. -/
def payload : Request → Json
  | .branchHead .. | .commit .. => .null
  | .createTree base blobs => .obj [("base_tree", base), ("tree", .arr (blobs.map blobJson))]
  | .createCommit message tree parent =>
    .obj [("message", .str message), ("tree", tree), ("parents", .arr [parent])]
  | .moveBranch _ target => .obj [("sha", target), ("force", .bool false)]

end Request

inductive Reply where
  /-- No answer comes at all. -/
  | broken
  | answer (status : Int) (body : Text)
deriving DecidableEq, Inhabited, Repr

/-- The repository on the other side, and how it is addressed. -/
structure Client where
  owner : Text
  repository : Text
  /-- The address of the host, without slashes at the end. -/
  host : Text
deriving DecidableEq, Inhabited, Repr

def defaultHost : Text := "https://api.github.com"

/-- The client of a repository at a host, whose address may end in slashes. -/
def Client.ofHost (owner repository host : Text) : Client :=
  ⟨owner, repository, Text.dropEndWhile (· == '/') host⟩

def Client.url (client : Client) (request : Request) : Text :=
  client.host ++ "/repos/" ++ client.owner ++ ('/' : CodePoint) :: client.repository ++ "/git/" ++
    request.suffix

/-- A request as it was sent. -/
structure Call where
  request : Request
  url : Text
deriving Inhabited, Repr

/-- Seconds to wait for an answer. -/
def timeout : Nat := 15

/-- A connection: how the other side answers, given the number of requests before, what was sent,
the headers that go with every request, and how many lists and objects may stand in one another where
an answer is read. -/
structure Connection where
  answer : Nat → Request → Reply
  calls : List Call
  headers : Table Text
  limit : Nat

/-- The headers of a client of this program. -/
def clientHeaders (token : Text) : Table Text :=
  let headers : Table Text :=
    [("User-Agent", "Labmark/0.1.0"), ("Accept", "application/vnd.github+json")]
  if token.isEmpty then headers else headers.put "Authorization" ("Bearer " ++ token)

def Connection.withHeaders (connection : Connection) (headers : Table Text) : Connection :=
  { connection with
    headers := headers.foldl (fun all (name, value) => Table.put name value all)
      connection.headers }

/-- The value of a reply in the encoding that its zero bytes show. A missing answer, an error status
and a body that is not JSON count as none. -/
def Reply.value? (limit : Nat) : Reply → Except Fault (Option Json)
  | .broken => .ok none
  | .answer status body =>
    let bytes := Text.utf8Bytes body
    if 400 ≤ status && status < 600 then .ok none
    else Json.received (Json.readBytes limit false (Text.Encoding.ofZeros? bytes) bytes)

/-- Steps over a connection. What was sent stays sent when a later step does not succeed. -/
abbrev Exchange (α : Type) := ExceptT Failure (StateM Connection) α

/-- Sends a request once and waits for its answer. -/
def send (client : Client) (request : Request) : Exchange Json := do
  let connection ← get
  let reply := connection.answer connection.calls.length request
  let call : Call := ⟨request, client.url request⟩
  set { connection with calls := connection.calls ++ [call] }
  match reply.value? connection.limit with
  | .ok (some value) => pure value
  | .ok none => throw (.refusal .deploymentFailed)
  | .error fault => throw (.fault fault)

end LabEditor.Deployment
