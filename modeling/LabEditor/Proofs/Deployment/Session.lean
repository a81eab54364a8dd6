import LabEditor.Deployment.Basic
import LabEditor.Proofs.Live

/-! The five requests of a deployment as a talk: each is sent once, and only after the reply to the
one before has given the name that the next one needs. -/
namespace LabEditor.Deployment

namespace Reply
variable {limit : Nat} {reply : Reply}

def read (limit : Nat) (body : Text) : Except Json.ReadError Json :=
  Json.readBytes limit false (Text.Encoding.ofZeros? (Text.utf8Bytes body)) (Text.utf8Bytes body)

/-- No answer, an error status, or a body that is no value. -/
inductive Failed (limit : Nat) : Reply → Prop where
  | broken : Failed limit .broken
  | status (low : 400 ≤ status) (high : status < 600) : Failed limit (.answer status body)
  | noValue (unread : read limit body = .error cause) (shallow : cause ≠ .tooDeep) :
    Failed limit (.answer status body)

def Holds (limit : Nat) (reply : Reply) (value : Json) : Prop :=
  reply.value? limit = .ok (some value)

/-- The text at a place in the value of a reply, the outermost name first. -/
def Gives (limit : Nat) (reply : Reply) (names : List Text) (name : Text) : Prop :=
  ∃ value, reply.Holds limit value ∧ memberAt names value = .ok (.str name)

theorem Failed.value? (failed : reply.Failed limit) : reply.value? limit = .ok none := by
  cases failed with
  | broken => rfl
  | status low high => simp [Reply.value?, low, high]
  | @noValue body cause status unread shallow =>
    have none : Json.received (read limit body) = .ok none := by
      rw [unread]
      cases cause with
      | tooDeep => exact absurd rfl shallow
      | malformed => rfl
      | numberTooLong => rfl
    rw [Reply.value?]
    split
    · rfl
    · exact none

theorem Holds.not_failed (holds : reply.Holds limit value) : ¬ reply.Failed limit := by
  intro failed
  have none := failed.value?.symm.trans holds
  simp at none

end Reply

/-- What the other side may answer: it fails, or says what such a request asks for. -/
def Request.Fair (limit : Nat) (request : Request) (reply : Reply) : Prop :=
  reply.Failed limit ∨ match request with
    | .branchHead _ => ∃ name, reply.Gives limit ["object", "sha"] name
    | .commit _ => ∃ name, reply.Gives limit ["tree", "sha"] name
    | .createTree .. | .createCommit .. => ∃ name, reply.Gives limit ["sha"] name
    | .moveBranch .. => ∃ value, reply.Holds limit value

/-- Requests are sent over a connection as it is at first, and each of them is answered as it may be. -/
def Connection.Fairly (connection later : Connection) : Prop :=
  ∀ n call, connection.calls.length ≤ n → later.calls[n]? = some call →
    call.request.Fair connection.limit (connection.answer n call.request)

/-- A request, and what the reply to it must be for the next one to be sent. -/
structure Stage where
  request : Request
  Answered : Reply → Prop

/-- Requests sent one after the other, the first of them as number `n` of the connection. The talk
ends with the first reply that fails, or when all stages are answered, and is complete then. -/
inductive Talk (limit : Nat) (answer : Nat → Request → Reply) :
    Nat → List Stage → List Request → Bool → Prop where
  | ended : Talk limit answer n [] [] true
  | failed (failed : (answer n stage.request).Failed limit) :
    Talk limit answer n (stage :: stages) [stage.request] false
  | next (answered : stage.Answered (answer n stage.request))
    (rest : Talk limit answer (n + 1) stages sent complete) :
    Talk limit answer n (stage :: stages) (stage.request :: sent) complete

theorem Talk.sent_prefix (talk : Talk limit answer n stages sent complete) :
    sent <+: stages.map Stage.request := by
  induction talk with
  | ended => exact List.prefix_refl []
  | failed => exact ⟨_, rfl⟩
  | next _ _ ih =>
    rw [List.map_cons]
    exact (List.prefix_cons_inj _).mpr ih

theorem Talk.all_sent (talk : Talk limit answer n stages sent true) :
    sent = stages.map Stage.request := by
  generalize finished : true = complete at talk
  induction talk with
  | ended => rfl
  | failed => contradiction
  | next _ _ ih => exact congrArg _ (ih finished)

theorem Talk.answered {stage : Stage} (talk : Talk limit answer n stages sent true)
    (there : stages[k]? = some stage) :
    stage.Answered (answer (n + k) stage.request) := by
  generalize finished : true = complete at talk
  induction talk generalizing k with
  | ended => contradiction
  | failed => contradiction
  | next answered _ ih =>
    cases k with
    | zero =>
      cases there
      exact answered
    | succ k =>
      have later := ih there finished
      rwa [Nat.add_right_comm] at later

/-- What a deployment has made sure of before its first request. -/
structure Plan where
  client : Client
  branch : Text
  labName : Text
  authorName : Text
  folder : Text
  message : Text
  files : List (Text × Json)

/-- The names of objects that a deployment learns from the replies. -/
structure Names where
  head : Text
  base : Text
  tree : Text
  commit : Text

namespace Plan

/-- The place of a file of a plan in the repository. -/
def place (plan : Plan) (path : Text) : Text :=
  Path.join [plan.folder, path]

/-- Scripts can be run. -/
def mode (plan : Plan) (path : Text) : Text :=
  if Path.extension (plan.place path) = ".sh" then "100755" else "100644"

def blobs (plan : Plan) : List Blob :=
  plan.files.map fun (path, content) => ⟨plan.place path, plan.mode path, content⟩

/-- What the reply to each request must be, where lists and objects stand in one another up to a
limit. -/
def stages (limit : Nat) (plan : Plan) (names : Names) : List Stage := [
  ⟨.branchHead plan.branch, (·.Gives limit ["object", "sha"] names.head)⟩,
  ⟨.commit (.str names.head), (·.Gives limit ["tree", "sha"] names.base)⟩,
  ⟨.createTree (.str names.base) plan.blobs, (·.Gives limit ["sha"] names.tree)⟩,
  ⟨.createCommit plan.message (.str names.tree) (.str names.head),
    (·.Gives limit ["sha"] names.commit)⟩,
  ⟨.moveBranch plan.branch (.str names.commit), fun reply => ∃ value, reply.Holds limit value⟩]

/-- The steps of a deployment from its first request on. -/
def steps (plan : Plan) : Exchange Json := do
  let head ← ask plan.client (.branchHead plan.branch) ["object", "sha"]
  let base ← ask plan.client (.commit head) ["tree", "sha"]
  let tree ← ask plan.client (.createTree base plan.blobs) ["sha"]
  let commit ← ask plan.client (.createCommit plan.message tree head) ["sha"]
  let _ ← send plan.client (.moveBranch plan.branch commit)
  if hasBeginning commit then pure commit else throw (.fault .noBeginning)

/-- The requests of a plan as they go over the wire: methods, addresses and payloads. -/
def wire (plan : Plan) (names : Names) : List (Text × Text × Json) :=
  let address (suffix : Text) := plan.client.host ++ "/repos/" ++ plan.client.owner ++
    ('/' : CodePoint) :: plan.client.repository ++ "/git/" ++ suffix
  [("GET", address ("ref/heads/" ++ plan.branch), .null),
    ("GET", address ("commits/" ++ names.head), .null),
    ("POST", address "trees", .obj [("base_tree", .str names.base),
      ("tree", .arr (plan.files.map fun (path, content) =>
        .obj [("path", .str (plan.place path)), ("mode", .str (plan.mode path)),
          ("type", .str "blob"), ("content", content)]))]),
    ("POST", address "commits", .obj [("message", .str plan.message), ("tree", .str names.tree),
      ("parents", .arr [.str names.head])]),
    ("PATCH", address ("refs/heads/" ++ plan.branch), .obj [("sha", .str names.commit),
      ("force", .bool false)])]

end Plan

def Call.wire (call : Call) : Text × Text × Json :=
  (call.request.method, call.url, call.request.payload)

def Client.call (client : Client) (request : Request) : Call :=
  ⟨request, client.url request⟩

theorem stages_wire (limit : Nat) (plan : Plan) (names : Names) :
    ((plan.stages limit names).map Stage.request).map (Call.wire ∘ plan.client.call) =
      plan.wire names := by
  have entries : plan.blobs.map Request.blobJson = plan.files.map fun (path, content) =>
      .obj [("path", .str (plan.place path)), ("mode", .str (plan.mode path)),
        ("type", .str "blob"), ("content", content)] := by
    rw [Plan.blobs, List.map_map]
    rfl
  rw [Plan.wire, ← entries]
  rfl

theorem Talk.wire_prefix {plan : Plan}
    (talk : Talk limit answer n (plan.stages limit names) sent complete) :
    (sent.map plan.client.call).map Call.wire <+: plan.wire names := by
  rw [List.map_map, ← stages_wire limit plan names]
  exact talk.sent_prefix.map _

/-- The connection after some requests. -/
def Connection.after (connection : Connection) (client : Client) (sent : List Request) :
    Connection :=
  { connection with calls := connection.calls ++ sent.map client.call }

section
variable {connection : Connection} {client : Client} {request : Request} {sent : List Request}

theorem send_on (client : Client) (request : Request) (connection : Connection) :
    Live.on (send client request) connection =
      (match (connection.answer connection.calls.length request).value? connection.limit with
        | .ok (some value) => .ok value
        | .ok none => .error (.refusal .deploymentFailed)
        | .error fault => .error (.fault fault), connection.after client [request]) := by
  change Live.on
    (match (connection.answer connection.calls.length request).value? connection.limit with
    | .ok (some value) => pure value
    | .ok none => throw (.refusal .deploymentFailed)
    | .error fault => throw (.fault fault)) (connection.after client [request]) = _
  split <;> rfl

theorem Connection.after_nil : connection.after client [] = connection := by
  rw [after, List.map_nil, List.append_nil]

theorem Connection.after_append (sent later : List Request) :
    (connection.after client sent).after client later =
      connection.after client (sent ++ later) := by
  simp only [after, List.map_append, List.append_assoc]

theorem Connection.answer_after (sent : List Request) (request : Request) :
    (connection.after client sent).answer (connection.after client sent).calls.length request =
      connection.answer (connection.calls.length + sent.length) request := by
  simp only [after, List.length_append, List.length_map]

theorem Connection.limit_after : (connection.after client sent).limit = connection.limit := rfl

theorem send_failed
    (failed : (connection.answer (connection.calls.length + sent.length) request).Failed
      connection.limit) :
    Live.on (send client request) (connection.after client sent) =
      (.error (.refusal .deploymentFailed), connection.after client (sent ++ [request])) := by
  rw [send_on, Connection.answer_after, Connection.limit_after, failed.value?,
    Connection.after_append]

theorem send_holds
    (holds : (connection.answer (connection.calls.length + sent.length) request).Holds
      connection.limit value) :
    Live.on (send client request) (connection.after client sent) =
      (.ok value, connection.after client (sent ++ [request])) := by
  rw [send_on, Connection.answer_after, Connection.limit_after, holds, Connection.after_append]

theorem ask_failed
    (failed : (connection.answer (connection.calls.length + sent.length) request).Failed
      connection.limit) :
    Live.on (ask client request names) (connection.after client sent) =
      (.error (.refusal .deploymentFailed), connection.after client (sent ++ [request])) := by
  rw [ask, Live.bind_on, send_failed failed]

theorem ask_gives
    (gives : (connection.answer (connection.calls.length + sent.length) request).Gives
      connection.limit names name) :
    Live.on (ask client request names) (connection.after client sent) =
      (.ok (.str name), connection.after client (sent ++ [request])) := by
  obtain ⟨value, holds, found⟩ := gives
  rw [ask, Live.bind_on, send_holds holds]
  exact congrArg (fun outcome => (Failure.ofFault outcome, _)) found

theorem ask_failed_bind (later : Json → Exchange Json)
    (failed : (connection.answer (connection.calls.length + sent.length) request).Failed
      connection.limit) :
    Live.on (ask client request names >>= later) (connection.after client sent) =
      (.error (.refusal .deploymentFailed), connection.after client (sent ++ [request])) := by
  rw [Live.bind_on, ask_failed failed]

theorem ask_gives_bind (later : Json → Exchange Json)
    (gives : (connection.answer (connection.calls.length + sent.length) request).Gives
      connection.limit names name) :
    Live.on (ask client request names >>= later) (connection.after client sent) =
      Live.on (later (.str name)) (connection.after client (sent ++ [request])) := by
  rw [Live.bind_on, ask_gives gives]

end

/-- What is sent of steps, however the other side answers, are requests of a kind. -/
def Asks {α : Type} (client : Client) (P : Request → Prop) (steps : Exchange α) : Prop :=
  ∀ connection : Connection, ∃ sent : List Request,
    (Live.on steps connection).2 = connection.after client sent ∧ ∀ request ∈ sent, P request

namespace Asks
variable {α β : Type} {client : Client} {P : Request → Prop}

theorem still {steps : Exchange α}
    (same : ∀ connection, (Live.on steps connection).2 = connection) : Asks client P steps :=
  fun connection => ⟨[], (same connection).trans Connection.after_nil.symm, by simp⟩

theorem send {request : Request} (allowed : P request) : Asks client P (send client request) := by
  intro connection
  refine ⟨[request], ?_, by simpa using allowed⟩
  rw [send_on]

theorem bind {steps : Exchange α} {next : α → Exchange β} (first : Asks client P steps)
    (later : ∀ value, Asks client P (next value)) : Asks client P (steps >>= next) := by
  intro connection
  obtain ⟨sent, reached, allowed⟩ := first connection
  rw [Live.bind_on]
  rcases outcome : Live.on steps connection with ⟨failure | value, middle⟩
  · rw [outcome] at reached
    exact ⟨sent, reached, allowed⟩
  · have reached : middle = connection.after client sent := by rwa [outcome] at reached
    obtain ⟨others, last, more⟩ := later value middle
    refine ⟨sent ++ others, ?_, fun request member => ?_⟩
    · rw [← Connection.after_append, ← reached]
      exact last
    · exact (List.mem_append.mp member).elim (allowed request) (more request)

theorem ask {request : Request} {names : List Text} (allowed : P request) :
    Asks client P (ask client request names) :=
  (send allowed).bind fun _ => still fun _ => rfl

/-- A request that steps begin with is sent first. -/
theorem first {request : Request} {next : Json → Exchange β}
    (later : ∀ value, Asks client P (next value)) (connection : Connection) :
    ∃ others, (Live.on (Deployment.send client request >>= next) connection).2 =
      connection.after client (request :: others) := by
  rw [Live.bind_on, send_on]
  cases (connection.answer connection.calls.length request).value? connection.limit with
  | error fault => exact ⟨[], rfl⟩
  | ok value? =>
    cases value? with
    | none => exact ⟨[], rfl⟩
    | some value =>
      obtain ⟨others, reached, _⟩ := later value (connection.after client [request])
      exact ⟨others, reached.trans (Connection.after_append [request] others)⟩

/-- A request that steps begin with is among those that are answered as they may be. -/
theorem fair_send {connection : Connection} {sent : List Request} {request : Request}
    {next : Json → Exchange β} (later : ∀ value, Asks client P (next value))
    (fair : connection.Fairly
      (Live.on (Deployment.send client request >>= next) (connection.after client sent)).2) :
    request.Fair connection.limit
      (connection.answer (connection.calls.length + sent.length) request) := by
  obtain ⟨others, reached⟩ : ∃ others,
      (Live.on (Deployment.send client request >>= next) (connection.after client sent)).2 =
        (connection.after client sent).after client (request :: others) := first later _
  rw [reached, Connection.after_append] at fair
  refine fair _ (client.call request) (Nat.le_add_right _ _) ?_
  simp [Connection.after]

theorem fair_ask {connection : Connection} {sent : List Request} {request : Request}
    {names : List Text} {next : Json → Exchange β} (later : ∀ value, Asks client P (next value))
    (fair : connection.Fairly
      (Live.on (Deployment.ask client request names >>= next) (connection.after client sent)).2) :
    request.Fair connection.limit
      (connection.answer (connection.calls.length + sent.length) request) := by
  rw [Deployment.ask, bind_assoc] at fair
  exact fair_send (fun value => bind (still fun _ => rfl) later) fair

end Asks

theorem deploy_nothing (empty : files.isEmpty = true) (connection : Connection) :
    Live.on (deploy client branch files labName authorName message) connection =
      (.error (.refusal .nothingSelected), connection) := by
  simp only [deploy, empty, if_true]
  rfl

theorem deploy_steps (some : files.isEmpty = false)
    (place : labFolder labName authorName = .ok folder) :
    deploy client branch files labName authorName message =
      Plan.steps ⟨client, branch, labName, authorName, folder,
        if message.isEmpty then "Deploy " ++ folder else message, files⟩ := by
  simp only [deploy, some, place, Plan.steps, Plan.blobs]
  rfl

/-- However the other side answers, the requests are sent one by one until the first failure. -/
theorem Plan.steps_on (plan : Plan) (connection : Connection)
    (fair : connection.Fairly (Live.on plan.steps connection).2) :
    ∃ names sent complete,
      Talk connection.limit connection.answer connection.calls.length
        (plan.stages connection.limit names) sent complete ∧
      Live.on plan.steps connection =
        (if complete then .ok (.str names.commit) else .error (.refusal .deploymentFailed),
          connection.after plan.client sent) := by
  have start : Live.on plan.steps connection =
      Live.on plan.steps (connection.after plan.client []) := by rw [Connection.after_nil]
  have ending (commit : Json) : Asks plan.client (fun _ => True)
      (if hasBeginning commit then pure commit else throw (.fault .noBeginning)) := by
    split
    · exact .still fun _ => rfl
    · exact .still fun _ => rfl
  rw [start, steps] at fair ⊢
  rcases Asks.fair_ask (fun head => .bind (.ask trivial) fun base => .bind (.ask trivial)
      fun tree => .bind (.ask trivial) fun commit => .bind (.send trivial) fun _ => ending commit)
    fair with failed | ⟨head, first⟩
  · rw [ask_failed_bind _ failed]
    exact ⟨⟨[], [], [], []⟩, _, false, .failed failed, rfl⟩
  rw [ask_gives_bind _ first, List.nil_append] at fair ⊢
  rcases Asks.fair_ask (fun base => .bind (.ask trivial) fun tree => .bind (.ask trivial)
      fun commit => .bind (.send trivial) fun _ => ending commit)
    fair with failed | ⟨base, second⟩
  · rw [ask_failed_bind _ failed]
    exact ⟨⟨head, [], [], []⟩, _, false, .next first (.failed failed), rfl⟩
  rw [ask_gives_bind _ second, List.singleton_append] at fair ⊢
  rcases Asks.fair_ask (fun tree => .bind (.ask trivial) fun commit => .bind (.send trivial)
      fun _ => ending commit)
    fair with failed | ⟨tree, third⟩
  · rw [ask_failed_bind _ failed]
    exact ⟨⟨head, base, [], []⟩, _, false, .next first (.next second (.failed failed)), rfl⟩
  rw [ask_gives_bind _ third, List.cons_append, List.singleton_append] at fair ⊢
  rcases Asks.fair_ask (fun commit => .bind (.send trivial) fun _ => ending commit)
    fair with failed | ⟨commit, fourth⟩
  · rw [ask_failed_bind _ failed]
    exact ⟨⟨head, base, tree, []⟩, _, false,
      .next first (.next second (.next third (.failed failed))), rfl⟩
  rw [ask_gives_bind _ fourth, List.cons_append, List.cons_append, List.singleton_append] at fair ⊢
  rcases Asks.fair_send (fun _ => ending (.str commit)) fair with failed | ⟨value, last⟩
  · rw [Live.bind_on, send_failed failed]
    exact ⟨⟨head, base, tree, commit⟩, _, false,
      .next first (.next second (.next third (.next fourth (.failed failed)))), rfl⟩
  · rw [Live.bind_on, send_holds last]
    exact ⟨⟨head, base, tree, commit⟩, _, true,
      .next first (.next second (.next third (.next fourth (.next ⟨value, last⟩ .ended)))), rfl⟩

end LabEditor.Deployment
