import LabEditor.Deployment.Remote
import LabEditor.Json.Access
import LabEditor.Json.Bytes
import LabEditor.Json.Order

/-! The configuration of the editor: defaults, and what a file puts over them. -/
namespace LabEditor

/-- Settings, each a name and a value, in the order in which the names were first given. Any value that is
a key can be a name. -/
abbrev Config := List (Json × Json)

namespace Config

def get? (config : Config) (name : Json) : Option Json :=
  (config.find? fun setting => setting.1.key? == name.key?).map (·.2)

/-- A new name goes to the end; a name already there stays as it was written and changes its value. -/
def put (name value : Json) : Config → Config
  | [] => [(name, value)]
  | setting :: rest =>
    if setting.1.key? = name.key? then (setting.1, value) :: rest
    else setting :: put name value rest

/-- The members of an object as settings. -/
def ofMembers (members : List (Text × Json)) : Config :=
  members.map fun (name, value) => (.str name, value)

def defaults : Config := ofMembers [
  ("port", .int 3000),
  ("host", .str "0.0.0.0"),
  ("state_file", .str "labmark.state.json"),
  ("github_owner", .str []),
  ("github_repo", .str []),
  ("github_branch", .str "main"),
  ("github_api", .str Deployment.defaultHost),
  ("log_level", .str "INFO")]

/-- A setting written as a pair of name and value. -/
def settingOf (value : Json) : Except Fault (Json × Json) := do
  let (name, setting) ← value.pair
  if name.key?.isNone then throw .notAKey
  pure (name, setting)

/-- Puts settings over a configuration. -/
def override (config : Config) (settings : List (Json × Json)) : Config :=
  settings.foldl (fun config (name, value) => config.put name value) config

/-- Puts settings over a configuration, up to the first that is no setting. -/
def putAll (config : Config) : List Json → Config × Option Fault
  | [] => (config, none)
  | value :: values =>
    match settingOf value with
    | .ok (name, setting) => putAll (config.put name setting) values
    | .error fault => (config, some fault)

/-- Puts the members of an object over a configuration, or a sequence of pairs. -/
def overlay (config : Config) : Json → Config × Option Fault
  | .obj members => (config.override (ofMembers members), none)
  | value =>
    match value.items with
    | .ok values => putAll config values
    | .error fault => (config, some fault)

/-- The configuration that a value describes. What has two parts too many or too few ends the
reading, and what comes before it counts. -/
def ofJson (value : Json) : Except Fault Config :=
  match overlay defaults value with
  | (config, none) | (config, some .notAPair) => .ok config
  | (_, some fault) => .error fault

/-- The configuration of a file. One that is missing or no JSON leaves the defaults. -/
def load (limit : Nat) (content? : Option Text) : Except Fault Config :=
  match content? with
  | none => .ok defaults
  | some content => do
    match ← Json.received (Json.read limit content) with
    | some value => ofJson value
    | none => pure defaults

/-- The value under a name that is a text. -/
def setting (config : Config) (name : Text) : Json :=
  (config.get? (.str name)).getD .null

end Config
end LabEditor
