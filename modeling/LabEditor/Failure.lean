import LabEditor.Json.Display

/-! Why a call does not succeed: the editor refuses it for a stated reason, or the data it meets is
of a shape that the step at hand cannot use. -/
namespace LabEditor

/-- The kinds of file that a lab may hold, in alphabetical order. -/
def allowedExtensions : List Text := [".json", ".md", ".sh", ".txt"]

/-- A call that the editor refuses. -/
inductive Refusal where
  | duplicatePath (path : Text)
  | notFound (path : Text)
  | notADirectory (path : Text)
  | isADirectory (path : Text)
  | invalidName (name : Text)
  | fileType (extension : Text)
  | invalidPath (typed : Text)
  | notText (field : Text)
  | notPaths
  | unknownAction (name : Json)
  | unknownTemplate (name : Text)
  | moveIntoItself (source : Text)
  | missing (field : Text)
  | unconfirmed (path : Text)
  | noFolderPath
  | noPath
  | noLabName
  | noLabTitle
  | noRepository
  | nothingSelected
  | deploymentFailed
deriving Inhabited, Repr

namespace Refusal

/-- The classes of refusal that a client tells apart. -/
inductive Kind where
  | duplicatePath
  | notFound
  | notADirectory
  | isADirectory
  | invalidName
  | invalidMove
  | emptyInput
  | noSelection
  | networkFailure
deriving DecidableEq, Repr

def kind : Refusal → Kind
  | .duplicatePath _ => .duplicatePath
  | .notFound _ => .notFound
  | .notADirectory _ => .notADirectory
  | .isADirectory _ => .isADirectory
  | .invalidName _ | .fileType _ | .invalidPath _ | .notText _ | .notPaths | .unknownAction _
  | .unknownTemplate _ => .invalidName
  | .moveIntoItself _ => .invalidMove
  | .missing _ | .unconfirmed _ | .noFolderPath | .noPath | .noLabName | .noLabTitle
  | .noRepository => .emptyInput
  | .nothingSelected => .noSelection
  | .deploymentFailed => .networkFailure

/-- The status of the HTTP answer to a refused request. -/
def Kind.status : Kind → Nat
  | .duplicatePath => 409
  | .notFound => 404
  | .networkFailure => 502
  | _ => 400

def status (refusal : Refusal) : Nat :=
  refusal.kind.status

def message : Refusal → Text
  | .duplicatePath path => path ++ " already exists"
  | .notFound path => path ++ " not found"
  | .notADirectory path => path ++ " is not a folder"
  | .isADirectory path => path ++ " is a folder"
  | .invalidName name => "Invalid name: " ++ Text.quoted name
  | .fileType extension =>
    "File type " ++ extension ++ " not allowed (use " ++
      List.intercalate ", " allowedExtensions ++ ")"
  | .invalidPath typed => "Invalid path: " ++ Text.quoted typed
  | .notText field => field ++ " must be a string"
  | .notPaths => "files must be a list of paths"
  | .unknownAction name => "Unknown operation: " ++ name.quoted
  | .unknownTemplate name => "Unknown template: " ++ name
  | .moveIntoItself source => "Cannot move " ++ source ++ " into itself"
  | .missing field => field ++ " is required"
  | .unconfirmed path => "Deleting " ++ path ++ " needs confirmation"
  | .noFolderPath => "Folder path is required"
  | .noPath => "Path is required"
  | .noLabName => "Lab name is required"
  | .noLabTitle => "Lab title is required"
  | .noRepository => "GitHub repository is not configured"
  | .nothingSelected => "Select at least one file to deploy"
  | .deploymentFailed => "Deployment failed, please try again"

end Refusal

/-- Data that the step at hand cannot use. -/
inductive Fault where
  /-- An object lacks a member that it must have. -/
  | missingMember (name : Text)
  /-- A member is taken from something that is no object. -/
  | noMembers
  /-- An optional member is asked of something that is no object. -/
  | notAnObject
  /-- Items are taken from something that has none. -/
  | notASequence
  /-- A list or an object is used as a key. -/
  | notAKey
  /-- Values that cannot be compared are put in order. -/
  | unordered
  /-- A whole number has more digits than are read. -/
  | numberTooLong
  /-- Lists and objects stand in one another too often to be read. -/
  | tooDeep
  /-- A pair is taken from something that does not have two parts. -/
  | notAPair
  /-- Text is cut or replaced in something that is no text. -/
  | notText
  /-- A pattern is searched in something that is no text. -/
  | notSearchable
  /-- Something that is no text is written to a file or an archive. -/
  | notWritable
  /-- The beginning of something that is neither text nor list is taken. -/
  | noBeginning
  /-- A token refers to a span that was not set aside. -/
  | unknownSpan
  /-- An archive entry has no name. -/
  | namelessEntry
  /-- Bytes are not UTF-8. -/
  | encoding
  /-- A text that holds a half of a surrogate pair is to be encoded. -/
  | notEncodable
  /-- A file stands where a folder is needed. -/
  | fileInPlace
  /-- A file stands on the way to a folder. -/
  | fileOnTheWay
  /-- A folder stands where a file is written. -/
  | folderInPlace
  /-- A null character stands in the path of a file or folder. -/
  | nullInPath
  /-- The name or the path of a file or folder is longer than a medium allows. -/
  | nameTooLong
  /-- The name of an archive entry has more bytes than an archive can count. -/
  | entryNameTooLong
  /-- A workspace that has no file is opened again. -/
  | noFile
  /-- A log level has an unknown name. -/
  | unknownLevel
  /-- A log level is neither a whole number nor a text. -/
  | notALevel
deriving DecidableEq, Inhabited, Repr

/-- What the command tells its user. -/
def Fault.message : Fault → Text
  | .missingMember name => "A record has no " ++ Text.quoted name
  | .noMembers | .notAnObject => "An object is expected"
  | .notASequence => "A list is expected"
  | .notAKey => "A list or an object cannot name anything"
  | .unordered => "Values of different kinds have no order"
  | .numberTooLong => "A number has too many digits"
  | .tooDeep => "Lists and objects stand in one another too often"
  | .notAPair => "A pair is expected"
  | .notText | .notSearchable => "A text is expected"
  | .notWritable => "Only a text can be written to a file"
  | .noBeginning => "A text or a list is expected"
  | .unknownSpan => "A page refers to code that it does not hold"
  | .namelessEntry => "An archive entry has no name"
  | .encoding => "A file is not UTF-8"
  | .notEncodable => "A text cannot be written as UTF-8"
  | .fileInPlace => "A file stands in the place of a folder"
  | .fileOnTheWay => "A file stands on the way to a folder"
  | .folderInPlace => "A folder stands in the place of a file"
  | .nullInPath => "A path holds a null character"
  | .nameTooLong => "A name or a path is too long"
  | .entryNameTooLong => "The name of an archive entry is too long"
  | .noFile => "The lab is kept in no file"
  | .unknownLevel => "A log level has an unknown name"
  | .notALevel => "A log level is a whole number or a name"

inductive Failure where
  | refusal (reason : Refusal)
  | fault (cause : Fault)
deriving Inhabited, Repr

namespace Failure

/-- A step that can only be refused, among steps that can also meet unusable data. -/
def ofRefusal (outcome : Except Refusal α) : Except Failure α :=
  outcome.mapError .refusal

/-- A step that can only meet unusable data, among steps that can also be refused. -/
def ofFault (outcome : Except Fault α) : Except Failure α :=
  outcome.mapError .fault

def message : Failure → Text
  | .refusal reason => reason.message
  | .fault cause => cause.message

end Failure
end LabEditor
