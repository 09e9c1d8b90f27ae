import LanguageBridge.CommandLine.Ending
import LanguageBridge.CommandLine.Invocation
import LanguageBridge.Settings.File
import LanguageBridge.Severity
import LanguageBridge.Text.Blank
import LanguageBridge.Wire.Edit

/-! What a run does before it talks to a server: actions on the settings end here, all others
become an errand to a server. -/
namespace LanguageBridge

/-- What to ask a server about an open file. -/
inductive Job where
  | hover (place : Location)
  | symbols (flat : Bool)
  | format (options : Wire.FormattingOptions)
  | complete (place : Location) (limit : Option UInt64)
  | rename (place : Location) (newName : String)
  | tokens
  | diagnostics (wait : Duration) (only : Option (List Severity))
  deriving DecidableEq

/-- A job on one file, with the server to go to. -/
structure Errand where
  job : Job
  file : String
  text : String
  directory : String
  address : String
  settings : Settings
  deriving DecidableEq

/-- What the files and the environment are at the start of a run. -/
structure Surroundings where
  files : Storage
  env : Environment
  deriving DecidableEq

/-- The path of the file that a server is asked about. -/
def ServerAction.file? : ServerAction → Option String
  | .hover location | .complete location _ | .rename location _ =>
    (Location.parse location).toOption.map (·.file)
  | .symbols file _ | .format file _ _ | .tokens file | .diagnostics file _ _ => some file

/-- The paths that a run looks at. -/
def Invocation.paths (i : Invocation) (env : Environment) : List String :=
  let file := match i.action with
    | .server action => action.file?
    | .settings _ => none
  Settings.path env i.settings :: file.toList

inductive Plan where
  | finished (ending : Ending) (files : Storage)
  | visit (errand : Errand)
  deriving DecidableEq

/-- Blanks around a name of a severity and its case do not matter. -/
def Severity.named (name : String) : Except String Severity :=
  match Text.lower (String.ofList (Text.trim name.toList)) with
  | "error" => .ok .error
  | "warning" | "warn" => .ok .warning
  | "info" | "information" => .ok .info
  | "hint" => .ok .hint
  | other =>
    .error ("Unknown severity '" ++ other ++ "'. Expected: error, warning, info, hint")

/-- A name that could be an identifier in some language has no blanks. -/
def checkNewName (name : String) : Except String Unit :=
  if (Text.trim name.toList).isEmpty then .error "New name cannot be empty"
  else if name.toList.any Text.isBlank then
    .error ("New name '" ++ name ++ "' contains whitespace")
  else .ok ()

namespace Surroundings

/-- An errand to a file that has to be readable. -/
def errand (s : Surroundings) (settings : Settings) (address : Option String) (file : String)
    (job : Job) : Except Ending Errand :=
  match s.files.readText file with
  | .error e => .error (.raised ("Failed to read " ++ file ++ ": " ++ e.message))
  | .ok text =>
    .ok ⟨job, file, text, s.files.current.path, address.getD settings.connection.address, settings⟩

/-- The file that a path leads to. -/
def fileAt (s : Surroundings) (path : String) : Except Ending String :=
  (s.files.canonicalPath path).mapError .raised

/-- A place in a file; a place outside the text is told about. -/
def placeAt (s : Surroundings) (place : Location) : Except Ending Location :=
  match s.files.readText place.file with
  | .error e => .error (.raised e.message)
  | .ok text =>
    match place.validate text with
    | .error e => .error (.reported e.message)
    | .ok () => .ok place

def severities (names : Option (List String)) : Except Ending (Option (List Severity)) :=
  match names with
  | none => .ok none
  | some names =>
    match names.mapM Severity.named with
    | .ok severities => .ok (some severities)
    | .error e => .error (.raised e)

/-- The job of an action, with its file. -/
def jobOf (s : Surroundings) : ServerAction → Except Ending (String × Job)
  | .hover location => do
    let place ← s.placeAt (← (s.files.locate location).mapError .raised)
    return (place.file, .hover place)
  | .symbols file flat => do return (← s.fileAt file, .symbols flat)
  | .format file tabSize spaces => do return (← s.fileAt file, .format ⟨tabSize, spaces⟩)
  | .complete location limit => do
    let place ← s.placeAt (← (s.files.locate location).mapError .raised)
    return (place.file, .complete place limit)
  | .rename location newName => do
    let place ← (s.files.locate location).mapError .raised
    (checkNewName newName).mapError Ending.raised
    let place ← s.placeAt place
    return (place.file, .rename place newName)
  | .tokens file => do return (← s.fileAt file, .tokens)
  | .diagnostics file wait names => do
    let file ← s.fileAt file
    return (file, .diagnostics (.ofMilliseconds wait) (← severities names))

/-- Deadlines that settings lead to, in seconds. -/
def deadlines (settings : Settings) : Json :=
  let profile := Profile.ofSettings settings
  let seconds (method : String) : Json := .ofWord64 (profile.deadline method).seconds
  .record [.always "request" (seconds Method.hover), .always "initialize" (seconds Method.handshake),
    .always "rename" (seconds Method.rename)]

/-- Creates the settings file. -/
def createSettings (s : Surroundings) (path : String) (force : Bool) : Plan :=
  match Settings.create s.files path force with
  | (files, .ok ()) =>
    .finished (.printed (.record [.always "status" (.str "created"), .always "path" (.str path)]))
      files
  | (files, .error e) => .finished (.reported e.message) files

/-- Shows the settings from the file and the environment. -/
def showSettings (s : Surroundings) (path : String) : Ending :=
  match Settings.load s.files s.env path with
  | .ok settings =>
    .printed (.record [.always "path" (.str path), .always "config" settings.toJson,
      .always "timeouts_secs" (deadlines settings)])
  | .error e => .reported e.message

def showPath (s : Surroundings) (path : String) : Ending :=
  .printed (.record [.always "exists" (.bool (s.files.reaches path)), .always "path" (.str path)])

/-- What an invocation comes to. -/
def plan (s : Surroundings) (i : Invocation) : Plan :=
  let path := Settings.path s.env i.settings
  match i.action with
  | .settings (.create force) => s.createSettings path force
  | .settings .printAll => .finished (s.showSettings path) s.files
  | .settings .printPath => .finished (s.showPath path) s.files
  | .server action =>
    let settings := Settings.inForce Settings.ofText? s.files s.env path
    let errand := do
      let (file, job) ← s.jobOf action
      s.errand settings i.address file job
    match errand with
    | .ok errand => .visit errand
    | .error ending => .finished ending s.files

end Surroundings

end LanguageBridge
