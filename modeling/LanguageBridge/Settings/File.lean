import LanguageBridge.Profile
import LanguageBridge.Settings.Reading
import LanguageBridge.Storage
import LanguageBridge.Text.Numeral

/-! The settings file: where it is, how it is read and created, and what overrides it. -/
namespace LanguageBridge

/-- Variables of the environment that matter to settings; one that is no text counts as absent. -/
structure Environment where
  home : Option String
  configHome : Option String
  timeout : Option String
  address : Option String
  deriving DecidableEq, Repr

namespace Environment

/-- The deadline that the environment asks for, if it can be read. -/
def seconds? (env : Environment) : Option UInt64 :=
  env.timeout.bind fun text => (Text.numeral? UInt64.size text).map .ofNat

/-- The address that the environment asks for, unless it is empty. -/
def address? (env : Environment) : Option String :=
  env.address.filter fun text => !text.isEmpty

end Environment

inductive SettingsError where
  | malformed
  | invalid (key reason : String)
  | storage (e : StorageError)
  deriving DecidableEq, Repr

namespace SettingsError

def message : SettingsError → String
  | malformed => "Config parse error"
  | invalid key reason => "Invalid value for '" ++ key ++ "': " ++ reason
  | storage e => e.message

end SettingsError

namespace Settings

/-- Deadlines of more than a day count as mistakes. -/
def longestTimeout : UInt64 := 86400

/-- The file that is used: the one asked for, else the one of the user. -/
def path (env : Environment) (asked : Option String) : String :=
  match asked with
  | some path => path
  | none =>
    let base := match env.configHome, env.home with
      | some dir, _ => dir
      | none, some home => if home.isEmpty then "." else Path.join home ".config"
      | none, none => "."
    Path.join (Path.join base "lsp-bridge") "config.toml"

/-- What the environment asks for wins over the file. -/
def override (env : Environment) (s : Settings) : Settings :=
  { s with
    deadline := ⟨env.seconds?.getD s.deadline.seconds⟩
    connection := ⟨env.address?.getD s.connection.address⟩ }

def check (s : Settings) : Except SettingsError Settings :=
  if s.deadline.seconds = 0 then .error (.invalid "rpc.timeout_secs" "must be greater than zero")
  else if longestTimeout < s.deadline.seconds then
    .error (.invalid "rpc.timeout_secs" ("must be at most " ++ longestTimeout.toNat.repr))
  else if s.diagnostics.owner.isEmpty then
    .error (.invalid "diagnostics.owner" "must not be empty")
  else .ok s

/-- What the file holds; without a file, the standard settings. -/
def readFile (parse : String → Option Settings) (files : Storage) (path : String) :
    Except SettingsError Settings :=
  if files.reaches path then
    match files.readText path with
    | .error e => .error (.storage e)
    | .ok text =>
      match parse text with
      | some s => .ok s
      | none => .error .malformed
  else .ok standard

/-- The settings from the file and the environment, with any way to read the text of a file. -/
def loadUsing (parse : String → Option Settings) (files : Storage) (env : Environment)
    (path : String) : Except SettingsError Settings :=
  match readFile parse files path with
  | .error e => .error e
  | .ok s => check (s.override env)

def load : Storage → Environment → String → Except SettingsError Settings := loadUsing ofText?

/-- The settings that a run goes by: the standard ones if there is something wrong. -/
def inForce (parse : String → Option Settings) (files : Storage) (env : Environment)
    (path : String) : Settings :=
  (loadUsing parse files env path).toOption.getD standard

/-- The text of a file with the standard settings. -/
def standardText : String :=
  "[client]\nname = \"lsp-bridge\"\n\n[rpc]\ntimeout_secs = 30\n\n[diagnostics]\n" ++
    "owner = \"lsp-bridge\"\n\n[connection]\naddress = \"127.0.0.1:9257\"\n"

/-- Creates the file and the directories above it. -/
def writeStandard (files : Storage) (path : String) : Storage × Except SettingsError Unit :=
  match files.createParents path with
  | (files, .error e) => (files, .error (.storage e))
  | (files, .ok ()) =>
    match files.write path (Text.encodeUtf8 standardText) with
    | .error e => (files, .error (.storage e))
    | .ok files => (files, .ok ())

/-- Creates the file with the standard settings; what is there already is replaced only by force. -/
def create (files : Storage) (path : String) (force : Bool) :
    Storage × Except SettingsError Unit :=
  if files.reaches path && !force then
    (files, .error (.invalid "config"
      ("Config already exists: " ++ path ++ ". Use --force to overwrite.")))
  else writeStandard files path

end Settings

end LanguageBridge
