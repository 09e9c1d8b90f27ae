import LanguageBridge.Settings.File

/-! Steps on the settings file of a storage, one after another. -/
namespace LanguageBridge.Settings

inductive Step where
  | write (bytes : List UInt8)
  | makeDirectory
  | remove
  | read
  | create (force : Bool)
  | load (env : Environment)
  deriving DecidableEq, Repr

local instance resultEq {ε α : Type} [DecidableEq ε] [DecidableEq α] : DecidableEq (Except ε α)
  | .ok a, .ok b => decidable_of_iff (a = b) (by simp)
  | .error d, .error e => decidable_of_iff (d = e) (by simp)
  | .ok _, .error _ => isFalse (by simp)
  | .error _, .ok _ => isFalse (by simp)

inductive StepReply where
  | done
  | removed (b : Bool)
  | text (r : Except StorageError String)
  | created (r : Except SettingsError Unit)
  | loaded (r : Except SettingsError Settings)
  deriving DecidableEq

def step (path : String) (files : Storage) : Step → Storage × StepReply
  | .write bytes => (files.put path bytes, .done)
  | .makeDirectory => ((files.createDirectories path).1, .done)
  | .remove =>
    match files.remove path with
    | some files => (files, .removed true)
    | none => (files, .removed false)
  | .read => (files, .text (files.readText path))
  | .create force =>
    let (files, r) := create files path force
    (files, .created r)
  | .load env => (files, .loaded (load files env path))

/-- The storage and the replies after all steps. -/
def runSteps (path : String) (files : Storage) : List Step → Storage × List StepReply
  | [] => (files, [])
  | s :: rest =>
    let (files, reply) := step path files s
    let (files, replies) := runSteps path files rest
    (files, reply :: replies)

end LanguageBridge.Settings
