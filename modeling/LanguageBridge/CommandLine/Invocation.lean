import LanguageBridge.CommandLine.Grammar

/-! What one run of the program is asked to do. -/
namespace LanguageBridge

/-- What a server is asked. -/
inductive ServerAction where
  | hover (location : String)
  | symbols (file : String) (flat : Bool)
  | format (file : String) (tabSize : UInt32) (spaces : Bool)
  | complete (location : String) (limit : Option UInt64)
  | rename (location newName : String)
  | tokens (file : String)
  | diagnostics (file : String) (wait : UInt64) (severities : Option (List String))
  deriving DecidableEq, Repr

/-- What is done with the settings file. -/
inductive SettingsAction where
  | create (force : Bool)
  | printAll
  | printPath
  deriving DecidableEq, Repr

inductive Action where
  | server (a : ServerAction)
  | settings (a : SettingsAction)
  deriving DecidableEq, Repr

def Action.needsServer : Action → Bool
  | .server _ => true
  | .settings _ => false

/-- An action, with the address and the settings file asked for. -/
structure Invocation where
  action : Action
  address : Option String
  settings : Option String
  deriving DecidableEq, Repr

namespace Invocation

open CommandLine

/-- Options that stand anywhere. -/
def globalOptions : List OptionForm := [
  ⟨"connect", none, .value .text⟩,
  ⟨"config", none, .value .path⟩,
  ⟨"help", some 'h', .help⟩,
  ⟨"version", some 'V', .version⟩]

/-- Where there are commands, there is one for help. -/
def group (commands : List String) : Form := ⟨globalOptions, [], commands ++ ["help"]⟩

def leaf (options : List OptionForm) (places : List (String × ValueKind)) : Form :=
  ⟨options ++ globalOptions, places, []⟩

def settingsForms : List (String × Form) := [
  ("init", leaf [⟨"force", some 'f', .flag⟩] []),
  ("show", leaf [] []),
  ("path", leaf [] [])]

def forms : List (String × Form) := [
  ("hover", leaf [] [("location", .text)]),
  ("symbols", leaf [⟨"flat", none, .flag⟩] [("file", .path)]),
  ("format", leaf [⟨"tab-size", none, .value .word32⟩, ⟨"spaces", none, .flag⟩]
    [("file", .path)]),
  ("complete", leaf [⟨"limit", some 'n', .value .word64⟩] [("location", .text)]),
  ("rename", leaf [] [("location", .text), ("new_name", .text)]),
  ("tokens", leaf [] [("file", .path)]),
  ("diagnostics", leaf [⟨"wait-ms", none, .value .word64⟩, ⟨"severity", some 's', .values⟩]
    [("file", .path)]),
  ("config", group (settingsForms.map (·.1)))]

def topForm : Form := group (forms.map (·.1))

/-- The action of a command below the settings command. -/
def settingsAction? (name : String) (g : Given) : Option SettingsAction :=
  match name with
  | "init" => some (.create (g.has "force"))
  | "show" => some .printAll
  | "path" => some .printPath
  | _ => none

/-- The action of any other command, if all it needs is given. -/
def serverAction? (name : String) (g : Given) : Option ServerAction := do
  match name with
  | "hover" => return .hover (← g.value? "location")
  | "symbols" => return .symbols (← g.value? "file") (g.has "flat")
  | "format" =>
    return .format (← g.value? "file") (((g.value? "tab-size").bind word32?).getD 4)
      (g.has "spaces")
  | "complete" => return .complete (← g.value? "location") ((g.value? "limit").bind word64?)
  | "rename" => return .rename (← g.value? "location") (← g.value? "new_name")
  | "tokens" => return .tokens (← g.value? "file")
  | "diagnostics" =>
    return .diagnostics (← g.value? "file") (((g.value? "wait-ms").bind word64?).getD 1500)
      (g.get? "severity")
  | _ => none

/-- Help is asked for a command by the names that lead to it. -/
def helpFor : List String → Stop
  | [] => .help
  | ["config"] => .help
  | ["config", name] => if (group (settingsForms.map (·.1))).commands.contains name then .help
    else .misuse
  | [name] => if topForm.commands.contains name then .help else .misuse
  | _ => .misuse

/-- The words of a command without commands below it. -/
def readLeaf (form : Form) (command : List String) (words : List String) : Except Stop Given :=
  match form.scan command .free 0 .nothing words with
  | .error e => .error e
  | .ok (g, _) => g.settle

/-- The action, with what was given inside the settings command. -/
def readSettings (words : List String) : Except Stop (Action × List Given) :=
  match (group (settingsForms.map (·.1))).scan ["config"] .free 0 .nothing words with
  | .error e => .error e
  | .ok (_, none) => .error .misuse
  | .ok (middle, some (name, rest)) =>
    match settingsForms.lookup name with
    | none => .error (helpFor ("config" :: rest))
    | some form =>
      match readLeaf form ["config", name] rest with
      | .error e => .error e
      | .ok inner =>
        match middle.settle with
        | .error e => .error e
        | .ok middle =>
          match settingsAction? name inner with
          | none => .error .misuse
          | some action => .ok (.settings action, [inner, middle])

/-- The action of a command, with what was given inside it. -/
def readCommand (name : String) (words : List String) : Except Stop (Action × List Given) :=
  if name = "config" then readSettings words
  else
    match forms.lookup name with
    | none => .error (helpFor words)
    | some form =>
      match readLeaf form [name] words with
      | .error e => .error e
      | .ok inner =>
        match serverAction? name inner with
        | none => .error .misuse
        | some action => .ok (.server action, [inner])

/-- Reads the words after the program's name. The innermost place where an address or a settings
file is given wins. -/
def parse (words : List String) : Except Stop Invocation :=
  match topForm.scan [] .free 0 .nothing words with
  | .error e => .error e
  | .ok (_, none) => .error .misuse
  | .ok (outer, some (name, rest)) =>
    match readCommand name rest with
    | .error e => .error e
    | .ok (action, inner) =>
      match outer.settle with
      | .error e => .error e
      | .ok outer =>
        let asked (name : String) := (inner ++ [outer]).findSome? (·.value? name)
        .ok ⟨action, asked "connect", asked "config"⟩

end Invocation

namespace CommandLine.Stop

def programName : String := "lsp-bridge"

def programVersion : String := "0.3.0"

/-- Help and version are no failures. -/
def status : Stop → UInt8
  | misuse => 2
  | help | version _ => 0

def usage : String :=
  "Usage: lsp-bridge [--connect ADDRESS] [--config FILE] COMMAND\n\n" ++
  "  hover LOCATION\n" ++
  "  symbols FILE [--flat]\n" ++
  "  format FILE [--tab-size N] [--spaces]\n" ++
  "  complete LOCATION [-n N]\n" ++
  "  rename LOCATION NAME\n" ++
  "  tokens FILE\n" ++
  "  diagnostics FILE [--wait-ms N] [-s SEVERITY,...]\n" ++
  "  config init [-f] | config show | config path\n\n" ++
  "A location is FILE:LINE or FILE:LINE:COLUMN, counted from 1.\n"

/-- What is printed. The version is told with the names that lead to the command, joined by
dashes; misuse prints nothing. -/
def output : Stop → String
  | misuse => ""
  | help => usage
  | version command =>
    String.intercalate "-" (programName :: command) ++ " " ++ programVersion ++ "\n"

end CommandLine.Stop

end LanguageBridge
