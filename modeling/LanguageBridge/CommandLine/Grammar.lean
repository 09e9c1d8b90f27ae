import LanguageBridge.Text.Numeral
import LanguageBridge.Text.Split

/-! Command lines as words: options, places for values without a name, and commands below. -/
namespace LanguageBridge.CommandLine

/-- Which words are values. -/
inductive ValueKind where
  | text
  | path
  | word32
  | word64
  deriving DecidableEq, Repr

/-- A sign may stand before a number; a negative one may only be zero. -/
def word32? (word : String) : Option UInt32 :=
  match word.toList with
  | '-' :: digits =>
    match digits with
    | '+' :: _ => none
    | _ => if Text.numeral? 1 (String.ofList digits) = some 0 then some 0 else none
  | _ => (Text.numeral? UInt32.size word).map .ofNat

def word64? (word : String) : Option UInt64 := (Text.numeral? UInt64.size word).map .ofNat

def ValueKind.accepts (word : String) : ValueKind → Bool
  | text => true
  | path => !word.isEmpty
  | word32 => (word32? word).isSome
  | word64 => (word64? word).isSome

/-- What an option does. Values of an option that may be repeated are divided by commas. -/
inductive OptionKind where
  | flag
  | value (kind : ValueKind)
  | values
  | help
  | version
  deriving DecidableEq, Repr

structure OptionForm where
  long : String
  short : Option Char
  kind : OptionKind
  deriving DecidableEq, Repr

/-- The words that one command takes. -/
structure Form where
  options : List OptionForm
  places : List (String × ValueKind)
  commands : List String
  deriving DecidableEq, Repr

/-- Why no command comes out. -/
inductive Stop where
  | help
  | version (command : List String)
  | misuse
  deriving DecidableEq, Repr

/-- Something that values are given for. -/
inductive Slot where
  | single (name : String) (kind : ValueKind)
  | many (name : String)
  deriving DecidableEq, Repr

/-- What was given so far. The last value waits to be checked until the next word that is no
command is understood. -/
structure Given where
  values : List (String × List String)
  waiting : Option (Slot × Option String)
  deriving DecidableEq, Repr

namespace Given

def nothing : Given := ⟨[], none⟩

def get? (g : Given) (name : String) : Option (List String) := g.values.lookup name

def has (g : Given) (name : String) : Bool := (g.get? name).isSome

/-- The value of something that is given once. -/
def value? (g : Given) (name : String) : Option String := (g.get? name).bind List.head?

/-- Something that may not be repeated is given for the first time. -/
def once (g : Given) (name : String) (values : List String) : Except Stop Given :=
  if g.has name then .error .misuse else .ok { g with values := g.values ++ [(name, values)] }

/-- Adds to what was given before. -/
def add (g : Given) (name : String) (values : List String) : Given :=
  { g with values :=
    g.values.filter (·.1 ≠ name) ++ [(name, (g.get? name).getD [] ++ values)] }

def accept (g : Given) (slot : Slot) (word : String) : Except Stop Given :=
  match slot with
  | .single name kind => if kind.accepts word then g.once name [word] else .error .misuse
  | .many name => .ok (g.add name ((Text.splitAt ',' word.toList).map String.ofList))

/-- Checks the value that waits. -/
def settle (g : Given) : Except Stop Given :=
  match g.waiting with
  | none => .ok g
  | some (_, none) => .error .misuse
  | some (slot, some word) => { g with waiting := none }.accept slot word

end Given

/-- What an option says: whether its value is still to come. -/
def OptionForm.apply (o : OptionForm) (command : List String) (attached : Option String)
    (g : Given) : Except Stop (Given × Bool) :=
  let takes (slot : Slot) : Except Stop (Given × Bool) :=
    match g.settle with
    | .error e => .error e
    | .ok g =>
      match attached with
      | some word => (g.accept slot word).map (·, false)
      | none => .ok ({ g with waiting := some (slot, none) }, true)
  let bare (act : Given → Except Stop Given) : Except Stop (Given × Bool) :=
    match attached, g.settle with
    | some _, _ => .error .misuse
    | none, .error e => .error e
    | none, .ok g => (act g).map (·, false)
  match o.kind with
  | .flag => bare fun g => g.once o.long []
  | .value kind => takes (.single o.long kind)
  | .values => takes (.many o.long)
  | .help => bare fun _ => .error .help
  | .version => bare fun _ => .error (.version command)

def OptionForm.takesValue (o : OptionForm) : Bool :=
  match o.kind with
  | .value _ | .values => true
  | .flag | .help | .version => false

namespace Form

/-- A word that starts with two dashes, cut at its first equals sign. -/
def long (f : Form) (command : List String) (word : List Char) (g : Given) :
    Except Stop (Given × Bool) :=
  let name := String.ofList (word.takeWhile (· ≠ '='))
  let attached := match word.dropWhile (· ≠ '=') with
    | '=' :: value => some (String.ofList value)
    | _ => none
  match f.options.find? (·.long = name) with
  | none => .error .misuse
  | some o => o.apply command attached g

/-- Letters after one dash; the first that takes a value takes the rest of the word. -/
def shorts (f : Form) (command : List String) : List Char → Given → Except Stop (Given × Bool)
  | [], g => .ok (g, false)
  | c :: rest, g =>
    match f.options.find? (·.short = some c) with
    | none => .error .misuse
    | some o =>
      if o.takesValue then
        let attached := match rest with
          | [] => none
          | '=' :: value => some (String.ofList value)
          | value => some (String.ofList value)
        o.apply command attached g
      else
        match o.apply command none g with
        | .error e => .error e
        | .ok (g, _) => f.shorts command rest g

/-- A value without a name. -/
def place (f : Form) (index : Nat) (word : String) (g : Given) : Except Stop Given :=
  match f.places[index]? with
  | none => .error .misuse
  | some (name, kind) =>
    g.settle.map fun g => { g with waiting := some (.single name kind, some word) }

/-- How the next word is taken. -/
inductive Mode where
  | free
  | value
  | plain
  deriving DecidableEq, Repr

/-- Takes words up to the name of a command, which comes out with the words after it. After two
dashes alone every word is a value. -/
def scan (f : Form) (command : List String) :
    Mode → (index : Nat) → Given → List String → Except Stop (Given × Option (String × List String))
  | _, _, g, [] => .ok (g, none)
  | mode, index, g, word :: rest =>
    let placed := match f.place index word g with
      | .error e => .error e
      | .ok g => f.scan command mode (index + 1) g rest
    let optioned (r : Except Stop (Given × Bool)) := match r with
      | .error e => .error e
      | .ok (g, more) => f.scan command (if more then .value else .free) index g rest
    if mode = .plain then placed
    else if mode = .free ∧ f.commands.contains word then .ok (g, some (word, rest))
    else
      match word.toList with
      | ['-', '-'] => f.scan command .plain index g rest
      | '-' :: '-' :: name => optioned (f.long command name g)
      | '-' :: c :: cs => optioned (f.shorts command (c :: cs) g)
      | _ =>
        match mode, g.waiting with
        | .value, some (slot, _) =>
          f.scan command .free index { g with waiting := some (slot, some word) } rest
        | _, _ => placed

end Form

end LanguageBridge.CommandLine
