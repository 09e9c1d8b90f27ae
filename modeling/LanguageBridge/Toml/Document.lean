import LanguageBridge.Toml.Table

/-! The grammar of settings files: lines with headers and with keys and values. -/
namespace LanguageBridge.Toml

/-- Containers, and names in a key, stay below this number. -/
def nestingLimit : Nat := 80

def isBare (c : Char) : Bool := c.isAlphanum || c = '_' || c = '-'

/-- One name of a key: bare or quoted. -/
def simpleKey (cs : List Char) : Taken String :=
  match cs with
  | '"' :: _ | '\'' :: _ => shortText cs
  | _ =>
    match cs.takeWhile isBare with
    | [] => none
    | name => some (String.ofList name, cs.dropWhile isBare)

/-- Names with dots between them, and blanks around. -/
def keyFrom : (fuel : Nat) → List Char → Taken (List String)
  | 0, _ => none
  | fuel + 1, cs =>
    match simpleKey (skipSpace cs) with
    | none => none
    | some (name, rest) =>
      match skipSpace rest with
      | '.' :: rest =>
        match keyFrom fuel rest with
        | some (names, rest) => some (name :: names, rest)
        | none => none
      | rest => some ([name], rest)

def key (cs : List Char) : Taken (List String) :=
  match keyFrom (cs.length + 1) cs with
  | some (names, rest) => if names.length < nestingLimit then some (names, rest) else none
  | none => none

/-- Skips blanks, line ends and comments. -/
def skipComments : (fuel : Nat) → List Char → List Char
  | 0, cs => cs
  | fuel + 1, cs =>
    match skipLines cs with
    | '#' :: rest => skipComments fuel (rest.dropWhile isPrintable)
    | rest => rest

/-- Adds a value under a key that was read. -/
def Entries.addAt (v : Value) (names : List String) (entries : Entries) : Option Entries :=
  match names.reverse with
  | [] => none
  | last :: path => entries.addDotted v last path.reverse

mutual

/-- One value; `depth` containers may still be opened. -/
def value : (fuel depth : Nat) → List Char → Taken Value
  | 0, _, _ => none
  | fuel + 1, depth, cs =>
    match cs with
    | '"' :: _ | '\'' :: _ =>
      match anyText cs with
      | some (s, rest) => some (.text s, rest)
      | none => none
    | '[' :: rest =>
      match depth with
      | 0 => none
      | depth + 1 =>
        match items fuel depth (skipComments rest.length rest) with
        | some (vs, rest) => some (.array vs, rest)
        | none => none
    | '\x7b' :: rest =>
      match depth with
      | 0 => none
      | depth + 1 =>
        match skipSpace rest with
        | '\x7d' :: rest => some (.table [], rest)
        | rest =>
          match members fuel depth [] rest with
          | some (entries, rest) => some (.table (entriesToMembers entries), rest)
          | none => none
    | 't' :: _ => word (.boolean true) "true".toList cs
    | 'f' :: _ => word (.boolean false) "false".toList cs
    | 'i' :: _ => word (.float []) "inf".toList cs
    | 'n' :: _ => word (.float []) "nan".toList cs
    | c :: _ => if c = '+' ∨ c = '-' ∨ c.isDigit then numeric cs else none
    | [] => none

/-- The items of an array up to its end; a comma may stand before the end. -/
def items : (fuel depth : Nat) → List Char → Taken (List Value)
  | 0, _, _ => none
  | _, _, ']' :: rest => some ([], rest)
  | fuel + 1, depth, cs =>
    match value fuel depth cs with
    | none => none
    | some (v, rest) =>
      match skipComments rest.length rest with
      | ']' :: rest => some ([v], rest)
      | ',' :: rest =>
        match items fuel depth (skipComments rest.length rest) with
        | some (vs, rest) => some (v :: vs, rest)
        | none => none
      | _ => none

/-- The members of a table on one line, added to those before. -/
def members : (fuel depth : Nat) → Entries → List Char → Taken Entries
  | 0, _, _, _ => none
  | fuel + 1, depth, entries, cs =>
    match key cs with
    | some (names, '=' :: rest) =>
      match value fuel depth (skipSpace rest) with
      | none => none
      | some (v, rest) =>
        match entries.addAt v names, skipSpace rest with
        | some entries, '\x7d' :: rest => some (entries, rest)
        | some entries, ',' :: rest => members fuel depth entries rest
        | _, _ => none
    | _ => none

end

/-- The rest of a line may hold a comment. -/
def lineEnd (cs : List Char) : Option (List Char) :=
  let after := match skipSpace cs with
    | '#' :: rest => rest.dropWhile isPrintable
    | rest => rest
  match after with
  | [] => some []
  | after => newline? after

/-- A header in single or double brackets after its first bracket: the path, whether it is double,
and the lines after it. -/
def header (cs : List Char) : Option (List String × Bool × List Char) :=
  match cs with
  | '[' :: rest =>
    match key rest with
    | some (names, ']' :: ']' :: rest) => (lineEnd rest).map (names, true, ·)
    | _ => none
  | rest =>
    match key rest with
    | some (names, ']' :: rest) => (lineEnd rest).map (names, false, ·)
    | _ => none

/-- Opens the table that a header names. -/
def Entries.openAt (names : List String) (double : Bool) (entries : Entries) : Option Entries :=
  match names.reverse with
  | [] => none
  | last :: path =>
    entries.underHeaders (if double then Entries.appendTable last else Entries.openTable last)
      path.reverse

/-- Reads lines; `path` is the header that they stand under. -/
def lines : (fuel : Nat) → (path : List String) → Entries → List Char → Option Entries
  | 0, _, _, _ => none
  | fuel + 1, path, entries, cs =>
    match skipSpace cs with
    | [] => some entries
    | '#' :: rest => do lines fuel path entries (← lineEnd ('#' :: rest))
    | '[' :: rest => do
      let (names, double, rest) ← header rest
      lines fuel names (← entries.openAt names double) rest
    | rest =>
      match newline? rest with
      | some rest => lines fuel path entries rest
      | none =>
        match key rest with
        | some (names, '=' :: rest) => do
          let (v, rest) ← value (2 * rest.length + 2) (nestingLimit - 1) (skipSpace rest)
          let rest ← lineEnd rest
          lines fuel path (← entries.underHeaders (Entries.addAt v names) path) rest
        | _ => none

/-- The table that a settings file holds; a mark of byte order at its start does not count. -/
def parse (text : String) : Option Value :=
  let cs := match text.toList with
    | '\uFEFF' :: rest => rest
    | cs => cs
  (lines (cs.length + 1) [] [] cs).map fun entries => .table (entriesToMembers entries)

end LanguageBridge.Toml
