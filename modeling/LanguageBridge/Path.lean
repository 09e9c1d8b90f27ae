import LanguageBridge.Text.LowerCase
import LanguageBridge.Text.Split

/-! File paths as texts with slashes. Empty pieces and single dots count for nothing, but for a
slash or a dot at the very start. -/
namespace LanguageBridge.Path

/-- How a path starts. -/
inductive Lead where
  | root
  | current
  | none
  deriving DecidableEq, Repr

def isAbsolute (path : String) : Bool := path.toList.head? = some '/'

/-- Whether a piece names something. -/
def isNamed (piece : List Char) : Bool := !(piece.isEmpty || piece == ['.'])

/-- The start of a path and the pieces after it. -/
def parts (path : String) : Lead × List (List Char) :=
  match path.toList with
  | [] => (.none, [])
  | '/' :: rest => (.root, Text.splitAt '/' rest)
  | cs =>
    match Text.splitAt '/' cs with
    | ['.'] :: rest => (.current, rest)
    | pieces => (.none, pieces)

/-- The pieces that name something. -/
def names (path : String) : List (List Char) := (parts path).2.filter isNamed

/-- Drops pieces at the end that name nothing. -/
def dropUnnamedEnd (pieces : List (List Char)) : List (List Char) :=
  (pieces.reverse.dropWhile fun p => !isNamed p).reverse

/-- Takes names off the front of pieces; none if they do not stand there. -/
def stripNames : List (List Char) → List (List Char) → Option (List (List Char))
  | [], pieces => some pieces
  | _ :: _, [] => none
  | name :: others, piece :: pieces =>
    if !isNamed piece then stripNames (name :: others) pieces
    else if piece = name then stripNames others pieces
    else none

def Lead.chars : Lead → List Char
  | .root => ['/']
  | .current => ['.']
  | .none => []

/-- A path without what counts for nothing at its end. -/
def trimEnd (path : String) : String :=
  let (lead, pieces) := parts path
  let body := dropUnnamedEnd pieces
  String.ofList (match lead with
    | .current => Text.joinWith '/' (['.'] :: body)
    | lead => lead.chars ++ Text.joinWith '/' body)

/-- What is left of a path below `root`; none if it does not lie there. -/
def below? (root path : String) : Option String :=
  let (rootLead, _) := parts root
  if rootLead = .none ∧ names root = [] then some (trimEnd path)
  else
    let (lead, pieces) := parts path
    if lead = rootLead then
      (stripNames (names root) pieces).map fun rest =>
        String.ofList (Text.joinWith '/' (dropUnnamedEnd (rest.dropWhile fun p => !isNamed p)))
    else none

/-- A path as seen from `root` if it lies below it, else the whole path. -/
def relativeTo (root path : String) : String := (below? root path).getD path

/-- A path seen from a base directory; an absolute path stays. -/
def join (base path : String) : String :=
  if isAbsolute path || base.isEmpty then path
  else if base.toList.getLast? = some '/' then base ++ path
  else base ++ "/" ++ path

/-- The last name of a path, unless it means the directory above. -/
def fileName? (path : String) : Option (List Char) :=
  match (names path).getLast? with
  | some name => if name = ['.', '.'] then none else some name
  | none => none

/-- What follows the last dot of the file name; a dot at its start alone does not count. -/
def extension? (path : String) : Option String :=
  match fileName? path with
  | none => none
  | some name =>
    match Text.splitLast '.' name with
    | some (before, after) => if before.isEmpty then none else some (String.ofList after)
    | none => none

/-- The directory of a path; none for the root and for the empty path. -/
def parent? (path : String) : Option String :=
  let (lead, pieces) := parts path
  match (dropUnnamedEnd pieces).reverse with
  | [] => if lead = .current then some "" else none
  | _ :: front =>
    let body := dropUnnamedEnd front.reverse
    some (String.ofList (match lead with
      | .current => Text.joinWith '/' (['.'] :: body)
      | lead => lead.chars ++ Text.joinWith '/' body))

/-- The language that an extension stands for; an unknown extension is its own language. -/
def languageOfExtension (ext : String) : String :=
  match ext with
  | "ttl" => "turtle"
  | "jsonld" => "jsonld"
  | "sparql" | "rq" => "sparql"
  | "ts" => "typescript"
  | "js" => "javascript"
  | "rs" => "rust"
  | "py" => "python"
  | "" => "plaintext"
  | other => other

def language (path : String) : String :=
  languageOfExtension (Text.lower ((extension? path).getD ""))

end LanguageBridge.Path
