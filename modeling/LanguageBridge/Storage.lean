import LanguageBridge.Location
import LanguageBridge.Path
import LanguageBridge.Text.Utf8

/-! Files and directories, with the limits on the lengths of names and of paths. The root is always
a directory. -/
namespace LanguageBridge

inductive StorageError where
  | notFound
  | notDirectory
  | isDirectory
  | occupied
  | nameTooLong
  | zeroByte
  | badText
  deriving DecidableEq, Repr

def StorageError.message : StorageError → String
  | .notFound => "No such file or directory (os error 2)"
  | .notDirectory => "Not a directory (os error 20)"
  | .isDirectory => "Is a directory (os error 21)"
  | .occupied => "File exists (os error 17)"
  | .nameTooLong => "File name too long (os error 36)"
  | .zeroByte => "file name contained an unexpected NUL byte"
  | .badText => "stream did not contain valid UTF-8"

/-- The name of a kind of errors. -/
def StorageError.kind : StorageError → String
  | .notFound => "NotFound"
  | .notDirectory => "NotADirectory"
  | .isDirectory => "IsADirectory"
  | .occupied => "AlreadyExists"
  | .nameTooLong => "InvalidFilename"
  | .zeroByte => "InvalidInput"
  | .badText => "InvalidData"

/-- A place, as the names that lead to it from the root, each after a slash. -/
structure Place where
  trail : String
  deriving DecidableEq, Repr

namespace Place

def root : Place := ⟨""⟩

def child (p : Place) (name : List Char) : Place := ⟨p.trail ++ "/" ++ String.ofList name⟩

/-- The directory that holds a place; the root holds itself. -/
def parent (p : Place) : Place :=
  ⟨String.ofList ((p.trail.toList.reverse.dropWhile (· ≠ '/')).drop 1).reverse⟩

def ofNames (names : List (List Char)) : Place := names.foldl child root

/-- The absolute path of a place. -/
def path (p : Place) : String := if p = root then "/" else p.trail

end Place

inductive Node where
  | file (bytes : List UInt8)
  | directory
  deriving DecidableEq, Repr

/-- What stands at places below the root, and the place from which relative paths are seen. -/
structure Storage where
  current : Place
  entries : List (Place × Node)
  deriving DecidableEq, Repr

namespace Storage

/-- What stands at a place. -/
def get? (s : Storage) (place : Place) : Option Node :=
  if place = .root then some .directory
  else (s.entries.find? fun e => e.1 = place).map (·.2)

def erase (s : Storage) (place : Place) : Storage :=
  { s with entries := s.entries.filter fun e => e.1 ≠ place }

def set (s : Storage) (place : Place) (node : Node) : Storage :=
  { s with entries := (s.entries.filter fun e => e.1 ≠ place) ++ [(place, node)] }

/-- A name takes at most this many bytes. -/
def nameLimit : Nat := 255

def isLong (name : List Char) : Bool := nameLimit < (String.ofList name).utf8ByteSize

/-- A path takes at most this many bytes. -/
def pathLimit : Nat := 4095

/-- Goes on from a directory along the pieces of a path, to something that exists. -/
def walk (s : Storage) (here : Place) : List (List Char) → Except StorageError Place
  | [] => .ok here
  | piece :: rest =>
    match s.get? here with
    | none => .error .notFound
    | some (.file _) => .error .notDirectory
    | some .directory =>
      if !Path.isNamed piece then s.walk here rest
      else if piece = ['.', '.'] then s.walk here.parent rest
      else if isLong piece then .error .nameTooLong
      else if (s.get? (here.child piece)).isNone then .error .notFound
      else s.walk (here.child piece) rest

/-- Where a path starts, and its pieces; there is no empty path and none with a zero byte. -/
def start (s : Storage) (path : String) : Except StorageError (Place × List (List Char)) :=
  if path.isEmpty then .error .notFound
  else if path.toList.contains '\x00' then .error .zeroByte
  else
    match path.toList with
    | '/' :: rest => .ok (.root, Text.splitAt '/' rest)
    | cs => .ok (s.current, Text.splitAt '/' cs)

/-- The same for a path that is used as a whole, and so must not be too long. -/
def startWhole (s : Storage) (path : String) : Except StorageError (Place × List (List Char)) := do
  let start ← s.start path
  if pathLimit < path.utf8ByteSize then .error .nameTooLong else .ok start

/-- The place that a path leads to. -/
def resolve (s : Storage) (path : String) : Except StorageError Place := do
  let (here, pieces) ← s.startWhole path
  s.walk here pieces

/-- The place that a path of any length leads to, name by name. -/
def follow (s : Storage) (path : String) : Except StorageError Place := do
  let (here, pieces) ← s.start path
  s.walk here pieces

/-- Whether a path leads anywhere. -/
def reaches (s : Storage) (path : String) : Bool := (s.resolve path).toBool

def isDirectory (s : Storage) (path : String) : Bool :=
  match s.resolve path with
  | .ok place => s.get? place == some .directory
  | .error _ => false

def read (s : Storage) (path : String) : Except StorageError (List UInt8) := do
  match s.get? (← s.resolve path) with
  | some (.file bytes) => .ok bytes
  | some .directory => .error .isDirectory
  | none => .error .notFound

def readText (s : Storage) (path : String) : Except StorageError String := do
  match Text.decodeUtf8 (← s.read path) with
  | .ok text => .ok text
  | .error _ => .error .badText

/-- The place that a file is written to: a name in an existing directory that no directory has. -/
def target (s : Storage) (path : String) : Except StorageError Place := do
  let (here, pieces) ← s.startWhole path
  let body := (pieces.reverse.dropWhile List.isEmpty).reverse
  match body.getLast? with
  | none => .error .isDirectory
  | some last =>
    let directory ← s.walk here body.dropLast
    match s.get? directory with
    | none => .error .notFound
    | some (.file _) => .error .notDirectory
    | some .directory =>
      let place := directory.child last
      if body.length < pieces.length ∨ last = ['.'] ∨ last = ['.', '.'] then .error .isDirectory
      else if isLong last then .error .nameTooLong
      else if s.get? place = some .directory then .error .isDirectory
      else .ok place

/-- Creates a file or replaces what it holds. -/
def write (s : Storage) (path : String) (bytes : List UInt8) : Except StorageError Storage := do
  return s.set (← s.target path) (.file bytes)

/-- Removes a file; none if there is none. -/
def remove (s : Storage) (path : String) : Option Storage :=
  match s.resolve path with
  | .ok place =>
    match s.get? place with
    | some (.file _) => some (s.erase place)
    | _ => none
  | .error _ => none

/-- Creates each directory on the way that is not there yet. What was created stays when a later
name fails. -/
def makeWay (s : Storage) (here : Place) : List (List Char) → Storage × Except StorageError Unit
  | [] => (s, .ok ())
  | name :: rest =>
    if name = ['.', '.'] then s.makeWay here.parent rest
    else if isLong name then (s, .error .nameTooLong)
    else
      let place := here.child name
      match s.get? place with
      | some .directory => s.makeWay place rest
      | some (.file _) => (s, .error (if rest.isEmpty then .occupied else .notDirectory))
      | none => (s.set place .directory).makeWay place rest

/-- Creates a directory and those above it. -/
def createDirectories (s : Storage) (path : String) : Storage × Except StorageError Unit :=
  match s.startWhole path with
  | .error e => (s, if path.isEmpty then .ok () else .error e)
  | .ok (here, pieces) => s.makeWay here (pieces.filter Path.isNamed)

/-- Creates the directories above a path. -/
def createParents (s : Storage) (path : String) : Storage × Except StorageError Unit :=
  match Path.parent? path with
  | some parent => s.createDirectories parent
  | none => (s, .ok ())

/-- Writes a file after the directories above it; what cannot be written is left as it was. -/
def put (s : Storage) (path : String) (bytes : List UInt8) : Storage :=
  let s := (s.createParents path).1
  (s.write path bytes).toOption.getD s

/-- The absolute path of an existing file, without links, dots and doubled slashes. -/
def canonicalPath (s : Storage) (file : String) : Except String String :=
  let joined := Path.join s.current.path file
  match s.follow joined with
  | .ok place => .ok place.path
  | .error e => .error ("File not found: " ++ joined ++ ": " ++ e.message)

/-- A location with the absolute path of its file. -/
def locate (s : Storage) (input : String) : Except String Location :=
  match Location.parse input with
  | .error e => .error e.message
  | .ok l =>
    match s.canonicalPath l.file with
    | .error e => .error e
    | .ok file => .ok { l with file }

end Storage

end LanguageBridge
