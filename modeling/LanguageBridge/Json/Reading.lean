import LanguageBridge.Json.Basic
import LanguageBridge.Number.Shortest
import LanguageBridge.Text.Quoted

/-! Typed values out of JSON values. A record is described once by its `Fields`; from that follow the
reading of an object by name, the reading of an array by position, and which fault is reported. -/
namespace LanguageBridge

/-- The kind of value that was found where another was expected. -/
inductive Found where
  | null
  | bool (b : Bool)
  | int (n : Int)
  | double (x : Double)
  | str (s : String)
  | sequence
  | map
  deriving DecidableEq, Repr

def Found.describe : Found → String
  | .null => "null"
  | .bool true => "boolean `true`"
  | .bool false => "boolean `false`"
  | .int n => "integer `" ++ Text.showInt n ++ "`"
  | .double x => "floating point `" ++ x.compact ++ "`"
  | .str s => "string " ++ Text.quoted s
  | .sequence => "sequence"
  | .map => "map"

def Json.found : Json → Found
  | .null => .null
  | .bool b => .bool b
  | .num (.int n) => .int n
  | .num (.double x) => .double x
  | .str s => .str s
  | .arr _ => .sequence
  | .obj _ => .map

/-- Why a JSON value is not a value of some type. -/
inductive ReadError where
  | wrongType (found : Found) (expected : String)
  | outOfRange (n : Int) (expected : String)
  | unknownCode (n : Nat) (known : List Nat)
  | missing (field : String)
  | wrongLength (length : Nat) (expected : String)
  | noVariant (name : String)
  | shapeless
  deriving DecidableEq, Repr

def ReadError.message : ReadError → String
  | .wrongType found expected => "invalid type: " ++ found.describe ++ ", expected " ++ expected
  | .outOfRange n expected =>
    "invalid value: " ++ (Found.int n).describe ++ ", expected " ++ expected
  | .unknownCode n known =>
    "invalid value: " ++ toString n ++ ", expected " ++
      (match known with
        | [a, b] => toString a ++ " or " ++ toString b
        | codes => "one of: " ++ ", ".intercalate (codes.map toString))
  | .missing field => "missing field `" ++ field ++ "`"
  | .wrongLength length expected =>
    "invalid length " ++ toString length ++ ", expected " ++ expected
  | .noVariant name => "data did not match any variant of untagged enum " ++ name
  | .shapeless => "Invalid JSON-RPC message"

abbrev Reads (α : Type) := Json → Except ReadError α

namespace Reads

def any : Reads Json := .ok

def string : Reads String
  | .str s => .ok s
  | other => .error (.wrongType other.found "a string")

def bool : Reads Bool
  | .bool b => .ok b
  | other => .error (.wrongType other.found "a boolean")

/-- An integer from `low` to `high`. -/
def integer (low high : Int) (expected : String) : Reads Int
  | .num (.int n) => if low ≤ n ∧ n ≤ high then .ok n else .error (.outOfRange n expected)
  | other => .error (.wrongType other.found expected)

def word8 : Reads UInt8 := fun j => (integer 0 0xFF "u8" j).map (UInt8.ofNat ·.toNat)

def word32 : Reads UInt32 := fun j => (integer 0 0xFFFFFFFF "u32" j).map (UInt32.ofNat ·.toNat)

def word64 : Reads UInt64 :=
  fun j => (integer 0 0xFFFFFFFFFFFFFFFF "u64" j).map (UInt64.ofNat ·.toNat)

def int32 : Reads Int32 := fun j => (integer (-0x80000000) 0x7FFFFFFF "i32" j).map Int32.ofInt

def nullable {α : Type} (read : Reads α) : Reads (Option α)
  | .null => .ok none
  | other => (read other).map some

def list {α : Type} (read : Reads α) : Reads (List α)
  | .arr items => items.mapM read
  | other => .error (.wrongType other.found "a sequence")

/-- Every member of an object, in the order of the object. -/
def dictionary {α : Type} (read : Reads α) : Reads (List (String × α))
  | .obj members => members.mapM fun (k, j) => (read j).map (k, ·)
  | other => .error (.wrongType other.found "a map")

/-- One of a list of numbered cases. -/
def coded {α : Type} (cases : List (Nat × α)) : Reads α := fun j => do
  let n := (← word8 j).toNat
  match cases.lookup n with
  | some a => .ok a
  | none => .error (.unknownCode n (cases.map (·.1)))

/-- The first reading that succeeds. -/
def choice {α : Type} (name : String) : List (Reads α) → Reads α
  | [], _ => .error (.noVariant name)
  | read :: others, j =>
    match read j with
    | .ok a => .ok a
    | .error _ => choice name others j

def mapTo {α β : Type} (f : α → β) (read : Reads α) : Reads β := fun j => (read j).map f

end Reads

/-- What is wrong with the members of an object: values that do not fit, by key, and absent fields in
the order of their declaration. -/
structure Faults where
  bad : List (String × ReadError)
  absent : List String
  deriving DecidableEq, Repr

/-- The pair with the least key; of equal keys the first. -/
def leastKey {α : Type} : List (String × α) → Option (String × α)
  | [] => none
  | m :: rest =>
    match leastKey rest with
    | none => some m
    | some n => if n.1 < m.1 then some n else some m

/-- Values are looked at in key order before absent fields are. -/
def Faults.first (f : Faults) : ReadError :=
  match leastKey f.bad, f.absent with
  | some (_, e), _ => e
  | none, name :: _ => .missing name
  | none, [] => .shapeless

/-- A description of record fields with result `α`: `ofMembers` looks fields up by name and gathers
all faults, `ofItems` takes fields from the front of a list and stops at the first fault. -/
structure Fields (α : Type) where
  count : Nat
  ofMembers : List (String × Json) → Except Faults α
  ofItems : (expected : String) → (index : Nat) → List Json → Except ReadError (α × List Json)

namespace Fields

def pure {α : Type} (a : α) : Fields α where
  count := 0
  ofMembers _ := .ok a
  ofItems _ _ items := .ok (a, items)

def map {α β : Type} (f : α → β) (x : Fields α) : Fields β where
  count := x.count
  ofMembers members := (x.ofMembers members).map f
  ofItems expected index items := (x.ofItems expected index items).map fun (a, rest) => (f a, rest)

def seq {α β : Type} (f : Fields (α → β)) (x : Fields α) : Fields β where
  count := f.count + x.count
  ofMembers members :=
    match f.ofMembers members, x.ofMembers members with
    | .ok g, .ok a => .ok (g a)
    | .error e, .ok _ => .error e
    | .ok _, .error e => .error e
    | .error e, .error e' => .error ⟨e.bad ++ e'.bad, e.absent ++ e'.absent⟩
  ofItems expected index items :=
    match f.ofItems expected index items with
    | .error e => .error e
    | .ok (g, rest) =>
      match x.ofItems expected (index + f.count) rest with
      | .error e => .error e
      | .ok (a, rest) => .ok (g a, rest)

instance : Functor Fields := { map := map }

instance : Seq Fields := { seq := fun f x => seq f (x ()) }

/-- One field; `unnamed` is its value when an object lacks it, `past` when an array ends before it. -/
def one {α : Type} (name : String) (read : Reads α) (unnamed past : Option α) : Fields α where
  count := 1
  ofMembers members :=
    match members.lookup name with
    | some j =>
      match read j with
      | .ok a => .ok a
      | .error e => .error ⟨[(name, e)], []⟩
    | none =>
      match unnamed with
      | some a => .ok a
      | none => .error ⟨[], [name]⟩
  ofItems expected index
    | j :: rest => (read j).map (·, rest)
    | [] =>
      match past with
      | some a => .ok (a, [])
      | none => .error (.wrongLength index expected)

/-- A field that has to be there. -/
def required {α : Type} (name : String) (read : Reads α) : Fields α := one name read none none

/-- A field that an object may lack or hold as null; an array has to hold it. -/
def optional {α : Type} (name : String) (read : Reads α) : Fields (Option α) :=
  one name (Reads.nullable read) (some none) none

/-- A field that may be lacking or null in both forms. -/
def omittable {α : Type} (name : String) (read : Reads α) : Fields (Option α) :=
  one name (Reads.nullable read) (some none) (some none)

/-- A field with a value of its own when it is lacking. -/
def defaulted {α : Type} (name : String) (read : Reads α) (value : α) : Fields α :=
  one name read (some value) (some value)

/-- Reads an object by the names of the fields. -/
def readMembers {α : Type} (fields : Fields α) (members : List (String × Json)) :
    Except ReadError α :=
  match fields.ofMembers members with
  | .ok a => .ok a
  | .error faults => .error faults.first

end Fields

def elements (n : Nat) : String := if n = 1 then "1 element" else toString n ++ " elements"

namespace Reads

/-- A record from an object, or from an array that holds its fields in order. -/
def record {α : Type} (name : String) (fields : Fields α) : Reads α
  | .obj members => fields.readMembers members
  | .arr items =>
    match fields.ofItems ("struct " ++ name ++ " with " ++ elements fields.count) 0 items with
    | .error e => .error e
    | .ok (a, rest) =>
      if rest.isEmpty then .ok a
      else .error (.wrongLength items.length "fewer elements in array")
  | other => .error (.wrongType other.found ("struct " ++ name))

/-- A record that only an object can hold. -/
def named {α : Type} (name : String) (fields : Fields α) : Reads α
  | .obj members => fields.readMembers members
  | other => .error (.wrongType other.found ("struct " ++ name))

end Reads

/-- What one field of a record writes: a member or nothing. -/
structure Part where
  members : List (String × Json)

namespace Part

def always (name : String) (value : Json) : Part := ⟨[(name, value)]⟩

def whenSome {α : Type} (name : String) (write : α → Json) : Option α → Part
  | some a => ⟨[(name, write a)]⟩
  | none => ⟨[]⟩

/-- Free JSON, if there is any. -/
def verbatim (name : String) (value : Option Json) : Part := whenSome name (fun j => j) value

def whenAny {α : Type} (name : String) (write : α → Json) : List α → Part
  | [] => ⟨[]⟩
  | items => ⟨[(name, .arr (items.map write))]⟩

end Part

namespace Json

/-- A record is written field by field, in order. -/
def record (parts : List Part) : Json := .obj (parts.flatMap Part.members)

def list {α : Type} (write : α → Json) (items : List α) : Json := .arr (items.map write)

def nullable {α : Type} (write : α → Json) : Option α → Json
  | some a => write a
  | none => .null

def ofWord8 (n : UInt8) : Json := .ofNat n.toNat

def ofWord32 (n : UInt32) : Json := .ofNat n.toNat

def ofWord64 (n : UInt64) : Json := .ofNat n.toNat

def ofInt32 (n : Int32) : Json := .ofInt n.toInt

end Json

end LanguageBridge
