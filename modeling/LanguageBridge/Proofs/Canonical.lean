import LanguageBridge.Proofs.Json.Numerals
import LanguageBridge.Proofs.Recognition
import LanguageBridge.Proofs.RoundTrip

/-! Messages that were read are in normal form: written and read again they are the same, so that a text
changes once at most when it is read and written over and over. -/
namespace LanguageBridge

namespace Json

/-- What writing and reading give back as it is, with `n` containers inside each other at most. -/
structure Fit (n : Nat) (j : Json) : Prop where
  whole : j.integral
  ordered : j.ordered
  shallow : j.depth ≤ n

theorem fit_of_parse {text : String} {j : Json} (whole : Whole text.toList)
    (read : parse text = .ok j) : j.Fit 127 := by
  obtain ⟨rest,spells,_⟩ := spells_of_parse read
  exact ⟨(spells.integral whole).1,spells.fits.2,spells.fits.1⟩

variable {n : Nat} {j : Json}

theorem Fit.member {members : List (String × Json)} {key : String} (fit : (obj members).Fit (n + 1))
    (found : members.lookup key = some j) : j.Fit n := by
  have member := Lookup.mem_of_lookup found
  have whole := fit.whole
  have ordered := fit.ordered
  simp only [integral,Json.ordered,every,Bool.and_eq_true,everyMember_iff] at whole ordered
  exact ⟨whole.2 _ member,ordered.2 _ member,
    depthMembers_le_iff.mp (Nat.le_of_succ_le_succ fit.shallow) _ member⟩

theorem Fit.item {items : List Json} (fit : (arr items).Fit (n + 1)) (member : j ∈ items) :
    j.Fit n := by
  have whole := fit.whole
  have ordered := fit.ordered
  simp only [integral,Json.ordered,every,everyItem_iff] at whole ordered
  exact ⟨whole _ member,ordered _ member,
    depthItems_le_iff.mp (Nat.le_of_succ_le_succ fit.shallow) _ member⟩

theorem Fit.mono {m : Nat} (fit : j.Fit n) (more : n ≤ m) : j.Fit m :=
  ⟨fit.whole,fit.ordered,Nat.le_trans fit.shallow more⟩

end Json

def Part.Shallow (n : Nat) (p : Part) : Prop := ∀ m ∈ p.members, m.2.depth ≤ n

@[simp] theorem Part.shallow_always {n : Nat} {name : String} {value : Json} :
    (always name value).Shallow n ↔ value.depth ≤ n := by
  simp [Shallow,always]

@[simp] theorem Part.shallow_whenSome {α : Type} {n : Nat} {name : String} {write : α → Json}
    {value : Option α} : (whenSome name write value).Shallow n ↔
      ∀ a, value = some a → (write a).depth ≤ n := by
  cases value <;> simp [Shallow,whenSome]

theorem Json.depth_record_le {n : Nat} {parts : List Part} (all : ∀ p ∈ parts, p.Shallow n) :
    (record parts).depth ≤ n + 1 := by
  apply Nat.succ_le_succ
  rw [depthMembers_le_iff]
  intro m member
  obtain ⟨p,part,member⟩ := List.mem_flatMap.mp member
  exact all p part m member

theorem Json.depth_str (s : String) : (str s).depth = 0 := rfl

@[simp] theorem RequestId.depth_toJson (id : RequestId) : id.toJson.depth = 0 := by
  cases id <;> rfl

theorem present_eq_some {found : Option Json} {j : Json} (kept : present found = some j) :
    found = some j ∧ j ≠ .null := by
  cases found with
  | none => cases kept
  | some k => cases k <;> cases kept <;> simp

structure Json.Solid (n : Nat) (value : Option Json) : Prop where
  fit : ∀ j ∈ value, j.Fit n
  given : value ≠ some .null

theorem Json.solid_present {n : Nat} {found : Option Json} (fit : ∀ j ∈ found, j.Fit n) :
    Solid n (present found) where
  fit j kept := fit j (present_eq_some kept).1
  given kept := (present_eq_some kept).2 rfl

theorem ResponseError.Spelled.solid {n : Nat} {j : Json} {e : ResponseError} (spelled : Spelled j e)
    (fit : j.Fit (n + 1)) : Json.Solid n e.data := by
  cases spelled with
  | object low high coded told => exact Json.solid_present fun k found => fit.member found
  | array low high message data =>
    apply Json.solid_present
    rintro k ⟨⟩
    exact fit.item (by simp)

theorem Reads.Optionally.spelled {α : Type} {spelled : Json → α → Prop} {found : Option Json}
    {value : Option α} (optionally : Optionally spelled found value) {a : α} (given : value = some a) :
    ∃ j, found = some j ∧ spelled j a := by
  cases optionally with
  | absent => cases given
  | null => cases given
  | given value =>
    cases given
    exact ⟨_,rfl,value⟩

namespace Message

/-- What is free in a message is as deep in it as in a text that it can be read from. -/
def Solid : Message → Prop
  | .request r => Json.Solid 126 r.params
  | .response r => Json.Solid 126 r.result ∧ ∀ e, r.error = some e → Json.Solid 125 e.data
  | .notification n => Json.Solid 126 n.params

theorem Spelled.solid {members : List (String × Json)} {m : Message} (spelled : Spelled members m)
    (fit : (Json.obj members).Fit 127) : m.Solid := by
  have free (key : String) : Json.Solid 126 (present (members.lookup key)) :=
    Json.solid_present fun j found => fit.member found
  cases spelled with
  | request => exact free "params"
  | notification => exact free "params"
  | response versioned identified spelled unnamed failed =>
    refine ⟨free "result",fun e given => ?_⟩
    obtain ⟨j,found,spelled⟩ := failed.spelled given
    exact spelled.solid (fit.member found)

variable {m : Message}

theorem Solid.slots (solid : m.Solid) : ∀ value ∈ m.slots, Json.Solid 126 value := by
  cases m with
  | request r | notification n =>
    intro value member
    obtain rfl := List.mem_singleton.mp member
    exact solid
  | response r =>
    obtain ⟨result,error⟩ := solid
    intro value member
    simp only [Message.slots,List.mem_cons,Option.mem_toList,Option.map_eq_some_iff] at member
    rcases member with rfl | ⟨e,given,rfl⟩
    · exact result
    · exact ⟨fun j member => ((error e given).fit j member).mono (by omega),(error e given).given⟩

theorem Solid.depth (solid : m.Solid) : m.toJson.depth ≤ 127 := by
  cases m with
  | request r | notification n =>
    apply Json.depth_record_le
    simpa [Part.verbatim,Json.depth_str] using fun j given => (Json.Solid.fit solid j given).shallow
  | response r =>
    obtain ⟨result,error⟩ := solid
    have id : (Json.nullable RequestId.toJson r.id).depth = 0 := by
      cases r.id <;> simp [Json.nullable,Json.depth]
    have failed : ∀ e, r.error = some e → e.toJson.depth ≤ 126 := by
      intro e given
      apply Json.depth_record_le
      have code : (Json.ofInt32 e.code).depth = 0 := rfl
      simpa [Part.verbatim,Json.depth_str,code] using fun j data => ((error e given).fit j data).shallow
    apply Json.depth_record_le
    simpa [Part.verbatim,Json.depth_str,id] using ⟨fun j given => (result.fit j given).shallow,failed⟩

theorem solid_of_decode {text : String} (whole : Json.Whole text.toList)
    (read : decode text = .ok m) : m.Solid := by
  obtain ⟨members,parsed,spelled⟩ := (decode_iff text m).mp read
  exact spelled.solid (Json.fit_of_parse whole parsed)

/-- A message that was read is written as a text of which reading gives it back. -/
theorem Solid.decode_encode_eq (solid : m.Solid) : decode m.encode = .ok m := by
  have text : Json.parse m.encode = .ok m.toJson.sorted :=
    Json.parse_compact (integral_toJson fun value member j given =>
      ((solid.slots value member).fit j given).whole) solid.depth
  have kept : m.edit (fun value => present (value.map Json.sorted)) = m.edit id := by
    apply edit_congr
    rintro (_ | j) member
    · rfl
    · have slot := solid.slots _ member
      rw [Option.map_some,Json.sorted_of_ordered j (slot.fit j rfl).ordered]
      cases j with
      | null => exact absurd rfl slot.given
      | _ => rfl
  simp only [decode,text,ofJson_sorted,kept,edit_id]

def recode (text : String) : Except DecodeError String := (decode text).map encode

/-- Reading a text of whole numbers gives a message in normal form, and a text that was read and written
once stays as it is. -/
theorem decode_canonical {text : String} (whole : Json.Whole text.toList) :
    (∀ m, decode text = .ok m → some Json.null ∉ m.slots ∧ decode m.encode = .ok m) ∧
      (recode text).bind recode = recode text := by
  have canonical : ∀ m, decode text = .ok m → some Json.null ∉ m.slots ∧ decode m.encode = .ok m := by
    intro m read
    have solid := solid_of_decode whole read
    exact ⟨fun member => (solid.slots _ member).given rfl,solid.decode_encode_eq⟩
  refine ⟨canonical,?_⟩
  unfold recode
  cases read : decode text with
  | error e => rfl
  | ok m =>
    have again := (canonical m read).2
    simp [Except.map,Except.bind,again]

/-- A refusal with blanks, keys out of order, given twice and unknown, escapes, and its error as an
array. -/
def scrawl : String :=
  " \x7b \"x\" : [1, \x7b\x7d],\n\"result\":null, \"error\": [-32601, \"n\\u006f\", \x7b" ++
    "\"b\":\"1.5\",\"a\":-9223372036854775808,\"b\":18446744073709551615\x7d]," ++
    "\"id\" :7 , \"jsonrpc\":\"2.0\"\x7d\t"

def scrawled : Message :=
  .response ⟨"2.0",some (.number 7),none,some ⟨-32601,"no",
    some (.obj [("a",.ofInt (-0x8000000000000000)),("b",.ofNat 0xFFFFFFFFFFFFFFFF)])⟩⟩

theorem scrawl_whole : Json.Whole scrawl.toList := by
  have runs : Json.numerals scrawl.toList = ["1".toList,"-32601".toList,
      "-9223372036854775808".toList,"18446744073709551615".toList,"7".toList] := by
    decide +kernel
  rw [Json.Whole,runs]
  simp only [List.forall_mem_cons]
  exact ⟨⟨1,by decide⟩,⟨-32601,by decide⟩,⟨-0x8000000000000000,by decide⟩,
    ⟨0xFFFFFFFFFFFFFFFF,by decide⟩,⟨7,by decide⟩,by simp⟩

theorem scrawl_canonical : Json.Whole scrawl.toList ∧ decode scrawl = .ok scrawled ∧
    (some Json.null ∉ scrawled.slots ∧ decode scrawled.encode = .ok scrawled) ∧
      (recode scrawl).bind recode = recode scrawl := by
  have read : decode scrawl = .ok scrawled := by decide +kernel
  obtain ⟨canonical,idempotent⟩ := decode_canonical scrawl_whole
  exact ⟨scrawl_whole,read,canonical scrawled read,idempotent⟩

end Message

end LanguageBridge
