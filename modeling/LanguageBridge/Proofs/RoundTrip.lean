import LanguageBridge.Message.Codec
import LanguageBridge.Proofs.Json.Text
import LanguageBridge.Proofs.Reading

/-! Messages written as text and read again. Nothing is lost but the difference between free JSON
that is null and free JSON that is absent. -/
namespace LanguageBridge

namespace Message

def slots : Message → List (Option Json)
  | .request r => [r.params]
  | .response r => r.result :: (r.error.map (·.data)).toList
  | .notification n => [n.params]

def edit (f : Option Json → Option Json) : Message → Message
  | .request r => .request { r with params := f r.params }
  | .response r => .response { r with
      result := f r.result, error := r.error.map fun e => { e with data := f e.data } }
  | .notification n => .notification { n with params := f n.params }

theorem edit_congr {f g : Option Json → Option Json} {m : Message}
    (same : ∀ value ∈ m.slots, f value = g value) : m.edit f = m.edit g := by
  cases m with
  | request r => simp [edit,same r.params (by simp [slots])]
  | notification n => simp [edit,same n.params (by simp [slots])]
  | response r =>
    obtain ⟨version,id,result,error⟩ := r
    have result_same := same result (by simp [slots])
    cases error with
    | none => simp [edit,result_same]
    | some e => simp [edit,result_same,same e.data (by simp [slots])]

theorem edit_id (m : Message) : m.edit id = m := by
  cases m with
  | request r => rfl
  | notification n => rfl
  | response r => cases r; simp [edit]

end Message

/-- The members a request is written as. -/
theorem Request.toJson_eq (r : Request) : ∃ members, r.toJson = .obj members ∧
    (members.map (·.1)).Nodup ∧ members.lookup "jsonrpc" = some (.str r.version) ∧
      members.lookup "id" = some r.id.toJson ∧ members.lookup "method" = some (.str r.method) ∧
      members.lookup "params" = r.params := by
  refine ⟨_,rfl,?_⟩
  cases r.params <;> simp [Part.always,Part.verbatim,Part.whenSome,List.lookup_cons]

theorem Notification.toJson_eq (n : Notification) : ∃ members, n.toJson = .obj members ∧
    (members.map (·.1)).Nodup ∧ members.lookup "jsonrpc" = some (.str n.version) ∧
      members.lookup "id" = none ∧ members.lookup "method" = some (.str n.method) ∧
      members.lookup "params" = n.params := by
  refine ⟨_,rfl,?_⟩
  cases n.params <;> simp [Part.always,Part.verbatim,Part.whenSome,List.lookup_cons]

theorem ResponseError.toJson_eq (e : ResponseError) : ∃ members, e.toJson = .obj members ∧
    (members.map (·.1)).Nodup ∧ members.lookup "code" = some (.ofInt32 e.code) ∧
      members.lookup "message" = some (.str e.message) ∧ members.lookup "data" = e.data := by
  refine ⟨_,rfl,?_⟩
  cases e.data <;> simp [Part.always,Part.verbatim,Part.whenSome,List.lookup_cons]

theorem Response.toJson_eq (r : Response) : ∃ members, r.toJson = .obj members ∧
    (members.map (·.1)).Nodup ∧ members.lookup "jsonrpc" = some (.str r.version) ∧
      members.lookup "id" = some (.nullable RequestId.toJson r.id) ∧
      members.lookup "method" = none ∧ members.lookup "result" = r.result ∧
      members.lookup "error" = r.error.map ResponseError.toJson := by
  refine ⟨_,rfl,?_⟩
  cases r.result <;> cases r.error <;>
    simp [Part.always,Part.verbatim,Part.whenSome,List.lookup_cons]

theorem RequestId.sorted_toJson (id : RequestId) : id.toJson.sorted = id.toJson := by
  cases id <;> rfl

theorem RequestId.read_nullable (id : Option RequestId) :
    Reads.nullable read (Json.nullable toJson id).sorted = .ok id := by
  cases id with
  | none => rfl
  | some id =>
    have value : id.toJson ≠ .null := by cases id <;> simp [toJson,Json.ofWord64,Json.ofNat]
    rw [Json.nullable,sorted_toJson,Reads.nullable_of_ne value,read_toJson,Except.map]

theorem Request.read_sorted (r : Request) :
    read r.toJson.sorted = .ok { r with params := present (r.params.map Json.sorted) } := by
  obtain ⟨members,shape,keys,version,id,method,params⟩ := r.toJson_eq
  rw [shape,Json.sorted,read_ok]
  simp [Json.lookup_sorted keys,version,id,method,params,Json.sorted,RequestId.sorted_toJson,
    RequestId.read_toJson]

theorem Notification.read_sorted (n : Notification) :
    read n.toJson.sorted = .ok { n with params := present (n.params.map Json.sorted) } := by
  obtain ⟨members,shape,keys,version,_,method,params⟩ := n.toJson_eq
  rw [shape,Json.sorted,read_ok]
  simp [Json.lookup_sorted keys,version,method,params,Json.sorted]

theorem ResponseError.read_sorted (e : ResponseError) :
    read e.toJson.sorted = .ok { e with data := present (e.data.map Json.sorted) } := by
  obtain ⟨members,shape,keys,code,message,data⟩ := e.toJson_eq
  have plain : (Json.ofInt32 e.code).sorted = .ofInt32 e.code := rfl
  rw [shape,Json.sorted,read_ok]
  simp [Json.lookup_sorted keys,code,message,data,Json.sorted,plain,Reads.int32_ofInt32]

theorem ResponseError.read_nullable (error : Option ResponseError) :
    Reads.nullable read (((error.map toJson).map Json.sorted).getD .null) =
      .ok (error.map fun e => { e with data := present (e.data.map Json.sorted) }) := by
  cases error with
  | none => rfl
  | some e =>
    have value : e.toJson.sorted ≠ .null := by simp [toJson,Json.record,Json.sorted]
    simp [Reads.nullable_of_ne value,read_sorted,Except.map]

theorem Response.read_sorted (r : Response) :
    read r.toJson.sorted = .ok { r with
      result := present (r.result.map Json.sorted)
      error := r.error.map fun e => { e with data := present (e.data.map Json.sorted) } } := by
  obtain ⟨members,shape,keys,version,id,_,result,error⟩ := r.toJson_eq
  rw [shape,Json.sorted,read_ok]
  simp [Json.lookup_sorted keys,version,id,result,error,Json.sorted,RequestId.read_nullable,
    -Option.map_map,ResponseError.read_nullable]

/-- A written value comes back as the same kind of message. -/
theorem Message.ofJson_sorted (m : Message) :
    ofJson m.toJson.sorted = .ok (m.edit fun value => present (value.map Json.sorted)) := by
  cases m with
  | request r =>
    obtain ⟨members,shape,keys,_,id,method,_⟩ := r.toJson_eq
    have read := r.read_sorted
    rw [shape,Json.sorted] at read
    simp [ofJson,toJson,edit,shape,Json.sorted,Json.get?,Json.lookup_sorted keys,id,method,read,
      Except.map]
  | notification n =>
    obtain ⟨members,shape,keys,_,id,method,_⟩ := n.toJson_eq
    have read := n.read_sorted
    rw [shape,Json.sorted] at read
    simp [ofJson,toJson,edit,shape,Json.sorted,Json.get?,Json.lookup_sorted keys,id,method,read,
      Except.map]
  | response r =>
    obtain ⟨members,shape,keys,_,id,method,_⟩ := r.toJson_eq
    have read := r.read_sorted
    rw [shape,Json.sorted] at read
    simp [ofJson,toJson,edit,shape,Json.sorted,Json.get?,Json.lookup_sorted keys,id,method,read,
      Except.map]

def Part.Integral (p : Part) : Prop := ∀ m ∈ p.members, m.2.integral

namespace Json

theorem integral_obj {members : List (String × Json)} :
    (Json.obj members).integral ↔ ∀ m ∈ members, m.2.integral := by
  rw [integral,every,Bool.true_and,everyMember_iff]

theorem integral_record {parts : List Part} (all : ∀ p ∈ parts, p.Integral) :
    (record parts).integral := by
  rw [record,integral_obj]
  intro m member
  obtain ⟨p,part,member⟩ := List.mem_flatMap.mp member
  exact all p part m member

@[simp] theorem integral_ofInt32 (n : Int32) : (ofInt32 n).integral := by
  have low : -0x80000000 ≤ n.toInt := n.minValue_le_toInt
  have high : n.toInt ≤ 0x7FFFFFFF := n.toInt_le
  simp only [ofInt32,ofInt,integral,every,Number.isWord,Bool.and_eq_true,decide_eq_true_eq]
  omega

theorem integral_null : null.integral := rfl

theorem integral_str (s : String) : (str s).integral := rfl

@[simp] theorem integral_ofWord64 (n : UInt64) : (ofWord64 n).integral := by
  have := n.toNat_lt
  simp only [ofWord64,ofNat,integral,every,Number.isWord,Bool.and_eq_true,decide_eq_true_eq]
  omega

end Json

@[simp] theorem Part.integral_always {name : String} {value : Json} :
    (always name value).Integral ↔ value.integral := by
  simp [Integral,always]

@[simp] theorem Part.integral_whenSome {α : Type} {name : String} {write : α → Json}
    {value : Option α} : (whenSome name write value).Integral ↔
      ∀ a ∈ value, (write a).integral := by
  cases value <;> simp [Integral,whenSome]

@[simp] theorem RequestId.integral_toJson (id : RequestId) : id.toJson.integral := by
  cases id <;> simp [toJson,Json.integral_str]

namespace Message

theorem integral_toJson {m : Message} (whole : ∀ value ∈ m.slots, ∀ j ∈ value, j.integral) :
    m.toJson.integral := by
  cases m with
  | request r =>
    apply Json.integral_record
    simpa [Part.verbatim,slots,Json.integral_str] using whole
  | notification n =>
    apply Json.integral_record
    simpa [Part.verbatim,slots,Json.integral_str] using whole
  | response r =>
    have id : (Json.nullable RequestId.toJson r.id).integral := by
      cases r.id <;> simp [Json.nullable,Json.integral_null]
    have error : ∀ e ∈ r.error, e.toJson.integral := by
      intro e given
      apply Json.integral_record
      simpa [Part.verbatim,Json.integral_str] using whole e.data (by simp [slots,Option.mem_def.mp given])
    apply Json.integral_record
    simpa [Part.verbatim,Json.integral_str,id] using ⟨whole r.result (by simp [slots]),error⟩

/-- What can be carried as text: whole numbers, objects in key order, and no deeper nesting than a
reader admits. -/
structure Portable (m : Message) : Prop where
  whole : ∀ value ∈ m.slots, ∀ j ∈ value, j.integral
  ordered : ∀ value ∈ m.slots, ∀ j ∈ value, j.ordered
  shallow : m.toJson.depth ≤ 127

/-- Reading a written message gives it back, with null for free JSON taken as absent. -/
theorem decode_encode {m : Message} (portable : m.Portable) :
    decode m.encode = .ok (m.edit present) ∧
      (some Json.null ∉ m.slots → decode m.encode = .ok m) := by
  have text : Json.parse m.encode = .ok m.toJson.sorted :=
    Json.parse_compact (integral_toJson portable.whole) portable.shallow
  have sorted : m.edit (fun value => present (value.map Json.sorted)) = m.edit present := by
    apply edit_congr
    rintro (_ | j) member
    · rfl
    · rw [Option.map_some,Json.sorted_of_ordered j (portable.ordered _ member j rfl)]
  have read : decode m.encode = .ok (m.edit present) := by
    simp [decode,text,ofJson_sorted,sorted]
  refine ⟨read,fun solid => ?_⟩
  have kept : m.edit present = m.edit id := by
    apply edit_congr
    rintro (_ | j) member
    · rfl
    · cases j with
      | null => exact absurd member solid
      | _ => rfl
  rw [read,kept,edit_id]

/-- A refusal whose text needs every kind of escape and the ends of the number range. -/
def refusal : Message :=
  .response ⟨protocolVersion,some (.text "7\n"),
    some (.arr [.obj [("\\",.ofInt (-0x8000000000000000)),("a",.ofNat 0xFFFFFFFFFFFFFFFF)],
      .str "\"\x00é\x1f"]),
    some ⟨-32601,"no\tmethod",some (.obj [("",.arr [.null])])⟩⟩

theorem refusal_decode_encode : refusal.Portable ∧ decode refusal.encode = .ok refusal := by
  have portable : refusal.Portable := ⟨by decide,by decide,by decide⟩
  exact ⟨portable,(decode_encode portable).2 (by decide)⟩

end Message

end LanguageBridge
