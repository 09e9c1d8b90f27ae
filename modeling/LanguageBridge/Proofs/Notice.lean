import LanguageBridge.Engine
import LanguageBridge.Proofs.RoundTrip

/-! The notice that a request is given up, and how its text is told apart from all other text that is
ever written. -/
namespace LanguageBridge

/-- Quoted text shows where it ends. -/
theorem Json.quote_append {s t : String} {rest more : List Char}
    (same : quote s ++ rest = quote t ++ more) : s = t ∧ rest = more := by
  obtain ⟨cs,first,left⟩ := string_quote s rest
  obtain ⟨ds,second,right⟩ := string_quote t more
  rw [first,second] at same
  obtain rfl : cs = ds := (List.cons.inj same).2
  rw [left] at right
  simpa using right

namespace Message

/-- How every message begins: its version, and then one more key. -/
def opens (version key : String) (rest : List Char) : List Char :=
  '\x7b' :: (Json.quote "jsonrpc" ++ ':' :: (Json.quote version ++ ',' :: (Json.quote key ++ rest)))

theorem opens_inj {version other key name : String} {rest more : List Char}
    (same : opens version key rest = opens other name more) : key = name ∧ rest = more := by
  obtain ⟨_,same⟩ := Json.quote_append (List.cons.inj same).2
  obtain ⟨_,same⟩ := Json.quote_append (List.cons.inj same).2
  exact Json.quote_append (List.cons.inj same).2

theorem chars_request (r : Request) :
    ∃ rest, (Message.request r).toJson.chars = opens r.version "id" rest := ⟨_,rfl⟩

theorem chars_response (r : Response) :
    ∃ rest, (Message.response r).toJson.chars = opens r.version "id" rest := ⟨_,rfl⟩

theorem chars_notification (n : Notification) :
    ∃ rest, (Message.notification n).toJson.chars =
      opens n.version "method" (':' :: (Json.quote n.method ++ rest)) := ⟨_,rfl⟩

theorem chars_of_encode {m k : Message} (same : m.encode = k.encode) :
    m.toJson.chars = k.toJson.chars := by
  simpa [encode,Json.compact] using congrArg String.toList same

/-- Only a notification of the same method is written as a notification is. -/
theorem encode_notification {m : Message} {n : Notification}
    (same : m.encode = (Message.notification n).encode) :
    ∃ k : Notification, m = .notification k ∧ k.method = n.method := by
  have text := chars_of_encode same
  obtain ⟨rest,own⟩ := chars_notification n
  rw [own] at text
  cases m with
  | request r =>
    obtain ⟨more,other⟩ := chars_request r
    rw [other] at text
    exact absurd (opens_inj text).1 (by decide)
  | response r =>
    obtain ⟨more,other⟩ := chars_response r
    rw [other] at text
    exact absurd (opens_inj text).1 (by decide)
  | notification k =>
    obtain ⟨more,other⟩ := chars_notification k
    rw [other] at text
    have methods := (List.cons.inj (opens_inj text).2).2
    exact ⟨k,rfl,(Json.quote_append methods).1⟩

def notice (number : UInt64) : Message :=
  .notification (.new Method.cancelRequest (some (.obj [("id",.ofWord64 number)])))

theorem parse_notice (number : UInt64) :
    Json.parse (notice number).encode = .ok (notice number).toJson.sorted := by
  apply Json.parse_compact
  · apply integral_toJson
    simp [slots,notice,Notification.new,Json.integral_obj]
  · have depth : (notice number).toJson.depth = 2 := rfl
    omega

theorem notice_inj {m n : UInt64} (same : (notice m).encode = (notice n).encode) : m = n := by
  have read : (notice m).toJson.sorted = (notice n).toJson.sorted := by
    have parsed := parse_notice m
    rw [same,parse_notice n] at parsed
    exact (Except.ok.inj parsed).symm
  have plain (number : UInt64) : ofJson (notice number).toJson.sorted = .ok (notice number) := by
    rw [ofJson_sorted]
    rfl
  have whole := congrArg ofJson read
  rw [plain,plain] at whole
  have numbers : (m.toNat : Int) = n.toNat := by
    simpa [notice,Notification.new,Json.ofWord64,Json.ofNat] using whole
  exact UInt64.toNat_inj.mp (Int.ofNat.inj numbers)

end Message

end LanguageBridge
