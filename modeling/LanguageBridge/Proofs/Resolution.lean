import LanguageBridge.Proofs.Numeral
import LanguageBridge.Proofs.Replies

/-! Which entry of the table a response takes. The very id comes first; a text may also stand for a
number, but a number never for a text. -/
namespace LanguageBridge

/-- A text stands for the one number that it spells, if that fits a word. -/
theorem RequestId.denotes?_text {s : String} {n : UInt64} :
    denotes? (.text s) = some n ↔ Text.Denotes s n.toNat := by
  rw [denotes?,Option.map_eq_some_iff]
  constructor
  · rintro ⟨m,read,rfl⟩
    obtain ⟨denotes,fits⟩ := Text.numeral?_eq_some_iff.mp read
    rwa [UInt64.toNat_ofNat_of_lt' fits]
  · intro denotes
    exact ⟨n.toNat,Text.numeral?_eq_some_iff.mpr ⟨denotes,n.toNat_lt⟩,UInt64.ofNat_toNat⟩

namespace Pending

inductive Designates (p : Pending) : Option RequestId → Option RequestId → Prop where
  | own {id : RequestId} (registered : p.isPending id = true) : Designates p (some id) (some id)
  | spelled {s : String} {n : UInt64} (unregistered : p.isPending (.text s) = false)
      (denotes : Text.Denotes s n.toNat) (registered : p.isPending (.number n) = true) :
      Designates p (some (.text s)) (some (.number n))
  | number {n : UInt64} (unregistered : p.isPending (.number n) = false) :
      Designates p (some (.number n)) none
  | text {s : String} (unregistered : p.isPending (.text s) = false)
      (unmeant : ∀ n : UInt64, Text.Denotes s n.toNat → p.isPending (.number n) = false) :
      Designates p (some (.text s)) none
  | anonymous : Designates p none none

/-- What a response does to the table: nothing, or one entry goes and its ticket gets the response. -/
inductive Handover (p : Pending) (r : Response) : Option RequestId → Bool × Pending → Prop where
  | missed : Handover p r none (false,p)
  | taken {id : RequestId} {ticket : Nat} {before after : List (RequestId × Nat)}
      (entry : p.waiters = before ++ (id,ticket) :: after) (sole : ∀ w ∈ before ++ after, w.1 ≠ id) :
      Handover p r (some id)
        (true,{ p with waiters := before ++ after, mail := (ticket,r) :: p.mail })

variable {p : Pending} {r : Response} {id key : Option RequestId}

theorem target?_of_designates (designates : p.Designates id key) : id.bind p.target? = key := by
  cases designates with
  | own registered => simp [target?_eq,registered]
  | spelled unregistered denotes registered =>
    simp [target?_eq,unregistered,RequestId.denotes?_text.mpr denotes,registered]
  | number unregistered => simp [target?_eq,unregistered,RequestId.denotes?]
  | @text s unregistered unmeant =>
    simp only [Option.bind_some,target?_eq,unregistered,Bool.false_eq_true,if_false]
    rw [Option.filter_eq_none_iff]
    rintro key named
    obtain ⟨n,denotes,rfl⟩ := Option.map_eq_some_iff.mp named
    simp [unmeant n (RequestId.denotes?_text.mp denotes)]
  | anonymous => rfl

theorem exists_designated (p : Pending) (id : Option RequestId) : ∃ key, p.Designates id key := by
  cases id with
  | none => exact ⟨_,.anonymous⟩
  | some id =>
    by_cases registered : p.isPending id = true
    · exact ⟨_,.own registered⟩
    rw [Bool.not_eq_true] at registered
    cases id with
    | number n => exact ⟨_,.number registered⟩
    | text s =>
      by_cases meant : ∃ n : UInt64, Text.Denotes s n.toNat ∧ p.isPending (.number n) = true
      · obtain ⟨n,denotes,waits⟩ := meant
        exact ⟨_,.spelled registered denotes waits⟩
      · refine ⟨_,.text registered fun n denotes => ?_⟩
        rw [← Bool.not_eq_true]
        exact fun waits => meant ⟨n,denotes,waits⟩

/-- A response is meant for one entry or for none. -/
theorem designates_iff : p.Designates id key ↔ key = id.bind p.target? := by
  constructor
  · exact fun designates => (target?_of_designates designates).symm
  · rintro rfl
    obtain ⟨key,designates⟩ := exists_designated p id
    rwa [target?_of_designates designates]

/-- Where no key occurs twice, a response takes the one entry it is meant for. -/
theorem handover_resolve (keys : (p.waiters.map Prod.fst).Nodup) :
    p.Handover r (r.id.bind p.target?) (p.resolve r) := by
  obtain ⟨target,unmatched⟩ | ⟨id,ticket,target,member,matched⟩ := resolve_cases p r
  · rw [target,unmatched]
    exact .missed
  · obtain ⟨before,after,entry,sole,rest⟩ := Lookup.filter_ne_of_mem keys member
    rw [target,matched,forget,rest]
    exact .taken entry sole

/-- A response takes at most the one entry that it is meant for, and leaves all others as they were. The
digits of a number are as good as the number where they are not registered themselves. -/
theorem resolve_designated (keys : (p.waiters.map Prod.fst).Nodup) (r : Response) :
    (∃ key, (∀ other, p.Designates r.id other ↔ other = key) ∧ p.Handover r key (p.resolve r)) ∧
    ∀ n : UInt64, r.id = some (.text (String.ofList (Text.decimal n.toNat))) →
      p.isPending (.number n) = true →
      p.isPending (.text (String.ofList (Text.decimal n.toNat))) = false →
      p.Handover r (some (.number n)) (p.resolve r) := by
  have handover := handover_resolve (r := r) keys
  refine ⟨⟨_,fun other => designates_iff,handover⟩,fun n digits registered unregistered => ?_⟩
  have designates : p.Designates r.id (some (.number n)) := by
    rw [digits]
    exact .spelled unregistered (Text.denotes_decimal _) registered
  rwa [← designates_iff.mp designates] at handover

/-- Seven is waited for as a number and as a text, and the greatest number only as such. -/
def spread : Pending :=
  ⟨false,3,[(.number 7,0),(.text "7",1),(.number 0xFFFFFFFFFFFFFFFF,2)],[]⟩

/-- A sign and leading zeros make another text of the same number, and the digits of the greatest number
still fit a word. -/
theorem spread_designated :
    (spread.waiters.map Prod.fst).Nodup ∧
    spread.Handover ⟨"2.0",some (.text "+007"),none,none⟩ (some (.number 7))
      (spread.resolve ⟨"2.0",some (.text "+007"),none,none⟩) ∧
    spread.Handover ⟨"2.0",some (.text "18446744073709551615"),none,none⟩
      (some (.number 0xFFFFFFFFFFFFFFFF))
      (spread.resolve ⟨"2.0",some (.text "18446744073709551615"),none,none⟩) := by
  have keys : (spread.waiters.map Prod.fst).Nodup := by decide
  refine ⟨keys,?_,?_⟩
  · obtain ⟨⟨key,only,handover⟩,_⟩ :=
      resolve_designated keys ⟨"2.0",some (.text "+007"),none,none⟩
    have denotes : Text.Denotes "+007" 7 := ⟨['0','0','7'],.inr rfl,by decide,by simp,by decide⟩
    have designates : spread.Designates (some (.text "+007")) (some (.number 7)) :=
      .spelled (by decide) denotes (by decide)
    rwa [← (only _).mp designates] at handover
  · exact (resolve_designated keys ⟨"2.0",some (.text "18446744073709551615"),none,none⟩).2
      0xFFFFFFFFFFFFFFFF (by decide) (by decide) (by decide)

end Pending

end LanguageBridge
