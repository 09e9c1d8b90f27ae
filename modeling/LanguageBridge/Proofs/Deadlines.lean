import LanguageBridge.Profile

/-! Deadlines are multiples of a base. Seconds and parts of a second are multiplied apart and the carry is
added, each step only where a word holds its result; put together this is the product of the whole length,
cut off at the longest duration. -/
namespace LanguageBridge

namespace Duration

instance : LE Duration where
  le d e := d.seconds < e.seconds ∨ d.seconds = e.seconds ∧ d.subseconds ≤ e.subseconds

theorem subseconds_lt (d : Duration) : d.subseconds.toNat < 1000000000 :=
  UInt32.lt_iff_toNat_lt.mp d.bounded

theorem le_iff {d e : Duration} : d ≤ e ↔ d.nanoseconds ≤ e.nanoseconds := by
  have order : d ≤ e ↔
      d.seconds < e.seconds ∨ d.seconds = e.seconds ∧ d.subseconds ≤ e.subseconds := Iff.rfl
  have small := d.subseconds_lt
  have small' := e.subseconds_lt
  rw [order,UInt64.lt_iff_toNat_lt,← UInt64.toNat_inj,UInt32.le_iff_toNat_le,nanoseconds,nanoseconds]
  omega

theorem nanoseconds_longest : longest.nanoseconds = 18446744073709551615999999999 := rfl

theorem le_longest (d : Duration) : d.nanoseconds ≤ longest.nanoseconds := by
  have seconds : d.seconds.toNat < 18446744073709551616 := d.seconds.toNat_lt
  have small := d.subseconds_lt
  rw [nanoseconds_longest,nanoseconds]
  omega

/-- A word is found for a number exactly where one holds it. -/
theorem word?_cases (n : Nat) :
    (∃ w, word? n = some w ∧ w.toNat = n) ∨ word? n = none ∧ 18446744073709551616 ≤ n := by
  by_cases fits : n < UInt64.size
  · refine .inl ⟨.ofNat n,if_pos fits,?_⟩
    rw [UInt64.toNat_ofNat']
    exact Nat.mod_eq_of_lt fits
  · exact .inr ⟨if_neg fits,Nat.le_of_not_lt fits⟩

/-- Two short words have a product that is never cut. -/
theorem toNat_mul_toUInt64 (a b : UInt32) :
    (a.toUInt64 * b.toUInt64).toNat = a.toNat * b.toNat := by
  have short : a.toNat * b.toNat < 4294967296 * 4294967296 :=
    Nat.mul_lt_mul'' a.toNat_lt b.toNat_lt
  rw [UInt64.toNat_mul,UInt32.toNat_toUInt64,UInt32.toNat_toUInt64]
  exact Nat.mod_eq_of_lt short

/-- The length of a multiple, in the shape in which it is computed. -/
theorem nanoseconds_mul (d : Duration) (factor : Nat) :
    d.nanoseconds * factor =
      1000000000 * (d.seconds.toNat * factor) + d.subseconds.toNat * factor := by
  rw [nanoseconds,Nat.add_mul,Nat.mul_assoc]

/-- A multiple is exact, and is missing only where it would be longer than every duration. -/
theorem multiple?_cases (d : Duration) (factor : UInt32) :
    (∃ e, d.multiple? factor = some e ∧ e.nanoseconds = d.nanoseconds * factor.toNat) ∨
    d.multiple? factor = none ∧ longest.nanoseconds < d.nanoseconds * factor.toNat := by
  have parts := toNat_mul_toUInt64 d.subseconds factor
  have carry : (d.subseconds.toUInt64 * factor.toUInt64 / 1000000000).toNat =
      d.subseconds.toNat * factor.toNat / 1000000000 := by
    rw [UInt64.toNat_div,parts]
    rfl
  have rest : (d.subseconds.toUInt64 * factor.toUInt64 % 1000000000).toUInt32.toNat =
      d.subseconds.toNat * factor.toNat % 1000000000 := by
    rw [UInt64.toNat_toUInt32,UInt64.toNat_mod,parts]
    apply Nat.mod_eq_of_lt
    exact Nat.lt_trans (Nat.mod_lt _ (by decide)) (by decide)
  rw [nanoseconds_longest,nanoseconds_mul,multiple?,carry]
  rcases word?_cases (d.seconds.toNat * factor.toNat) with ⟨whole,found,product⟩ | ⟨missing,large⟩
  · rw [found,Option.bind_some,product]
    rcases word?_cases (d.seconds.toNat * factor.toNat +
      d.subseconds.toNat * factor.toNat / 1000000000) with ⟨seconds,found,sum⟩ | ⟨missing,large⟩
    · refine .inl ⟨_,by rw [found,Option.map_some],?_⟩
      rw [nanoseconds,sum,rest]
      omega
    · exact .inr ⟨by rw [missing,Option.map_none],by omega⟩
  · exact .inr ⟨by rw [missing,Option.bind_none],by omega⟩

theorem nanoseconds_scale (d : Duration) (factor : UInt32) :
    (d.scale factor).nanoseconds = min (d.nanoseconds * factor.toNat) longest.nanoseconds := by
  rw [scale]
  rcases d.multiple?_cases factor with ⟨e,found,exact⟩ | ⟨missing,long⟩
  · rw [found,Option.getD_some,← exact,Nat.min_eq_left e.le_longest]
  · rw [missing,Option.getD_none,Nat.min_eq_right (Nat.le_of_lt long)]

/-- A longer base has no shorter multiple. -/
theorem scale_mono {d e : Duration} (le : d ≤ e) (factor : UInt32) : d.scale factor ≤ e.scale factor := by
  rw [le_iff,nanoseconds_scale,nanoseconds_scale]
  have longer := Nat.mul_le_mul_right factor.toNat (le_iff.mp le)
  omega

end Duration

/-- How many times the base a method may take. -/
theorem Operation.multiplier_ofMethod (method : String) :
    (ofMethod method).multiplier.toNat =
      if method = "textDocument/rename" ∨ method = "textDocument/prepareRename" then 10
      else if method = "initialize" then 2 else 1 := by
  have renames : ofMethod method =
      if method = "textDocument/rename" ∨ method = "textDocument/prepareRename" then .rename
      else if method = "initialize" then .handshake else .request := rfl
  rw [renames]
  split
  · rfl
  · split <;> rfl

namespace Profile

/-- A deadline is exactly the multiple of the base that its method is given, up to the longest duration,
and it is well formed; a longer base gives no shorter deadline. -/
theorem deadline_exact (p : Profile) (method : String) :
    (p.deadline method).nanoseconds =
      min (p.base.nanoseconds *
        if method = "textDocument/rename" ∨ method = "textDocument/prepareRename" then 10
        else if method = "initialize" then 2 else 1) 18446744073709551615999999999 ∧
    (p.deadline method).subseconds.toNat < 1000000000 ∧
    ∀ q : Profile, p.base ≤ q.base → p.deadline method ≤ q.deadline method := by
  refine ⟨?_,(p.deadline method).subseconds_lt,fun q le => Duration.scale_mono le _⟩
  rw [deadline,Duration.nanoseconds_scale,Operation.multiplier_ofMethod,Duration.nanoseconds_longest]

/-- A base whose tenfold is the longest that is not cut, and one that is a nanosecond longer. -/
def brink : Profile := ⟨⟨1844674407370955161,599999999,by decide⟩,"client",none,"owner"⟩

def beyond : Profile := ⟨⟨1844674407370955161,600000000,by decide⟩,"client",none,"owner"⟩

theorem brink_exact :
    brink.base ≤ beyond.base ∧
    (brink.deadline "textDocument/rename").nanoseconds = brink.base.nanoseconds * 10 ∧
    (beyond.deadline "textDocument/rename").nanoseconds < beyond.base.nanoseconds * 10 ∧
    brink.deadline "textDocument/rename" ≤ beyond.deadline "textDocument/rename" := by
  have le : brink.base ≤ beyond.base := Duration.le_iff.mpr (by decide +kernel)
  obtain ⟨short,_,mono⟩ := deadline_exact brink "textDocument/rename"
  obtain ⟨long,_⟩ := deadline_exact beyond "textDocument/rename"
  refine ⟨le,short.trans (by decide +kernel),?_,mono beyond le⟩
  rw [long]
  decide +kernel

end Profile

end LanguageBridge
