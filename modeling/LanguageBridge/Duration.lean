/-! Lengths of time: 64-bit seconds and a part of a second in nanoseconds. -/
namespace LanguageBridge

structure Duration where
  seconds : UInt64
  subseconds : UInt32
  bounded : subseconds < 1000000000
  deriving DecidableEq

namespace Duration

def zero : Duration := ⟨0, 0, by decide⟩

def longest : Duration := ⟨0xFFFFFFFFFFFFFFFF, 999999999, by decide⟩

def ofSeconds (n : UInt64) : Duration := ⟨n, 0, by decide⟩

theorem milliseconds_bounded (n : UInt64) : (n % 1000).toUInt32 * 1000000 < 1000000000 := by
  have small : (n % 1000).toUInt32.toNat < 1000 := by
    simp only [UInt64.toNat_toUInt32, UInt64.toNat_mod, UInt64.reduceToNat]
    omega
  have fits : (n % 1000).toUInt32.toNat * (1000000 : UInt32).toNat < 4294967296 := by
    simp only [UInt32.reduceToNat]
    omega
  rw [UInt32.lt_iff_toNat_lt, UInt32.toNat_mul, Nat.mod_eq_of_lt fits]
  simp only [UInt32.reduceToNat]
  omega

def ofMilliseconds (n : UInt64) : Duration :=
  ⟨n / 1000, (n % 1000).toUInt32 * 1000000, milliseconds_bounded n⟩

/-- The whole length in nanoseconds. -/
def nanoseconds (d : Duration) : Nat := 1000000000 * d.seconds.toNat + d.subseconds.toNat

/-- Whole milliseconds. -/
def milliseconds (d : Duration) : Nat := 1000 * d.seconds.toNat + d.subseconds.toNat / 1000000

/-- A number as a word, if one holds it. -/
def word? (n : Nat) : Option UInt64 := if n < UInt64.size then some (.ofNat n) else none

theorem remainder_bounded (n : UInt64) : (n % 1000000000).toUInt32 < 1000000000 := by
  simp only [UInt32.lt_iff_toNat_lt, UInt64.toNat_toUInt32, UInt64.toNat_mod, UInt64.reduceToNat,
    UInt32.reduceToNat]
  omega

/-- The multiple, unless it is longer than a duration can be. The parts of a second are multiplied on
their own, and the whole seconds among them are carried. -/
def multiple? (d : Duration) (factor : UInt32) : Option Duration :=
  let parts := d.subseconds.toUInt64 * factor.toUInt64
  (word? (d.seconds.toNat * factor.toNat)).bind fun seconds =>
    (word? (seconds.toNat + (parts / 1000000000).toNat)).map fun seconds =>
      ⟨seconds, (parts % 1000000000).toUInt32, remainder_bounded parts⟩

/-- The multiple, or the longest duration where that would be longer. -/
def scale (d : Duration) (factor : UInt32) : Duration := (d.multiple? factor).getD longest

end Duration

end LanguageBridge
