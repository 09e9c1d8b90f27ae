import LanguageBridge.Text.Utf8

/-! Texts in UTF-8 are ordered by their bytes as they are by their characters. -/
namespace LanguageBridge.Text

/-- The one list of bytes comes before the other, whatever is appended to either. -/
inductive Before : List UInt8 → List UInt8 → Prop where
  | here {x y : UInt8} {xs ys : List UInt8} (less : x < y) : Before (x :: xs) (y :: ys)
  | later {x : UInt8} {xs ys : List UInt8} (rest : Before xs ys) : Before (x :: xs) (x :: ys)

namespace Before

theorem lt {a b : List UInt8} (before : Before a b) (u v : List UInt8) : a ++ u < b ++ v := by
  induction before with
  | here less => exact .rel less
  | later _ ih => exact .cons ih

/-- Bytes are compared as the numbers that they stand for. -/
theorem digit {x y : Nat} {xs ys : List UInt8} (fits : y < 256)
    (order : x < y ∨ x = y ∧ Before xs ys) : Before (UInt8.ofNat x :: xs) (UInt8.ofNat y :: ys) := by
  rcases order with less | ⟨rfl,rest⟩
  · refine .here (UInt8.lt_iff_toNat_lt.mpr ?_)
    rwa [UInt8.toNat_ofNat_of_lt' (Nat.lt_trans less fits),UInt8.toNat_ofNat_of_lt' fits]
  · exact .later rest

end Before

section Following

variable {n m : Nat}

/-- Numbers that agree but for their last six bits differ in the last byte. -/
theorem before_last (order : n < m) (same : n / 64 = m / 64) :
    Before [UInt8.ofNat (n % 64 + 128)] [UInt8.ofNat (m % 64 + 128)] :=
  .digit (by omega) (.inl (by omega))

theorem before_lastTwo (order : n < m) (same : n / 4096 = m / 4096) :
    Before [UInt8.ofNat (n / 64 % 64 + 128),UInt8.ofNat (n % 64 + 128)]
      [UInt8.ofNat (m / 64 % 64 + 128),UInt8.ofNat (m % 64 + 128)] := by
  obtain less | agree : n / 64 < m / 64 ∨ n / 64 = m / 64 := by omega
  · exact .digit (by omega) (.inl (by omega))
  · exact .digit (by omega) (.inr ⟨by rw [agree],before_last order agree⟩)

theorem before_lastThree (order : n < m) (same : n / 262144 = m / 262144) :
    Before [UInt8.ofNat (n / 4096 % 64 + 128),UInt8.ofNat (n / 64 % 64 + 128),UInt8.ofNat (n % 64 + 128)]
      [UInt8.ofNat (m / 4096 % 64 + 128),UInt8.ofNat (m / 64 % 64 + 128),UInt8.ofNat (m % 64 + 128)] := by
  obtain less | agree : n / 4096 < m / 4096 ∨ n / 4096 = m / 4096 := by omega
  · exact .digit (by omega) (.inl (by omega))
  · exact .digit (by omega) (.inr ⟨by rw [agree],before_lastTwo order agree⟩)

end Following

/-- The longer code belongs to the greater character, and codes of one length differ first where the
numbers do. -/
theorem before_utf8EncodeChar {c d : Char} (less : c < d) :
    Before (String.utf8EncodeChar c) (String.utf8EncodeChar d) := by
  have order : c.val.toNat < d.val.toNat := less
  have bound : d.val.toNat < 0x110000 := by
    have valid := d.valid
    simp only [UInt32.isValidChar,Nat.isValidChar] at valid
    omega
  simp only [String.utf8EncodeChar]
  generalize c.val.toNat = n at order
  generalize d.val.toNat = m at order bound
  -- one case for each length of the first code; where the second is longer its lead byte decides
  split
  · split
    · exact .digit (by omega) (.inl order)
    · split
      · exact .digit (by omega) (.inl (by omega))
      · split <;> exact .digit (by omega) (.inl (by omega))
  split
  · rw [if_neg (by omega)]
    split
    · obtain lead | agree : n / 64 < m / 64 ∨ n / 64 = m / 64 := by omega
      · exact .digit (by omega) (.inl (by omega))
      · exact .digit (by omega) (.inr ⟨by rw [agree],before_last order agree⟩)
    · split <;> exact .digit (by omega) (.inl (by omega))
  split
  · rw [if_neg (by omega),if_neg (by omega)]
    split
    · obtain lead | agree : n / 4096 < m / 4096 ∨ n / 4096 = m / 4096 := by omega
      · exact .digit (by omega) (.inl (by omega))
      · exact .digit (by omega) (.inr ⟨by rw [agree],before_lastTwo order agree⟩)
    · exact .digit (by omega) (.inl (by omega))
  · rw [if_neg (by omega),if_neg (by omega),if_neg (by omega)]
    obtain lead | agree : n / 262144 < m / 262144 ∨ n / 262144 = m / 262144 := by omega
    · exact .digit (by omega) (.inl (by omega))
    · exact .digit (by omega) (.inr ⟨by rw [agree],before_lastThree order agree⟩)

theorem flatMap_utf8EncodeChar_lt {cs ds : List Char} (less : cs < ds) :
    cs.flatMap String.utf8EncodeChar < ds.flatMap String.utf8EncodeChar := by
  induction less with
  | @nil d ds =>
    obtain ⟨x,xs,code⟩ := List.exists_cons_of_ne_nil (String.utf8EncodeChar_ne_nil (c := d))
    rw [List.flatMap_cons,code]
    exact .nil
  | cons _ ih =>
    rw [List.flatMap_cons,List.flatMap_cons]
    exact List.append_left_lt ih
  | rel less =>
    rw [List.flatMap_cons,List.flatMap_cons]
    exact (before_utf8EncodeChar less).lt _ _

/-- Comparing the bytes of two texts is comparing their characters. -/
theorem encodeUtf8_lt_iff {s t : String} :
    List.Lex (· < ·) (encodeUtf8 s) (encodeUtf8 t) ↔ s < t := by
  constructor
  · intro less
    by_cases order : s < t
    · exact order
    by_cases same : s = t
    · subst same
      exact absurd less (List.lt_irrefl _)
    · have le : t ≤ s := String.not_lt.mp order
      have reverse : t < s := String.not_le.mp fun back => same (String.le_antisymm back le)
      exact absurd less (List.lt_asymm (flatMap_utf8EncodeChar_lt reverse))
  · exact flatMap_utf8EncodeChar_lt

end LanguageBridge.Text
