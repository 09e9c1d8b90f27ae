import LanguageBridge.Text.Numeral

/-! Decimal numerals: what is read stays below the bound, and every numeral below the bound is read.
Leading zeros do not matter. -/
namespace LanguageBridge.Text

/-- A text that stands for `n`: perhaps a plus sign, then one or more decimal digits of that value. -/
def Denotes (s : String) (n : Nat) : Prop :=
  ∃ digits : List Char, (s.toList = digits ∨ s.toList = '+' :: digits) ∧ digits ≠ [] ∧
    (∀ c ∈ digits, c.isDigit = true) ∧ Nat.ofDigitChars 10 digits 0 = n

theorem readDigits_lt {bound n m : Nat} {cs : List Char} (start : n < bound)
    (ok : readDigits bound n cs = .ok m) : m < bound := by
  induction cs generalizing n with
  | nil =>
    simp only [readDigits,Except.ok.injEq] at ok
    omega
  | cons c cs ih =>
    unfold readDigits at ok
    split at ok
    · split at ok
      next fits => exact ih fits ok
      next => simp at ok
    · simp at ok

theorem readDigits_nonempty_lt {bound n m : Nat} {c : Char} {cs : List Char}
    (ok : readDigits bound n (c :: cs) = .ok m) : m < bound := by
  unfold readDigits at ok
  split at ok
  · split at ok
    next fits => exact readDigits_lt fits ok
    next => simp at ok
  · simp at ok

theorem readNumeral_lt {bound m : Nat} {cs : List Char} (ok : readNumeral bound cs = .ok m) :
    m < bound := by
  unfold readNumeral at ok
  split at ok
  · simp at ok
  · simp at ok
  next rest alone =>
    cases rest with
    | nil => exact absurd rfl alone
    | cons c cs => exact readDigits_nonempty_lt ok
  next empty _ _ =>
    cases cs with
    | nil => exact absurd rfl empty
    | cons c cs => exact readDigits_nonempty_lt ok

theorem numeral?_lt {bound m : Nat} {s : String} (some : numeral? bound s = some m) :
    m < bound := by
  unfold numeral? at some
  cases read : readNumeral bound s.toList with
  | error e => simp [read,Except.toOption] at some
  | ok n =>
    obtain rfl : n = m := by simpa [read,Except.toOption] using some
    exact readNumeral_lt read

theorem le_ofDigitChars (cs : List Char) (n : Nat) : n ≤ Nat.ofDigitChars 10 cs n := by
  rw [Nat.ofDigitChars_eq_ofDigitChars_zero]
  have one : 1 ≤ 10 ^ cs.length := Nat.one_le_pow _ _ (by decide)
  have grows := Nat.mul_le_mul_right n one
  omega

/-- Digits are read to their value as long as that is below the bound. -/
theorem readDigits_eq {bound n : Nat} {cs : List Char} (digits : ∀ c ∈ cs, c.isDigit = true)
    (fits : Nat.ofDigitChars 10 cs n < bound) :
    readDigits bound n cs = .ok (Nat.ofDigitChars 10 cs n) := by
  induction cs generalizing n with
  | nil => simp [readDigits]
  | cons c cs ih =>
    have first : c.isDigit = true := digits c (by simp)
    have value : Nat.ofDigitChars 10 (c :: cs) n = Nat.ofDigitChars 10 cs (10 * n + digitValue c) :=
      Nat.ofDigitChars_cons
    rw [value] at fits ⊢
    have partial_lt : 10 * n + digitValue c < bound := Nat.lt_of_le_of_lt (le_ofDigitChars cs _) fits
    simp only [readDigits,first,if_true,if_pos partial_lt]
    exact ih (fun d member => digits d (by simp [member])) fits

theorem readNumeral_digits {bound : Nat} {cs : List Char} (some : cs ≠ [])
    (digits : ∀ c ∈ cs, c.isDigit = true) (fits : Nat.ofDigitChars 10 cs 0 < bound) :
    readNumeral bound cs = .ok (Nat.ofDigitChars 10 cs 0) := by
  unfold readNumeral
  split
  · contradiction
  · exact absurd (digits '+' (by simp)) (by decide)
  · exact absurd (digits '+' (by simp)) (by decide)
  · exact readDigits_eq digits fits

theorem readNumeral_plus {bound : Nat} {cs : List Char} (some : cs ≠ []) :
    readNumeral bound ('+' :: cs) = readDigits bound 0 cs := by
  cases cs with
  | nil => contradiction
  | cons c cs => rfl

/-- Digits whose value reaches the bound are too large. -/
theorem readDigits_beyond {bound n : Nat} {cs : List Char} (digits : ∀ c ∈ cs, c.isDigit = true)
    (start : n < bound) (beyond : bound ≤ Nat.ofDigitChars 10 cs n) :
    readDigits bound n cs = .error .tooLarge := by
  induction cs generalizing n with
  | nil =>
    rw [Nat.ofDigitChars_nil] at beyond
    omega
  | cons c cs ih =>
    have first : c.isDigit = true := digits c (by simp)
    have value : Nat.ofDigitChars 10 (c :: cs) n = Nat.ofDigitChars 10 cs (10 * n + digitValue c) :=
      Nat.ofDigitChars_cons
    rw [readDigits,if_pos first]
    by_cases fits : 10 * n + digitValue c < bound
    · rw [if_pos fits]
      exact ih (fun d member => digits d (by simp [member])) fits (value ▸ beyond)
    · rw [if_neg fits]

theorem readNumeral_beyond {bound : Nat} {cs : List Char} (some : cs ≠ [])
    (digits : ∀ c ∈ cs, c.isDigit = true) (room : 0 < bound)
    (beyond : bound ≤ Nat.ofDigitChars 10 cs 0) : readNumeral bound cs = .error .tooLarge := by
  unfold readNumeral
  split
  · contradiction
  · exact absurd (digits '+' (by simp)) (by decide)
  · exact absurd (digits '+' (by simp)) (by decide)
  · exact readDigits_beyond digits room beyond

/-- Whatever is read from digits is their value. -/
theorem digits_of_readDigits {bound n m : Nat} {cs : List Char} (ok : readDigits bound n cs = .ok m) :
    (∀ c ∈ cs, c.isDigit = true) ∧ Nat.ofDigitChars 10 cs n = m := by
  induction cs generalizing n with
  | nil =>
    obtain rfl : n = m := by simpa [readDigits] using ok
    simp
  | cons c cs ih =>
    unfold readDigits at ok
    split at ok
    next first =>
      split at ok
      · obtain ⟨rest,value⟩ := ih ok
        exact ⟨List.forall_mem_cons.mpr ⟨first,rest⟩,Nat.ofDigitChars_cons.trans value⟩
      · simp at ok
    · simp at ok

theorem denotes_of_readNumeral {bound n : Nat} {s : String} (ok : readNumeral bound s.toList = .ok n) :
    Denotes s n := by
  unfold readNumeral at ok
  split at ok
  · simp at ok
  · simp at ok
  next rest alone signed =>
    obtain ⟨digits,value⟩ := digits_of_readDigits ok
    exact ⟨rest,.inr signed,alone,digits,value⟩
  next filled _ _ =>
    obtain ⟨digits,value⟩ := digits_of_readDigits ok
    exact ⟨s.toList,.inl rfl,filled,digits,value⟩

/-- Exactly the texts that stand for a number below the bound are read as one. -/
theorem numeral?_eq_some_iff {bound n : Nat} {s : String} :
    numeral? bound s = some n ↔ Denotes s n ∧ n < bound := by
  constructor
  · intro read
    refine ⟨?_,numeral?_lt read⟩
    unfold numeral? at read
    cases numeral : readNumeral bound s.toList with
    | error e => simp [numeral,Except.toOption] at read
    | ok m =>
      obtain rfl : m = n := by simpa [numeral,Except.toOption] using read
      exact denotes_of_readNumeral numeral
  · rintro ⟨⟨digits,shape,filled,each,rfl⟩,fits⟩
    have read : readNumeral bound s.toList = .ok (Nat.ofDigitChars 10 digits 0) := by
      rcases shape with plain | signed
      · rw [plain,readNumeral_digits filled each fits]
      · rw [signed,readNumeral_plus filled,readDigits_eq each fits]
    rw [numeral?,read]
    rfl

theorem isDigit_of_mem_decimal {n : Nat} {c : Char} (member : c ∈ decimal n) : c.isDigit = true :=
  Nat.isDigit_of_mem_toDigits (by decide) (by decide) member

theorem decimal_ne_nil (n : Nat) : decimal n ≠ [] := Nat.toDigits_ne_nil

theorem ofDigitChars_decimal (n : Nat) : Nat.ofDigitChars 10 (decimal n) 0 = n :=
  Nat.ofDigitChars_ten_toDigits

theorem denotes_decimal (n : Nat) : Denotes (String.ofList (decimal n)) n :=
  ⟨decimal n,.inl String.toList_ofList,decimal_ne_nil n,fun _ => isDigit_of_mem_decimal,
    ofDigitChars_decimal n⟩

end LanguageBridge.Text
