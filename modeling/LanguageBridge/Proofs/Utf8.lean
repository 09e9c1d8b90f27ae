import LanguageBridge.Text.Utf8

/-! UTF-8 reading undoes writing, and nothing but written text can be read. -/
namespace LanguageBridge.Text

/-- The ways to spell a character in bytes. No character has a longer spelling than it needs, and
surrogates have none. -/
inductive Spelling : Char → List UInt8 → Prop where
  | one {n : Nat} (small : n < 128) : Spelling (Char.ofNat n) [UInt8.ofNat n]
  | two {lead second : Nat} (least : 2 ≤ lead) (most : lead < 32) (low : second < 64) :
      Spelling (Char.ofNat (lead * 64 + second))
        [UInt8.ofNat (lead + 0xC0), UInt8.ofNat (second + 0x80)]
  | three {lead second third : Nat} (least : 32 ≤ lead * 64 + second) (most : lead < 16)
      (scalar : lead = 13 → second < 32) (low : second < 64) (last : third < 64) :
      Spelling (Char.ofNat ((lead * 64 + second) * 64 + third))
        [UInt8.ofNat (lead + 0xE0), UInt8.ofNat (second + 0x80), UInt8.ofNat (third + 0x80)]
  | four {lead second third fourth : Nat} (least : 16 ≤ lead * 64 + second)
      (most : lead * 64 + second < 272) (low : second < 64) (next : third < 64)
      (last : fourth < 64) :
      Spelling (Char.ofNat (((lead * 64 + second) * 64 + third) * 64 + fourth))
        [UInt8.ofNat (lead + 0xF0), UInt8.ofNat (second + 0x80), UInt8.ofNat (third + 0x80),
          UInt8.ofNat (fourth + 0x80)]

theorem toNat_val_ofNat {n : Nat} (valid : n.isValidChar) : (Char.ofNat n).val.toNat = n := by
  rw [Char.ofNat,dif_pos valid]
  rfl

theorem Spelling.encode_eq {c : Char} {bytes : List UInt8} (spelling : Spelling c bytes) :
    String.utf8EncodeChar c = bytes := by
  cases spelling with
  | @one n small =>
    rw [String.utf8EncodeChar,toNat_val_ofNat (.inl (by omega))]
    exact if_pos (by omega)
  | @two lead second least most low =>
    rw [String.utf8EncodeChar,toNat_val_ofNat (.inl (by omega))]
    have high : (lead * 64 + second) / 64 % 32 = lead := by omega
    have tail : (lead * 64 + second) % 64 = second := by omega
    simp only [high,tail]
    rw [if_neg (by omega),if_pos (by omega)]
  | @three lead second third least most scalar low last =>
    have valid : Nat.isValidChar ((lead * 64 + second) * 64 + third) := by
      simp only [Nat.isValidChar]
      omega
    rw [String.utf8EncodeChar,toNat_val_ofNat valid]
    have high : ((lead * 64 + second) * 64 + third) / 4096 % 16 = lead := by omega
    have middle : ((lead * 64 + second) * 64 + third) / 64 % 64 = second := by omega
    have tail : ((lead * 64 + second) * 64 + third) % 64 = third := by omega
    simp only [high,middle,tail]
    rw [if_neg (by omega),if_neg (by omega),if_pos (by omega)]
  | @four lead second third fourth least most low next last =>
    have valid : Nat.isValidChar (((lead * 64 + second) * 64 + third) * 64 + fourth) :=
      .inr (by omega)
    rw [String.utf8EncodeChar,toNat_val_ofNat valid]
    have high : (((lead * 64 + second) * 64 + third) * 64 + fourth) / 262144 % 8 = lead := by omega
    have upper : (((lead * 64 + second) * 64 + third) * 64 + fourth) / 4096 % 64 = second := by omega
    have middle : (((lead * 64 + second) * 64 + third) * 64 + fourth) / 64 % 64 = third := by omega
    have tail : (((lead * 64 + second) * 64 + third) * 64 + fourth) % 64 = fourth := by omega
    simp only [high,upper,middle,tail]
    rw [if_neg (by omega),if_neg (by omega),if_neg (by omega)]

/-- Every character has a spelling. -/
theorem exists_spelling (c : Char) : ∃ bytes, Spelling c bytes := by
  have valid : c.toNat.isValidChar := c.valid
  simp only [Nat.isValidChar] at valid
  rw [← Char.ofNat_toNat c]
  generalize c.toNat = n at valid ⊢
  rcases Nat.lt_or_ge n 0x80 with small | ge
  · exact ⟨_,.one small⟩
  rcases Nat.lt_or_ge n 0x800 with small | ge
  · have parts : n / 64 * 64 + n % 64 = n := by omega
    exact ⟨_,parts ▸ @Spelling.two (n / 64) (n % 64) (by omega) (by omega) (by omega)⟩
  rcases Nat.lt_or_ge n 0x10000 with small | ge
  · have parts : (n / 4096 * 64 + n / 64 % 64) * 64 + n % 64 = n := by omega
    exact ⟨_,parts ▸ @Spelling.three (n / 4096) (n / 64 % 64) (n % 64) (by omega) (by omega)
      (by omega) (by omega) (by omega)⟩
  · have parts :
        ((n / 262144 * 64 + n / 4096 % 64) * 64 + n / 64 % 64) * 64 + n % 64 = n := by omega
    exact ⟨_,parts ▸ @Spelling.four (n / 262144) (n / 4096 % 64) (n / 64 % 64) (n % 64) (by omega)
      (by omega) (by omega) (by omega) (by omega)⟩

theorem spelling_encode (c : Char) : Spelling c (String.utf8EncodeChar c) := by
  obtain ⟨bytes,spelling⟩ := exists_spelling c
  rwa [spelling.encode_eq]

theorem leadByte_two : ∀ lead < 32, leadByte (UInt8.ofNat (lead + 0xC0)) =
    if 2 ≤ lead then some (lead,0x80,0xBF,2) else none := by
  decide

theorem leadByte_three : ∀ lead < 16, leadByte (UInt8.ofNat (lead + 0xE0)) =
    some (lead,if lead = 0 then 0xA0 else 0x80,if lead = 13 then 0x9F else 0xBF,3) := by
  decide

theorem leadByte_four : ∀ lead < 5, leadByte (UInt8.ofNat (lead + 0xF0)) =
    some (lead,if lead = 0 then 0x90 else 0x80,if lead = 4 then 0x8F else 0xBF,4) := by
  decide

theorem leadByte_none : ∀ n < 11, leadByte (UInt8.ofNat (n + 0xF5)) = none := by
  decide

theorem leadByte_cases {a : UInt8} (leads : (leadByte a).isSome) :
    (∃ lead < 32, 2 ≤ lead ∧ a = UInt8.ofNat (lead + 0xC0)) ∨
      (∃ lead < 16, a = UInt8.ofNat (lead + 0xE0)) ∨
      ∃ lead < 5, a = UInt8.ofNat (lead + 0xF0) := by
  have bound := a.toNat_lt
  have name : ∀ base ≤ a.toNat, a = UInt8.ofNat (a.toNat - base + base) := by
    intro base below
    rw [Nat.sub_add_cancel below,UInt8.ofNat_toNat]
  rcases Nat.lt_or_ge a.toNat 0xC2 with outside | ge
  · have refused : leadByte a = none := if_pos outside
    simp [refused] at leads
  rcases Nat.lt_or_ge a.toNat 0xE0 with small | ge
  · exact .inl ⟨a.toNat - 0xC0,by omega,by omega,name _ (by omega)⟩
  rcases Nat.lt_or_ge a.toNat 0xF0 with small | ge
  · exact .inr (.inl ⟨a.toNat - 0xE0,by omega,name _ (by omega)⟩)
  rcases Nat.lt_or_ge a.toNat 0xF5 with small | ge
  · exact .inr (.inr ⟨a.toNat - 0xF0,by omega,name _ (by omega)⟩)
  · have refused := leadByte_none (a.toNat - 0xF5) (by omega)
    rw [← name _ ge] at refused
    simp [refused] at leads

/-- Continuation bytes between two bounds. -/
theorem secondBits_eq {low high : UInt8} {n : Nat} (small : n < 64) (above : low.toNat ≤ n + 0x80)
    (below : n + 0x80 ≤ high.toNat) : secondBits? low high (UInt8.ofNat (n + 0x80)) = some n := by
  have value : (UInt8.ofNat (n + 0x80)).toNat = n + 0x80 := by
    rw [UInt8.toNat_ofNat']
    omega
  unfold secondBits?
  rw [if_pos (by rw [UInt8.le_iff_toNat_le,UInt8.le_iff_toNat_le,value]; exact ⟨above,below⟩),value]
  simp

theorem secondBits_some {low high b : UInt8} {n : Nat} (bits : secondBits? low high b = some n)
    (least : 0x80 ≤ low.toNat) :
    b = UInt8.ofNat (n + 0x80) ∧ low.toNat ≤ n + 0x80 ∧ n + 0x80 ≤ high.toNat := by
  unfold secondBits? at bits
  split at bits
  next inside =>
    rw [UInt8.le_iff_toNat_le,UInt8.le_iff_toNat_le] at inside
    obtain rfl : b.toNat - 0x80 = n := by simpa using bits
    have whole : b.toNat - 0x80 + 0x80 = b.toNat := by omega
    rw [whole,UInt8.ofNat_toNat]
    exact ⟨rfl,inside⟩
  next => simp at bits

theorem tailBits_eq {n : Nat} (small : n < 64) : tailBits? (UInt8.ofNat (n + 0x80)) = some n :=
  secondBits_eq small (Nat.le_add_left _ _) (show n + 0x80 ≤ 0xBF by omega)

theorem tailBits_some {b : UInt8} {n : Nat} (bits : tailBits? b = some n) :
    b = UInt8.ofNat (n + 0x80) ∧ n < 64 := by
  obtain ⟨shape,_,most⟩ := secondBits_some bits (Nat.le_refl _)
  have : n + 0x80 ≤ 0xBF := most
  exact ⟨shape,by omega⟩

/-- The second byte where the first and the last lead narrow its range. -/
theorem secondBits_narrowed {lead first last second : Nat} {low high b : UInt8}
    (least : 0x80 ≤ low.toNat) (most : high.toNat ≤ 0xBF)
    (bits : secondBits? (if lead = first then low else 0x80) (if lead = last then high else 0xBF) b =
      some second) :
    b = UInt8.ofNat (second + 0x80) ∧ second < 64 ∧ (lead = first → low.toNat ≤ second + 0x80) ∧
      (lead = last → second + 0x80 ≤ high.toNat) := by
  have bound : 0x80 ≤ (if lead = first then low else 0x80).toNat := by
    split
    · exact least
    · exact Nat.le_refl _
  obtain ⟨shape,above,below⟩ := secondBits_some bits bound
  refine ⟨shape,?_,?_,?_⟩
  · have : (if lead = last then high else 0xBF).toNat ≤ 0xBF := by
      split
      · exact most
      · exact Nat.le_refl _
    omega
  · intro same
    rwa [if_pos same] at above
  · intro same
    rwa [if_pos same] at below

section Steps

variable {a b c d low high : UInt8} {lead second third fourth : Nat} {rest : List UInt8}

theorem not_ascii_of_leadByte {r : Nat × UInt8 × UInt8 × Nat} (leads : leadByte a = some r) :
    ¬a < 0x80 := by
  intro ascii
  have refused : leadByte a = none := if_pos (UInt8.lt_trans ascii (by decide))
  simp [refused] at leads

theorem decodeFrom_one (ascii : a < 0x80) (index : Nat) :
    decodeFrom index (a :: rest) =
      (decodeFrom (index + 1) rest).map (Char.ofNat a.toNat :: ·) := by
  simp only [decodeFrom,ascii,if_true]
  cases decodeFrom (index + 1) rest <;> rfl

theorem decodeFrom_two (leads : leadByte a = some (lead,low,high,2))
    (bits : secondBits? low high b = some second) (index : Nat) :
    decodeFrom index (a :: b :: rest) =
      (decodeFrom (index + 2) rest).map (Char.ofNat (lead * 64 + second) :: ·) := by
  simp only [decodeFrom,not_ascii_of_leadByte leads,if_false,leads,bits,if_true]
  cases decodeFrom (index + 2) rest <;> rfl

theorem decodeFrom_three (leads : leadByte a = some (lead,low,high,3))
    (bits : secondBits? low high b = some second) (more : tailBits? c = some third) (index : Nat) :
    decodeFrom index (a :: b :: c :: rest) =
      (decodeFrom (index + 3) rest).map (Char.ofNat ((lead * 64 + second) * 64 + third) :: ·) := by
  simp only [decodeFrom,not_ascii_of_leadByte leads,if_false,leads,bits,more,if_true]
  cases decodeFrom (index + 3) rest <;> rfl

theorem decodeFrom_four (leads : leadByte a = some (lead,low,high,4))
    (bits : secondBits? low high b = some second) (more : tailBits? c = some third)
    (last : tailBits? d = some fourth) (index : Nat) :
    decodeFrom index (a :: b :: c :: d :: rest) =
      (decodeFrom (index + 4) rest).map
        (Char.ofNat (((lead * 64 + second) * 64 + third) * 64 + fourth) :: ·) := by
  simp only [decodeFrom,not_ascii_of_leadByte leads,if_false,leads,bits,more,last]
  cases decodeFrom (index + 4) rest <;> rfl

end Steps

theorem Spelling.decode {c : Char} {bytes : List UInt8} (spelling : Spelling c bytes) (index : Nat)
    (rest : List UInt8) :
    decodeFrom index (bytes ++ rest) = (decodeFrom (index + bytes.length) rest).map (c :: ·) := by
  cases spelling with
  | @one n small =>
    have value : (UInt8.ofNat n).toNat = n := by
      rw [UInt8.toNat_ofNat']
      omega
    have ascii : UInt8.ofNat n < 0x80 := by
      rw [UInt8.lt_iff_toNat_lt,value]
      exact small
    have step : decodeFrom index (UInt8.ofNat n :: rest) = _ := decodeFrom_one ascii index
    rwa [value] at step
  | @two lead second least most low =>
    have leads := leadByte_two lead most
    rw [if_pos least] at leads
    exact decodeFrom_two leads (tailBits_eq low) index
  | @three lead second third least most scalar low last =>
    refine decodeFrom_three (leadByte_three lead most) (secondBits_eq low ?_ ?_) (tailBits_eq last)
      index
    · split
      · exact show 0xA0 ≤ second + 0x80 by omega
      · exact show 0x80 ≤ second + 0x80 by omega
    · split
      · exact show second + 0x80 ≤ 0x9F by omega
      · exact show second + 0x80 ≤ 0xBF by omega
  | @four lead second third fourth least most low next last =>
    refine decodeFrom_four (leadByte_four lead (by omega)) (secondBits_eq low ?_ ?_)
      (tailBits_eq next) (tailBits_eq last) index
    · split
      · exact show 0x90 ≤ second + 0x80 by omega
      · exact show 0x80 ≤ second + 0x80 by omega
    · split
      · exact show second + 0x80 ≤ 0x8F by omega
      · exact show second + 0x80 ≤ 0xBF by omega

/-- The bytes that a lead byte asks for are there and in their ranges. -/
theorem tails_of_decodeFrom {index lead size : Nat} {a low high : UInt8} {rest : List UInt8}
    {cs : List Char} (leads : leadByte a = some (lead,low,high,size))
    (ok : decodeFrom index (a :: rest) = .ok cs) :
    ∃ b second after, rest = b :: after ∧ secondBits? low high b = some second ∧
      (size ≠ 2 → ∃ c third more, after = c :: more ∧ tailBits? c = some third ∧
        (size ≠ 3 → ∃ d fourth last, more = d :: last ∧ tailBits? d = some fourth)) := by
  have wide := not_ascii_of_leadByte leads
  match rest with
  | [] => simp [decodeFrom,wide,leads] at ok
  | b :: after =>
    cases bits : secondBits? low high b with
    | none => simp [decodeFrom,wide,leads,bits] at ok
    | some second =>
      refine ⟨b,second,after,rfl,bits,fun beyond_two => ?_⟩
      match after with
      | [] => simp [decodeFrom,wide,leads,bits,beyond_two] at ok
      | c :: more =>
        cases tail : tailBits? c with
        | none => simp [decodeFrom,wide,leads,bits,beyond_two,tail] at ok
        | some third =>
          refine ⟨c,third,more,rfl,tail,fun beyond_three => ?_⟩
          match more with
          | [] => simp [decodeFrom,wide,leads,bits,beyond_two,tail,beyond_three] at ok
          | d :: last =>
            cases ends : tailBits? d with
            | none => simp [decodeFrom,wide,leads,bits,beyond_two,tail,beyond_three,ends] at ok
            | some fourth => exact ⟨d,fourth,last,rfl,ends⟩

/-- What is read at the front of the input is a spelling. -/
theorem spelling_of_decodeFrom {index : Nat} {a : UInt8} {rest : List UInt8} {cs : List Char}
    (ok : decodeFrom index (a :: rest) = .ok cs) :
    ∃ c bytes after, Spelling c bytes ∧ a :: rest = bytes ++ after := by
  by_cases ascii : a < 0x80
  · have spelling := Spelling.one (UInt8.lt_iff_toNat_lt.mp ascii)
    rw [UInt8.ofNat_toNat] at spelling
    exact ⟨_,_,rest,spelling,rfl⟩
  have leads : (leadByte a).isSome := by
    cases leads : leadByte a with
    | none => simp [decodeFrom,ascii,leads] at ok
    | some r => rfl
  rcases leadByte_cases leads with ⟨lead,most,least,shape⟩ | ⟨lead,most,shape⟩ | ⟨lead,most,shape⟩
  · have leads := leadByte_two lead most
    rw [if_pos least,← shape] at leads
    obtain ⟨b,second,after,rfl,bits,_⟩ := tails_of_decodeFrom leads ok
    obtain ⟨rfl,low⟩ := tailBits_some bits
    exact ⟨_,_,after,.two least most low,shape ▸ rfl⟩
  · have leads := leadByte_three lead most
    rw [← shape] at leads
    obtain ⟨b,second,_,rfl,bits,more⟩ := tails_of_decodeFrom leads ok
    obtain ⟨c,third,after,rfl,tail,_⟩ := more (by decide)
    obtain ⟨rfl,low,least,scalar⟩ := secondBits_narrowed (by decide) (by decide) bits
    obtain ⟨rfl,last⟩ := tailBits_some tail
    have least : lead = 0 → 0xA0 ≤ second + 0x80 := least
    have scalar : lead = 13 → second + 0x80 ≤ 0x9F := scalar
    exact ⟨_,_,after,.three (by omega) most (by omega) low last,shape ▸ rfl⟩
  · have leads := leadByte_four lead most
    rw [← shape] at leads
    obtain ⟨b,second,_,rfl,bits,more⟩ := tails_of_decodeFrom leads ok
    obtain ⟨c,third,_,rfl,tail,more⟩ := more (by decide)
    obtain ⟨d,fourth,after,rfl,ends⟩ := more (by decide)
    obtain ⟨rfl,low,least,final⟩ := secondBits_narrowed (by decide) (by decide) bits
    obtain ⟨rfl,next⟩ := tailBits_some tail
    obtain ⟨rfl,last⟩ := tailBits_some ends
    have least : lead = 0 → 0x90 ≤ second + 0x80 := least
    have final : lead = 4 → second + 0x80 ≤ 0x8F := final
    exact ⟨_,_,after,@Spelling.four lead second _ _ (by omega) (by omega) low next last,by rw [shape]; rfl⟩

theorem decodeFrom_encode (index : Nat) (cs : List Char) :
    decodeFrom index (cs.flatMap String.utf8EncodeChar) = .ok cs := by
  induction cs generalizing index with
  | nil => rfl
  | cons c cs ih =>
    rw [List.flatMap_cons,(spelling_encode c).decode,ih]
    rfl

theorem encode_of_decodeFrom {index : Nat} {bytes : List UInt8} {cs : List Char}
    (ok : decodeFrom index bytes = .ok cs) : cs.flatMap String.utf8EncodeChar = bytes := by
  induction cs generalizing index bytes with
  | nil =>
    cases bytes with
    | nil => rfl
    | cons a rest =>
      obtain ⟨c,first,after,spelling,shape⟩ := spelling_of_decodeFrom ok
      rw [shape,spelling.decode] at ok
      cases others : decodeFrom (index + first.length) after <;> simp [others,Except.map] at ok
  | cons d cs ih =>
    cases bytes with
    | nil => simp [decodeFrom] at ok
    | cons a rest =>
      obtain ⟨c,first,after,spelling,shape⟩ := spelling_of_decodeFrom ok
      rw [shape,spelling.decode] at ok
      cases others : decodeFrom (index + first.length) after with
      | error e => simp [others,Except.map] at ok
      | ok ds =>
        obtain ⟨rfl,rfl⟩ : c = d ∧ ds = cs := by simpa [others,Except.map] using ok
        rw [List.flatMap_cons,ih others,spelling.encode_eq,shape]

theorem decodeUtf8_eq_ok_iff {bytes : List UInt8} {s : String} :
    decodeUtf8 bytes = .ok s ↔ encodeUtf8 s = bytes := by
  unfold decodeUtf8 encodeUtf8
  constructor
  · intro ok
    cases chars : decodeFrom 0 bytes with
    | error e => simp [chars,Except.map] at ok
    | ok cs =>
      obtain rfl : String.ofList cs = s := by simpa [chars,Except.map] using ok
      simpa using encode_of_decodeFrom chars
  · rintro rfl
    rw [decodeFrom_encode]
    simp [Except.map]

theorem encodeUtf8_append (s t : String) : encodeUtf8 (s ++ t) = encodeUtf8 s ++ encodeUtf8 t := by
  simp [encodeUtf8]

theorem length_encodeUtf8 (s : String) : (encodeUtf8 s).length = s.utf8ByteSize := by
  have bytes : s.toByteArray = (encodeUtf8 s).toByteArray := String.utf8Encode_toList.symm
  rw [← String.size_toByteArray,bytes,List.size_toByteArray]

theorem eq_of_ofNat_eq_feed {n : Nat} (bound : n < 256) (feed : (10 : UInt8) = UInt8.ofNat n) :
    n = 10 := by
  have value := congrArg UInt8.toNat feed
  rw [UInt8.toNat_ofNat_of_lt' bound] at value
  exact value.symm

/-- A line feed is a byte of no other character. -/
theorem feed_mem_encodeUtf8 {s : String} (feed : (10 : UInt8) ∈ encodeUtf8 s) : '\n' ∈ s.toList := by
  obtain ⟨c,member,byte⟩ := List.mem_flatMap.mp feed
  have spelling := spelling_encode c
  generalize String.utf8EncodeChar c = bytes at byte spelling
  have wide : ∀ n base, 0x80 ≤ base → n + base < 256 → (10 : UInt8) ≠ UInt8.ofNat (n + base) := by
    intro n base wide bound same
    have := eq_of_ofNat_eq_feed bound same
    omega
  cases spelling with
  | @one n small =>
    obtain rfl : n = 10 := eq_of_ofNat_eq_feed (by omega) (by simpa using byte)
    exact member
  | @two lead second least most low =>
    simp only [List.mem_cons,List.not_mem_nil,or_false] at byte
    rcases byte with same | same
    all_goals exact absurd same (wide _ _ (by omega) (by omega))
  | @three lead second third least most scalar low last =>
    simp only [List.mem_cons,List.not_mem_nil,or_false] at byte
    rcases byte with same | same | same
    all_goals exact absurd same (wide _ _ (by omega) (by omega))
  | @four lead second third fourth least most low next last =>
    simp only [List.mem_cons,List.not_mem_nil,or_false] at byte
    rcases byte with same | same | same | same
    all_goals exact absurd same (wide _ _ (by omega) (by omega))

end LanguageBridge.Text
