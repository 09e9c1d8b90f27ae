import LanguageBridge.FileUri
import LanguageBridge.Proofs.Display
import LanguageBridge.Proofs.Utf8

/-! The URI of a file is plain text from which the path can be read again, so no two files share one. -/
namespace LanguageBridge.FileUri

def Plain (c : Char) : Prop := c.isAlphanum = true ∨ c ∈ ['/', '.', '-', '_', '~']

def UpperHex (c : Char) : Prop := c.isDigit = true ∨ 'A' ≤ c ∧ c ≤ 'F'

instance (c : Char) : Decidable (UpperHex c) := inferInstanceAs (Decidable (_ ∨ _))

inductive Legible : List Char → Prop where
  | done : Legible []
  | plain {c : Char} {rest : List Char} (plain : Plain c) (more : Legible rest) : Legible (c :: rest)
  | byte {high low : Char} {rest : List Char} (first : UpperHex high) (second : UpperHex low)
      (more : Legible rest) : Legible ('%' :: high :: low :: rest)

theorem isPlain_iff {c : Char} : isPlain c = true ↔ Plain c := by
  simp [isPlain,Plain,or_assoc]

theorem upperHex_hexDigit : ∀ n < 16, UpperHex (hexDigit n) := by
  decide

theorem hexValue_hexDigit : ∀ n < 16, hexValue? (hexDigit n) = some n := by
  decide

theorem high_lt (b : UInt8) : b.toNat / 16 < 16 := by
  have := b.toNat_lt
  omega

theorem low_lt (b : UInt8) : b.toNat % 16 < 16 := Nat.mod_lt _ (by decide)

section Encode

variable {rest : List Char}

theorem legible_bytes (bytes : List UInt8) (more : Legible rest) :
    Legible (bytes.flatMap encodeByte ++ rest) := by
  induction bytes with
  | nil => exact more
  | cons b bytes ih =>
    exact .byte (upperHex_hexDigit _ (high_lt b)) (upperHex_hexDigit _ (low_lt b)) ih

theorem encode_cons (c : Char) (path : List Char) : encode (c :: path) = encodeChar c ++ encode path :=
  List.flatMap_cons

theorem legible_encode (path : List Char) : Legible (encode path) := by
  induction path with
  | nil => exact .done
  | cons c path ih =>
    rw [encode_cons,encodeChar]
    by_cases plain : isPlain c = true
    · rw [if_pos plain]
      exact .plain (isPlain_iff.mp plain) ih
    · rw [if_neg plain]
      exact legible_bytes _ ih

theorem decodeBytes_byte (b : UInt8) :
    decodeBytes (encodeByte b ++ rest) = (decodeBytes rest).map (b :: ·) := by
  have whole : UInt8.ofNat (16 * (b.toNat / 16) + b.toNat % 16) = b := by
    rw [Nat.div_add_mod,UInt8.ofNat_toNat]
  simp only [encodeByte,List.cons_append,List.nil_append,decodeBytes,hexValue_hexDigit _ (high_lt b),
    hexValue_hexDigit _ (low_lt b)]
  cases decodeBytes rest with
  | none => rfl
  | some bytes => exact congrArg (fun b => some (b :: bytes)) whole

theorem decodeBytes_bytes (bytes : List UInt8) :
    decodeBytes (bytes.flatMap encodeByte ++ rest) = (decodeBytes rest).map (bytes ++ ·) := by
  induction bytes with
  | nil => simp
  | cons b bytes ih =>
    rw [List.flatMap_cons,List.append_assoc,decodeBytes_byte,ih]
    simp [Function.comp_def]

theorem decodeBytes_plain {c : Char} (plain : isPlain c = true) :
    decodeBytes (c :: rest) = (decodeBytes rest).map (UInt8.ofNat c.toNat :: ·) := by
  have other : c ≠ '%' := by
    rintro rfl
    simp [isPlain] at plain
  rw [decodeBytes.eq_3 _ _ (fun _ _ _ same _ => other same),if_pos plain]
  cases decodeBytes rest <;> rfl

theorem toNat_lt_of_isAlphanum {c : Char} (alnum : c.isAlphanum = true) : c.toNat < 128 := by
  have tests : (decide (65 ≤ c.val.toNat ∧ c.val.toNat ≤ 90) ||
      (decide (97 ≤ c.val.toNat) && decide (c.val.toNat ≤ 122)) ||
      (decide (48 ≤ c.val.toNat) && decide (c.val.toNat ≤ 57))) = true := alnum
  have range : (65 ≤ c.toNat ∧ c.toNat ≤ 90 ∨ 97 ≤ c.toNat ∧ c.toNat ≤ 122) ∨
      48 ≤ c.toNat ∧ c.toNat ≤ 57 := by simpa using tests
  omega

/-- A plain character is a byte of its own. -/
theorem utf8EncodeChar_plain {c : Char} (plain : isPlain c = true) :
    String.utf8EncodeChar c = [UInt8.ofNat c.toNat] := by
  have small : c.toNat < 128 := by
    rcases isPlain_iff.mp plain with alnum | mark
    · exact toNat_lt_of_isAlphanum alnum
    · simp only [List.mem_cons,List.not_mem_nil,or_false] at mark
      rcases mark with rfl | rfl | rfl | rfl | rfl <;> decide
  have spelling := Text.Spelling.one small
  rw [Char.ofNat_toNat] at spelling
  exact spelling.encode_eq

theorem decodeBytes_encode (path : List Char) :
    decodeBytes (encode path) = some (path.flatMap String.utf8EncodeChar) := by
  induction path with
  | nil => rfl
  | cons c path ih =>
    rw [encode_cons,List.flatMap_cons,encodeChar]
    by_cases plain : isPlain c = true
    · rw [if_pos plain,List.singleton_append,decodeBytes_plain plain,utf8EncodeChar_plain plain,ih]
      rfl
    · rw [if_neg plain,decodeBytes_bytes,ih]
      rfl

/-- The path can be read again. -/
theorem decode_encodedPath (path : String) : decode (encode path.toList) = some path := by
  have read : Text.decodeUtf8 (path.toList.flatMap String.utf8EncodeChar) = .ok path :=
    Text.decodeUtf8_eq_ok_iff.mpr rfl
  simp [decode,decodeBytes_encode,read,Except.toOption]

end Encode

section OfPath

variable {path other : String}

theorem ofPath_absolute (absolute : Path.isAbsolute path = true) (directory : String) :
    ofPath directory path = "file://" ++ String.ofList (encode path.toList) := by
  simp [ofPath,scheme,Path.join,absolute]

theorem ofPath_inj (absolute : Path.isAbsolute path = true) (absolute' : Path.isAbsolute other = true)
    {directory elsewhere : String} (same : ofPath directory path = ofPath elsewhere other) :
    path = other := by
  rw [ofPath_absolute absolute,ofPath_absolute absolute'] at same
  have texts : encode path.toList = encode other.toList := by
    simpa using congrArg String.toList same
  have paths : some path = some other := by rw [← decode_encodedPath,texts,decode_encodedPath]
  exact Option.some.inj paths

/-- What is done to the document of one name leaves alone what is kept under another: the open document and
its markers. -/
structure Separate (key name : String) : Prop where
  opened : ∀ (b : Bridge) (d : Editor.Document), d.uri = name →
    (b.openDocument d).document? key = b.document? key
  closed : ∀ b : Bridge, (b.closeDocument name).document? key = b.document? key
  marked : ∀ (s : Surface) (u : MarkerUpdate), u.document.uri = name →
    (s.apply u).markers? key = s.markers? key

theorem separate_of_ne {key name : String} (apart : name ≠ key) : Separate key name where
  opened b d same := by rw [Bridge.document?_openDocument,same,if_neg apart]
  closed b := by rw [Bridge.document?_closeDocument,if_neg apart]
  marked s u same := by rw [Surface.markers?_apply,same,if_neg apart]

/-- The URI of an absolute path is plain text that decodes to the path, whatever the directory is. Two paths
have two URIs, and the documents under them are kept apart. -/
theorem ofPath_faithful (absolute : Path.isAbsolute path = true) (directory : String) :
    (∃ text, ofPath directory path = "file://" ++ String.ofList text ∧ Legible text ∧
      decode text = some path) ∧
    ∀ other elsewhere, Path.isAbsolute other = true → other ≠ path →
      ofPath elsewhere other ≠ ofPath directory path ∧
      Separate (ofPath directory path) (ofPath elsewhere other) := by
  refine ⟨⟨_,ofPath_absolute absolute directory,legible_encode _,decode_encodedPath path⟩,?_⟩
  intro other elsewhere absolute' apart
  have keys : ofPath elsewhere other ≠ ofPath directory path := fun same =>
    apart (ofPath_inj absolute' absolute same)
  exact ⟨keys,separate_of_ne keys⟩

theorem similar_faithful :
    ofPath "" "/tmp/é %2F~.ttl" = "file:///tmp/%C3%A9%20%252F~.ttl" ∧
      Path.isAbsolute "/tmp/é %2F~.ttl" = true ∧ Path.isAbsolute "/tmp/é %2f~.ttl" = true ∧
      Separate (ofPath "" "/tmp/é %2F~.ttl") (ofPath "/tmp" "/tmp/é %2f~.ttl") :=
  ⟨rfl,by decide,by decide,((ofPath_faithful (by decide) "").2 _ "/tmp" (by decide) (by decide)).2⟩

end OfPath

end LanguageBridge.FileUri
