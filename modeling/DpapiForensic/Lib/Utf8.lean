import DpapiForensic.Lib.Utf16

/-!
# UTF-8

`str::as_bytes`, `String::from_utf8` and `String::from_utf8_lossy`. Which bytes are well formed is the
core library's `utf8DecodeChar?`; how many bytes an ill-formed sequence is taken to have, and so how
many replacement characters stand for it, is the Rust standard library's rule.
-/

namespace DpapiForensic

def strBytes (s : String) : Bytes := s.toList.flatMap String.utf8EncodeChar

@[simp] theorem strBytes_ofList (cs : List Char) :
    strBytes (String.ofList cs) = cs.flatMap String.utf8EncodeChar := by
  rw [strBytes, String.toList_ofList]

theorem strBytes_append (s t : String) : strBytes (s ++ t) = strBytes s ++ strBytes t := by
  rw [strBytes, String.toList_append, List.flatMap_append, strBytes, strBytes]

/-- The character at the head of the bytes, when they start with a well-formed one. -/
def decodeChar? (bytes : Bytes) : Option Char := bytes.toByteArray.utf8DecodeChar? 0

theorem decodeChar?_append (c : Char) (rest : Bytes) :
    decodeChar? (String.utf8EncodeChar c ++ rest) = some c := by
  rw [decodeChar?, List.toByteArray_append, ByteArray.utf8DecodeChar?_utf8EncodeChar_append]

theorem length_utf8EncodeChar_pos (c : Char) : 0 < (String.utf8EncodeChar c).length := by
  rw [String.length_utf8EncodeChar]
  exact c.utf8Size_pos

theorem length_strBytes_le (s : String) : (strBytes s).length ≤ 4 * s.toList.length := by
  rw [strBytes]
  induction s.toList with
  | nil => exact Nat.le_refl _
  | cons c cs ih =>
      have hc := c.utf8Size_le_four
      rw [List.flatMap_cons, List.length_append, String.length_utf8EncodeChar, List.length_cons]
      omega

theorem length_le_strBytes (s : String) : s.toList.length ≤ (strBytes s).length := by
  rw [strBytes]
  induction s.toList with
  | nil => exact Nat.le_refl _
  | cons c cs ih =>
      have hc := length_utf8EncodeChar_pos c
      rw [List.flatMap_cons, List.length_append, List.length_cons]
      omega

def fromUtf8 : Bytes → Option (List Char)
  | [] => some []
  | b :: bs =>
      match decodeChar? (b :: bs) with
      | none => none
      | some c => (fromUtf8 ((b :: bs).drop c.utf8Size)).map (c :: ·)
termination_by bytes => bytes.length
decreasing_by
  have := c.utf8Size_pos
  simp only [List.length_drop, List.length_cons]
  omega

def isContinuation (b : UInt8) : Bool := 0x80 ≤ b.toNat && b.toNat < 0xC0

/-- Whether a byte may follow a lead byte of three or four. -/
def isSecond (lead second : UInt8) : Bool :=
  match lead.toNat with
  | 0xE0 => 0xA0 ≤ second.toNat && second.toNat < 0xC0
  | 0xED => 0x80 ≤ second.toNat && second.toNat < 0xA0
  | 0xF0 => 0x90 ≤ second.toNat && second.toNat < 0xC0
  | 0xF4 => 0x80 ≤ second.toNat && second.toNat < 0x90
  | _ => isContinuation second

/-- How many bytes an ill-formed sequence at the head takes: the lead byte and what could have
continued it. -/
def invalidLen : Bytes → Nat
  | lead :: second :: rest =>
      if 0xE0 ≤ lead.toNat ∧ lead.toNat < 0xF5 ∧ isSecond lead second then
        match rest with
        | third :: _ => if 0xF0 ≤ lead.toNat ∧ isContinuation third then 3 else 2
        | [] => 2
      else 1
  | _ => 1

theorem invalidLen_pos (bytes : Bytes) : 0 < invalidLen bytes := by
  unfold invalidLen
  split
  · split
    · split
      · split <;> omega
      · omega
    · omega
  · omega

def fromUtf8Lossy : Bytes → List Char
  | [] => []
  | b :: bs =>
      match decodeChar? (b :: bs) with
      | none => replacementChar :: fromUtf8Lossy ((b :: bs).drop (invalidLen (b :: bs)))
      | some c => c :: fromUtf8Lossy ((b :: bs).drop c.utf8Size)
termination_by bytes => bytes.length
decreasing_by
  · have := invalidLen_pos (b :: bs)
    simp only [List.length_drop, List.length_cons]
    omega
  · have := c.utf8Size_pos
    simp only [List.length_drop, List.length_cons]
    omega

/-- Every character that comes out uses up a byte. -/
theorem length_fromUtf8Lossy_le (bytes : Bytes) : (fromUtf8Lossy bytes).length ≤ bytes.length := by
  induction bytes using fromUtf8Lossy.induct with
  | case1 => simp [fromUtf8Lossy]
  | case2 b bs h ih =>
      have hpos := invalidLen_pos (b :: bs)
      rw [fromUtf8Lossy, h]
      simp only [List.length_cons, List.length_drop] at ih ⊢
      omega
  | case3 b bs c h ih =>
      have hpos := c.utf8Size_pos
      rw [fromUtf8Lossy, h]
      simp only [List.length_cons, List.length_drop] at ih ⊢
      omega

section RoundTrip

variable (c : Char) (rest : Bytes)

theorem drop_utf8Size_append : (String.utf8EncodeChar c ++ rest).drop c.utf8Size = rest := by
  rw [← String.length_utf8EncodeChar, List.drop_left]

theorem fromUtf8_append :
    fromUtf8 (String.utf8EncodeChar c ++ rest) = (fromUtf8 rest).map (c :: ·) := by
  have hdecode := decodeChar?_append c rest
  have hdrop := drop_utf8Size_append c rest
  have hpos := length_utf8EncodeChar_pos c
  cases hbytes : String.utf8EncodeChar c ++ rest with
  | nil =>
      have := congrArg List.length hbytes
      simp only [List.length_append, List.length_nil] at this
      omega
  | cons b bs =>
      rw [hbytes] at hdecode hdrop
      rw [fromUtf8, hdecode]
      simp only [hdrop]

theorem fromUtf8Lossy_append :
    fromUtf8Lossy (String.utf8EncodeChar c ++ rest) = c :: fromUtf8Lossy rest := by
  have hdecode := decodeChar?_append c rest
  have hdrop := drop_utf8Size_append c rest
  have hpos := length_utf8EncodeChar_pos c
  cases hbytes : String.utf8EncodeChar c ++ rest with
  | nil =>
      have := congrArg List.length hbytes
      simp only [List.length_append, List.length_nil] at this
      omega
  | cons b bs =>
      rw [hbytes] at hdecode hdrop
      rw [fromUtf8Lossy, hdecode]
      simp only [hdrop]

end RoundTrip

theorem fromUtf8_strBytes (s : String) : fromUtf8 (strBytes s) = some s.toList := by
  rw [strBytes]
  induction s.toList with
  | nil => simp [fromUtf8]
  | cons c cs ih => rw [List.flatMap_cons, fromUtf8_append, ih, Option.map_some]

theorem exists_of_decodeChar? {bytes : Bytes} {c : Char} (h : decodeChar? bytes = some c) :
    ∃ rest, bytes = String.utf8EncodeChar c ++ rest := by
  obtain ⟨rest, hrest⟩ := ByteArray.exists_of_utf8DecodeChar?_eq_some h
  refine ⟨rest.data.toList, ?_⟩
  have hdata := congrArg (fun b => b.data.toList) hrest
  simpa only [List.toList_data_toByteArray, ByteArray.data_append, Array.toList_append] using hdata

/-- Strict decoding accepts the UTF-8 of texts and nothing else. -/
theorem fromUtf8_eq_some_iff {bytes : Bytes} {cs : List Char} :
    fromUtf8 bytes = some cs ↔ strBytes (String.ofList cs) = bytes := by
  constructor
  · intro h
    rw [strBytes_ofList]
    induction cs generalizing bytes with
    | nil =>
        cases bytes with
        | nil => rfl
        | cons b bs =>
            rw [fromUtf8] at h
            split at h
            · cases h
            · simp at h
    | cons c cs ih =>
        cases bytes with
        | nil => simp [fromUtf8] at h
        | cons b bs =>
            rw [fromUtf8] at h
            split at h
            · cases h
            rename_i c' hc'
            obtain ⟨rest, hrest⟩ := exists_of_decodeChar? hc'
            obtain ⟨cs', hcs', hcons⟩ := Option.map_eq_some_iff.mp h
            obtain ⟨rfl, rfl⟩ := List.cons.inj hcons
            rw [hrest, drop_utf8Size_append] at hcs'
            rw [List.flatMap_cons, ih hcs', hrest]
  · rintro rfl
    rw [fromUtf8_strBytes, String.toList_ofList]

theorem fromUtf8Lossy_strBytes (s : String) : fromUtf8Lossy (strBytes s) = s.toList := by
  rw [strBytes]
  induction s.toList with
  | nil => simp [fromUtf8Lossy]
  | cons c cs ih => rw [List.flatMap_cons, fromUtf8Lossy_append, ih]

/-! ### What is UTF-8 -/

/-- The UTF-8 of some text. -/
def IsUtf8 (bytes : Bytes) : Prop := ∃ s, strBytes s = bytes

theorem isUtf8_iff {bytes : Bytes} :
    IsUtf8 bytes ↔ strBytes (String.ofList (fromUtf8Lossy bytes)) = bytes := by
  constructor
  · rintro ⟨s, rfl⟩
    rw [fromUtf8Lossy_strBytes, String.ofList_toList]
  · intro h
    exact ⟨_, h⟩

instance (bytes : Bytes) : Decidable (IsUtf8 bytes) := decidable_of_iff' _ isUtf8_iff

theorem isUtf8_inj {a b : Bytes} (ha : IsUtf8 a) (hb : IsUtf8 b)
    (h : fromUtf8Lossy a = fromUtf8Lossy b) : a = b := by
  rw [← isUtf8_iff.mp ha, ← isUtf8_iff.mp hb, h]

/-! ### ASCII -/

theorem utf8EncodeChar_ofNat {b : UInt8} (h : b.toNat < 128) :
    String.utf8EncodeChar (Char.ofNat b.toNat) = [b] := by
  have hall : ∀ n < 128, String.utf8EncodeChar (Char.ofNat n) = [UInt8.ofNat n] := by
    decide +kernel
  rw [hall b.toNat h, UInt8.ofNat_toNat]

theorem strBytes_ofList_ascii {bytes : Bytes} (h : ∀ b ∈ bytes, b.toNat < 128) :
    strBytes (String.ofList (bytes.map fun b => Char.ofNat b.toNat)) = bytes := by
  rw [strBytes_ofList]
  induction bytes with
  | nil => rfl
  | cons b bs ih =>
      rw [List.map_cons, List.flatMap_cons, utf8EncodeChar_ofNat (h b (by simp)),
        ih fun b' hb' => h b' (by simp [hb']), List.singleton_append]

/-- Bytes that are all ASCII are one character each. -/
theorem toList_eq_map_strBytes {s : String} (h : ∀ b ∈ strBytes s, b.toNat < 128) :
    s.toList = (strBytes s).map fun b => Char.ofNat b.toNat := by
  have hbytes := strBytes_ofList_ascii h
  have htext := congrArg fromUtf8 hbytes
  rw [fromUtf8_strBytes, fromUtf8_strBytes, String.toList_ofList] at htext
  exact (Option.some.inj htext).symm

end DpapiForensic
