import DpapiForensic.Lib.Utf8

/-!
# Base64

A base64 engine is known by its law, that decoding undoes encoding; `Base64.standard` is the engine of
RFC 4648 with padding, so that the law has an instance to compute with.
-/

namespace DpapiForensic

structure Base64 where
  encode : Bytes → String
  decode : Bytes → Option Bytes
  decode_encode : ∀ bytes, decode (strBytes (encode bytes)) = some bytes

namespace Base64

/-- The alphabet: `A`–`Z`, `a`–`z`, `0`–`9`, `+`, `/`. -/
def digit (v : Nat) : UInt8 :=
  if v < 26 then UInt8.ofNat (v + 65)
  else if v < 52 then UInt8.ofNat (v + 71)
  else if v < 62 then UInt8.ofNat (v - 4)
  else if v = 62 then 43 else 47

def value? (c : UInt8) : Option Nat :=
  if 65 ≤ c.toNat ∧ c.toNat < 91 then some (c.toNat - 65)
  else if 97 ≤ c.toNat ∧ c.toNat < 123 then some (c.toNat - 71)
  else if 48 ≤ c.toNat ∧ c.toNat < 58 then some (c.toNat + 4)
  else if c = 43 then some 62
  else if c = 47 then some 63
  else none

def pad : UInt8 := 61

theorem digit_spec : ∀ v < 64, value? (digit v) = some v ∧ (digit v).toNat < 128 ∧ digit v ≠ pad := by
  decide +kernel

/-- The digits of three bytes at a time, the last group padded to four characters. -/
def encodeBytes : Bytes → Bytes
  | a :: b :: c :: rest =>
      digit (a.toNat / 4) :: digit (a.toNat % 4 * 16 + b.toNat / 16) ::
        digit (b.toNat % 16 * 4 + c.toNat / 64) :: digit (c.toNat % 64) :: encodeBytes rest
  | [a, b] =>
      [digit (a.toNat / 4), digit (a.toNat % 4 * 16 + b.toNat / 16), digit (b.toNat % 16 * 4), pad]
  | [a] => [digit (a.toNat / 4), digit (a.toNat % 4 * 16), pad, pad]
  | [] => []

/-- Four characters to three bytes. Padding stands at the end only, over bits that are zero. -/
def decodeBytes : Bytes → Option Bytes
  | x :: y :: z :: w :: rest => do
      let vx ← value? x
      let vy ← value? y
      if rest = [] ∧ z = pad ∧ w = pad then
        if vy % 16 = 0 then some [UInt8.ofNat (vx * 4 + vy / 16)] else none
      else
        let vz ← value? z
        if rest = [] ∧ w = pad then
          if vz % 4 = 0 then
            some [UInt8.ofNat (vx * 4 + vy / 16), UInt8.ofNat (vy % 16 * 16 + vz / 4)]
          else none
        else
          let vw ← value? w
          let bytes ← decodeBytes rest
          some (UInt8.ofNat (vx * 4 + vy / 16) :: UInt8.ofNat (vy % 16 * 16 + vz / 4) ::
            UInt8.ofNat (vz % 4 * 64 + vw) :: bytes)
  | [] => some []
  | _ => none

theorem ofNat_eq {n : Nat} {b : UInt8} (h : n = b.toNat) : UInt8.ofNat n = b := by
  rw [h, UInt8.ofNat_toNat]

theorem decodeBytes_encodeBytes (bytes : Bytes) : decodeBytes (encodeBytes bytes) = some bytes := by
  induction bytes using encodeBytes.induct with
  | case1 a b c rest ih =>
      have ha := a.toNat_lt
      have hb := b.toNat_lt
      have hc := c.toNat_lt
      have h₁ := digit_spec (a.toNat / 4) (by omega)
      have h₂ := digit_spec (a.toNat % 4 * 16 + b.toNat / 16) (by omega)
      have h₃ := digit_spec (b.toNat % 16 * 4 + c.toNat / 64) (by omega)
      have h₄ := digit_spec (c.toNat % 64) (by omega)
      rw [encodeBytes, decodeBytes, h₁.1, h₂.1]
      simp only [Option.bind_eq_bind, Option.bind_some, h₃.2.2, h₄.2.2, and_false, if_false, h₃.1,
        h₄.1, ih]
      rw [ofNat_eq (b := a) (by omega), ofNat_eq (b := b) (by omega), ofNat_eq (b := c) (by omega)]
  | case2 a b =>
      have ha := a.toNat_lt
      have hb := b.toNat_lt
      have h₁ := digit_spec (a.toNat / 4) (by omega)
      have h₂ := digit_spec (a.toNat % 4 * 16 + b.toNat / 16) (by omega)
      have h₃ := digit_spec (b.toNat % 16 * 4) (by omega)
      rw [encodeBytes, decodeBytes, h₁.1, h₂.1]
      simp only [Option.bind_eq_bind, Option.bind_some, h₃.2.2, and_false, false_and, if_false,
        h₃.1, and_self, if_true]
      rw [if_pos (by omega), ofNat_eq (b := a) (by omega), ofNat_eq (b := b) (by omega)]
  | case3 a =>
      have ha := a.toNat_lt
      have h₁ := digit_spec (a.toNat / 4) (by omega)
      have h₂ := digit_spec (a.toNat % 4 * 16) (by omega)
      rw [encodeBytes, decodeBytes, h₁.1, h₂.1]
      simp only [Option.bind_eq_bind, Option.bind_some, and_self, if_true]
      rw [if_pos (by omega), ofNat_eq (b := a) (by omega)]
  | case4 => rfl

theorem encodeBytes_ascii (bytes : Bytes) : ∀ c ∈ encodeBytes bytes, c.toNat < 128 := by
  have hdigit : ∀ v < 64, (digit v).toNat < 128 := fun v hv => (digit_spec v hv).2.1
  induction bytes using encodeBytes.induct with
  | case1 a b c rest ih =>
      have ha := a.toNat_lt
      have hb := b.toNat_lt
      have hc := c.toNat_lt
      simp only [encodeBytes, List.forall_mem_cons]
      exact ⟨hdigit _ (by omega), hdigit _ (by omega), hdigit _ (by omega), hdigit _ (by omega), ih⟩
  | case2 a b =>
      have ha := a.toNat_lt
      have hb := b.toNat_lt
      simp only [encodeBytes, List.forall_mem_cons]
      exact ⟨hdigit _ (by omega), hdigit _ (by omega), hdigit _ (by omega), by decide, by simp⟩
  | case3 a =>
      have ha := a.toNat_lt
      simp only [encodeBytes, List.forall_mem_cons]
      exact ⟨hdigit _ (by omega), hdigit _ (by omega), by decide, by decide, by simp⟩
  | case4 => simp [encodeBytes]

/-- Four characters make three bytes at most. -/
theorem length_le_of_decodeBytes {text bytes : Bytes} (h : decodeBytes text = some bytes) :
    bytes.length ≤ text.length := by
  induction text using decodeBytes.induct generalizing bytes with
  | case1 x y z w rest ih =>
      simp only [decodeBytes, Option.bind_eq_bind, Option.bind_eq_some_iff] at h
      obtain ⟨vx, -, vy, -, h⟩ := h
      by_cases hone : rest = [] ∧ z = pad ∧ w = pad
      · rw [if_pos hone] at h
        split at h
        · rw [← Option.some.inj h]
          simp
        · cases h
      rw [if_neg hone, Option.bind_eq_some_iff] at h
      obtain ⟨vz, -, h⟩ := h
      by_cases htwo : rest = [] ∧ w = pad
      · rw [if_pos htwo] at h
        split at h
        · rw [← Option.some.inj h]
          simp
        · cases h
      simp only [if_neg htwo, Option.bind_eq_some_iff] at h
      obtain ⟨vw, -, out, hout, h⟩ := h
      have hle := ih hout
      rw [← Option.some.inj h]
      simp only [List.length_cons]
      omega
  | case2 =>
      rw [← Option.some.inj h]
  | case3 text hlong hnil =>
      rw [decodeBytes] at h
      · cases h
      · exact hlong
      · exact hnil

/-- RFC 4648, with padding. -/
def standard : Base64 where
  encode bytes := String.ofList ((encodeBytes bytes).map fun c => Char.ofNat c.toNat)
  decode := decodeBytes
  decode_encode bytes := by
    rw [strBytes_ofList_ascii (encodeBytes_ascii bytes), decodeBytes_encodeBytes]

end Base64

end DpapiForensic
