import DpapiForensic.Lib.Bytes
import Mathlib.Data.Set.Finite.List

/-!
# Ciphers and padding

A cipher is known by its interface: CBC decryption inverts CBC encryption on whole blocks and keeps
the length, authenticated decryption inverts authenticated encryption. What stands around the
cipher is spelled out, because it is where inputs are refused: the key and the IV must have the
cipher's own lengths, the buffer must be a whole number of blocks, and the padding must be well formed.
-/

namespace DpapiForensic

/-- A block cipher in CBC mode, on whole blocks. -/
structure CbcCipher (keyLen blockLen : Nat) where
  encrypt : Vector UInt8 keyLen → Vector UInt8 blockLen → Bytes → Bytes
  decrypt : Vector UInt8 keyLen → Vector UInt8 blockLen → Bytes → Bytes
  length_encrypt : ∀ key iv plain, blockLen ∣ plain.length →
    (encrypt key iv plain).length = plain.length
  length_decrypt : ∀ key iv cipher, blockLen ∣ cipher.length →
    (decrypt key iv cipher).length = cipher.length
  decrypt_encrypt : ∀ key iv plain, blockLen ∣ plain.length →
    decrypt key iv (encrypt key iv plain) = plain

/-- An authenticated cipher: the ciphertext carries a tag, and decryption checks it. -/
structure Aead (keyLen nonceLen tagLen : Nat) where
  encrypt : Vector UInt8 keyLen → Vector UInt8 nonceLen → Bytes → Bytes
  decrypt : Vector UInt8 keyLen → Vector UInt8 nonceLen → Bytes → Option Bytes
  length_encrypt : ∀ key nonce plain, (encrypt key nonce plain).length = plain.length + tagLen
  decrypt_encrypt : ∀ key nonce plain, decrypt key nonce (encrypt key nonce plain) = some plain

/-! ### Padding -/

/-- PKCS#7 padding to a block of `n` bytes: `k` bytes of value `k`, with `1 ≤ k ≤ n`. -/
def pkcs7Pad (n : Nat) (plain : Bytes) : Bytes :=
  plain ++ List.replicate (n - plain.length % n) (UInt8.ofNat (n - plain.length % n))

/-- `data` is `plain` under a padding of at most `n` bytes. The length of the data plays no part. -/
def PaddedTo (n : Nat) (data plain : Bytes) : Prop :=
  ∃ k, 1 ≤ k ∧ k ≤ n ∧ data = plain ++ List.replicate k (UInt8.ofNat k)

/-- `Pkcs7::unpad` on the last block. -/
def pkcs7UnpadBlock (block : Bytes) : Option Bytes :=
  match block.getLast? with
  | none => none
  | some n =>
      if n.toNat = 0 ∨ block.length < n.toNat then none
      else if (block.dropLast.drop (block.length - n.toNat)).any fun v => v ≠ n then none
      else some (block.take (block.length - n.toNat))

/-- `Pkcs7::unpad_blocks` on a buffer of whole blocks of `n` bytes: only the last block is looked
at, and an empty buffer is refused. -/
def pkcs7UnpadBlocks (n : Nat) (buf : Bytes) : Option Bytes :=
  if buf = [] then none
  else (pkcs7UnpadBlock (buf.drop (buf.length - n))).map fun kept =>
    buf.take (buf.length - n + kept.length)

def noPaddingUnpadBlocks (buf : Bytes) : Option Bytes := some buf

theorem pkcs7Pad_length (n : Nat) (plain : Bytes) :
    (pkcs7Pad n plain).length = plain.length + (n - plain.length % n) := by
  simp [pkcs7Pad]

theorem dvd_length_pkcs7Pad {n : Nat} (hn : 0 < n) (plain : Bytes) :
    n ∣ (pkcs7Pad n plain).length := by
  have hmod := Nat.mod_lt plain.length hn
  refine ⟨plain.length / n + 1, ?_⟩
  have hdiv := Nat.div_add_mod plain.length n
  rw [pkcs7Pad_length, Nat.mul_add, Nat.mul_one]
  omega

/-- What the last byte asks of the bytes before it. -/
def PadFits (n : Nat) (front : Bytes) (last : UInt8) : Prop :=
  1 ≤ last.toNat ∧ last.toNat ≤ n ∧ last.toNat ≤ front.length + 1 ∧
    ∀ b ∈ (front ++ [last]).drop (front.length + 1 - last.toNat), b = last

/-- The last byte gives the padding away, and with it the one plaintext before it. -/
theorem paddedTo_concat_iff {n : Nat} (hn : n < 256) {front plain : Bytes} {last : UInt8} :
    PaddedTo n (front ++ [last]) plain ↔
      PadFits n front last ∧ (front ++ [last]).take (front.length + 1 - last.toNat) = plain := by
  have hlen : (front ++ [last]).length = front.length + 1 := by simp
  constructor
  · rintro ⟨k, hk, hkn, hdata⟩
    have hlast := congrArg List.getLast? hdata
    rw [List.getLast?_concat, List.getLast?_append, List.getLast?_replicate, if_neg (by omega),
      Option.some_or, Option.some.injEq] at hlast
    have hbyte : last.toNat = k := by
      rw [hlast, UInt8.toNat_ofNat', Nat.mod_eq_of_lt (by omega)]
    have hsum : front.length + 1 = plain.length + k := by
      rw [← hlen, hdata, List.length_append, List.length_replicate]
    have hcut : front.length + 1 - last.toNat = plain.length := by omega
    refine ⟨⟨by omega, by omega, by omega, ?_⟩, ?_⟩
    · rw [hcut, hdata, List.drop_left, hlast]
      exact fun b hb => List.eq_of_mem_replicate hb
    · rw [hcut, hdata, List.take_left]
  · rintro ⟨⟨hpos, hle, hfit, htail⟩, rfl⟩
    refine ⟨last.toNat, hpos, hle, ?_⟩
    have htailLen : ((front ++ [last]).drop (front.length + 1 - last.toNat)).length = last.toNat := by
      rw [List.length_drop, hlen]
      omega
    rw [UInt8.ofNat_toNat, ← List.eq_replicate_iff.mpr ⟨htailLen, htail⟩, List.take_append_drop]

namespace PaddedTo

variable {n m : Nat} {data plain plain' : Bytes}

theorem pad (hn : 0 < n) (plain : Bytes) : PaddedTo n (pkcs7Pad n plain) plain := by
  have hmod := Nat.mod_lt plain.length hn
  exact ⟨n - plain.length % n, by omega, by omega, rfl⟩

/-- A padding is never longer than the data it ends. -/
theorem of_length_le (h : PaddedTo m data plain) (hle : data.length ≤ n) : PaddedTo n data plain := by
  obtain ⟨k, hk, -, rfl⟩ := h
  refine ⟨k, hk, ?_, rfl⟩
  rw [List.length_append, List.length_replicate] at hle
  omega

theorem ne_nil (h : PaddedTo n data plain) : data ≠ [] := by
  obtain ⟨k, hk, -, rfl⟩ := h
  intro hnil
  have := congrArg List.length hnil
  rw [List.length_append, List.length_replicate, List.length_nil] at this
  omega

theorem unique (hn : n < 256) (h : PaddedTo n data plain) (h' : PaddedTo n data plain') :
    plain = plain' := by
  rcases List.eq_nil_or_concat data with rfl | ⟨front, last, rfl⟩
  · exact absurd rfl h.ne_nil
  · rw [List.concat_eq_append] at h h'
    exact ((paddedTo_concat_iff hn).mp h).2.symm.trans ((paddedTo_concat_iff hn).mp h').2

/-- On whole blocks nothing but the prescribed padding unpads. -/
theorem eq_pad (h : PaddedTo n data plain)
    (hwhole : n ∣ data.length) : data = pkcs7Pad n plain := by
  obtain ⟨k, hk, hkn, rfl⟩ := h
  have hsum : n ∣ plain.length % n + k := by
    have hdiv := Nat.div_add_mod plain.length n
    rw [List.length_append, List.length_replicate, ← hdiv, Nat.add_assoc] at hwhole
    exact (Nat.dvd_add_right (Nat.dvd_mul_right n _)).mp hwhole
  have hmod : plain.length % n < n := Nat.mod_lt _ (by omega)
  -- the remainder and the padding make up one block, as neither can make up two
  have hone : plain.length % n + k = n := by
    obtain ⟨q, hq⟩ := hsum
    have hqpos : 0 < q := Nat.pos_of_mul_pos_left (by omega : 0 < n * q)
    have hqlt : q < 2 := by
      by_contra hge
      have : n * 2 ≤ n * q := Nat.mul_le_mul_left n (by omega)
      omega
    obtain rfl : q = 1 := by omega
    omega
  rw [pkcs7Pad, show n - plain.length % n = k by omega]

end PaddedTo

theorem pkcs7UnpadBlock_eq_some_iff {block plain : Bytes} :
    pkcs7UnpadBlock block = some plain ↔ PaddedTo 255 block plain := by
  rcases List.eq_nil_or_concat block with rfl | ⟨front, last, rfl⟩
  · exact iff_of_false (by simp [pkcs7UnpadBlock]) fun h => h.ne_nil rfl
  rw [List.concat_eq_append, paddedTo_concat_iff (by decide), PadFits, pkcs7UnpadBlock]
  simp only [List.getLast?_concat, List.dropLast_concat, List.length_append, List.length_singleton]
  have hlt := last.toNat_lt
  by_cases hrange : last.toNat = 0 ∨ front.length + 1 < last.toNat
  · rw [if_pos hrange]
    exact iff_of_false nofun fun h => by omega
  rw [if_neg hrange, List.drop_append_of_le_length (by omega)]
  -- the library leaves the last byte out of the scan, as it compares with itself
  have hscan : ((front.drop (front.length + 1 - last.toNat)).any fun v => decide (v ≠ last)) = true ↔
      ¬∀ b ∈ front.drop (front.length + 1 - last.toNat) ++ [last], b = last := by
    simp only [List.any_eq_true, decide_eq_true_eq, List.mem_append, List.mem_singleton, or_imp,
      forall_and, forall_eq, and_true, not_forall, exists_prop]
  by_cases hall : ∀ b ∈ front.drop (front.length + 1 - last.toNat) ++ [last], b = last
  · rw [if_neg fun h => hscan.mp h hall, Option.some.injEq]
    exact (and_iff_right ⟨by omega, by omega, by omega, hall⟩).symm
  · rw [if_pos (hscan.mpr hall)]
    exact iff_of_false nofun fun h => hall h.1.2.2.2

/-- Unpadding whole blocks looks at the last one only, and that is enough: a padding fits in a block. -/
theorem pkcs7UnpadBlocks_eq_some_iff {n : Nat} (hn : 0 < n) (hn' : n < 256) {buf plain : Bytes}
    (hwhole : n ∣ buf.length) :
    pkcs7UnpadBlocks n buf = some plain ↔ PaddedTo n buf plain := by
  unfold pkcs7UnpadBlocks
  by_cases hnil : buf = []
  · rw [if_pos hnil]
    exact ⟨fun h => absurd h (by simp), fun h => absurd hnil h.ne_nil⟩
  have hle : n ≤ buf.length := Nat.le_of_dvd (List.length_pos_iff.mpr hnil) hwhole
  have hlast : (buf.drop (buf.length - n)).length = n := by
    rw [List.length_drop]
    omega
  rw [if_neg hnil, Option.map_eq_some_iff]
  constructor
  · rintro ⟨kept, hkept, rfl⟩
    obtain ⟨k, hk, hkn, hblock⟩ :=
      (pkcs7UnpadBlock_eq_some_iff.mp hkept).of_length_le hlast.le
    refine ⟨k, hk, hkn, ?_⟩
    have hbuf : buf = buf.take (buf.length - n) ++ (kept ++ List.replicate k (UInt8.ofNat k)) := by
      rw [← hblock, List.take_append_drop]
    have hfront : buf.take (buf.length - n + kept.length) = buf.take (buf.length - n) ++ kept := by
      have hdrop := congrArg (List.take kept.length) hblock
      rw [List.take_left] at hdrop
      rw [List.take_add, hdrop]
    rw [hfront, List.append_assoc]
    exact hbuf
  · rintro ⟨k, hk, hkn, hbuf⟩
    have hlen : buf.length = plain.length + k := by
      rw [hbuf, List.length_append, List.length_replicate]
    refine ⟨plain.drop (buf.length - n), ?_, ?_⟩
    · have hblock : buf.drop (buf.length - n)
          = plain.drop (buf.length - n) ++ List.replicate k (UInt8.ofNat k) := by
        rw [← List.drop_append_of_le_length (by omega), ← hbuf]
      exact pkcs7UnpadBlock_eq_some_iff.mpr ⟨k, hk, by omega, hblock⟩
    · rw [List.length_drop, show buf.length - n + (plain.length - (buf.length - n)) = plain.length by
        omega, hbuf, List.take_left]

theorem pkcs7UnpadBlocks_length_le {n : Nat} {buf plain : Bytes}
    (h : pkcs7UnpadBlocks n buf = some plain) : plain.length ≤ buf.length := by
  unfold pkcs7UnpadBlocks at h
  split at h
  · cases h
  · obtain ⟨kept, -, rfl⟩ := Option.map_eq_some_iff.mp h
    rw [List.length_take]
    exact Nat.min_le_right _ _

theorem noPaddingUnpadBlocks_length_le {buf plain : Bytes}
    (h : noPaddingUnpadBlocks buf = some plain) : plain.length ≤ buf.length := by
  rw [Option.some.inj h]

/-! ### Decryptors -/
namespace CbcCipher

variable {keyLen blockLen : Nat} (c : CbcCipher keyLen blockLen)

/-- `Decryptor::new_from_slices`: the key and the IV, when they have the cipher's lengths. -/
def newFromSlices (_c : CbcCipher keyLen blockLen) (key iv : Bytes) :
    Option (Vector UInt8 keyLen × Vector UInt8 blockLen) := do
  let key ← tryIntoArray keyLen key
  let iv ← tryIntoArray blockLen iv
  pure (key, iv)

/-- `decrypt_padded_mut`: a buffer with a partial block is refused before anything is decrypted. -/
def decryptPadded (unpadBlocks : Bytes → Option Bytes)
    (decryptor : Vector UInt8 keyLen × Vector UInt8 blockLen) (buf : Bytes) : Option Bytes :=
  if buf.length % blockLen ≠ 0 then none
  else unpadBlocks (c.decrypt decryptor.1 decryptor.2 buf)

theorem newFromSlices_eq_some_iff {key iv : Bytes} {d : Vector UInt8 keyLen × Vector UInt8 blockLen} :
    c.newFromSlices key iv = some d ↔ d.1.toList = key ∧ d.2.toList = iv := by
  obtain ⟨k, v⟩ := d
  simp only [newFromSlices, Option.bind_eq_bind, Option.bind_eq_some_iff, tryIntoArray_eq_some_iff,
    Option.pure_def, Option.some.injEq, Prod.mk.injEq]
  constructor
  · rintro ⟨k', hk, v', hv, rfl, rfl⟩
    exact ⟨hk, hv⟩
  · rintro ⟨hk, hv⟩
    exact ⟨k, hk, v, hv, rfl, rfl⟩

@[simp] theorem newFromSlices_toList (key : Vector UInt8 keyLen) (iv : Vector UInt8 blockLen) :
    c.newFromSlices key.toList iv.toList = some (key, iv) :=
  c.newFromSlices_eq_some_iff.mpr ⟨rfl, rfl⟩

theorem newFromSlices_eq_none_iff {key iv : Bytes} :
    c.newFromSlices key iv = none ↔ key.length ≠ keyLen ∨ iv.length ≠ blockLen := by
  constructor
  · intro h
    by_contra hlen
    push Not at hlen
    obtain ⟨rfl, rfl⟩ := hlen
    have := c.newFromSlices_toList ⟨key.toArray, by simp⟩ ⟨iv.toArray, by simp⟩
    simp only [Vector.toList_mk] at this
    rw [h] at this
    simp at this
  · intro h
    cases hd : c.newFromSlices key iv with
    | none => rfl
    | some d =>
        obtain ⟨rfl, rfl⟩ := c.newFromSlices_eq_some_iff.mp hd
        simp at h

/-- Decryption keeps the length, and unpadding shortens. -/
theorem decryptPadded_length_le {unpadBlocks : Bytes → Option Bytes}
    (hunpad : ∀ {buf plain}, unpadBlocks buf = some plain → plain.length ≤ buf.length)
    {d : Vector UInt8 keyLen × Vector UInt8 blockLen} {buf plain : Bytes}
    (h : c.decryptPadded unpadBlocks d buf = some plain) : plain.length ≤ buf.length := by
  unfold decryptPadded at h
  split at h
  · cases h
  · rename_i hwhole
    rw [← c.length_decrypt d.1 d.2 buf (Nat.dvd_of_mod_eq_zero (not_not.mp hwhole))]
    exact hunpad h

theorem decryptPadded_noPadding_encrypt (d : Vector UInt8 keyLen × Vector UInt8 blockLen)
    {plain : Bytes} (h : blockLen ∣ plain.length) :
    c.decryptPadded noPaddingUnpadBlocks d (c.encrypt d.1 d.2 plain) = some plain := by
  rw [decryptPadded, c.length_encrypt _ _ _ h, if_neg (not_not.mpr (Nat.mod_eq_zero_of_dvd h)),
    c.decrypt_encrypt _ _ _ h, noPaddingUnpadBlocks]

/-! ### Encryption is onto -/

instance : Finite UInt8 :=
  Finite.of_injective UInt8.toFin fun _ _ h => UInt8.toFin_inj.mp h

theorem encrypt_injOn (key : Vector UInt8 keyLen) (iv : Vector UInt8 blockLen) {n : Nat}
    (hn : blockLen ∣ n) : Set.InjOn (c.encrypt key iv) {plain | plain.length = n} := by
  rintro plain rfl plain' hlen h
  rw [← c.decrypt_encrypt key iv plain hn, h, c.decrypt_encrypt key iv plain']
  rw [show plain'.length = plain.length from hlen]
  exact hn

/-- Encryption keeps the length and can be undone, and there are finitely many byte lists of a length:
so every whole number of blocks is a ciphertext, namely of what it decrypts to. -/
theorem encrypt_decrypt (key : Vector UInt8 keyLen) (iv : Vector UInt8 blockLen) {cipher : Bytes}
    (h : blockLen ∣ cipher.length) : c.encrypt key iv (c.decrypt key iv cipher) = cipher := by
  have hfinite : {plain : Bytes | plain.length = cipher.length}.Finite :=
    List.finite_length_eq UInt8 _
  have hmaps : Set.MapsTo (c.encrypt key iv) {plain | plain.length = cipher.length}
      {plain | plain.length = cipher.length} := by
    intro plain hplain
    have hplain : plain.length = cipher.length := hplain
    exact (c.length_encrypt key iv plain (hplain ▸ h)).trans hplain
  have honto := ((hfinite.injOn_iff_bijOn_of_mapsTo hmaps).mp (c.encrypt_injOn key iv h)).surjOn
  obtain ⟨plain, hplain, rfl⟩ := honto (show cipher.length = cipher.length from rfl)
  rw [c.decrypt_encrypt key iv plain]
  rw [show plain.length = _ from hplain]
  exact h

end CbcCipher

end DpapiForensic
