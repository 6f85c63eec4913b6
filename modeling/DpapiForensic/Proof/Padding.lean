import DpapiForensic.Decrypt

/-!
# The two unpadders

3DES output is unpadded by hand, AES output by the block library. The hand-written one reads the last
byte of whatever it is given, with no regard for blocks; the library one reads the last block. Both
accept exactly the padded data, so on whole blocks they are one function.
-/

namespace DpapiForensic

open Decrypt

/-! ### The slices it takes -/

section Slices

variable {ε : Type} {data : Bytes} {i : Nat}

theorem sliceRange_from (h : i ≤ data.length) :
    (sliceRange data i data.length : Outcome ε Bytes) = .ok (data.drop i) := by
  rw [sliceRange, getRange, if_pos ⟨h, le_rfl⟩, List.take_of_length_le (by simp)]

theorem sliceRange_to (h : i ≤ data.length) :
    (sliceRange data 0 i : Outcome ε Bytes) = .ok (data.take i) := by
  rw [sliceRange, getRange, if_pos ⟨Nat.zero_le i, h⟩, List.drop_zero, Nat.sub_zero]

end Slices

/-! ### What is accepted -/

section Unpad

variable {data plain : Bytes} {n : Nat}

/-- Unpadding never indexes outside the data: the last byte decides, and then the tail. -/
theorem pkcsUnpad_concat (front : Bytes) (last : UInt8) (n : Nat) :
    (PadFits n front last ∧ pkcsUnpad (front ++ [last]) n
        = .ok ((front ++ [last]).take (front.length + 1 - last.toNat))) ∨
      (¬PadFits n front last ∧ pkcsUnpad (front ++ [last]) n = .err .decryptionFailed) := by
  have hlen : (front ++ [last]).length = front.length + 1 := by simp
  have hsub : front.length + 1 - last.toNat ≤ (front ++ [last]).length := by
    rw [hlen]
    exact Nat.sub_le _ _
  have hfrom := sliceRange_from (ε := DpapiError) hsub
  rw [hlen] at hfrom
  have htail : ((front ++ [last]).drop (front.length + 1 - last.toNat)).any
      (fun b => decide (b.toNat ≠ last.toNat)) = true ↔
        ¬∀ b ∈ (front ++ [last]).drop (front.length + 1 - last.toNat), b = last := by
    simp only [List.any_eq_true, decide_eq_true_eq, ne_eq, UInt8.toNat_inj, not_forall, exists_prop]
  unfold pkcsUnpad
  rw [List.getLast?_concat, Outcome.okOr_some, Outcome.ok_bind]
  simp only [hlen]
  by_cases hrange : last.toNat = 0 ∨ last.toNat > n ∨ last.toNat > front.length + 1
  · rw [Outcome.failIf_of hrange, Outcome.err_bind]
    refine Or.inr ⟨?_, rfl⟩
    rintro ⟨hpos, hle, hfit, -⟩
    omega
  rw [Outcome.failIf_of_not hrange, Outcome.ok_bind, hfrom, sliceRange_to hsub, Outcome.ok_bind]
  by_cases hall : ∀ b ∈ (front ++ [last]).drop (front.length + 1 - last.toNat), b = last
  · rw [Outcome.failIf_of_not (fun h => htail.mp h hall), Outcome.ok_bind]
    exact Or.inl ⟨⟨by omega, by omega, by omega, hall⟩, rfl⟩
  · rw [Outcome.failIf_of (htail.mpr hall), Outcome.err_bind]
    exact Or.inr ⟨fun h => hall h.2.2.2, rfl⟩

theorem pkcsUnpad_cases (data : Bytes) (n : Nat) :
    (∃ plain, pkcsUnpad data n = .ok plain) ∨ pkcsUnpad data n = .err .decryptionFailed := by
  rcases List.eq_nil_or_concat data with rfl | ⟨front, last, rfl⟩
  · exact Or.inr rfl
  · rw [List.concat_eq_append]
    rcases pkcsUnpad_concat front last n with ⟨-, hok⟩ | ⟨-, herr⟩
    · exact Or.inl ⟨_, hok⟩
    · exact Or.inr herr

theorem pkcsUnpad_eq_ok_iff (hn : n < 256) : pkcsUnpad data n = .ok plain ↔ PaddedTo n data plain := by
  rcases List.eq_nil_or_concat data with rfl | ⟨front, last, rfl⟩
  · exact iff_of_false nofun fun h => h.ne_nil rfl
  rw [List.concat_eq_append, paddedTo_concat_iff hn]
  rcases pkcsUnpad_concat front last n with ⟨hfits, hok⟩ | ⟨hnot, herr⟩
  · rw [hok, Outcome.ok.injEq, and_iff_right hfits]
  · rw [herr]
    exact iff_of_false nofun fun h => hnot h.1

theorem pkcsUnpad_eq_unpadBlocks (hn : 0 < n) (hn' : n < 256) (hwhole : n ∣ data.length) :
    pkcsUnpad data n = Outcome.okOr (pkcs7UnpadBlocks n data) .decryptionFailed := by
  cases hblocks : pkcs7UnpadBlocks n data with
  | some plain =>
      rw [Outcome.okOr_some]
      exact (pkcsUnpad_eq_ok_iff hn').mpr ((pkcs7UnpadBlocks_eq_some_iff hn hn' hwhole).mp hblocks)
  | none =>
      rw [Outcome.okOr_none]
      refine (pkcsUnpad_cases data n).resolve_left ?_
      rintro ⟨plain, hplain⟩
      have hpadded := (pkcsUnpad_eq_ok_iff hn').mp hplain
      rw [(pkcs7UnpadBlocks_eq_some_iff hn hn' hwhole).mpr hpadded] at hblocks
      cases hblocks

theorem pkcsUnpad_length_le :
    Outcome.Oks (fun plain => plain.length ≤ data.length) (pkcsUnpad data n) := by
  refine Outcome.Oks.bind_right fun last => Outcome.Oks.bind_right fun _ => ?_
  refine Outcome.Oks.bind_right fun _ => Outcome.Oks.bind_right fun _ => ?_
  intro plain h
  obtain ⟨hat, -⟩ := getRange_eq_some_iff.mp (sliceRange_eq_ok_iff.mp h)
  have hle := hat.le
  omega

/-- The library unpads inside its CBC decryption; unpadding by hand after it comes to the same. -/
theorem decryptPadded_pkcs7_eq {keyLen : Nat} (hn : 0 < n) (hn' : n < 256) (c : CbcCipher keyLen n)
    (decryptor : Vector UInt8 keyLen × Vector UInt8 n) (buf : Bytes) :
    Outcome.okOr (c.decryptPadded (pkcs7UnpadBlocks n) decryptor buf) DpapiError.decryptionFailed = (do
      let out ← Outcome.okOr (c.decryptPadded noPaddingUnpadBlocks decryptor buf) .decryptionFailed
      pkcsUnpad out n) := by
  unfold CbcCipher.decryptPadded
  by_cases hwhole : buf.length % n = 0
  · have hdvd := Nat.dvd_of_mod_eq_zero hwhole
    have hlen := c.length_decrypt decryptor.1 decryptor.2 buf hdvd
    rw [if_neg (not_not.mpr hwhole), if_neg (not_not.mpr hwhole), noPaddingUnpadBlocks,
      Outcome.okOr_some, Outcome.ok_bind]
    exact (pkcsUnpad_eq_unpadBlocks hn hn' (hlen ▸ hdvd)).symm
  · rw [if_pos hwhole, if_pos hwhole]
    rfl

/-- What unpadding to blocks of `n` does with every byte list. -/
structure UnpadsPkcs7 (n : Nat) (unpad : Bytes → Outcome DpapiError Bytes) : Prop where
  ok_iff : ∀ data plain, unpad data = .ok plain ↔ PaddedTo n data plain
  unique : ∀ data plain plain', PaddedTo n data plain → PaddedTo n data plain' → plain = plain'
  err : ∀ data, (∀ plain, ¬PaddedTo n data plain) → unpad data = .err .decryptionFailed
  err_nil : unpad [] = .err .decryptionFailed
  ok_pad : ∀ plain, unpad (pkcs7Pad n plain) = .ok plain
  eq_unpadBlocks : ∀ data, n ∣ data.length →
    unpad data = Outcome.okOr (pkcs7UnpadBlocks n data) .decryptionFailed

/-- **The hand-written unpadder.** For every block size a padding byte can hold, unpadding accepts
exactly the padded data, with the one plaintext under it, and fails the decryption on everything else,
the empty list included. It undoes PKCS#7 padding, and on whole blocks it is the library's unpadder. -/
theorem pkcsUnpad_unpads (hn : 1 ≤ n) (hn' : n ≤ 255) :
    UnpadsPkcs7 n fun data => pkcsUnpad data n := by
  have hlt : n < 256 := by omega
  have hok : ∀ data plain, pkcsUnpad data n = .ok plain ↔ PaddedTo n data plain :=
    fun data plain => pkcsUnpad_eq_ok_iff hlt
  refine ⟨hok, fun data plain plain' => PaddedTo.unique hlt, ?_, rfl, ?_,
    fun data => pkcsUnpad_eq_unpadBlocks hn hlt⟩
  · intro data hnone
    refine (pkcsUnpad_cases data n).resolve_left ?_
    rintro ⟨plain, hplain⟩
    exact hnone plain ((hok data plain).mp hplain)
  · intro plain
    exact (hok _ _).mpr (.pad hn plain)

theorem pkcsUnpad_unpads_des : UnpadsPkcs7 8 fun data => pkcsUnpad data 8 :=
  pkcsUnpad_unpads (by decide) (by decide)

end Unpad

end DpapiForensic
