import DpapiForensic.Layout.Artifacts

/-!
# The wrapper and cleartext parsers accept exactly their formats

Bare reads and saturating cursors run past the end unnoticed, but each parser ends in a length-prefixed
read, and behind its success everything that came before was in range.
-/

namespace DpapiForensic

variable {env : Env} {fallback : UInt32} {data bs : Bytes} {pos next len : Nat}

/-! ### The vault's readers -/

namespace Vault

theorem readU32_eq (h : pos + 4 < 2 ^ 64) :
    readU32 env fallback data pos = .ok (u32At fallback data pos (pos + 4), pos + 4) := by
  simp only [readU32, usizeAdd_of_lt h, saturatingAdd_of_lt h, Outcome.ok_bind, Outcome.pure_eq]

theorem takeBytes_eq_ok_iff (h : pos + len < 2 ^ 64) :
    takeBytes data pos len = .ok (bs, next) ↔
      BytesAt data pos bs ∧ bs.length = len ∧ next = pos + len := by
  rw [takeBytes, checkedAdd_of_lt h, Outcome.okOr_some, Outcome.ok_bind]
  simp only [Outcome.bind_eq_ok_iff, Outcome.okOr_eq_ok_iff, getRange_eq_some_iff, Outcome.pure_eq,
    Outcome.ok.injEq, Prod.mk.injEq]
  constructor
  · rintro ⟨slice, ⟨hslice, hstop⟩, rfl, rfl⟩
    exact ⟨hslice, by omega, rfl⟩
  · rintro ⟨hbs, rfl, rfl⟩
    exact ⟨bs, ⟨hbs, rfl⟩, rfl, rfl⟩

theorem takeBytes_ne_panic : takeBytes data pos len ≠ .panic := by
  refine Outcome.bind_ne_panic Outcome.okOr_ne_panic fun stop _ => ?_
  refine Outcome.bind_ne_panic Outcome.okOr_ne_panic fun slice _ => ?_
  simp

theorem takeBytes_u32At_eq_ok_iff (h : pos < 2 ^ 63 + 64) :
    takeBytes data (pos + 4) (u32At fallback data pos (pos + 4)).toNat = .ok (bs, next) ↔
      bs.length < 2 ^ 32 ∧ BytesAt data pos (lp bs) ∧ next = pos + (lp bs).length := by
  have hlen := (u32At fallback data pos (pos + 4)).toNat_lt
  rw [takeBytes_eq_ok_iff (by omega), ← and_assoc, ← and_assoc, ← bytesAt_lp_iff fallback]
  apply and_congr_right
  intro hlp
  rw [((bytesAt_lp_iff fallback).mp hlp).2.symm, length_lp, Nat.add_assoc]

theorem advance_eq_ok_iff (hdata : IsSlice data) :
    advance pos len data.length = .ok next ↔ pos + len ≤ data.length ∧ next = pos + len := by
  unfold IsSlice at hdata
  by_cases h : pos + len < 2 ^ 64
  · rw [advance, checkedAdd_of_lt h, Outcome.okOr_some, Outcome.ok_bind]
    simp only [Outcome.bind_eq_ok_iff, Outcome.failIf_eq_ok_iff, Outcome.pure_eq, Outcome.ok.injEq,
      gt_iff_lt, not_lt, exists_const, eq_comm (a := pos + len)]
  · rw [advance, checkedAdd, if_neg h]
    simp
    omega

theorem advance_ne_panic {total : Nat} : advance pos len total ≠ .panic := by
  refine Outcome.bind_ne_panic Outcome.okOr_ne_panic fun stop _ => ?_
  refine Outcome.bind_ne_panic Outcome.failIf_ne_panic fun _ _ => ?_
  simp

theorem readIdLenUtf16_exact : Reader.Exact (readIdLenUtf16 env fallback) WireTriple.bytes
    fun w => decodeUtf16le w.value.val where
  ok_iff := by
    intro data pos _ hpos text next
    rw [readIdLenUtf16, readU32_eq (by omega), Outcome.ok_bind]
    simp only
    rw [readU32_eq (by omega), Outcome.ok_bind, Outcome.bind_eq_ok_iff]
    simp only
    constructor
    · rintro ⟨⟨slice, stop⟩, htake, h⟩
      obtain ⟨hlt, hslice, rfl⟩ := (takeBytes_u32At_eq_ok_iff (by omega)).mp htake
      have hle := hslice.le
      rw [length_lp] at hle
      obtain ⟨rfl, rfl⟩ := Prod.mk.inj (Outcome.ok.inj h)
      refine ⟨⟨u32At fallback data pos (pos + 4), ⟨slice, hlt⟩⟩, ?_, rfl, ?_⟩
      · rw [WireTriple.bytes, bytesAt_append, length_le32]
        exact ⟨bytesAt_u32At (by omega), hslice⟩
      · rw [WireTriple.length_bytes, length_lp]
        change pos + 4 + (4 + slice.length) = pos + (8 + slice.length)
        omega
    · rintro ⟨w, hw, rfl, rfl⟩
      rw [WireTriple.bytes, bytesAt_append, length_le32] at hw
      refine ⟨_, (takeBytes_u32At_eq_ok_iff (by omega)).mpr ⟨w.value.property, hw.2, rfl⟩, ?_⟩
      rw [Outcome.pure_eq, WireTriple.length_bytes, length_lp]
      congr 2
      omega
  ne_panic := by
    intro data pos _ hpos
    rw [readIdLenUtf16, readU32_eq (by omega), Outcome.ok_bind]
    simp only
    rw [readU32_eq (by omega), Outcome.ok_bind]
    exact Outcome.bind_ne_panic takeBytes_ne_panic fun _ _ => by simp

theorem readBcryptKey_eq (h : pos < 2 ^ 63) :
    readBcryptKey env fallback data pos = takeBytes data (pos + 4 + 4 + 4 + 4 + 4 + 4)
      (u32At fallback data (pos + 4 + 4 + 4 + 4 + 4) (pos + 4 + 4 + 4 + 4 + 4 + 4)).toNat := by
  rw [readBcryptKey]
  refine Outcome.bind_of_ok (readU32_eq (by omega)) ?_
  refine Outcome.bind_of_ok (readU32_eq (by omega)) ?_
  refine Outcome.bind_of_ok (readU32_eq (by omega)) ?_
  refine Outcome.bind_of_ok (readU32_eq (by omega)) ?_
  refine Outcome.bind_of_ok (readU32_eq (by omega)) ?_
  exact Outcome.bind_of_ok (readU32_eq (by omega)) rfl

theorem readBcryptKey_exact : Reader.Exact (readBcryptKey env fallback) WireKeyWrap.bytes
    fun w => w.bKey.val where
  ok_iff := by
    intro data pos _ hpos key next
    rw [readBcryptKey_eq hpos]
    constructor
    · intro htake
      obtain ⟨hlt, hkey, rfl⟩ := (takeBytes_u32At_eq_ok_iff (by omega)).mp htake
      have hle := hkey.le
      rw [length_lp] at hle
      refine ⟨⟨u32At fallback data pos (pos + 4), u32At fallback data (pos + 4) (pos + 4 + 4),
        u32At fallback data (pos + 4 + 4) (pos + 4 + 4 + 4),
        u32At fallback data (pos + 4 + 4 + 4) (pos + 4 + 4 + 4 + 4),
        u32At fallback data (pos + 4 + 4 + 4 + 4) (pos + 4 + 4 + 4 + 4 + 4), ⟨key, hlt⟩⟩, ?_, rfl, ?_⟩
      · simp only [WireKeyWrap.bytes, bytesAt_append, length_le32]
        exact ⟨bytesAt_u32At (by omega), bytesAt_u32At (by omega), bytesAt_u32At (by omega),
          bytesAt_u32At (by omega), bytesAt_u32At (by omega), hkey⟩
      · rw [WireKeyWrap.length_bytes, length_lp]
        change pos + 4 + 4 + 4 + 4 + 4 + (4 + key.length) = pos + (24 + key.length)
        omega
    · rintro ⟨w, hw, rfl, rfl⟩
      simp only [WireKeyWrap.bytes, bytesAt_append, length_le32] at hw
      rw [takeBytes_u32At_eq_ok_iff (by omega), WireKeyWrap.length_bytes, length_lp]
      exact ⟨w.bKey.property, hw.2.2.2.2.2, by omega⟩
  ne_panic := by
    intro data pos _ hpos
    rw [readBcryptKey_eq hpos]
    exact takeBytes_ne_panic

end Vault

open Vault

/-! ### The vault's formats -/

/-- The policy parser after its description: 12 bytes, a word, 32 bytes, and the blob. -/
theorem parseVpolFileWith_eq_ok_iff (hdata : IsSlice data) {blob : Bytes} :
    parseVpolFileWith env fallback data = .ok blob ↔
      ∃ w : WireVpol, BytesAt data 0 w.bytes ∧ blob = w.blob.val := by
  have hmax : data.length < 2 ^ 63 := hdata
  have hdescLen := (u32At fallback data 20 24).toNat_lt
  rw [parseVpolFileWith, readU32_eq (by omega), Outcome.ok_bind]
  simp only [Nat.zero_add]
  rw [saturatingAdd_of_lt (by omega), readU32_eq (by omega), Outcome.ok_bind]
  simp only [Outcome.bind_eq_ok_iff, advance_eq_ok_iff hdata, Nat.reduceAdd]
  constructor
  · rintro ⟨_, ⟨hdesc, rfl⟩, _, ⟨hunknown, rfl⟩, ⟨size, p⟩, hsize, _, ⟨hguids, rfl⟩, ⟨keySize, q⟩,
      hkeySize, ⟨slice, stop⟩, htake, h⟩
    rw [readU32_eq (by omega)] at hsize hkeySize
    obtain ⟨rfl, rfl⟩ := Prod.mk.inj (Outcome.ok.inj hsize)
    obtain ⟨rfl, rfl⟩ := Prod.mk.inj (Outcome.ok.inj hkeySize)
    obtain ⟨hblobLt, hblob, -⟩ := (takeBytes_u32At_eq_ok_iff (by omega)).mp htake
    obtain ⟨guid, hguid⟩ := exists_array_at data 4 16 (by omega)
    obtain ⟨description, hdescription, hdescLen⟩ := exists_bytesAt _ hdesc
    obtain ⟨hdescLt, hdescription⟩ := (bytesAt_lp_iff fallback).mpr ⟨hdescription, hdescLen⟩
    simp only [← hdescLen] at hunknown hguids hblob
    have hblobLe := hblob.le
    rw [length_lp] at hblobLe
    obtain ⟨unknown, hunknown⟩ := exists_array_at data _ 12 hunknown
    obtain ⟨guid2, hguid2⟩ := exists_array_at data (24 + description.length + 12 + 4) 16 (by omega)
    obtain ⟨guid3, hguid3⟩ := exists_array_at data (24 + description.length + 12 + 4 + 16) 16
      (by omega)
    refine ⟨⟨u32At fallback data 0 4, guid, ⟨description, hdescLt⟩, unknown,
      u32At fallback data (24 + description.length + 12) (24 + description.length + 12 + 4), guid2,
      guid3, ⟨slice, hblobLt⟩⟩, ?_, (Outcome.ok.inj h).symm⟩
    simp only [WireVpol.bytes, bytesAt_append, length_le32, length_lp, Vector.length_toList,
      ← Nat.add_assoc, Nat.zero_add, Nat.reduceAdd]
    exact ⟨bytesAt_u32At (by omega), hguid, hdescription, hunknown, bytesAt_u32At (by omega), hguid2,
      hguid3, hblob⟩
  · rintro ⟨w, hw, rfl⟩
    simp only [WireVpol.bytes, bytesAt_append, length_le32, length_lp, Vector.length_toList,
      ← Nat.add_assoc, Nat.zero_add, Nat.reduceAdd] at hw
    obtain ⟨-, -, hdescription, hunknown, -, -, hguid3, hblob⟩ := hw
    have hguid3Le := hguid3.le
    rw [Vector.length_toList] at hguid3Le
    rw [← ((bytesAt_lp_iff fallback).mp ⟨w.description.property, hdescription⟩).2]
    exact ⟨_, ⟨by omega, rfl⟩, _, ⟨by omega, rfl⟩, _, readU32_eq (by omega), _, ⟨by omega, rfl⟩, _,
      readU32_eq (by omega), _,
      (takeBytes_u32At_eq_ok_iff (by omega)).mpr ⟨w.blob.property, hblob, rfl⟩, rfl⟩

theorem parseVpolFileWith_ne_panic (hdata : IsSlice data) :
    parseVpolFileWith env fallback data ≠ .panic := by
  have hmax : data.length < 2 ^ 63 := hdata
  rw [parseVpolFileWith, readU32_eq (by omega), Outcome.ok_bind]
  simp only [Nat.zero_add]
  rw [saturatingAdd_of_lt (by omega), readU32_eq (by omega), Outcome.ok_bind]
  refine Outcome.bind_ne_panic advance_ne_panic fun p hp => ?_
  obtain ⟨-, rfl⟩ := (advance_eq_ok_iff hdata).mp hp
  refine Outcome.bind_ne_panic advance_ne_panic fun p hp => ?_
  obtain ⟨hle, rfl⟩ := (advance_eq_ok_iff hdata).mp hp
  rw [readU32_eq (by omega), Outcome.ok_bind]
  refine Outcome.bind_ne_panic advance_ne_panic fun p hp => ?_
  obtain ⟨hle, rfl⟩ := (advance_eq_ok_iff hdata).mp hp
  rw [readU32_eq (by omega), Outcome.ok_bind]
  exact Outcome.bind_ne_panic takeBytes_ne_panic fun _ _ => by simp

theorem readVpolKeysWith_eq_ok_iff (hdata : IsSlice data) {keys : VaultVpolKeys} :
    readVpolKeysWith env fallback data = .ok keys ↔
      ∃ w : WireVpolKeys, BytesAt data 0 w.bytes ∧ keys = w.toKeys := by
  have hmax : data.length < 2 ^ 63 := hdata
  rw [readVpolKeysWith, readBcryptKey_exact.bind_eq_ok_iff hdata (by decide)]
  constructor
  · rintro ⟨wrap1, h₁, h⟩
    have hle := h₁.le
    obtain ⟨wrap2, h₂, h⟩ := (readBcryptKey_exact.bind_eq_ok_iff hdata (by omega)).mp h
    exact ⟨⟨wrap1, wrap2⟩, bytesAt_append.mpr ⟨h₁, h₂⟩, (Outcome.ok.inj h).symm⟩
  · rintro ⟨w, hw, rfl⟩
    obtain ⟨h₁, h₂⟩ := bytesAt_append.mp hw
    have hle := h₁.le
    exact ⟨w.wrap1, h₁, (readBcryptKey_exact.bind_eq_ok_iff hdata (by omega)).mpr ⟨w.wrap2, h₂, rfl⟩⟩

theorem readVpolKeysWith_ne_panic (hdata : IsSlice data) :
    readVpolKeysWith env fallback data ≠ .panic := by
  have hmax : data.length < 2 ^ 63 := hdata
  refine readBcryptKey_exact.bind_ne_panic hdata (by decide) fun key1 next hnext => ?_
  refine readBcryptKey_exact.bind_ne_panic hdata (by omega) fun key2 next hnext => ?_
  simp

theorem parseInternetExplorerWith_eq_ok_iff (hdata : IsSlice data) {cred : WebCredential} :
    parseInternetExplorerWith env fallback data = .ok cred ↔
      ∃ w : WireWebCredential, BytesAt data 0 w.bytes ∧ cred = w.toWebCredential := by
  have hmax : data.length < 2 ^ 63 := hdata
  rw [parseInternetExplorerWith, readIdLenUtf16_exact.bind_eq_ok_iff hdata (by decide)]
  constructor
  · rintro ⟨username, h₁, h⟩
    have hle₁ := h₁.le
    obtain ⟨resource, h₂, h⟩ := (readIdLenUtf16_exact.bind_eq_ok_iff hdata (by omega)).mp h
    have hle₂ := h₂.le
    obtain ⟨password, h₃, h⟩ := (readIdLenUtf16_exact.bind_eq_ok_iff hdata (by omega)).mp h
    -- the header is skipped unread, but the first triple stands behind it
    obtain ⟨version, hversion⟩ := exists_le32_at data 0 (by omega)
    obtain ⟨count, hcount⟩ := exists_le32_at data 4 (by omega)
    obtain ⟨unknown, hunknown⟩ := exists_le32_at data 8 (by omega)
    refine ⟨⟨version, count, unknown, username, resource, password⟩, ?_, (Outcome.ok.inj h).symm⟩
    simp only [WireWebCredential.bytes, WireWebCredential.header, bytesAt_append, List.length_append,
      length_le32, Nat.zero_add, Nat.reduceAdd]
    exact ⟨⟨hversion, hcount, hunknown⟩, h₁, h₂, h₃⟩
  · rintro ⟨w, hw, rfl⟩
    simp only [WireWebCredential.bytes, bytesAt_append, WireWebCredential.length_header,
      Nat.zero_add] at hw
    obtain ⟨-, h₁, h₂, h₃⟩ := hw
    have hle₁ := h₁.le
    have hle₂ := h₂.le
    refine ⟨w.username, h₁, ?_⟩
    refine (readIdLenUtf16_exact.bind_eq_ok_iff hdata (by omega)).mpr ⟨w.resource, h₂, ?_⟩
    exact (readIdLenUtf16_exact.bind_eq_ok_iff hdata (by omega)).mpr ⟨w.password, h₃, rfl⟩

theorem parseInternetExplorerWith_ne_panic (hdata : IsSlice data) :
    parseInternetExplorerWith env fallback data ≠ .panic := by
  have hmax : data.length < 2 ^ 63 := hdata
  refine readIdLenUtf16_exact.bind_ne_panic hdata (by decide) fun _ next hnext => ?_
  refine readIdLenUtf16_exact.bind_ne_panic hdata (by omega) fun _ next hnext => ?_
  refine readIdLenUtf16_exact.bind_ne_panic hdata (by omega) fun _ next hnext => ?_
  simp

/-! ### Credential Manager -/

namespace Credential

theorem readU32_eq (h : pos + 4 < 2 ^ 64) :
    readU32 env fallback data pos = .ok (u32At fallback data pos (pos + 4)) := by
  rw [readU32, usizeAdd_of_lt h, Outcome.ok_bind, Outcome.pure_eq]

theorem readLenPrefixedUtf16_exact : Reader.Exact (readLenPrefixedUtf16 env fallback)
    (fun field : Field => lp field.val) fun field => decodeUtf16le field.val where
  ok_iff := by
    intro data pos _ hpos text next
    have hlen := (u32At fallback data pos (pos + 4)).toNat_lt
    rw [readLenPrefixedUtf16, readU32_eq (by omega), Outcome.ok_bind, checkedAdd_of_lt (by omega),
      Outcome.okOr_some, Outcome.ok_bind, checkedAdd_of_lt (by omega), Outcome.okOr_some,
      Outcome.ok_bind]
    simp only [Outcome.bind_eq_ok_iff, Outcome.okOr_eq_ok_iff, getRange_eq_some_iff, Outcome.pure_eq,
      Outcome.ok.injEq, Prod.mk.injEq]
    constructor
    · rintro ⟨slice, ⟨hslice, hstop⟩, rfl, rfl⟩
      obtain ⟨hlt, hfield⟩ := (bytesAt_lp_iff fallback).mpr ⟨hslice, by omega⟩
      refine ⟨⟨slice, hlt⟩, hfield, rfl, ?_⟩
      rw [length_lp]
      change _ = pos + (4 + slice.length)
      omega
    · rintro ⟨field, hfield, rfl, rfl⟩
      obtain ⟨hslice, hfieldLen⟩ := (bytesAt_lp_iff fallback).mp ⟨field.property, hfield⟩
      rw [← hfieldLen, length_lp]
      exact ⟨field.val, ⟨hslice, rfl⟩, rfl, by omega⟩
  ne_panic := by
    intro data pos _ hpos
    rw [readLenPrefixedUtf16, readU32_eq (by omega), Outcome.ok_bind]
    refine Outcome.bind_ne_panic Outcome.okOr_ne_panic fun _ _ => ?_
    refine Outcome.bind_ne_panic Outcome.okOr_ne_panic fun _ _ => ?_
    exact Outcome.bind_ne_panic Outcome.okOr_ne_panic fun _ _ => by simp

end Credential

open Credential

theorem parseCredentialFileWith_eq_ok_iff {blob : Bytes} :
    parseCredentialFileWith env fallback data = .ok blob ↔
      ∃ w : WireCredentialFile, BytesAt data 0 w.bytes ∧ blob = w.data.val := by
  have hlen := (u32At fallback data 4 8).toNat_lt
  rw [parseCredentialFileWith, Credential.readU32_eq (by decide), Outcome.ok_bind]
  simp only [Nat.reduceAdd]
  rw [checkedAdd_of_lt (by omega), Outcome.okOr_some, Outcome.ok_bind]
  simp only [Outcome.okOr_eq_ok_iff, getRange_eq_some_iff, Nat.add_left_cancel_iff]
  constructor
  · rintro ⟨hblob, hsize⟩
    have hle := hblob.le
    obtain ⟨version, hversion⟩ := exists_le32_at data 0 (by omega)
    obtain ⟨unknown, hunknown⟩ := exists_le32_at data 8 (by omega)
    refine ⟨⟨version, unknown, ⟨blob, by omega⟩⟩, ?_, rfl⟩
    simp only [WireCredentialFile.bytes, bytesAt_append, length_le32, Nat.zero_add, Nat.reduceAdd]
    rw [← hsize, UInt32.ofNat_toNat]
    exact ⟨hversion, bytesAt_u32At (by omega), hunknown, hblob⟩
  · rintro ⟨w, hw, rfl⟩
    simp only [WireCredentialFile.bytes, bytesAt_append, length_le32, Nat.zero_add,
      Nat.reduceAdd] at hw
    obtain ⟨-, hsize, -, hblob⟩ := hw
    exact ⟨hblob, by rw [u32At_of_bytesAt hsize, toNat_ofNat_length w.data.property]⟩

theorem parseCredentialFileWith_ne_panic : parseCredentialFileWith env fallback data ≠ .panic := by
  rw [parseCredentialFileWith, Credential.readU32_eq (by decide), Outcome.ok_bind]
  exact Outcome.bind_ne_panic Outcome.okOr_ne_panic fun _ _ => by simp

theorem readU64_eq {fallback : UInt64} (h : pos + 8 < 2 ^ 64) :
    readU64 env fallback data pos = .ok (u64At fallback data pos (pos + 8)) := by
  rw [readU64, usizeAdd_of_lt h, Outcome.ok_bind, Outcome.pure_eq]

theorem parseCredentialBlobWith_eq_ok_iff {fallback64 : UInt64} (hdata : IsSlice data)
    {cred : Credential} :
    parseCredentialBlobWith env fallback fallback64 data = .ok cred ↔
      ∃ w : WireCredential, BytesAt data 0 w.bytes ∧ cred = w.toCredential := by
  have hmax : data.length < 2 ^ 63 := hdata
  rw [parseCredentialBlobWith]
  simp only
  constructor
  · intro h
    obtain ⟨_, hlen, h⟩ := Outcome.bind_eq_ok_iff.mp h
    rw [Outcome.failIf_eq_ok_iff, not_lt] at hlen
    obtain ⟨header, hheader⟩ := WireCredentialHeader.exists_at_zero hlen
    rw [readU64_eq (by decide), Outcome.ok_bind, u64At_of_bytesAt (header.lastWritten_at hheader)] at h
    obtain ⟨target, h₁, h⟩ :=
      (readLenPrefixedUtf16_exact.bind_eq_ok_iff hdata (by decide)).mp h
    have hle₁ := h₁.le
    obtain ⟨targetAlias, h₂, h⟩ :=
      (readLenPrefixedUtf16_exact.bind_eq_ok_iff hdata (by omega)).mp h
    have hle₂ := h₂.le
    obtain ⟨description, h₃, h⟩ :=
      (readLenPrefixedUtf16_exact.bind_eq_ok_iff hdata (by omega)).mp h
    have hle₃ := h₃.le
    obtain ⟨unknown, h₄, h⟩ := (readLenPrefixedUtf16_exact.bind_eq_ok_iff hdata (by omega)).mp h
    have hle₄ := h₄.le
    obtain ⟨username, h₅, h⟩ := (readLenPrefixedUtf16_exact.bind_eq_ok_iff hdata (by omega)).mp h
    refine ⟨⟨header, target, targetAlias, description, unknown, username⟩, ?_,
      (Outcome.ok.inj h).symm⟩
    simp only [WireCredential.bytes, bytesAt_append, WireCredentialHeader.length_bytes, Nat.zero_add]
    exact ⟨hheader, h₁, h₂, h₃, h₄, h₅⟩
  · rintro ⟨w, hw, rfl⟩
    simp only [WireCredential.bytes, bytesAt_append, WireCredentialHeader.length_bytes,
      Nat.zero_add] at hw
    obtain ⟨hheader, h₁, h₂, h₃, h₄, h₅⟩ := hw
    have hle := h₁.le
    refine Outcome.bind_of_ok (Outcome.failIf_of_not (by omega)) ?_
    refine Outcome.bind_of_ok (readU64_eq (by decide)) ?_
    refine Outcome.bind_of_ok (readLenPrefixedUtf16_exact.of_bytesAt hdata h₁) ?_
    refine Outcome.bind_of_ok (readLenPrefixedUtf16_exact.of_bytesAt hdata h₂) ?_
    refine Outcome.bind_of_ok (readLenPrefixedUtf16_exact.of_bytesAt hdata h₃) ?_
    refine Outcome.bind_of_ok (readLenPrefixedUtf16_exact.of_bytesAt hdata h₄) ?_
    refine Outcome.bind_of_ok (readLenPrefixedUtf16_exact.of_bytesAt hdata h₅) ?_
    rw [u64At_of_bytesAt (w.header.lastWritten_at hheader)]
    rfl

theorem parseCredentialBlobWith_ne_panic {fallback64 : UInt64} (hdata : IsSlice data) :
    parseCredentialBlobWith env fallback fallback64 data ≠ .panic := by
  have hmax : data.length < 2 ^ 63 := hdata
  refine Outcome.bind_ne_panic Outcome.failIf_ne_panic fun _ _ => ?_
  rw [readU64_eq (by decide), Outcome.ok_bind]
  refine readLenPrefixedUtf16_exact.bind_ne_panic hdata (by decide) fun _ next hnext => ?_
  refine readLenPrefixedUtf16_exact.bind_ne_panic hdata (by omega) fun _ next hnext => ?_
  refine readLenPrefixedUtf16_exact.bind_ne_panic hdata (by omega) fun _ next hnext => ?_
  refine readLenPrefixedUtf16_exact.bind_ne_panic hdata (by omega) fun _ next hnext => ?_
  refine readLenPrefixedUtf16_exact.bind_ne_panic hdata (by omega) fun _ next hnext => ?_
  simp

/-! ### The five parsers -/

/-- **The wrapper and cleartext parsers accept exactly their formats.** -/
theorem artifacts_parseExactly (env : Env) :
    ParsesExactly (parseCredentialFile env) (parseCredentialFileWith env)
      WireCredentialFile.bytes (fun w => w.data.val) ∧
    ParsesExactly (parseCredentialBlob env)
      (fun fallbacks : UInt32 × UInt64 => parseCredentialBlobWith env fallbacks.1 fallbacks.2)
      WireCredential.bytes WireCredential.toCredential ∧
    ParsesExactly (parseVpolFile env) (parseVpolFileWith env)
      WireVpol.bytes (fun w => w.blob.val) ∧
    ParsesExactly (readVpolKeysWith env 0) (readVpolKeysWith env)
      WireVpolKeys.bytes WireVpolKeys.toKeys ∧
    ParsesExactly (parseInternetExplorer env) (parseInternetExplorerWith env)
      WireWebCredential.bytes WireWebCredential.toWebCredential := by
  refine ⟨?_, ?_, ?_, ?_, ?_⟩
  · refine ParsesExactly.of_iff WireCredentialFile.selfDelimiting WireCredentialFile.isSlice_bytes 0 rfl
      ?_ ?_
    · intro fallback data _ blob
      exact parseCredentialFileWith_eq_ok_iff
    · intro data _
      exact parseCredentialFileWith_ne_panic
  · refine ParsesExactly.of_iff WireCredential.selfDelimiting WireCredential.isSlice_bytes (0, 0) rfl
      ?_ ?_
    · intro fallbacks data hdata cred
      exact parseCredentialBlobWith_eq_ok_iff hdata
    · intro data hdata
      exact parseCredentialBlobWith_ne_panic hdata
  · refine ParsesExactly.of_iff WireVpol.selfDelimiting WireVpol.isSlice_bytes 0 rfl ?_ ?_
    · intro fallback data hdata blob
      exact parseVpolFileWith_eq_ok_iff hdata
    · intro data hdata
      exact parseVpolFileWith_ne_panic hdata
  · refine ParsesExactly.of_iff WireVpolKeys.selfDelimiting WireVpolKeys.isSlice_bytes 0 rfl ?_ ?_
    · intro fallback data hdata keys
      exact readVpolKeysWith_eq_ok_iff hdata
    · intro data hdata
      exact readVpolKeysWith_ne_panic hdata
  · refine ParsesExactly.of_iff WireWebCredential.selfDelimiting WireWebCredential.isSlice_bytes 0 rfl
      ?_ ?_
    · intro fallback data hdata cred
      exact parseInternetExplorerWith_eq_ok_iff hdata
    · intro data hdata
      exact parseInternetExplorerWith_ne_panic hdata

end DpapiForensic
