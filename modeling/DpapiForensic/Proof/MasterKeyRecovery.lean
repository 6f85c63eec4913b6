import DpapiForensic.Proof.Decryption
import DpapiForensic.Proof.KeyDerivation
import DpapiForensic.Proof.MasterKeyFile

/-!
# Recovering a master key undoes protecting it

The derivation loop computes the block function, so key and IV come out as they went in; the cleartext
is then cut at fixed offsets from both ends, and the truncated MAC found there is the one that was
stored.
-/

namespace DpapiForensic

open MasterKey

/-! ### The tables -/

section Tables

variable {env : Env} {digestLen : BlobHash → Nat}

theorem usesSha512_algId (hrows : env.nomicon.MasterKeyRows digestLen) (h : BlobHash) :
    usesSha512 env h.algId = .ok h.masterKeyModule := by
  cases h with
  | hmac => exact if_pos rfl
  | sha1 =>
      obtain ⟨row, hrow, hmodule, -⟩ := hrows.sha1_row
      rw [usesSha512, if_neg (by decide), BlobHash.algId, hrow, Option.map_some, hmodule]
      rfl
  | sha512 =>
      obtain ⟨row, hrow, hmodule, -⟩ := hrows.sha512_row
      rw [usesSha512, if_neg (by decide), BlobHash.algId, hrow, Option.map_some, hmodule]
      rfl

theorem exists_row_algId (hrows : env.nomicon.MasterKeyRows digestLen) (h : BlobHash) :
    ∃ row, env.nomicon.hashAlgInfo h.algId = some row ∧ row.digestLen = digestLen h := by
  cases h with
  | sha1 => exact hrows.sha1_row.imp fun row hrow => ⟨hrow.1, hrow.2.2⟩
  | hmac => exact hrows.hmac_row
  | sha512 => exact hrows.sha512_row.imp fun row hrow => ⟨hrow.1, hrow.2.2⟩

theorem prfAlg_isSha512 (hrows : env.nomicon.MasterKeyRows digestLen) (isSha512 : Bool) :
    (prfAlg env isSha512).isSha512 = isSha512 := by
  cases isSha512 with
  | false =>
      obtain ⟨row, hrow, hmodule, -⟩ := hrows.sha1_row
      simp [prfAlg, hashAlg, hrow, hmodule]
  | true =>
      obtain ⟨row, hrow, hmodule, -⟩ := hrows.sha512_row
      simp [prfAlg, hashAlg, hrow, hmodule]

theorem cipherAlgInfo_of_rows (hrows : env.nomicon.MasterKeyRows digestLen) (c : BlobCipher) :
    env.nomicon.cipherAlgInfo c.algId = some ⟨c.keyLen, c.blockLen⟩ := by
  cases c with
  | aes256 => exact hrows.aes256_row
  | tdes => exact hrows.tdes_row

theorem prf_toList (hrows : env.nomicon.MasterKeyRows digestLen) (isSha512 : Bool)
    (key msg : Bytes) :
    (env.crypto.hmac (prfAlg env isSha512).isSha512 key msg).toList
      = (env.crypto.hmac isSha512 key msg).toList := by
  rw [prfAlg_isSha512 hrows]

/-- Key material as the code derives it, for a key and IV of any table's size. -/
theorem deriveKey_masterKey_eq (hrows : env.nomicon.MasterKeyRows digestLen) (isSha512 : Bool)
    (passphrase salt : Bytes) {keylen : Nat} (hkeylen : keylen + 66 < 2 ^ 32) (count : UInt32) :
    MasterKey.deriveKey env isSha512 passphrase salt keylen count
      = .ok (keyStream (env.crypto.hmac isSha512 passphrase) salt count.toNat keylen) := by
  have hcounter : blockCount (macLen (prfAlg env isSha512).isSha512) keylen < 2 ^ 32 - 1 := by
    have hdiv := Nat.div_le_self (keylen + macLen (prfAlg env isSha512).isSha512 - 1)
      (macLen (prfAlg env isSha512).isSha512)
    have hlen := macLen_le (prfAlg env isSha512).isSha512
    unfold blockCount
    omega
  rw [deriveKey_eq_keyStream env isSha512 passphrase salt hcounter count, prfAlg_isSha512 hrows]

end Tables

/-! ### The sub-blob -/

section SubBlob

variable {env : Env} {data : Bytes}

theorem parseMasterKey_bytes {mk : MasterKey} (hslice : IsSlice mk.bytes) :
    parseMasterKey env mk.bytes = .ok mk := by
  have hall : BytesAt mk.bytes 0 mk.bytes := bytesAt_self
  have hlen : mk.bytes.length = 32 + mk.data.length := by
    simp only [MasterKey.bytes, List.length_append, length_le32, Vector.length_toList]
    omega
  simp only [MasterKey.bytes, bytesAt_append, length_le32, Vector.length_toList] at hall
  obtain ⟨hversion, hsalt, hrounds, hhash, hcipher, hpayload⟩ := hall
  rw [← MasterKey.bytes] at hversion hsalt hrounds hhash hcipher hpayload
  rw [parseMasterKey]
  refine Outcome.bind_of_ok (Outcome.failIf_of_not (by omega)) ?_
  refine Outcome.bind_of_ok (readU32_of_bytesAt hslice hversion) ?_
  refine Outcome.bind_of_ok (usizeAdd_of_lt (by omega)) ?_
  refine Outcome.bind_of_ok (hsalt.sliceRange_eq (by simp)) ?_
  refine Outcome.bind_of_ok (copyFromSlice_toList mk.salt) ?_
  refine Outcome.bind_of_ok (usizeAdd_of_lt (by omega)) ?_
  refine Outcome.bind_of_ok (readU32_of_bytesAt hslice hrounds) ?_
  refine Outcome.bind_of_ok (readU32_of_bytesAt hslice hhash) ?_
  refine Outcome.bind_of_ok (readU32_of_bytesAt hslice hcipher) ?_
  refine Outcome.bind_of_ok (hpayload.sliceRange_eq (by omega)) ?_
  rfl

end SubBlob

/-! ### The whole of it -/

section Recover

variable {env : Env} {digestLen : BlobHash → Nat} {p : MasterKeyProtection}

open MasterKeyProtection

def MasterKeyProtection.parsed (crypto : Crypto) (digestLen : BlobHash → Nat)
    (p : MasterKeyProtection) : MasterKeyFile where
  version := p.header.version
  guid := decodeUtf16le p.header.guid.toList
  policy := p.header.policy
  flags := p.header.flags
  masterKey := (p.subBlob crypto digestLen).bytes
  backupKey := p.backupKey
  credHist := p.credHist
  domainKey := p.domainKey

theorem length_file (crypto : Crypto) (digestLen : BlobHash → Nat) (p : MasterKeyProtection) :
    (p.file crypto digestLen).length = 128 + (p.subBlob crypto digestLen).bytes.length
      + p.backupKey.length + p.credHist.length + p.domainKey.length := by
  simp only [file, List.length_append, MasterKeyHeader.length_bytes]
  omega

theorem parse_file (hslice : IsSlice (p.file env.crypto digestLen)) :
    parseMasterkeyFile env (p.file env.crypto digestLen) = .ok (p.parsed env.crypto digestLen) := by
  have hall : BytesAt (p.file env.crypto digestLen) 0 (p.file env.crypto digestLen) :=
    bytesAt_self
  have hlen := length_file env.crypto digestLen p
  have hmax : (p.file env.crypto digestLen).length < 2 ^ 63 := hslice
  have hword : ∀ n, n ≤ (p.file env.crypto digestLen).length → (UInt64.ofNat n).toNat = n := by
    intro n hn
    rw [UInt64.toNat_ofNat', Nat.mod_eq_of_lt (by omega)]
  generalize hdata : p.file env.crypto digestLen = data at *
  rw [← hdata, file] at hall
  simp only [bytesAt_append, MasterKeyHeader.length_bytes, Nat.zero_add] at hall
  rw [← file, hdata] at hall
  obtain ⟨hheader, hmasterKey, hbackupKey, hcredHist, hdomainKey⟩ := hall
  rw [parse_eq_takeAll hslice hheader, takeAll]
  have hmasterKeyLen := hword (p.subBlob env.crypto digestLen).bytes.length (by omega)
  have hbackupKeyLen := hword p.backupKey.length (by omega)
  have hcredHistLen := hword p.credHist.length (by omega)
  have hdomainKeyLen := hword p.domainKey.length (by omega)
  simp only [lengths, hmasterKeyLen, hbackupKeyLen, hcredHistLen, hdomainKeyLen]
  refine Outcome.bind_of_ok (takeSub_of_bytesAt hslice hmasterKey rfl) ?_
  refine Outcome.bind_of_ok (takeSub_of_bytesAt hslice hbackupKey rfl) ?_
  refine Outcome.bind_of_ok (takeSub_of_bytesAt hslice hcredHist rfl) ?_
  exact Outcome.bind_of_ok (takeSub_of_bytesAt hslice hdomainKey rfl) rfl

theorem cbcDecryptNoPad_encrypt {keyLen blockLen : Nat} (c : CbcCipher keyLen blockLen)
    (key : Vector UInt8 keyLen) (iv : Vector UInt8 blockLen) {plain : Bytes}
    (h : blockLen ∣ plain.length) :
    cbcDecryptNoPad c key.toList iv.toList (c.encrypt key iv plain) = .ok plain := by
  rw [cbcDecryptNoPad, CbcCipher.newFromSlices_toList, Outcome.okOr_some, Outcome.ok_bind,
    c.decryptPadded_noPadding_encrypt (key, iv) h, Outcome.okOr_some]

theorem cbcDecryptNoPad_cipher (c : BlobCipher) (key : Vector UInt8 c.keyLen)
    (iv : Vector UInt8 c.blockLen) {plain : Bytes} (h : c.blockLen ∣ plain.length) :
    (if c.algId = calgAes256 then
        cbcDecryptNoPad env.crypto.aes256 key.toList iv.toList
          ((c.cbc env.crypto).encrypt key iv plain)
      else cbcDecryptNoPad env.crypto.tdesEde3 key.toList iv.toList
        ((c.cbc env.crypto).encrypt key iv plain)) = .ok plain := by
  cases c with
  | aes256 => exact (if_pos rfl).trans (cbcDecryptNoPad_encrypt env.crypto.aes256 key iv h)
  | tdes => exact (if_neg (by decide)).trans (cbcDecryptNoPad_encrypt env.crypto.tdesEde3 key iv h)

theorem keyLen_add_blockLen_le (c : BlobCipher) : c.keyLen + c.blockLen ≤ 48 := by
  cases c <;> decide

theorem length_storedHmac (hfits : digestLen p.hash ≤ macLen p.hash.masterKeyModule) :
    (p.storedHmac crypto digestLen).length = digestLen p.hash := by
  rw [storedHmac, List.length_take, Vector.length_toList]
  exact Nat.min_eq_left hfits

theorem length_cleartext (crypto : Crypto) (p : MasterKeyProtection)
    (hfits : digestLen p.hash ≤ macLen p.hash.masterKeyModule) :
    (p.cleartext crypto digestLen).length = 16 + digestLen p.hash + p.filler.length + 64 := by
  simp only [cleartext, List.length_append, Vector.length_toList, length_storedHmac hfits]
  omega

theorem length_keyIv (crypto : Crypto) (p : MasterKeyProtection) :
    (p.keyIv crypto).length = p.cipher.keyLen + p.cipher.blockLen := by
  simp [keyIv]

theorem sliceRange_cipherKey (crypto : Crypto) (p : MasterKeyProtection) :
    (sliceRange (p.keyIv crypto) 0 p.cipher.keyLen : Outcome DpapiError Bytes)
      = .ok (p.cipherKey crypto).toList := by
  have hlen := length_keyIv crypto p
  rw [sliceRange, getRange, if_pos ⟨Nat.zero_le _, by omega⟩]
  rfl

theorem sliceRange_iv (crypto : Crypto) (p : MasterKeyProtection) :
    (sliceRange (p.keyIv crypto) p.cipher.keyLen (p.cipher.keyLen + p.cipher.blockLen) :
      Outcome DpapiError Bytes) = .ok (p.iv crypto).toList := by
  have hlen := length_keyIv crypto p
  have hdrop : ((p.keyIv crypto).drop p.cipher.keyLen).length ≤
      p.cipher.keyLen + p.cipher.blockLen - p.cipher.keyLen := by
    rw [List.length_drop]
    omega
  rw [sliceRange, getRange, if_pos ⟨by omega, by omega⟩, List.take_of_length_le hdrop]
  rfl

theorem deriveKey_keyIv (hrows : env.nomicon.MasterKeyRows digestLen) (p : MasterKeyProtection) :
    MasterKey.deriveKey env p.hash.masterKeyModule (p.preKey env.crypto).toList p.salt.toList
      (p.cipher.keyLen + p.cipher.blockLen) p.rounds = .ok (p.keyIv env.crypto) := by
  have hle := keyLen_add_blockLen_le p.cipher
  exact deriveKey_masterKey_eq hrows _ _ _ (by omega) _

theorem cleartext_parts (p : MasterKeyProtection)
    (hfits : digestLen p.hash ≤ macLen p.hash.masterKeyModule) :
    BytesAt (p.cleartext env.crypto digestLen) 0 p.hmacSalt.toList ∧
      BytesAt (p.cleartext env.crypto digestLen) 16 (p.storedHmac env.crypto digestLen) ∧
      BytesAt (p.cleartext env.crypto digestLen) (16 + digestLen p.hash + p.filler.length)
        p.masterKey.toList := by
  have hall : BytesAt (p.cleartext env.crypto digestLen) 0 (p.cleartext env.crypto digestLen) :=
    bytesAt_self
  generalize hclear : p.cleartext env.crypto digestLen = clear at hall ⊢
  rw [← hclear, cleartext] at hall
  simp only [bytesAt_append, Vector.length_toList, Nat.zero_add, length_storedHmac hfits] at hall
  obtain ⟨hhmacSalt, hstored, -, hmasterKey⟩ := hall
  rw [← cleartext, hclear] at hhmacSalt hstored hmasterKey
  exact ⟨hhmacSalt, hstored, hmasterKey⟩

theorem derive_subBlob (hrows : env.nomicon.MasterKeyRows digestLen)
    (hfits : digestLen p.hash ≤ macLen p.hash.masterKeyModule)
    (halign : p.cipher.blockLen ∣ 16 + digestLen p.hash + p.filler.length + 64) :
    deriveMasterKeyFromPrekey env (p.subBlob env.crypto digestLen) (p.preKey env.crypto).toList
      = .ok p.masterKey := by
  obtain ⟨row, hrow, hdigest⟩ := exists_row_algId hrows p.hash
  have hkeyIv := keyLen_add_blockLen_le p.cipher
  have hkeyIvWord : p.cipher.keyLen + p.cipher.blockLen < 2 ^ 64 := by omega
  have hdigestLen : digestLen p.hash ≤ 64 := hrows.digestLen_le p.hash
  have hlen := length_cleartext env.crypto p hfits
  have hmasterKeyAt : (p.cleartext env.crypto digestLen).length - masterKeyLen
      = 16 + digestLen p.hash + p.filler.length := by
    unfold masterKeyLen
    omega
  obtain ⟨hhmacSalt, hstored, hmasterKey⟩ := @cleartext_parts env digestLen p hfits
  rw [deriveMasterKeyFromPrekey]
  refine Outcome.bind_of_ok (usesSha512_algId hrows p.hash) ?_
  refine Outcome.bind_of_ok
    (show Outcome.okOr _ _ = .ok (⟨p.cipher.keyLen, p.cipher.blockLen⟩ : CipherAlg) from
      Outcome.okOr_eq_ok_iff.mpr (cipherAlgInfo_of_rows hrows p.cipher)) ?_
  refine Outcome.bind_of_ok (Outcome.okOr_eq_ok_iff.mpr hrow) ?_
  rw [hdigest]
  refine Outcome.bind_of_ok (usizeAdd_of_lt hkeyIvWord) ?_
  refine Outcome.bind_of_ok (deriveKey_keyIv hrows p) ?_
  refine Outcome.bind_of_ok (sliceRange_cipherKey env.crypto p) ?_
  refine Outcome.bind_of_ok (usizeAdd_of_lt hkeyIvWord) ?_
  refine Outcome.bind_of_ok (sliceRange_iv env.crypto p) ?_
  refine Outcome.bind_of_ok (cbcDecryptNoPad_cipher p.cipher _ _ (by rw [hlen]; exact halign)) ?_
  -- the cleartext, cut from both ends
  refine Outcome.bind_of_ok (Outcome.failIf_of_not (by unfold masterKeyLen; omega)) ?_
  refine Outcome.bind_of_ok (usizeAdd_of_lt (by omega)) ?_
  refine Outcome.bind_of_ok (Outcome.failIf_of_not (by omega)) ?_
  refine Outcome.bind_of_ok
    (show sliceRange (p.cleartext env.crypto digestLen) _ _ = .ok p.masterKey.toList by
      rw [hmasterKeyAt, hmasterKey.sliceRange_eq (by rw [Vector.length_toList]; omega)]) ?_
  refine Outcome.bind_of_ok (hhmacSalt.sliceRange_eq (by simp)) ?_
  refine Outcome.bind_of_ok (hstored.sliceRange_eq (by rw [length_storedHmac hfits])) ?_
  refine Outcome.bind_of_ok rfl ?_
  refine Outcome.bind_of_ok rfl ?_
  refine Outcome.bind_of_ok (Outcome.failIf_of_not (not_not.mpr ?_)) (copyFromSlice_toList _)
  rw [prf_toList hrows, prf_toList hrows, getRange, if_pos]
  · rfl
  · rw [Vector.length_toList]
    exact ⟨Nat.zero_le _, hfits⟩

/-- **Recovery undoes protection of a master key.** -/
theorem derive_parse_file (env : Env) (digestLen : BlobHash → Nat)
    (hrows : env.nomicon.MasterKeyRows digestLen) (p : MasterKeyProtection)
    (hfits : digestLen p.hash ≤ macLen p.hash.masterKeyModule)
    (halign : p.cipher.blockLen ∣ 16 + digestLen p.hash + p.filler.length + 64)
    (hslice : IsSlice (p.file env.crypto digestLen)) :
    parseMasterkeyFile env (p.file env.crypto digestLen) = .ok (p.parsed env.crypto digestLen) ∧
      deriveMasterKeyFromPassword env (p.parsed env.crypto digestLen) p.sid p.password
        = .ok p.masterKey := by
  refine ⟨parse_file hslice, ?_⟩
  have hsub : IsSlice (p.subBlob env.crypto digestLen).bytes := by
    have hlen := length_file env.crypto digestLen p
    unfold IsSlice at hslice ⊢
    omega
  exact Outcome.bind_of_ok (parseMasterKey_bytes hsub) (derive_subBlob hrows hfits halign)

/-! ### A file made for a password -/

/-- A master-key file for the SID and password of the tests, with two rounds. -/
def passwordFile : MasterKeyProtection where
  header :=
    { version := 2, unk1 := 0, unk2 := 0
      guid := beVector 32 0x650061003900350065006200610038002d0062006100300030002d0034006500 ++
        beVector 32 0x310061002d0062003400330066002d0035003100650061003300300031003700 ++
        beVector 8 0x3100640031003100
      unknown := 0, policy := 0, flags := 6 }
  version := 2
  salt := beVector 16 0xf42f61ea0c9647bf403819898452089f
  rounds := 2
  hash := .sha512
  cipher := .aes256
  hmacSalt := beVector 16 0xbdc1f9592357353a2a3ebcf8cedc72bb
  filler := []
  masterKey :=
    beVector 32 0x682a9b8923ff4ca7ce0ef7e4cee061f0ff942cd31c7703ec60792740b2e7d0b1 ++
    beVector 32 0xb5115d1ff77e10b77e189e0d6e99d5b668190ecd44fa84e82e049f406e2c2a59
  backupKey := []
  credHist := []
  domainKey := []
  sid := "S-1-5-21-1455520393-2011455520393-2019809541-4133251990-500"
  password := "Admin456"

def passwordAnswers : KnownAnswers where
  sha1 := [(utf16leBytes "Admin456", beVector 20 0x7ca54db25c28c72a5ec9a43b08bf75937c8b5fc6)]
  hmacSha1 :=
    [((beBytes 20 0x7ca54db25c28c72a5ec9a43b08bf75937c8b5fc6,
        utf16leBytes passwordFile.sid ++ [0, 0]),
      beVector 20 0x742ab02b5f80ea5658ffecd49491f77e9b3c536a)]
  hmacSha512 :=
    [((beBytes 20 0x742ab02b5f80ea5658ffecd49491f77e9b3c536a, passwordFile.salt.toList ++ be32 1),
      beVector 32 0x68b1b4c90806db08689139e86178fde4534f5f4c9ba8fae9365e5e97b9b40208 ++
      beVector 32 0x1c12b64d99bb3a5c49d12ff42afc68e117e019d958c5ba6d6cee35bca897a463),
    ((beBytes 20 0x742ab02b5f80ea5658ffecd49491f77e9b3c536a,
        beBytes 32 0x68b1b4c90806db08689139e86178fde4534f5f4c9ba8fae9365e5e97b9b40208 ++
        beBytes 32 0x1c12b64d99bb3a5c49d12ff42afc68e117e019d958c5ba6d6cee35bca897a463),
      beVector 32 0x1ea64fc63169e8827002a596c611b6987b670bc31781611e0c6222322299c30c ++
      beVector 32 0xf9e761e1ead473af4c0074b31f17de9daf361c7e9a6e57b7cc50a0083080fc62),
    ((beBytes 20 0x742ab02b5f80ea5658ffecd49491f77e9b3c536a, passwordFile.hmacSalt.toList),
      beVector 32 0xe6d7beb165de9ec26eb6e9c2c26c9c122ceada1380f026fa1c90db0a747a9e7f ++
      beVector 32 0x40610f92cc7c3c6b2ba3353447adcd24145362b7f0cd6aeb118b9ae34b05dd82),
    ((beBytes 32 0xe6d7beb165de9ec26eb6e9c2c26c9c122ceada1380f026fa1c90db0a747a9e7f ++
        beBytes 32 0x40610f92cc7c3c6b2ba3353447adcd24145362b7f0cd6aeb118b9ae34b05dd82,
        passwordFile.masterKey.toList),
      beVector 32 0x2b14098ede82a3bdab3ede68135b1ece4da32f889659814086e8f8c891cff524 ++
      beVector 32 0x504c93f4b745f2496497a0409b66545d9d614040f799a4a240429af3ee3f079a)]
  aes256 := (CbcCipher.identity 32 16).withAnswer
    (beVector 32 0x7617fb0f396f338a18939c7ea7694b7c2828548f8c299bf73a3c7ca59b2dc104)
    (beVector 16 0xe5f5d7ac736f49f305d15b4735ebb67c)
    (passwordFile.hmacSalt.toList ++
      (beBytes 32 0x2b14098ede82a3bdab3ede68135b1ece4da32f889659814086e8f8c891cff524 ++
        beBytes 32 0x504c93f4b745f2496497a0409b66545d9d614040f799a4a240429af3ee3f079a ++
        passwordFile.masterKey.toList))
    (beBytes 32 0x579352272a4c260c400be710116f0c1177424c9b5638c0068f62fced9f5e233a ++
      beBytes 32 0x205bba244cf40bb6239fbc8c6b904af86b079eea45dbcf3bdad167592ba9694a ++
      beBytes 32 0xfff0c94b740280537a5fb5e74f3133327530fa053c23e75821e483ec24b9221b ++
      beBytes 32 0x6a64ddfdb3ba863ce8cb355f1ee067b474732ff7a3a748bbd2474aa2c86023b7 ++
      beBytes 16 0xa6162c1ad7cc0137b6e5995d95cbe7cb)
    (by decide +kernel)

/-- The digest lengths of the linked tables. -/
def linkedDigestLen : BlobHash → Nat
  | .sha1 => 20
  | .hmac => 64
  | .sha512 => 64

theorem linkedTables_masterKeyRows : linkedTables.MasterKeyRows linkedDigestLen where
  sha1_row := ⟨_, rfl, rfl, rfl⟩
  hmac_row := ⟨_, rfl, rfl⟩
  sha512_row := ⟨_, rfl, rfl, rfl⟩
  digestLen_le h := by cases h <;> decide
  aes256_row := rfl
  tdes_row := rfl

def passwordFileBytes : Bytes :=
  beBytes 32 0x020000000000000000000000650061003900350065006200610038002d006200 ++
    beBytes 32 0x6100300030002d0034006500310061002d0062003400330066002d0035003100 ++
    beBytes 32 0x6500610033003000310037003100640031003100000000000000000006000000 ++
    beBytes 32 0xb000000000000000000000000000000000000000000000000000000000000000 ++
    beBytes 32 0x02000000f42f61ea0c9647bf403819898452089f020000000e80000010660000 ++
    beBytes 32 0x579352272a4c260c400be710116f0c1177424c9b5638c0068f62fced9f5e233a ++
    beBytes 32 0x205bba244cf40bb6239fbc8c6b904af86b079eea45dbcf3bdad167592ba9694a ++
    beBytes 32 0xfff0c94b740280537a5fb5e74f3133327530fa053c23e75821e483ec24b9221b ++
    beBytes 32 0x6a64ddfdb3ba863ce8cb355f1ee067b474732ff7a3a748bbd2474aa2c86023b7 ++
    beBytes 16 0xa6162c1ad7cc0137b6e5995d95cbe7cb

theorem passwordFile_bytes :
    passwordFile.file passwordAnswers.env.crypto linkedDigestLen = passwordFileBytes := by
  decide +kernel

theorem derive_parse_passwordFile :
    parseMasterkeyFile passwordAnswers.env passwordFileBytes
        = .ok (passwordFile.parsed passwordAnswers.env.crypto linkedDigestLen) ∧
      deriveMasterKeyFromPassword passwordAnswers.env
          (passwordFile.parsed passwordAnswers.env.crypto linkedDigestLen)
          passwordFile.sid passwordFile.password = .ok passwordFile.masterKey := by
  rw [← passwordFile_bytes]
  refine derive_parse_file passwordAnswers.env linkedDigestLen linkedTables_masterKeyRows
    passwordFile (by decide) (by decide +kernel) ?_
  rw [passwordFile_bytes]
  unfold IsSlice
  decide +kernel

end Recover

end DpapiForensic
