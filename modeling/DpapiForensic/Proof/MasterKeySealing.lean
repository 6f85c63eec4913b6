import DpapiForensic.Layout.Sealing
import DpapiForensic.Proof.MasterKeyRecovery

/-!
# What a master key is recovered from

A master key comes out of a sub-blob precisely when the sub-blob is an encryption, under the key and IV that
its own fields and the pre-key derive, of a cleartext that ends in the master key and stores its MAC. The
code asks for no more than that the stored MAC and the master key each fit, so in a short cleartext the two
may overlap. Where they cannot, the sub-blob is one that protecting the master key makes.
-/

namespace DpapiForensic

open MasterKey

namespace MasterKey

variable (crypto : Crypto) (digestLen : BlobHash → Nat) (mk : MasterKey) (preKey : Bytes)

/-- Key and IV for the cipher, in a row. -/
def keyIv (h : BlobHash) (c : BlobCipher) : Bytes :=
  keyStream (crypto.hmac h.masterKeyModule preKey) mk.salt.toList mk.rounds.toNat
    (c.keyLen + c.blockLen)

def cipherKey (h : BlobHash) (c : BlobCipher) : Vector UInt8 c.keyLen :=
  ⟨((mk.keyIv crypto preKey h c).take c.keyLen).toArray, by simp [keyIv]⟩

def cipherIv (h : BlobHash) (c : BlobCipher) : Vector UInt8 c.blockLen :=
  ⟨((mk.keyIv crypto preKey h c).drop c.keyLen).toArray, by simp [keyIv]⟩

/-- The start of the MAC that guards a master key, keyed by the MAC of a salt under the pre-key. -/
def guardMac (h : BlobHash) (hmacSalt masterKey : Bytes) : Bytes :=
  (crypto.hmac h.masterKeyModule (crypto.hmac h.masterKeyModule preKey hmacSalt).toList
    masterKey).toList.take (digestLen h)

/-- The cleartext ends in the master key, and stores its MAC behind a salt of 16 bytes, as much of it as the
tables say, which must be no more than there is. -/
structure Guards (h : BlobHash) (clear : Bytes) (masterKey : Vector UInt8 64) : Prop where
  fits : digestLen h ≤ macLen h.masterKeyModule
  holds_key : masterKeyLen ≤ clear.length
  holds_mac : 16 + digestLen h ≤ clear.length
  ends : clear.drop (clear.length - masterKeyLen) = masterKey.toList
  stored : (clear.drop 16).take (digestLen h)
    = guardMac crypto digestLen preKey h (clear.take 16) masterKey.toList

/-- The sub-blob is an encryption of a cleartext that guards the master key. -/
def Protects (masterKey : Vector UInt8 64) : Prop :=
  ∃ (h : BlobHash) (c : BlobCipher) (clear : Bytes), mk.algIdHash = h.algId ∧
    mk.algIdEncrypt = c.algId ∧ c.blockLen ∣ clear.length ∧
    mk.data = (c.cbc crypto).encrypt (mk.cipherKey crypto preKey h c) (mk.cipherIv crypto preKey h c)
      clear ∧
    Guards crypto digestLen preKey h clear masterKey

end MasterKey

variable {env : Env} {digestLen : BlobHash → Nat} {mk : MasterKey} {preKey : Bytes}
  {masterKey : Vector UInt8 64}

/-! ### The steps of the recovery -/

section Steps

variable {h : BlobHash} {c : BlobCipher} {clear : Bytes}

theorem sliceRange_keyIv :
    (sliceRange (mk.keyIv env.crypto preKey h c) 0 c.keyLen : Outcome DpapiError Bytes)
        = .ok (mk.cipherKey env.crypto preKey h c).toList ∧
      (sliceRange (mk.keyIv env.crypto preKey h c) c.keyLen (c.keyLen + c.blockLen) :
        Outcome DpapiError Bytes) = .ok (mk.cipherIv env.crypto preKey h c).toList := by
  have hlen : (mk.keyIv env.crypto preKey h c).length = c.keyLen + c.blockLen := by simp [keyIv]
  constructor
  · rw [sliceRange_to (by omega)]
    rfl
  · rw [← hlen, sliceRange_from (by omega)]
    rfl

theorem cbcDecryptNoPad_eq_ok_iff {keyLen blockLen : Nat} (cbc : CbcCipher keyLen blockLen)
    {key : Vector UInt8 keyLen} {iv : Vector UInt8 blockLen} {data : Bytes} :
    cbcDecryptNoPad cbc key.toList iv.toList data = .ok clear ↔
      blockLen ∣ clear.length ∧ data = cbc.encrypt key iv clear := by
  constructor
  · intro hok
    rw [cbcDecryptNoPad, CbcCipher.newFromSlices_toList, Outcome.okOr_some, Outcome.ok_bind,
      Outcome.okOr_eq_ok_iff, CbcCipher.decryptPadded] at hok
    split at hok
    · cases hok
    rename_i hwhole
    have hdvd : blockLen ∣ data.length := Nat.dvd_of_mod_eq_zero (not_not.mp hwhole)
    obtain rfl : cbc.decrypt key iv data = clear := Option.some.inj hok
    refine ⟨?_, (cbc.encrypt_decrypt key iv hdvd).symm⟩
    rw [cbc.length_decrypt key iv data hdvd]
    exact hdvd
  · rintro ⟨hdvd, rfl⟩
    exact cbcDecryptNoPad_encrypt cbc key iv hdvd

theorem cipherDecrypt_eq_ok_iff {key : Vector UInt8 c.keyLen} {iv : Vector UInt8 c.blockLen}
    {data : Bytes} :
    (if c.algId = calgAes256 then cbcDecryptNoPad env.crypto.aes256 key.toList iv.toList data
      else cbcDecryptNoPad env.crypto.tdesEde3 key.toList iv.toList data) = .ok clear ↔
      c.blockLen ∣ clear.length ∧ data = (c.cbc env.crypto).encrypt key iv clear := by
  cases c with
  | aes256 =>
      rw [if_pos (show BlobCipher.aes256.algId = calgAes256 from rfl)]
      exact cbcDecryptNoPad_eq_ok_iff env.crypto.aes256
  | tdes =>
      rw [if_neg (show BlobCipher.tdes.algId ≠ calgAes256 by decide)]
      exact cbcDecryptNoPad_eq_ok_iff env.crypto.tdesEde3

/-- With the cleartext in hand, what is left to do is to look at its two ends. -/
theorem checkCleartext_eq_ok_iff (hrows : env.nomicon.MasterKeyRows digestLen) :
    (do
      Outcome.failIf (clear.length < masterKeyLen) .decryptionFailed
      let hmacStop ← usizeAdd env.profile 16 (digestLen h)
      Outcome.failIf (clear.length < hmacStop) .decryptionFailed
      let masterKeyBytes ← sliceRange clear (clear.length - masterKeyLen) clear.length
      let hmacSalt ← sliceRange clear 0 16
      let storedHmac ← sliceRange clear 16 hmacStop
      let hmacKey ← prf env h.masterKeyModule preKey hmacSalt
      let calcHmac ← prf env h.masterKeyModule hmacKey.toList masterKeyBytes
      Outcome.failIf (getRange calcHmac.toList 0 (digestLen h) ≠ some storedHmac) .hmacMismatch
      copyFromSlice 64 masterKeyBytes : Outcome DpapiError (Vector UInt8 64)) = .ok masterKey ↔
      Guards env.crypto digestLen preKey h clear masterKey := by
  have hdigest : digestLen h ≤ 64 := hrows.digestLen_le h
  rw [usizeAdd_of_lt (by omega)]
  by_cases hkey : clear.length < masterKeyLen
  · rw [Outcome.failIf_of hkey]
    exact iff_of_false Outcome.err_ne_ok fun hguards => absurd hguards.holds_key (not_le.mpr hkey)
  rw [Outcome.failIf_of_not hkey, Outcome.ok_bind, Outcome.ok_bind]
  by_cases hholds : clear.length < 16 + digestLen h
  · rw [Outcome.failIf_of hholds]
    exact iff_of_false Outcome.err_ne_ok fun hguards => absurd hguards.holds_mac (not_le.mpr hholds)
  rw [Outcome.failIf_of_not hholds, Outcome.ok_bind, sliceRange_from (Nat.sub_le _ _),
    Outcome.ok_bind, sliceRange_to (by omega), Outcome.ok_bind, sliceRange, getRange,
    if_pos ⟨by omega, by omega⟩]
  -- both MACs are computed, and the first bytes of the second compared
  change (do
      Outcome.failIf (getRange _ 0 (digestLen h) ≠ some _) DpapiError.hmacMismatch
      copyFromSlice 64 (clear.drop (clear.length - masterKeyLen))) = .ok masterKey ↔ _
  rw [prf_toList hrows, prf_toList hrows, getRange, Vector.length_toList, Nat.add_sub_cancel_left,
    Nat.sub_zero, List.drop_zero]
  by_cases hfits : digestLen h ≤ macLen h.masterKeyModule
  swap
  · -- a digest longer than the MAC is no part of it
    rw [if_neg fun hrange => hfits hrange.2, Outcome.failIf_of (Option.some_ne_none _).symm]
    exact iff_of_false Outcome.err_ne_ok fun hguards => absurd hguards.fits hfits
  rw [if_pos ⟨Nat.zero_le _, hfits⟩, Outcome.bind_eq_ok_iff]
  have hcopy : ∀ {slice : Bytes}, (copyFromSlice 64 slice : Outcome DpapiError (Vector UInt8 64))
      = .ok masterKey ↔ slice = masterKey.toList := by
    intro slice
    rw [copyFromSlice]
    cases hslice : tryIntoArray 64 slice with
    | none =>
        apply iff_of_false Outcome.panic_ne_ok
        rintro rfl
        rw [tryIntoArray_toList] at hslice
        cases hslice
    | some v =>
        obtain rfl := tryIntoArray_eq_some_iff.mp hslice
        rw [Outcome.ok.injEq, Vector.toList_inj]
  simp only [Outcome.failIf_eq_ok_iff, not_not, Option.some.injEq, exists_const, hcopy]
  constructor
  · rintro ⟨hstored, hends⟩
    exact ⟨hfits, not_lt.mp hkey, not_lt.mp hholds, hends, by rw [guardMac, ← hends]; exact hstored.symm⟩
  · intro hguards
    refine ⟨?_, hguards.ends⟩
    rw [hguards.stored, guardMac, hguards.ends]

end Steps

/-! ### The sub-blob -/

section SubBlob

variable {h : BlobHash} {c : BlobCipher}

theorem derive_eq_ok_iff_of_algs (hrows : env.nomicon.MasterKeyRows digestLen)
    (hhash : mk.algIdHash = h.algId) (hcipher : mk.algIdEncrypt = c.algId) :
    deriveMasterKeyFromPrekey env mk preKey = .ok masterKey ↔
      ∃ clear : Bytes, c.blockLen ∣ clear.length ∧
        mk.data = (c.cbc env.crypto).encrypt (mk.cipherKey env.crypto preKey h c)
          (mk.cipherIv env.crypto preKey h c) clear ∧
        Guards env.crypto digestLen preKey h clear masterKey := by
  obtain ⟨row, hrow, hdigest⟩ := exists_row_algId hrows h
  have hkeyIv := keyLen_add_blockLen_le c
  have hkeyIvWord : c.keyLen + c.blockLen < 2 ^ 64 := by omega
  obtain ⟨hkey, hiv⟩ := @sliceRange_keyIv env mk preKey h c
  have hcipherRow : Outcome.okOr (env.nomicon.cipherAlgInfo mk.algIdEncrypt)
      (DpapiError.unsupportedAlgId mk.algIdEncrypt) = .ok ⟨c.keyLen, c.blockLen⟩ := by
    rw [hcipher, cipherAlgInfo_of_rows hrows, Outcome.okOr_some]
  rw [deriveMasterKeyFromPrekey, hcipherRow, hhash, usesSha512_algId hrows, Outcome.ok_bind,
    Outcome.ok_bind, hrow, Outcome.okOr_some, Outcome.ok_bind, hdigest]
  simp only [usizeAdd_of_lt hkeyIvWord, Outcome.ok_bind, hcipher]
  rw [deriveKey_masterKey_eq hrows _ _ _ (by omega), Outcome.ok_bind]
  rw [keyIv] at hkey hiv
  rw [hkey, Outcome.ok_bind, hiv, Outcome.ok_bind, Outcome.bind_eq_ok_iff]
  simp only [cipherDecrypt_eq_ok_iff, and_assoc]
  exact exists_congr fun clear => and_congr_right fun _ => and_congr_right fun _ =>
    checkCleartext_eq_ok_iff hrows

theorem exists_hash_of_derive (himp : env.nomicon.IsImpacket)
    (hok : deriveMasterKeyFromPrekey env mk preKey = .ok masterKey) :
    (∃ h : BlobHash, mk.algIdHash = h.algId) ∧ ∃ c : BlobCipher, mk.algIdEncrypt = c.algId := by
  obtain ⟨_, -, hok⟩ := Outcome.bind_eq_ok_iff.mp hok
  obtain ⟨cipher, hcipher, hok⟩ := Outcome.bind_eq_ok_iff.mp hok
  obtain ⟨row, hrow, -⟩ := Outcome.bind_eq_ok_iff.mp hok
  have hrow := Outcome.okOr_eq_ok_iff.mp hrow
  have hcipher := Outcome.okOr_eq_ok_iff.mp hcipher
  refine ⟨?_, exists_cipher_of_isSome himp (Option.isSome_iff_exists.mpr ⟨cipher, hcipher⟩)⟩
  by_contra hne
  push Not at hne
  rw [himp.no_other_hash mk.algIdHash (hne .sha1) (hne .hmac) (hne .sha512)] at hrow
  cases hrow

theorem derive_eq_ok_iff_protects (himp : env.nomicon.IsImpacket)
    (hrows : env.nomicon.MasterKeyRows digestLen) :
    deriveMasterKeyFromPrekey env mk preKey = .ok masterKey ↔
      mk.Protects env.crypto digestLen preKey masterKey := by
  constructor
  · intro hok
    obtain ⟨⟨h, hhash⟩, c, hcipher⟩ := exists_hash_of_derive himp hok
    obtain ⟨clear, hwhole, hdata, hguards⟩ := (derive_eq_ok_iff_of_algs hrows hhash hcipher).mp hok
    exact ⟨h, c, clear, hhash, hcipher, hwhole, hdata, hguards⟩
  · rintro ⟨h, c, clear, hhash, hcipher, hwhole, hdata, hguards⟩
    exact (derive_eq_ok_iff_of_algs hrows hhash hcipher).mpr ⟨clear, hwhole, hdata, hguards⟩

/-- Under the linked tables, no master key is recovered from a sub-blob that names HMAC as its hash. -/
theorem derive_hmac_ne_ok (hnomicon : env.nomicon = linkedTables)
    (hhash : mk.algIdHash = BlobHash.hmac.algId) :
    deriveMasterKeyFromPrekey env mk preKey ≠ .ok masterKey := by
  intro hok
  obtain ⟨h, _, _, hhash', -, -, -, hguards⟩ :=
    (derive_eq_ok_iff_protects (hnomicon ▸ linkedTables_isImpacket)
      (hnomicon ▸ linkedTables_masterKeyRows)).mp hok
  obtain rfl : h = .hmac := by
    rw [← BlobHash.ofAlgId_algId h, ← hhash', hhash, BlobHash.ofAlgId_algId]
  exact absurd hguards.fits (by decide)

end SubBlob

/-! ### Where nothing overlaps -/

section Minted

variable {sid password : String}

/-- A cleartext with room for both its ends is a salt, a MAC, a filler and the master key. -/
theorem MasterKey.Guards.eq_append {h : BlobHash} {clear : Bytes}
    (hguards : Guards env.crypto digestLen preKey h clear masterKey)
    (hroom : 80 + digestLen h ≤ clear.length) :
    clear = clear.take 16 ++ (guardMac env.crypto digestLen preKey h (clear.take 16) masterKey.toList ++
      ((clear.drop (16 + digestLen h)).take (clear.length - (80 + digestLen h)) ++
        masterKey.toList)) := by
  have hdrop : ((clear.drop 16).drop (digestLen h)).drop (clear.length - (80 + digestLen h))
      = clear.drop (clear.length - masterKeyLen) := by
    rw [List.drop_drop, List.drop_drop]
    congr 1
    unfold masterKeyLen
    omega
  calc clear
      = clear.take 16 ++ clear.drop 16 := (List.take_append_drop 16 clear).symm
    _ = clear.take 16 ++ ((clear.drop 16).take (digestLen h) ++ (clear.drop 16).drop (digestLen h)) := by
        rw [List.take_append_drop (digestLen h)]
    _ = clear.take 16 ++ ((clear.drop 16).take (digestLen h) ++
          (((clear.drop 16).drop (digestLen h)).take (clear.length - (80 + digestLen h)) ++
            ((clear.drop 16).drop (digestLen h)).drop (clear.length - (80 + digestLen h)))) := by
        rw [List.take_append_drop (clear.length - (80 + digestLen h))]
    _ = _ := by
        rw [hdrop, hguards.ends, hguards.stored, List.drop_drop]

theorem protects_iff_subBlob (hrows : env.nomicon.MasterKeyRows digestLen) (h : BlobHash)
    (hhash : mk.algIdHash = h.algId) (hroom : 80 + digestLen h ≤ mk.data.length) :
    mk.Protects env.crypto digestLen (prekeyFromPassword env sid password).toList masterKey ↔
      digestLen h ≤ macLen h.masterKeyModule ∧
        ∃ p : MasterKeyProtection, p.sid = sid ∧ p.password = password ∧ p.masterKey = masterKey ∧
          p.cipher.blockLen ∣ (p.cleartext env.crypto digestLen).length ∧
          p.subBlob env.crypto digestLen = mk := by
  constructor
  · rintro ⟨h', c, clear, hhash', hcipher, hwhole, hdata, hguards⟩
    obtain rfl : h' = h := by
      rw [← BlobHash.ofAlgId_algId h', ← hhash', hhash, BlobHash.ofAlgId_algId]
    have hlen : mk.data.length = clear.length := by
      rw [hdata, (c.cbc env.crypto).length_encrypt _ _ _ hwhole]
    have hsalt : (clear.take 16).length = 16 := by
      have hholds := hguards.holds_mac
      rw [List.length_take]
      omega
    let p : MasterKeyProtection :=
      { header := { version := 0, unk1 := 0, unk2 := 0, guid := Vector.replicate 72 0, unknown := 0
                    policy := 0, flags := 0 }
        version := mk.version, salt := mk.salt, rounds := mk.rounds, hash := h', cipher := c
        hmacSalt := ⟨(clear.take 16).toArray, by simpa using hsalt⟩
        filler := (clear.drop (16 + digestLen h')).take (clear.length - (80 + digestLen h'))
        masterKey, backupKey := [], credHist := [], domainKey := [], sid, password }
    have hclear : p.cleartext env.crypto digestLen = clear :=
      (hguards.eq_append (hlen ▸ hroom)).symm
    refine ⟨hguards.fits, p, rfl, rfl, rfl, hclear ▸ hwhole, ?_⟩
    calc p.subBlob env.crypto digestLen
        = { mk with
            algIdHash := h'.algId
            algIdEncrypt := c.algId
            data := (c.cbc env.crypto).encrypt
              (mk.cipherKey env.crypto (prekeyFromPassword env sid password).toList h' c)
              (mk.cipherIv env.crypto (prekeyFromPassword env sid password).toList h' c) clear } := by
          rw [MasterKeyProtection.subBlob, hclear]
          rfl
      _ = mk := by
          rw [← hhash', ← hcipher, ← hdata]
  · rintro ⟨hfits, p, rfl, rfl, rfl, hwhole, rfl⟩
    obtain rfl : p.hash = h := by
      rw [← BlobHash.ofAlgId_algId h, ← hhash, MasterKeyProtection.subBlob, BlobHash.ofAlgId_algId]
    have halign : p.cipher.blockLen ∣ 16 + digestLen p.hash + p.filler.length + 64 :=
      length_cleartext env.crypto p hfits ▸ hwhole
    obtain ⟨clear, hclear⟩ :=
      (derive_eq_ok_iff_of_algs hrows rfl rfl).mp (derive_subBlob hrows hfits halign)
    exact ⟨p.hash, p.cipher, clear, rfl, rfl, hclear⟩

/-- **What a master key is recovered from.** A sub-blob yields a master key precisely when it is an
encryption of a cleartext that guards it. From a password, and unless its data is too short to hold MAC and
master key apart, it does so precisely when it was made by protecting that master key for that password
under a hash whose digest is no longer than its MAC. -/
theorem derive_iff_protects (env : Env) (digestLen : BlobHash → Nat) (himp : env.nomicon.IsImpacket)
    (hrows : env.nomicon.MasterKeyRows digestLen) (mk : MasterKey) (masterKey : Vector UInt8 64) :
    (∀ preKey, deriveMasterKeyFromPrekey env mk preKey = .ok masterKey ↔
      mk.Protects env.crypto digestLen preKey masterKey) ∧
    ∀ (h : BlobHash) (sid password : String), mk.algIdHash = h.algId →
      80 + digestLen h ≤ mk.data.length →
      (deriveMasterKeyFromPrekey env mk (prekeyFromPassword env sid password).toList = .ok masterKey ↔
        digestLen h ≤ macLen h.masterKeyModule ∧
          ∃ p : MasterKeyProtection, p.sid = sid ∧ p.password = password ∧ p.masterKey = masterKey ∧
            p.cipher.blockLen ∣ (p.cleartext env.crypto digestLen).length ∧
            p.subBlob env.crypto digestLen = mk) := by
  refine ⟨fun preKey => derive_eq_ok_iff_protects himp hrows, fun h sid password hhash hroom => ?_⟩
  rw [derive_eq_ok_iff_protects himp hrows, protects_iff_subBlob hrows h hhash hroom]

end Minted

theorem derive_iff_protects_passwordFile :
    (passwordFile.subBlob passwordAnswers.env.crypto linkedDigestLen).Protects
      passwordAnswers.env.crypto linkedDigestLen (passwordFile.preKey passwordAnswers.env.crypto).toList
      passwordFile.masterKey :=
  ((derive_iff_protects passwordAnswers.env linkedDigestLen linkedTables_isImpacket
    linkedTables_masterKeyRows _ _).1 _).mp
    (derive_subBlob linkedTables_masterKeyRows (by decide) (by decide +kernel))

end DpapiForensic
