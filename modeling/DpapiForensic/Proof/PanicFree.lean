import DpapiForensic.Proof.BrowserRoundTrip
import DpapiForensic.Proof.Locked
import DpapiForensic.Proof.MasterKeyRecovery
import DpapiForensic.Proof.Profile
import DpapiForensic.Proof.VaultSilence
import DpapiForensic.Proof.VcrdMap
import Mathlib.Data.List.Flatten

/-!
# No panic

Outside the master-key file's parser nothing panics, with overflow checks or without. Cursors stay within
a few bytes of the end of a slice. What decryption returns is no longer than the ciphertext, and so a
slice again. The derivation loop makes as much key material as is cut out of it.
-/

namespace DpapiForensic

open MasterKey Vault Wifi

variable {env : Env}

/-! ### Loops that index -/

section Indexed

theorem readAttributesIndexed_eq {vcrd : Bytes} {offsets : List (UInt32 × Nat)}
    (hlen : offsets.length < 2 ^ 63) (rest : List (UInt32 × Nat)) {i : Nat}
    (hrest : offsets.drop i = rest) :
    readAttributesIndexed env vcrd offsets rest.length i = readAttributes env vcrd rest := by
  induction rest generalizing i with
  | nil => rfl
  | cons entry rest ih =>
      obtain ⟨id, start⟩ := entry
      have hlt := lt_length_of_eq_cons hrest
      have hrest' := drop_succ_of_eq_cons hrest
      have hnext : offsets[i + 1]? = rest.head? := by
        rw [List.head?_eq_getElem?, ← hrest', List.getElem?_drop, Nat.add_zero]
      rw [List.length_cons, readAttributesIndexed]
      refine Outcome.bind_of_ok (index_of_eq_cons hrest) ?_
      refine Outcome.bind_of_ok (usizeAdd_of_lt (by omega)) ?_
      rw [hnext, ih hrest', readAttributes]

theorem trimAtNul_eq (cleartext : Bytes) :
    trimAtNul cleartext = .ok (cleartext.takeWhile (· ≠ 0)) := by
  rw [trimAtNul]
  cases hnul : cleartext.findIdx? (· = 0) with
  | none =>
      have hnone := List.findIdx?_eq_none_iff.mp hnul
      have hall : cleartext.takeWhile (fun b => decide (b ≠ 0)) = cleartext :=
        List.takeWhile_eq_self_iff.mpr fun b hb => by simpa using hnone b hb
      rw [hall]
      rfl
  | some nul =>
      obtain ⟨hlt, hidx⟩ := List.findIdx?_eq_some_iff_findIdx_eq.mp hnul
      have htake : cleartext.takeWhile (fun b => decide (b ≠ 0)) = cleartext.take nul := by
        rw [List.takeWhile_eq_take_findIdx_not, ← hidx]
        simp
      rw [htake]
      exact sliceRange_eq_ok_iff.mpr (if_pos ⟨Nat.zero_le _, Nat.le_of_lt hlt⟩)

end Indexed

/-! ### Opening a blob -/

section Open

variable {data blobBytes masterKey : Bytes} {blob : DpapiBlob} {entropy : Option Bytes}

theorem decrypt_ne_panic (himp : env.nomicon.IsImpacket) :
    decryptDpapiBlob env blob masterKey entropy ≠ .panic := by
  by_cases hsupported : Supported env blob.algIdEncrypt
  · rcases @decrypt_cases env blob masterKey entropy himp hsupported with ⟨plain, h⟩ | h | h
    · rw [h]
      exact Outcome.ok_ne_panic
    · rw [h]
      exact Outcome.err_ne_panic
    · rw [h]
      exact Outcome.err_ne_panic
  · rw [decrypt_of_not_supported hsupported]
    exact Outcome.err_ne_panic

/-- Whoever opens a blob goes on with a slice. -/
theorem open_bind_ne_panic {α : Type} (himp : env.nomicon.IsImpacket) (hdata : IsSlice data)
    {f : Bytes → Outcome DpapiError α} (hf : ∀ plain, IsSlice plain → f plain ≠ .panic) :
    (do
      let blob ← parseDpapiBlob env data
      let plain ← decryptDpapiBlob env blob masterKey none
      f plain) ≠ .panic := by
  refine Outcome.bind_ne_panic (parse_ne_panic hdata) fun blob hblob => ?_
  refine Outcome.bind_ne_panic (decrypt_ne_panic himp) fun plain hplain => ?_
  exact hf plain (isSlice_of_open hdata hblob hplain)

theorem decryptCredential_ne_panic (himp : env.nomicon.IsImpacket) (hdata : IsSlice blobBytes) :
    decryptCredential env blobBytes masterKey ≠ .panic :=
  open_bind_ne_panic himp hdata fun _ hplain => parseCredentialBlobWith_ne_panic hplain

theorem decryptVpolKeys_ne_panic (himp : env.nomicon.IsImpacket) (hdata : IsSlice blobBytes) :
    decryptVpolKeys env blobBytes masterKey ≠ .panic :=
  open_bind_ne_panic himp hdata fun _ hplain => readVpolKeysWith_ne_panic hplain

theorem decryptLocalStateKey_ne_panic (himp : env.nomicon.IsImpacket) (hdata : IsSlice blobBytes) :
    decryptLocalStateKey env blobBytes masterKey ≠ .panic :=
  open_bind_ne_panic himp hdata fun _ _ => Outcome.okOr_ne_panic

theorem decryptWlanKeyMaterial_ne_panic (himp : env.nomicon.IsImpacket) {keyMaterialHex : String}
    (htext : IsSlice (strBytes keyMaterialHex)) :
    decryptWlanKeyMaterial env keyMaterialHex masterKey ≠ .panic := by
  refine Outcome.bind_ne_panic hexDecodeWith_ne_panic fun blobBytes hblobBytes => ?_
  refine open_bind_ne_panic himp (isSlice_of_hexDecode htext hblobBytes) fun plain _ => ?_
  exact Outcome.bind_ne_panic Outcome.okOr_ne_panic fun _ _ => Outcome.ok_ne_panic

end Open

/-! ### Master keys -/

section MasterKeys

variable {data : Bytes} {digestLen : BlobHash → Nat}

theorem exists_masterKey (h : 32 ≤ data.length) : ∃ mk : MasterKey, mk.bytes = data := by
  obtain ⟨version, hversion⟩ := exists_le32_at data 0 (by omega)
  obtain ⟨salt, hsalt⟩ := exists_array_at data 4 16 (by omega)
  obtain ⟨rounds, hrounds⟩ := exists_le32_at data 20 (by omega)
  obtain ⟨algIdHash, hhash⟩ := exists_le32_at data 24 (by omega)
  obtain ⟨algIdEncrypt, hcipher⟩ := exists_le32_at data 28 (by omega)
  obtain ⟨payload, hpayload, hlen⟩ := exists_bytesAt (data.length - 32)
    (show 32 + (data.length - 32) ≤ data.length by omega)
  refine ⟨⟨version, salt, rounds, algIdHash, algIdEncrypt, payload⟩, ?_⟩
  have hall : BytesAt data 0
      (MasterKey.bytes ⟨version, salt, rounds, algIdHash, algIdEncrypt, payload⟩) := by
    simp only [MasterKey.bytes, bytesAt_append, length_le32, Vector.length_toList, Nat.zero_add,
      Nat.reduceAdd]
    exact ⟨hversion, hsalt, hrounds, hhash, hcipher, hpayload⟩
  refine hall.inj bytesAt_self ?_
  simp only [MasterKey.bytes, List.length_append, length_le32, Vector.length_toList, hlen]
  omega

theorem parseMasterKey_ne_panic (hdata : IsSlice data) : parseMasterKey env data ≠ .panic := by
  by_cases hlen : data.length < 32
  · rw [parseMasterKey, Outcome.failIf_of hlen]
    exact Outcome.err_ne_panic
  · obtain ⟨mk, rfl⟩ := exists_masterKey (not_lt.mp hlen)
    rw [parseMasterKey_bytes hdata]
    exact Outcome.ok_ne_panic

/-- No digest is longer than what SHA-512 puts out. -/
theorem digestLen_le_of_row (himp : env.nomicon.IsImpacket)
    (hrows : env.nomicon.MasterKeyRows digestLen) {algId : UInt32} {alg : HashAlg}
    (h : env.nomicon.hashAlgInfo algId = some alg) : alg.digestLen ≤ 64 := by
  have hknown : ∃ hash : BlobHash, algId = hash.algId := by
    by_contra hne
    push Not at hne
    rw [himp.no_other_hash algId (hne .sha1) (hne .hmac) (hne .sha512)] at h
    cases h
  obtain ⟨hash, rfl⟩ := hknown
  obtain ⟨row, hrow, hdigest⟩ := exists_row_algId hrows hash
  rw [h, Option.some.injEq] at hrow
  rw [hrow, hdigest]
  exact hrows.digestLen_le hash

/-- The cleartext is cut where its length was checked, and the key material where the derivation ends. -/
theorem deriveMasterKeyFromPrekey_ne_panic (himp : env.nomicon.IsImpacket)
    (hrows : env.nomicon.MasterKeyRows digestLen) (mk : MasterKey) (preKey : Bytes) :
    deriveMasterKeyFromPrekey env mk preKey ≠ .panic := by
  rw [deriveMasterKeyFromPrekey]
  refine Outcome.bind_ne_panic ?_ fun isSha512 _ => ?_
  · rw [usesSha512]
    split
    · exact Outcome.ok_ne_panic
    · exact Outcome.okOr_ne_panic
  refine Outcome.bind_ne_panic Outcome.okOr_ne_panic fun cipher hcipher => ?_
  refine Outcome.bind_ne_panic Outcome.okOr_ne_panic fun alg halg => ?_
  rw [Outcome.okOr_eq_ok_iff] at hcipher halg
  obtain ⟨c, hc⟩ := exists_cipher_of_isSome himp (Option.isSome_of_eq_some hcipher)
  rw [hc, cipherAlgInfo_algId himp, Option.some.injEq] at hcipher
  subst hcipher
  have hkeyIv := keyLen_add_blockLen_le c
  have hdigest := digestLen_le_of_row himp hrows halg
  simp only
  rw [usizeAdd_of_lt (by omega), Outcome.ok_bind,
    deriveKey_masterKey_eq hrows _ _ _ (by omega), Outcome.ok_bind]
  refine Outcome.bind_ne_panic (sliceRange_ne_panic (Nat.zero_le _) (by simp)) fun cryptKey _ => ?_
  rw [Outcome.ok_bind]
  refine Outcome.bind_ne_panic (sliceRange_ne_panic (by omega) (by simp)) fun iv _ => ?_
  refine Outcome.bind_ne_panic ?_ fun cleartext _ => ?_
  · have hcbc : ∀ {keyLen blockLen : Nat} (cbc : CbcCipher keyLen blockLen),
        cbcDecryptNoPad cbc cryptKey iv mk.data ≠ .panic := fun cbc =>
      Outcome.bind_ne_panic Outcome.okOr_ne_panic fun _ _ => Outcome.okOr_ne_panic
    split
    · exact hcbc _
    · exact hcbc _
  refine Outcome.bind_ne_panic Outcome.failIf_ne_panic fun _ hmasterKey => ?_
  rw [usizeAdd_of_lt (by omega), Outcome.ok_bind]
  refine Outcome.bind_ne_panic Outcome.failIf_ne_panic fun _ hhmac => ?_
  rw [Outcome.failIf_eq_ok_iff, masterKeyLen] at hmasterKey
  rw [Outcome.failIf_eq_ok_iff] at hhmac
  refine Outcome.bind_ne_panic (sliceRange_ne_panic (by omega) le_rfl) fun masterKeyBytes hbytes => ?_
  refine Outcome.bind_ne_panic (sliceRange_ne_panic (by omega) (by omega)) fun hmacSalt _ => ?_
  refine Outcome.bind_ne_panic (sliceRange_ne_panic (by omega) (by omega)) fun storedHmac _ => ?_
  refine Outcome.bind_ne_panic Outcome.ok_ne_panic fun hmacKey _ => ?_
  refine Outcome.bind_ne_panic Outcome.ok_ne_panic fun calcHmac _ => ?_
  refine Outcome.bind_ne_panic Outcome.failIf_ne_panic fun _ _ => ?_
  have hstop := (getRange_eq_some_iff.mp (sliceRange_eq_ok_iff.mp hbytes)).2
  rw [masterKeyLen] at hstop
  exact copyFromSlice_ne_panic (by omega)

end MasterKeys

/-! ### The decoders -/

section Decoders

variable {data masterKey : Bytes}

theorem detectChromeCookieEncoding_ne_panic : detectChromeCookieEncoding data ≠ .panic := by
  have hnonce : ∀ {f : Vector UInt8 12 → Bytes → ChromeCookieEncoding}, data.length > 15 →
      (do
        let nonce ← copyFromSlice 12 (← sliceRange data 3 15)
        let ciphertext ← sliceRange data 15 data.length
        pure (f nonce ciphertext) : Outcome DpapiError ChromeCookieEncoding) ≠ .panic := by
    intro f hlen
    refine Outcome.bind_ne_panic (sliceRange_ne_panic (by decide) (by omega)) fun slice hslice => ?_
    have hstop := (getRange_eq_some_iff.mp (sliceRange_eq_ok_iff.mp hslice)).2
    refine Outcome.bind_ne_panic (copyFromSlice_ne_panic (by omega)) fun nonce _ => ?_
    exact Outcome.bind_ne_panic (sliceRange_ne_panic (by omega) le_rfl) fun _ _ => Outcome.ok_ne_panic
  rw [detectChromeCookieEncoding]
  split_ifs with hv20 hv10 hdpapi
  · exact hnonce hv20.1
  · exact hnonce hv10.1
  · have hle : 5 ≤ data.length := hdpapi.length_le
    exact Outcome.bind_ne_panic (sliceRange_ne_panic hle le_rfl) fun _ _ => Outcome.ok_ne_panic
  · exact Outcome.ok_ne_panic

theorem parseLocalStateEncryptedKey_ne_panic : parseLocalStateEncryptedKey env data ≠ .panic := by
  refine Outcome.bind_ne_panic Outcome.okOr_ne_panic fun decoded _ => ?_
  split
  · exact Outcome.ok_ne_panic
  · exact Outcome.err_ne_panic

theorem decryptVcrdAttribute_ne_panic {attr : VcrdAttribute} {key : Bytes} :
    decryptVcrdAttribute env attr key ≠ .panic :=
  Outcome.bind_ne_panic Outcome.okOr_ne_panic fun _ _ => Outcome.okOr_ne_panic

/-- The report of a failure parses the blob once more. -/
theorem orLocked_ne_panic {α : Type} {store : String} {x : Outcome DpapiError α} (hdata : IsSlice data)
    (hx : x ≠ .panic) : Cli.orLocked env store data x ≠ .panic := by
  cases x with
  | ok a => exact Outcome.ok_ne_panic
  | panic => exact absurd rfl hx
  | err e =>
      rw [Cli.orLocked]
      unfold Cli.lockedOrErr
      cases hparse : parseDpapiBlob env data with
      | panic => exact absurd hparse (parse_ne_panic hdata)
      | ok blob => split <;> exact Outcome.err_ne_panic
      | err e => split <;> exact Outcome.err_ne_panic

theorem parseCredentialFile_length_le {blob : Bytes} (h : parseCredentialFile env data = .ok blob) :
    blob.length ≤ data.length := by
  obtain ⟨w, hw, rfl⟩ := parseCredentialFileWith_eq_ok_iff.mp h
  have hle := hw.le
  simp only [WireCredentialFile.bytes, List.length_append] at hle
  omega

theorem decodeCredman_ne_panic (himp : env.nomicon.IsImpacket) (hdata : IsSlice data) :
    decodeCredman env data masterKey ≠ .panic := by
  refine Outcome.bind_ne_panic (Outcome.mapErr_ne_panic_iff.mpr parseCredentialFileWith_ne_panic)
    fun blob hblob => ?_
  have hslice : IsSlice blob :=
    Nat.lt_of_le_of_lt (parseCredentialFile_length_le (Outcome.mapErr_eq_ok_iff.mp hblob)) hdata
  refine Outcome.bind_ne_panic (orLocked_ne_panic hslice (decryptCredential_ne_panic himp hslice))
    fun cred _ => Outcome.ok_ne_panic

theorem vaultResults_ne_panic {key1 : Bytes} {attrs : List VcrdAttribute}
    (hslice : ∀ attr ∈ attrs, IsSlice attr.data) : vaultResults env key1 attrs ≠ .panic := by
  induction attrs with
  | nil => exact Outcome.ok_ne_panic
  | cons attr attrs ih =>
      rw [List.forall_mem_cons] at hslice
      rcases @vaultResults_cons env key1 attr hslice.1 attrs with ⟨-, h⟩ | ⟨-, result, h⟩
      · rw [h]
        exact ih hslice.2
      · rw [h]
        exact Outcome.bind_ne_panic (ih hslice.2) fun _ _ => Outcome.ok_ne_panic

theorem isSlice_of_parseVpolFile (hdata : IsSlice data) {blob : Bytes}
    (h : Outcome.mapErr CliError.dpapi (parseVpolFile env data) = .ok blob) : IsSlice blob := by
  obtain ⟨w, -, rfl⟩ := (parseVpolFileWith_eq_ok_iff hdata).mp (Outcome.mapErr_eq_ok_iff.mp h)
  have hlt := w.blob.property
  rw [IsSlice]
  omega

theorem vaultResults_ne_panic_of_parse {vcrd key1 : Bytes} (hvcrd : IsSlice vcrd)
    {attrs : List VcrdAttribute} (h : parseVcrdAttributes env vcrd = .ok attrs) :
    vaultResults env key1 attrs ≠ .panic := by
  apply vaultResults_ne_panic
  intro attr hattr
  exact Nat.lt_of_le_of_lt (parseVcrdAttributes_length_le hvcrd h attr hattr) hvcrd

theorem decodeVault_ne_panic (himp : env.nomicon.IsImpacket) {vcrd : Bytes} (hdata : IsSlice data)
    (hvcrd : IsSlice vcrd) : decodeVault env data vcrd masterKey ≠ .panic := by
  refine Outcome.bind_ne_panic (Outcome.mapErr_ne_panic_iff.mpr (parseVpolFileWith_ne_panic hdata))
    fun blob hblob => ?_
  have hslice := isSlice_of_parseVpolFile hdata hblob
  refine Outcome.bind_ne_panic (orLocked_ne_panic hslice (decryptVpolKeys_ne_panic himp hslice))
    fun keys _ => ?_
  exact Outcome.bind_ne_panic (Outcome.mapErr_ne_panic_iff.mpr (parseVcrdAttributes_ne_panic hvcrd))
    fun attrs hattrs => vaultResults_ne_panic_of_parse hvcrd (Outcome.mapErr_eq_ok_iff.mp hattrs)

theorem isSlice_keyMaterial {profileXml keyMaterial : String} (hslice : IsSlice (strBytes profileXml))
    (h : extractKeyMaterial profileXml = some keyMaterial) : IsSlice (strBytes keyMaterial) := by
  obtain ⟨body, ⟨pre, post, hprofile, -, -⟩, rfl⟩ := extractKeyMaterial_eq_some_iff.mp h
  have htrim : (trim body).Sublist body :=
    (List.rdropWhile_prefix isWhitespace _).sublist.trans (List.dropWhile_sublist _)
  have hbody : body.Sublist profileXml.toList := by
    rw [hprofile]
    exact (List.infix_append' pre body (closeTag ++ post)).sublist.trans (by simp)
  have hle := ((htrim.trans hbody).flatMap String.utf8EncodeChar).length_le
  rw [strBytes_ofList]
  exact Nat.lt_of_le_of_lt hle hslice

theorem decodeWifi_ne_panic (himp : env.nomicon.IsImpacket) {profileXml : String}
    (hslice : IsSlice (strBytes profileXml)) : decodeWifi env profileXml masterKey ≠ .panic := by
  refine Outcome.bind_ne_panic Outcome.okOr_ne_panic fun keyMaterial hkey => ?_
  have htext := isSlice_keyMaterial hslice (Outcome.okOr_eq_ok_iff.mp hkey)
  refine Outcome.bind_ne_panic hexDecodeWith_ne_panic fun blob hblob => ?_
  have hwlan := @decryptWlanKeyMaterial_ne_panic env masterKey himp keyMaterial htext
  refine Outcome.bind_ne_panic (orLocked_ne_panic (isSlice_of_hexDecode htext hblob) hwlan)
    fun psk _ => Outcome.ok_ne_panic

/-- What the linked decoders return is in memory, as what they are given is. -/
structure Env.ReturnsSlices (env : Env) : Prop where
  base64_decode : ∀ {text bytes : Bytes}, IsSlice text → env.base64.decode text = some bytes →
    IsSlice bytes
  json_string : ∀ {json s : String} {value : JsonValue}, IsSlice (strBytes json) →
    env.jsonFromStr json = .ok value →
    ((value.get "os_crypt").bind (·.get "encrypted_key")).bind JsonValue.asStr = some s →
    IsSlice (strBytes s)

theorem browserKeyBlob_ne_panic (localStateJson : String) :
    browserKeyBlob env localStateJson ≠ .panic := by
  refine Outcome.bind_ne_panic ?_ fun value _ => ?_
  · split
    · exact Outcome.ok_ne_panic
    · exact Outcome.err_ne_panic
  · refine Outcome.bind_ne_panic Outcome.okOr_ne_panic fun encryptedKey _ => ?_
    exact Outcome.mapErr_ne_panic_iff.mpr parseLocalStateEncryptedKey_ne_panic

/-- The key's blob is what the text in the JSON decodes to, without its prefix. -/
theorem isSlice_of_browserKeyBlob (hslices : env.ReturnsSlices) {localStateJson : String}
    (hjson : IsSlice (strBytes localStateJson)) {keyBlob : Bytes}
    (h : browserKeyBlob env localStateJson = .ok keyBlob) : IsSlice keyBlob := by
  obtain ⟨value, hvalue, h⟩ := Outcome.bind_eq_ok_iff.mp h
  obtain ⟨encryptedKey, hencrypted, h⟩ := Outcome.bind_eq_ok_iff.mp h
  obtain ⟨decoded, hdecoded, h⟩ := Outcome.bind_eq_ok_iff.mp (Outcome.mapErr_eq_ok_iff.mp h)
  have hread : env.jsonFromStr localStateJson = .ok value := by
    cases hread : env.jsonFromStr localStateJson with
    | ok read =>
        rw [hread] at hvalue
        rw [Outcome.ok.inj hvalue]
    | error e =>
        rw [hread] at hvalue
        cases hvalue
  have htext := hslices.json_string hjson hread (Outcome.okOr_eq_ok_iff.mp hencrypted)
  have hslice := hslices.base64_decode htext (Outcome.okOr_eq_ok_iff.mp hdecoded)
  split at h
  · obtain rfl := Outcome.ok.inj h
    rw [IsSlice] at hslice ⊢
    rw [List.length_drop]
    omega
  · cases h

theorem browserResults_ne_panic (cookieBlob : Option Bytes) (cookieKey : Vector UInt8 32) :
    browserResults env cookieBlob cookieKey ≠ .panic := by
  cases cookieBlob with
  | none => exact Outcome.ok_ne_panic
  | some blob =>
      refine Outcome.bind_ne_panic ?_ fun plaintext _ => Outcome.ok_ne_panic
      refine Outcome.bind_ne_panic
        (Outcome.mapErr_ne_panic_iff.mpr detectChromeCookieEncoding_ne_panic) fun encoding _ => ?_
      have hcookie : ∀ nonce ciphertext,
          Outcome.mapErr CliError.dpapi (decryptV10Cookie env nonce ciphertext cookieKey) ≠ .panic :=
        fun _ _ => Outcome.mapErr_ne_panic_iff.mpr Outcome.okOr_ne_panic
      cases encoding with
      | v10 nonce ciphertext => exact hcookie nonce ciphertext
      | v20 nonce ciphertext => exact hcookie nonce ciphertext
      | dpapiBlob _ => exact Outcome.err_ne_panic
      | raw => exact Outcome.err_ne_panic

theorem decodeBrowser_ne_panic (himp : env.nomicon.IsImpacket) (hslices : env.ReturnsSlices)
    {localStateJson : String} (hjson : IsSlice (strBytes localStateJson)) (cookieBlob : Option Bytes) :
    decodeBrowser env localStateJson cookieBlob masterKey ≠ .panic := by
  rw [decodeBrowser_eq]
  refine Outcome.bind_ne_panic (browserKeyBlob_ne_panic localStateJson) fun keyBlob hkeyBlob => ?_
  have hslice := isSlice_of_browserKeyBlob hslices hjson hkeyBlob
  have hopen := @decryptLocalStateKey_ne_panic env keyBlob masterKey himp hslice
  refine Outcome.bind_ne_panic (orLocked_ne_panic hslice hopen) fun cookieKey _ => ?_
  exact browserResults_ne_panic cookieBlob cookieKey

end Decoders

/-! ### The whole of it -/

/-- No function outside the master-key file's parser panics. The first eighteen are the functions as they
are called, the last four are the loops and slices inside them as they index. -/
structure NeverPanics (env : Env) : Prop where
  dpapi_blob : ∀ data : Slice, parseDpapiBlob env data.val ≠ .panic
  blob_decryption : ∀ (blob : DpapiBlob) (masterKey : Bytes) (entropy : Option Bytes),
    decryptDpapiBlob env blob masterKey entropy ≠ .panic
  master_key : ∀ data : Slice, parseMasterKey env data.val ≠ .panic
  master_key_derivation : ∀ (mk : MasterKey) (preKey : Bytes),
    deriveMasterKeyFromPrekey env mk preKey ≠ .panic
  credential_file : ∀ data : Slice, parseCredentialFile env data.val ≠ .panic
  credential : ∀ (data : Slice) (masterKey : Bytes), decryptCredential env data.val masterKey ≠ .panic
  vpol_file : ∀ data : Slice, parseVpolFile env data.val ≠ .panic
  vpol_keys : ∀ (data : Slice) (masterKey : Bytes), decryptVpolKeys env data.val masterKey ≠ .panic
  vcrd_attributes : ∀ vcrd : Slice, parseVcrdAttributes env vcrd.val ≠ .panic
  vcrd_attribute : ∀ (attr : VcrdAttribute) (vpolKey : Bytes),
    decryptVcrdAttribute env attr vpolKey ≠ .panic
  internet_explorer : ∀ cleartext : Slice, parseInternetExplorer env cleartext.val ≠ .panic
  wlan_key_material : ∀ (keyMaterialHex : String) (masterKey : Bytes),
    IsSlice (strBytes keyMaterialHex) → decryptWlanKeyMaterial env keyMaterialHex masterKey ≠ .panic
  cookie_encoding : ∀ data : Slice, detectChromeCookieEncoding data.val ≠ .panic
  local_state_key : ∀ text : Slice, parseLocalStateEncryptedKey env text.val ≠ .panic
  browser : ∀ (localStateJson : String) (cookieBlob : Option Bytes) (masterKey : Bytes),
    IsSlice (strBytes localStateJson) →
    decodeBrowser env localStateJson cookieBlob masterKey ≠ .panic
  credman : ∀ (file : Slice) (masterKey : Bytes), decodeCredman env file.val masterKey ≠ .panic
  vault : ∀ (vpol vcrd : Slice) (masterKey : Bytes),
    decodeVault env vpol.val vcrd.val masterKey ≠ .panic
  wifi : ∀ (profileXml : String) (masterKey : Bytes), IsSlice (strBytes profileXml) →
    decodeWifi env profileXml masterKey ≠ .panic
  hex_digits : ∀ (ε : Type) (bad : String → ε) (odd : Nat → String) (text : Slice),
    hexDecodeIndexed bad env.profile odd text.val = hexDecodeWith bad odd text.val ∧
      hexDecodeIndexed bad env.profile odd text.val ≠ .panic
  map_entries : ∀ (vcrd : Slice) (offsets : List (UInt32 × Nat)), offsets.length < 2 ^ 63 →
    readAttributesIndexed env vcrd.val offsets offsets.length 0
        = readAttributes env vcrd.val offsets ∧
      readAttributesIndexed env vcrd.val offsets offsets.length 0 ≠ .panic
  key_material_start : ∀ profileXml : String, IsSlice (strBytes profileXml) →
    keyMaterialStart env profileXml ≠ .panic ∧
      ∃ start, keyMaterialStart env profileXml = .ok start ∧
        extractKeyMaterial profileXml = (do
          let start ← start
          let rest ← fromUtf8 ((strBytes profileXml).drop start)
          let stop ← findText closeTag rest
          pure (String.ofList (trim (rest.take stop))))
  trailing_nul : ∀ cleartext : Bytes, trimAtNul cleartext = .ok (cleartext.takeWhile (· ≠ 0))

/-- **Nothing panics** outside the master-key file's parser, in either build. With overflow checks on, a
sum past its word is a panic, so none occurs. -/
theorem never_panics (env : Env) (himp : env.nomicon.IsImpacket) (digestLen : BlobHash → Nat)
    (hrows : env.nomicon.MasterKeyRows digestLen) (hslices : env.ReturnsSlices) :
    NeverPanics env where
  dpapi_blob data := parse_ne_panic data.property
  blob_decryption _ _ _ := decrypt_ne_panic himp
  master_key data := parseMasterKey_ne_panic data.property
  master_key_derivation := deriveMasterKeyFromPrekey_ne_panic himp hrows
  credential_file _ := parseCredentialFileWith_ne_panic
  credential data _ := decryptCredential_ne_panic himp data.property
  vpol_file data := parseVpolFileWith_ne_panic data.property
  vpol_keys data _ := decryptVpolKeys_ne_panic himp data.property
  vcrd_attributes vcrd := parseVcrdAttributes_ne_panic vcrd.property
  vcrd_attribute _ _ := decryptVcrdAttribute_ne_panic
  internet_explorer cleartext := parseInternetExplorerWith_ne_panic cleartext.property
  wlan_key_material _ _ htext := decryptWlanKeyMaterial_ne_panic himp htext
  cookie_encoding _ := detectChromeCookieEncoding_ne_panic
  local_state_key _ := parseLocalStateEncryptedKey_ne_panic
  browser _ cookieBlob _ hjson := decodeBrowser_ne_panic himp hslices hjson cookieBlob
  credman file _ := decodeCredman_ne_panic himp file.property
  vault vpol vcrd _ := decodeVault_ne_panic himp vpol.property vcrd.property
  wifi _ _ hprofile := decodeWifi_ne_panic himp hprofile
  hex_digits _ bad odd text := by
    have heq := @hexDecodeIndexed_eq _ bad env.profile odd _ text.property
    exact ⟨heq, heq ▸ hexDecodeWith_ne_panic⟩
  map_entries vcrd offsets hlen := by
    have heq := @readAttributesIndexed_eq env vcrd.val offsets hlen offsets 0 rfl
    exact ⟨heq, heq ▸ readAttributes_ne_panic⟩
  key_material_start _ hprofile := by
    obtain ⟨start, hstart, hextract⟩ := extractKeyMaterial_of_start env hprofile
    exact ⟨by simp [hstart], start, hstart, hextract⟩
  trailing_nul := trimAtNul_eq

/-! ### A build with overflow checks -/

def checkedEnv : Env := { cookieEnv with profile := .debug }

theorem checkedEnv_returnsSlices : checkedEnv.ReturnsSlices where
  base64_decode htext h := Nat.lt_of_le_of_lt (Base64.length_le_of_decodeBytes h) htext
  json_string {json s value} _ hvalue hs := by
    simp only [checkedEnv, cookieEnv] at hvalue
    split at hvalue
    · rw [← Except.ok.inj hvalue] at hs
      have hkey : s = encryptedKeyB64 := (Option.some.inj hs).symm
      have hbytes : strBytes encryptedKeyB64 = Base64.encodeBytes (dpapiPrefix ++ localStateBlob) :=
        strBytes_ofList_ascii (Base64.encodeBytes_ascii _)
      rw [hkey, hbytes, IsSlice]
      decide +kernel
    · cases hvalue

theorem never_panics_checkedEnv : NeverPanics checkedEnv :=
  never_panics checkedEnv linkedTables_isImpacket linkedDigestLen linkedTables_masterKeyRows
    checkedEnv_returnsSlices

end DpapiForensic
