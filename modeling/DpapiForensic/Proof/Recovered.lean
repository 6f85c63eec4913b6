import DpapiForensic.Proof.CredentialRoundTrip
import DpapiForensic.Proof.PanicFree
import DpapiForensic.Proof.Sealing
import DpapiForensic.Proof.VaultSilence
import DpapiForensic.Proof.WifiRoundTrip

/-!
# What an artifact yields

For each artifact, which results it holds under a master key, said of the artifact alone: what it wraps,
what is sealed in there, and what the sealed plaintext is made of. Each decoder reports precisely that.
So it reports nothing that was not protected under the master key, and leaves out no plaintext that was.
-/

namespace DpapiForensic

open Cli Wifi

variable {env : Env}

/-! ### What is there to be found -/

section Yields

variable (env : Env) (masterKey : Bytes)

def CredmanYields (fileBytes : Bytes) (results : List StoreResult) : Prop :=
  ∃ (file : WireCredentialFile) (rest : Bytes) (cred : WireCredential) (rest' : Bytes),
    fileBytes = file.bytes ++ rest ∧
    IsSealed env.crypto masterKey none file.data.val (cred.bytes ++ rest') ∧
    results =
      [{ store := "credman", label := decodeUtf16le cred.target.val
         secret := decodeUtf16le cred.unknown.val, account := some (decodeUtf16le cred.username.val) }]

/-- A cookie under the key: a version's mark, a nonce, and a ciphertext that authenticates. -/
inductive CookieYields (key : Vector UInt8 32) : Option Bytes → List StoreResult → Prop
  | absent : CookieYields key none []
  | opened (version : CookieVersion) (nonce : Vector UInt8 12) (ciphertext plain : Bytes)
      (hne : ciphertext ≠ []) (hplain : env.crypto.aes256Gcm.decrypt key nonce ciphertext = some plain) :
      CookieYields key (some (version.mark ++ (nonce.toList ++ ciphertext)))
        [{ store := "browser", label := "cookie", secret := String.ofList (fromUtf8Lossy plain)
           account := none }]

def BrowserYields (localStateJson : String) (cookieBlob : Option Bytes) (results : List StoreResult) :
    Prop :=
  ∃ (value : JsonValue) (text : String) (keyBlob : Bytes) (key : Vector UInt8 32)
      (cookie : List StoreResult),
    env.jsonFromStr localStateJson = .ok value ∧
    (value.get "os_crypt").bind (·.get "encrypted_key") = some (.string text) ∧
    env.base64.decode (strBytes text) = some (dpapiPrefix ++ keyBlob) ∧
    IsSealed env.crypto masterKey none keyBlob key.toList ∧
    CookieYields env key cookieBlob cookie ∧
    results =
      { store := "browser", label := "cookie-key", secret := hexLower key.toList, account := none } ::
        cookie

def WifiYields (profileXml : String) (results : List StoreResult) : Prop :=
  ∃ (body : List Char) (blob plain : Bytes) (psk : String),
    FirstElement profileXml.toList body ∧ IsHexOf (trim body) blob ∧
    IsSealed env.crypto masterKey none blob plain ∧ plain.takeWhile (· ≠ 0) = strBytes psk ∧
    results = [{ store := "wifi", label := "PSK", secret := psk, account := none }]

/-- The attribute is an encryption under the key, and its cleartext starts with the web credential. -/
def HoldsWeb (key1 : Bytes) (attr : VcrdAttribute) (web : WireWebCredential) : Prop :=
  ∃ (key : Vector UInt8 32) (cleartext : Bytes), key.toList = key1 ∧ 16 ∣ cleartext.length ∧
    attr.data = env.crypto.aes256.encrypt key attr.usedIv cleartext ∧ web.bytes <+: cleartext

/-- The results are the web credentials among the attributes, in their order. -/
inductive AttributesYield (key1 : Bytes) : List VcrdAttribute → List StoreResult → Prop
  | nil : AttributesYield key1 [] []
  | found {attr : VcrdAttribute} {attrs : List VcrdAttribute} {results : List StoreResult}
      (web : WireWebCredential) (hweb : HoldsWeb env key1 attr web)
      (h : AttributesYield key1 attrs results) :
      AttributesYield key1 (attr :: attrs)
        ({ store := "vault", label := decodeUtf16le web.resource.value.val
           secret := decodeUtf16le web.password.value.val
           account := some (decodeUtf16le web.username.value.val) } :: results)
  | passed {attr : VcrdAttribute} {attrs : List VcrdAttribute} {results : List StoreResult}
      (hnone : ∀ web, ¬HoldsWeb env key1 attr web) (h : AttributesYield key1 attrs results) :
      AttributesYield key1 (attr :: attrs) results

/-- The results are the web credentials that the attributes of a record hold under the policy's first key. -/
def VaultYields (vpolBytes : Bytes) (attrs : List VcrdAttribute) (results : List StoreResult) : Prop :=
  ∃ (vpol : WireVpol) (rest : Bytes) (keys : WireVpolKeys) (rest' : Bytes),
    vpolBytes = vpol.bytes ++ rest ∧
    IsSealed env.crypto masterKey none vpol.blob.val (keys.bytes ++ rest') ∧
    AttributesYield env keys.wrap1.bKey.val attrs results

end Yields

/-- The bytes are a record with these attributes. -/
def LaidOut (vcrdBytes : Bytes) (attrs : List VcrdAttribute) : Prop :=
  ∃ w : WireVcrd, vcrdBytes = w.bytes ∧ attrs = w.attributes

/-- The attributes that the parser takes out of any bytes. On a record they are the record's own. -/
def TakenAs (vcrdBytes : Bytes) (attrs : List VcrdAttribute) : Prop :=
  Accepts vcrdBytes ∧ attrs = (declaredRanges vcrdBytes).filterMap (·.toAttribute vcrdBytes)

/-! ### Credential Manager -/

section Credman

theorem lockedOrErr_ne_ok {α : Type} {store : String} {inner : Bytes} {e : DpapiError} {a : α} :
    lockedOrErr env store inner e ≠ .ok a := by
  unfold lockedOrErr
  split
  case h_4 => exact Outcome.err_ne_ok
  all_goals
    split
    all_goals first | exact Outcome.err_ne_ok | exact Outcome.panic_ne_ok

theorem orLocked_eq_ok_iff {α : Type} {store : String} {inner : Bytes} {x : Outcome DpapiError α}
    {a : α} : orLocked env store inner x = .ok a ↔ x = .ok a := by
  cases x with
  | ok b => rw [orLocked, Outcome.ok.injEq, Outcome.ok.injEq]
  | panic => exact iff_of_false Outcome.panic_ne_ok Outcome.panic_ne_ok
  | err e => exact iff_of_false lockedOrErr_ne_ok Outcome.err_ne_ok

/-- The Credential Manager decoder reports what is there. -/
theorem decodeCredman_eq_ok_iff (env : Env) (himp : env.nomicon.IsImpacket) (fileBytes : Slice)
    (masterKey : Bytes) (results : List StoreResult) :
    decodeCredman env fileBytes.val masterKey = .ok results ↔
      CredmanYields env masterKey fileBytes.val results := by
  rw [decodeCredman, Outcome.bind_eq_ok_iff]
  simp only [Outcome.mapErr_eq_ok_iff, parseCredentialFile, parseCredentialFileWith_eq_ok_iff,
    Outcome.bind_eq_ok_iff, orLocked_eq_ok_iff]
  have hopen : ∀ (blob : Field) (cred : Credential),
      decryptCredential env blob.val masterKey = .ok cred ↔ ∃ (w : WireCredential) (rest : Bytes),
        IsSealed env.crypto masterKey none blob.val (w.bytes ++ rest) ∧ cred = w.toCredential :=
    fun blob cred => open_parse_eq_ok_iff himp (isSlice_field blob)
      fun hplain => parseCredentialBlobWith_eq_ok_iff hplain
  constructor
  · rintro ⟨_, ⟨file, hfile, rfl⟩, cred, hcred, hresults⟩
    obtain ⟨rest, hrest⟩ := bytesAt_zero_iff.mp hfile
    obtain ⟨w, rest', hsealed, rfl⟩ := (hopen file.data cred).mp hcred
    exact ⟨file, rest, w, rest', hrest, hsealed, (Outcome.ok.inj hresults).symm⟩
  · rintro ⟨file, rest, w, rest', hrest, hsealed, rfl⟩
    exact ⟨_, ⟨file, bytesAt_zero_iff.mpr ⟨rest, hrest⟩, rfl⟩, _,
      (hopen file.data _).mpr ⟨w, rest', hsealed, rfl⟩, rfl⟩

theorem credmanYields_vector :
    CredmanYields credentialAnswers.env vectorMasterKey credentialFile
      [{ store := "credman", label := "Domain:target=TERMSRV/fileserver01"
         secret := "S3cr3t-P@ssw0rd!", account := some "CORP\\jdoe" }] := by
  have hsealed := @isSealed_wire credentialAnswers.env credentialBlob []
  rw [List.append_nil] at hsealed
  rw [← vectorCredentialFile_bytes]
  refine ⟨vectorCredentialFile, [], credentialTexts.wire, [0, 0, 0, 0], (List.append_nil _).symm,
    hsealed, ?_⟩
  simp only [CredentialTexts.wire, FieldText.decode_field]
  rfl

theorem isSlice_credentialFile : IsSlice credentialFile := by
  rw [← vectorCredentialFile_bytes]
  exact vectorCredentialFile.isSlice_bytes

end Credman

/-! ### Browsers -/

section Browser

variable {masterKey : Bytes}

/-- A cookie value is a mark, a nonce and something behind it, or it is not taken for one. -/
theorem detectChromeCookieEncoding_cases (data : Bytes) :
    (∃ (version : CookieVersion) (nonce : Vector UInt8 12) (ciphertext : Bytes), ciphertext ≠ [] ∧
      data = version.mark ++ (nonce.toList ++ ciphertext)) ∨
    ((∀ (version : CookieVersion) (nonce : Vector UInt8 12) (ciphertext : Bytes), ciphertext ≠ [] →
        data ≠ version.mark ++ (nonce.toList ++ ciphertext)) ∧
      ((∃ blob, detectChromeCookieEncoding data = .ok (.dpapiBlob blob)) ∨
        detectChromeCookieEncoding data = .ok .raw)) := by
  by_cases hmarked : data.length > 15 ∧ ∃ version : CookieVersion, version.mark <+: data
  · left
    obtain ⟨hlong, version, rest, rfl⟩ := hmarked
    rw [List.length_append, version.length_mark] at hlong
    have hnonce : (rest.take 12).length = 12 := by
      rw [List.length_take]
      omega
    refine ⟨version, ⟨(rest.take 12).toArray, by simpa using hnonce⟩, rest.drop 12, ?_, ?_⟩
    · intro hnil
      have := congrArg List.length hnil
      rw [List.length_drop, List.length_nil] at this
      omega
    · exact congrArg (version.mark ++ ·) (List.take_append_drop 12 rest).symm
  · right
    constructor
    · rintro version nonce ciphertext hne rfl
      refine hmarked ⟨?_, version, List.prefix_append _ _⟩
      have := List.length_pos_iff.mpr hne
      simp only [List.length_append, version.length_mark, Vector.length_toList]
      omega
    · have hv20 : ¬(data.length > 15 ∧ chromeCookieV20 <+: data) :=
        fun h => hmarked ⟨h.1, .v20, h.2⟩
      have hv10 : ¬(data.length > 15 ∧ chromeCookieV10 <+: data) :=
        fun h => hmarked ⟨h.1, .v10, h.2⟩
      rw [detectChromeCookieEncoding, if_neg hv20, if_neg hv10]
      by_cases hdpapi : dpapiPrefix <+: data
      · have hlen : 5 ≤ data.length := hdpapi.length_le
        rw [if_pos hdpapi, sliceRange_from hlen]
        exact Or.inl ⟨_, rfl⟩
      · rw [if_neg hdpapi]
        exact Or.inr rfl

theorem browserResults_append (version : CookieVersion) (nonce : Vector UInt8 12)
    {ciphertext : Bytes} (hne : ciphertext ≠ []) (key : Vector UInt8 32) :
    browserResults env (some (version.mark ++ (nonce.toList ++ ciphertext))) key = (do
      let plain ← Outcome.mapErr .dpapi (decryptV10Cookie env nonce ciphertext key)
      pure
        [{ store := "browser", label := "cookie-key", secret := hexLower key.toList
           account := none },
          { store := "browser", label := "cookie", secret := String.ofList (fromUtf8Lossy plain)
            account := none }]) := by
  rw [browserResults, cookiePlaintext_append version nonce (List.length_pos_iff.mpr hne)]
  rfl

theorem browserResults_eq_ok_iff {cookieBlob : Option Bytes} {key : Vector UInt8 32}
    {results : List StoreResult} :
    browserResults env cookieBlob key = .ok results ↔
      ∃ cookie, CookieYields env key cookieBlob cookie ∧
        results =
          { store := "browser", label := "cookie-key", secret := hexLower key.toList
            account := none } :: cookie := by
  constructor
  · intro h
    cases cookieBlob with
    | none => exact ⟨[], .absent, (Outcome.ok.inj h).symm⟩
    | some data =>
        rcases detectChromeCookieEncoding_cases data with
          ⟨version, nonce, ciphertext, hne, rfl⟩ | ⟨-, hother⟩
        · rw [browserResults_append version nonce hne] at h
          obtain ⟨plain, hplain, h⟩ := Outcome.bind_eq_ok_iff.mp h
          have hplain := Outcome.okOr_eq_ok_iff.mp (Outcome.mapErr_eq_ok_iff.mp hplain)
          exact ⟨_, .opened version nonce ciphertext plain hne hplain, (Outcome.ok.inj h).symm⟩
        · obtain ⟨plain, hplain, -⟩ := Outcome.bind_eq_ok_iff.mp h
          obtain ⟨encoding, hencoding, hopen⟩ := Outcome.bind_eq_ok_iff.mp hplain
          have hencoding := Outcome.mapErr_eq_ok_iff.mp hencoding
          rcases hother with ⟨blob, hblob⟩ | hraw
          · obtain rfl := Outcome.ok.inj (hblob.symm.trans hencoding)
            cases hopen
          · obtain rfl := Outcome.ok.inj (hraw.symm.trans hencoding)
            cases hopen
  · rintro ⟨cookie, hcookie, rfl⟩
    cases hcookie with
    | absent => rfl
    | opened version nonce ciphertext plain hne hplain =>
        rw [browserResults_append version nonce hne, decryptV10Cookie, hplain]
        rfl

/-- The text in the JSON, as the decoder asks for it. -/
theorem browserKeyBlob_eq_ok_iff {localStateJson : String} {keyBlob : Bytes} :
    browserKeyBlob env localStateJson = .ok keyBlob ↔
      ∃ value text, env.jsonFromStr localStateJson = .ok value ∧
        (value.get "os_crypt").bind (·.get "encrypted_key") = some (.string text) ∧
        env.base64.decode (strBytes text) = some (dpapiPrefix ++ keyBlob) := by
  have hstr : ∀ {found : Option JsonValue} {text : String},
      found.bind JsonValue.asStr = some text ↔ found = some (.string text) := by
    intro found text
    cases found with
    | none => exact iff_of_false nofun nofun
    | some value => cases value <;> simp [JsonValue.asStr]
  have hstrip : ∀ {text : String}, parseLocalStateEncryptedKey env (strBytes text) = .ok keyBlob ↔
      env.base64.decode (strBytes text) = some (dpapiPrefix ++ keyBlob) := by
    intro text
    rw [parseLocalStateEncryptedKey, Outcome.bind_eq_ok_iff]
    simp only [Outcome.okOr_eq_ok_iff]
    constructor
    · rintro ⟨decoded, hdecoded, h⟩
      split at h
      · rename_i hprefix
        obtain ⟨rest, rfl⟩ := hprefix
        rw [List.drop_left, Outcome.pure_eq, Outcome.ok.injEq] at h
        rw [hdecoded, h]
      · cases h
    · intro hdecoded
      refine ⟨_, hdecoded, ?_⟩
      rw [if_pos (List.prefix_append _ _), List.drop_left, Outcome.pure_eq]
  rw [browserKeyBlob, Outcome.bind_eq_ok_iff]
  simp only [Outcome.bind_eq_ok_iff, Outcome.okOr_eq_ok_iff, Outcome.mapErr_eq_ok_iff, hstr, hstrip]
  constructor
  · rintro ⟨value, hvalue, text, hfield, hdecoded⟩
    cases hread : env.jsonFromStr localStateJson with
    | error e =>
        rw [hread] at hvalue
        cases hvalue
    | ok read =>
        rw [hread] at hvalue
        obtain rfl := Outcome.ok.inj hvalue
        exact ⟨read, text, rfl, hfield, hdecoded⟩
  · rintro ⟨value, text, hread, hfield, hdecoded⟩
    refine ⟨value, ?_, text, hfield, hdecoded⟩
    rw [hread]

/-- The browser decoder reports what is there: the sealed key, and the cookie if one is given. -/
theorem decodeBrowser_eq_ok_iff (env : Env) (himp : env.nomicon.IsImpacket)
    (hslices : env.ReturnsSlices) (localStateJson : String) (hjson : IsSlice (strBytes localStateJson))
    (cookieBlob : Option Bytes) (masterKey : Bytes) (results : List StoreResult) :
    decodeBrowser env localStateJson cookieBlob masterKey = .ok results ↔
      BrowserYields env masterKey localStateJson cookieBlob results := by
  have hopen : ∀ (keyBlob : Bytes) (key : Vector UInt8 32), IsSlice keyBlob →
      (decryptLocalStateKey env keyBlob masterKey = .ok key ↔
        IsSealed env.crypto masterKey none keyBlob key.toList) := by
    intro keyBlob key hkeyBlob
    apply (open_bind_eq_ok_iff himp hkeyBlob).trans
    simp only [Outcome.okOr_eq_ok_iff, tryIntoArray_eq_some_iff]
    constructor
    · rintro ⟨plain, hsealed, rfl⟩
      exact hsealed
    · intro hsealed
      exact ⟨_, hsealed, rfl⟩
  rw [decodeBrowser_eq, Outcome.bind_eq_ok_iff]
  constructor
  · rintro ⟨keyBlob, hkeyBlob, h⟩
    obtain ⟨key, hkey, hresults⟩ := Outcome.bind_eq_ok_iff.mp h
    have hslice := isSlice_of_browserKeyBlob hslices hjson hkeyBlob
    obtain ⟨value, text, hread, hfield, hdecoded⟩ := browserKeyBlob_eq_ok_iff.mp hkeyBlob
    obtain ⟨cookie, hcookie, rfl⟩ := browserResults_eq_ok_iff.mp hresults
    exact ⟨value, text, keyBlob, key, cookie, hread, hfield, hdecoded,
      (hopen keyBlob key hslice).mp (orLocked_eq_ok_iff.mp hkey), hcookie, rfl⟩
  · rintro ⟨value, text, keyBlob, key, cookie, hread, hfield, hdecoded, hsealed, hcookie, rfl⟩
    have hkeyBlob := browserKeyBlob_eq_ok_iff.mpr ⟨value, text, hread, hfield, hdecoded⟩
    have hslice := isSlice_of_browserKeyBlob hslices hjson hkeyBlob
    refine ⟨keyBlob, hkeyBlob, Outcome.bind_of_ok
      (orLocked_eq_ok_iff.mpr ((hopen keyBlob key hslice).mpr hsealed)) ?_⟩
    exact browserResults_eq_ok_iff.mpr ⟨cookie, hcookie, rfl⟩

theorem isSlice_vectorLocalState : IsSlice (strBytes vectorLocalState) := by
  have hbytes : strBytes encryptedKeyB64 = Base64.encodeBytes (dpapiPrefix ++ localStateBlob) :=
    strBytes_ofList_ascii (Base64.encodeBytes_ascii _)
  have hkey : (Base64.encodeBytes (dpapiPrefix ++ localStateBlob)).length < 2 ^ 32 := by
    decide +kernel
  have hopen : (strBytes "\x7b\"os_crypt\":\x7b\"encrypted_key\":\"").length < 2 ^ 32 := by
    decide +kernel
  have hclose : (strBytes "\"\x7d\x7d").length < 2 ^ 32 := by decide +kernel
  have hlen : ∀ a b c : String, (strBytes a).length < 2 ^ 32 → (strBytes b).length < 2 ^ 32 →
      (strBytes c).length < 2 ^ 32 → IsSlice (strBytes (a ++ b ++ c)) := by
    intro a b c ha hb hc
    rw [strBytes_append, strBytes_append, IsSlice, List.length_append, List.length_append]
    omega
  exact hlen _ encryptedKeyB64 _ hopen (hbytes ▸ hkey) hclose

theorem browserYields_vector :
    BrowserYields checkedEnv vectorMasterKey vectorLocalState (some v10Cookie)
      [{ store := "browser", label := "cookie-key", secret := hexLower cookieKey.toList
         account := none },
        { store := "browser", label := "cookie", secret := "forensic-session-token-42"
          account := none }] := by
  obtain ⟨value, hvalue, hfield⟩ := holdsKeyBlob_vector
  have hsealed := @isSealed_wire checkedEnv cookieKeyBlob []
  rw [List.append_nil] at hsealed
  refine ⟨.object [("os_crypt", .object [("encrypted_key", .string encryptedKeyB64)])], encryptedKeyB64,
      (cookieKeyBlob.wire cookieEnv.crypto).bytes, cookieKey, _, ?_, rfl, ?_, hsealed, ?_, rfl⟩
  · simp only [checkedEnv, cookieEnv, if_true]
  · rw [cookieKeyBlob_bytes]
    exact Base64.standard.decode_encode _
  · rw [← cookieValue_vector, cookieValue]
    have hplain := cookieEnv.crypto.aes256Gcm.decrypt_encrypt cookieKey
      (beVector 12 0x0102030405060708090a0b0c) (strBytes "forensic-session-token-42")
    have hopened : CookieYields checkedEnv cookieKey _ _ :=
      .opened .v10 (beVector 12 0x0102030405060708090a0b0c) _ _ (by decide +kernel) hplain
    rwa [fromUtf8Lossy_strBytes, String.ofList_toList] at hopened

end Browser

/-! ### Wi-Fi profiles -/

section Wifi

/-- The Wi-Fi decoder reports what is there: the sealed text in front of its first NUL. -/
theorem decodeWifi_eq_ok_iff (env : Env) (himp : env.nomicon.IsImpacket) (profileXml : String)
    (hprofile : IsSlice (strBytes profileXml)) (masterKey : Bytes) (results : List StoreResult) :
    decodeWifi env profileXml masterKey = .ok results ↔
      WifiYields env masterKey profileXml results := by
  have hopen : ∀ {digits : String} {blob : Bytes} (psk : String), IsSlice blob →
      IsHexOf digits.toList blob → (decryptWlanKeyMaterial env digits masterKey = .ok psk ↔
        ∃ plain, IsSealed env.crypto masterKey none blob plain ∧
          plain.takeWhile (· ≠ 0) = strBytes psk) := by
    intro digits blob psk hblob hhex
    rw [decryptWlanKeyMaterial, Wifi.hexDecode, hexDecodeWith_of_isHexOf hhex, Outcome.ok_bind,
      open_bind_eq_ok_iff himp hblob]
    simp only [Outcome.bind_eq_ok_iff, Outcome.okOr_eq_ok_iff, fromUtf8_eq_some_iff]
    refine exists_congr fun plain => and_congr_right fun _ => ?_
    constructor
    · rintro ⟨cs, hcs, h⟩
      rw [← Outcome.ok.inj h, hcs]
    · intro htext
      exact ⟨psk.toList, by rw [String.ofList_toList, htext], by rw [String.ofList_toList]; rfl⟩
  rw [decodeWifi, Outcome.bind_eq_ok_iff]
  simp only [Outcome.okOr_eq_ok_iff, Outcome.bind_eq_ok_iff, orLocked_eq_ok_iff, Cli.hexDecode,
    hexDecodeWith_eq_ok_iff]
  constructor
  · rintro ⟨keyMaterial, hkey, blob, hhex, psk, hpsk, h⟩
    have hblob := isSlice_of_isHexOf (isSlice_keyMaterial hprofile hkey) hhex
    obtain ⟨plain, hsealed, hplain⟩ := (hopen psk hblob hhex).mp hpsk
    obtain ⟨body, hbody, rfl⟩ := extractKeyMaterial_eq_some_iff.mp hkey
    rw [String.toList_ofList] at hhex
    exact ⟨body, blob, plain, psk, hbody, hhex, hsealed, hplain, (Outcome.ok.inj h).symm⟩
  · rintro ⟨body, blob, plain, psk, hbody, hhex, hsealed, hplain, rfl⟩
    have hkey := extractKeyMaterial_eq_some_iff.mpr ⟨body, hbody, rfl⟩
    rw [← @String.toList_ofList (trim body)] at hhex
    have hblob := isSlice_of_isHexOf (isSlice_keyMaterial hprofile hkey) hhex
    exact ⟨_, hkey, blob, hhex, psk, (hopen psk hblob hhex).mpr ⟨plain, hsealed, hplain⟩, rfl⟩

theorem length_keyMaterialHex : keyMaterialHex.toList.length = 556 := by
  rw [keyMaterialHex, String.toList_ofList, List.length_map, toList_hexLower]
  decide +kernel

/-- The profile of the tests, without what stands around its element. -/
def keyMaterialProfile : String := "<keyMaterial>" ++ keyMaterialHex ++ "</keyMaterial>"

theorem toList_keyMaterialProfile :
    keyMaterialProfile.toList = openTag ++ (keyMaterialHex.toList ++ closeTag) := by
  rw [keyMaterialProfile, String.toList_append, String.toList_append, List.append_assoc]
  rfl

theorem isSlice_keyMaterialProfile : IsSlice (strBytes keyMaterialProfile) := by
  have hle := length_strBytes_le keyMaterialProfile
  have htags : openTag.length + closeTag.length = 27 := rfl
  have hlen := length_keyMaterialHex
  rw [toList_keyMaterialProfile] at hle
  simp only [List.length_append] at hle
  rw [IsSlice]
  omega

theorem wifiYields_vector :
    WifiYields wifiAnswers.env vectorMasterKey keyMaterialProfile
      [{ store := "wifi", label := "PSK", secret := "CorrectHorseBatteryStaple"
         account := none }] := by
  have hplain := plain_of_isHexOf isHexOf_keyMaterialHex
  have hsealed := @isSealed_wire wifiAnswers.env wifiBlob []
  rw [List.append_nil] at hsealed
  refine ⟨keyMaterialHex.toList, _, _, "CorrectHorseBatteryStaple", ⟨[], [], ?_, by decide, ?_⟩, ?_,
      hsealed, takeWhile_strBytes (by decide +kernel), rfl⟩
  · rw [toList_keyMaterialProfile, List.append_nil, List.nil_append]
  · intro hclose
    exact (hplain '<' (hclose.subset (by decide))).2 rfl
  · have htrim := @trim_append [] keyMaterialHex.toList [] nofun (fun c hc => (hplain c hc).1) nofun
    rw [List.nil_append, List.append_nil] at htrim
    rw [htrim]
    exact isHexOf_keyMaterialHex

end Wifi

/-! ### Vaults -/

section Vault

variable {masterKey key1 : Bytes} {attr : VcrdAttribute} {attrs : List VcrdAttribute}
  {results : List StoreResult}

/-- The cleartext of an attribute is what it is the encryption of. -/
theorem decryptVcrdAttribute_eq_ok_iff {cleartext : Bytes} :
    decryptVcrdAttribute env attr key1 = .ok cleartext ↔
      ∃ key : Vector UInt8 32, key.toList = key1 ∧ 16 ∣ cleartext.length ∧
        attr.data = env.crypto.aes256.encrypt key attr.usedIv cleartext := by
  constructor
  · intro h
    have hnot : ¬Undecryptable key1 attr := by
      rw [← @decryptVcrdAttribute_eq_err_iff env key1 attr]
      rintro ⟨e, he⟩
      rw [h] at he
      cases he
    obtain ⟨hkey, hdata⟩ := not_or.mp hnot
    obtain ⟨key, rfl⟩ := exists_key_of_length (not_not.mp hkey)
    have hdata := not_not.mp hdata
    have hdvd : 16 ∣ attr.data.length := Nat.dvd_of_mod_eq_zero hdata
    rw [decryptVcrdAttribute_eq key hdata] at h
    obtain rfl := Outcome.ok.inj h
    refine ⟨key, rfl, ?_, (env.crypto.aes256.encrypt_decrypt key attr.usedIv hdvd).symm⟩
    rw [env.crypto.aes256.length_decrypt _ _ _ hdvd]
    exact hdvd
  · rintro ⟨key, rfl, hwhole, hdata⟩
    have hlen : attr.data.length = cleartext.length := by
      rw [hdata, env.crypto.aes256.length_encrypt _ _ _ hwhole]
    rw [decryptVcrdAttribute_eq key (hlen ▸ Nat.mod_eq_zero_of_dvd hwhole), hdata,
      env.crypto.aes256.decrypt_encrypt _ _ _ hwhole]

/-- An attribute and what the loop does with it: it adds the web credential it holds, or nothing. -/
theorem vaultResults_step (hslice : IsSlice attr.data) (attrs : List VcrdAttribute) :
    (∃ web : WireWebCredential, HoldsWeb env key1 attr web ∧
      vaultResults env key1 (attr :: attrs) = (do
        let results ← vaultResults env key1 attrs
        pure
          ({ store := "vault", label := decodeUtf16le web.resource.value.val
             secret := decodeUtf16le web.password.value.val
             account := some (decodeUtf16le web.username.value.val) } :: results))) ∨
    ((∀ web, ¬HoldsWeb env key1 attr web) ∧
      vaultResults env key1 (attr :: attrs) = vaultResults env key1 attrs) := by
  have hholds : ∀ web, HoldsWeb env key1 attr web →
      ∃ cleartext, decryptVcrdAttribute env attr key1 = .ok cleartext ∧ web.bytes <+: cleartext := by
    rintro web ⟨key, cleartext, hkey, hwhole, hdata, hstarts⟩
    exact ⟨cleartext, decryptVcrdAttribute_eq_ok_iff.mpr ⟨key, hkey, hwhole, hdata⟩, hstarts⟩
  cases hdecrypt : decryptVcrdAttribute env attr key1 with
  | panic => exact absurd hdecrypt decryptVcrdAttribute_ne_panic
  | err e =>
      right
      refine ⟨fun web hweb => ?_, by rw [vaultResults, hdecrypt]⟩
      obtain ⟨cleartext, hok, -⟩ := hholds web hweb
      rw [hdecrypt] at hok
      cases hok
  | ok cleartext =>
      obtain ⟨key, hkey, hwhole, hdata⟩ := decryptVcrdAttribute_eq_ok_iff.mp hdecrypt
      have hclear : IsSlice cleartext := by
        have hlen := congrArg List.length hdata
        rw [env.crypto.aes256.length_encrypt _ _ _ hwhole] at hlen
        rw [IsSlice, ← hlen]
        exact hslice
      have hparse : ∀ {cred : WebCredential}, parseInternetExplorer env cleartext = .ok cred ↔ _ :=
        parseInternetExplorerWith_eq_ok_iff hclear
      rw [vaultResults, hdecrypt]
      simp only
      cases hcred : parseInternetExplorer env cleartext with
      | panic => exact absurd hcred (parseInternetExplorerWith_ne_panic hclear)
      | err e =>
          right
          refine ⟨fun web hweb => ?_, rfl⟩
          obtain ⟨cleartext', hok, hstarts⟩ := hholds web hweb
          obtain rfl := Outcome.ok.inj (hdecrypt.symm.trans hok)
          have hfound := hparse.mpr ⟨web, bytesAt_zero_iff_starts.mpr hstarts, rfl⟩
          rw [hcred] at hfound
          cases hfound
      | ok cred =>
          left
          obtain ⟨web, hweb, rfl⟩ := hparse.mp hcred
          exact ⟨web, ⟨key, cleartext, hkey, hwhole, hdata, bytesAt_zero_iff_starts.mp hweb⟩, rfl⟩

/-- No two web credentials start a cleartext, and no two cleartexts have one encryption. -/
theorem holdsWeb_unique {web web' : WireWebCredential} (h : HoldsWeb env key1 attr web)
    (h' : HoldsWeb env key1 attr web') : web = web' := by
  obtain ⟨key, cleartext, hkey, hwhole, hdata, rest, rfl⟩ := h
  obtain ⟨key', cleartext', hkey', hwhole', hdata', rest', rfl⟩ := h'
  have hok := (@decryptVcrdAttribute_eq_ok_iff env _ _ _).mpr ⟨key, hkey, hwhole, hdata⟩
  have hok' := (@decryptVcrdAttribute_eq_ok_iff env _ _ _).mpr ⟨key', hkey', hwhole', hdata'⟩
  exact (WireWebCredential.selfDelimiting (Outcome.ok.inj (hok.symm.trans hok'))).1

theorem vaultResults_eq_ok_iff (hslices : ∀ attr ∈ attrs, IsSlice attr.data) :
    vaultResults env key1 attrs = .ok results ↔ AttributesYield env key1 attrs results := by
  induction attrs generalizing results with
  | nil =>
      constructor
      · intro h
        obtain rfl := Outcome.ok.inj h
        exact .nil
      · rintro ⟨⟩
        rfl
  | cons attr attrs ih =>
      obtain ⟨hslice, hslices⟩ := List.forall_mem_cons.mp hslices
      rcases @vaultResults_step env key1 attr hslice attrs with ⟨web, hweb, hstep⟩ | ⟨hnone, hstep⟩
      · rw [hstep, Outcome.bind_eq_ok_iff]
        constructor
        · rintro ⟨results, hresults, h⟩
          obtain rfl := Outcome.ok.inj h
          exact .found web hweb ((ih hslices).mp hresults)
        · intro h
          cases h with
          | found web' hweb' h =>
              obtain rfl := holdsWeb_unique hweb hweb'
              exact ⟨_, (ih hslices).mpr h, rfl⟩
          | passed hnone h => exact absurd hweb (hnone web)
      · rw [hstep, ih hslices]
        constructor
        · exact .passed hnone
        · intro h
          cases h with
          | found web hweb h => exact absurd hweb (hnone web)
          | passed _ h => exact h

theorem parseVcrdAttributes_eq_ok_iff_takenAs {vcrdBytes : Bytes} (hvcrd : IsSlice vcrdBytes) :
    parseVcrdAttributes env vcrdBytes = .ok attrs ↔ TakenAs vcrdBytes attrs :=
  parseVcrdAttributes_eq_ok_iff hvcrd

theorem takenAs_bytes_iff (env : Env) (w : WireVcrd) : TakenAs w.bytes attrs ↔ attrs = w.attributes := by
  rw [← @parseVcrdAttributes_eq_ok_iff_takenAs env attrs w.bytes w.isSlice_bytes,
    parseVcrdAttributes_bytes, Outcome.ok.injEq, eq_comm]

/-- The vault decoder reports the web credentials in the attributes that the parser takes out of the record. -/
theorem decodeVault_eq_ok_iff (env : Env) (himp : env.nomicon.IsImpacket) (vpolBytes vcrdBytes : Slice)
    (masterKey : Bytes) (results : List StoreResult) :
    decodeVault env vpolBytes.val vcrdBytes.val masterKey = .ok results ↔
      ∃ attrs, TakenAs vcrdBytes.val attrs ∧ VaultYields env masterKey vpolBytes.val attrs results := by
  have hopen : ∀ (blob : Field) (keys : VaultVpolKeys),
      decryptVpolKeys env blob.val masterKey = .ok keys ↔ ∃ (w : WireVpolKeys) (rest : Bytes),
        IsSealed env.crypto masterKey none blob.val (w.bytes ++ rest) ∧ keys = w.toKeys :=
    fun blob keys => open_parse_eq_ok_iff himp (isSlice_field blob)
      fun hplain => readVpolKeysWith_eq_ok_iff hplain
  have hattrs : ∀ {attrs : List VcrdAttribute}, parseVcrdAttributes env vcrdBytes.val = .ok attrs →
      ∀ attr ∈ attrs, IsSlice attr.data := fun h attr hmem =>
    lt_of_le_of_lt (parseVcrdAttributes_length_le vcrdBytes.property h attr hmem) vcrdBytes.property
  rw [decodeVault_eq, Outcome.bind_eq_ok_iff]
  simp only [Outcome.mapErr_eq_ok_iff, parseVpolFile, parseVpolFileWith_eq_ok_iff vpolBytes.property,
    Outcome.bind_eq_ok_iff, orLocked_eq_ok_iff]
  constructor
  · rintro ⟨_, ⟨vpol, hvpol, rfl⟩, keys, hkeys, attrs, hparsed, hresults⟩
    obtain ⟨rest, hrest⟩ := bytesAt_zero_iff.mp hvpol
    obtain ⟨w, rest', hsealed, rfl⟩ := (hopen vpol.blob keys).mp hkeys
    exact ⟨attrs, (parseVcrdAttributes_eq_ok_iff_takenAs vcrdBytes.property).mp hparsed, vpol, rest, w,
      rest', hrest, hsealed, (vaultResults_eq_ok_iff (hattrs hparsed)).mp hresults⟩
  · rintro ⟨attrs, htaken, vpol, rest, w, rest', hrest, hsealed, hyields⟩
    have hparsed := (@parseVcrdAttributes_eq_ok_iff_takenAs env _ _ vcrdBytes.property).mpr htaken
    exact ⟨_, ⟨vpol, bytesAt_zero_iff.mpr ⟨rest, hrest⟩, rfl⟩, _,
      (hopen vpol.blob _).mpr ⟨w, rest', hsealed, rfl⟩, _, hparsed,
      (vaultResults_eq_ok_iff (hattrs hparsed)).mpr hyields⟩

theorem decodeVault_eq_ok_iff_of_parse (himp : env.nomicon.IsImpacket) (vpolBytes vcrdBytes : Slice)
    (hparse : parseVcrdAttributes env vcrdBytes.val = .ok attrs) :
    decodeVault env vpolBytes.val vcrdBytes.val masterKey = .ok results ↔
      VaultYields env masterKey vpolBytes.val attrs results := by
  have htaken := (parseVcrdAttributes_eq_ok_iff_takenAs vcrdBytes.property).mp hparse
  rw [decodeVault_eq_ok_iff env himp]
  constructor
  · rintro ⟨attrs', ⟨-, rfl⟩, hyields⟩
    rwa [htaken.2]
  · intro hyields
    exact ⟨attrs, htaken, hyields⟩

theorem decodeVault_vector :
    decodeVault vaultAnswers.env vectorVpol.bytes vectorVcrd.bytes vectorMasterKey
      = .ok [{ store := "vault", label := "https://portal.example.com", secret := "V@ultP4ss!"
               account := some "alice@example.com" }] := by
  have hkeys : decryptVpolKeys vaultAnswers.env vectorVpol.blob.val vectorMasterKey
      = .ok vpolKeys.toKeys := decryptVpolKeys_wire (p := vpolBlob) linkedTables_isImpacket rfl rfl
  have hattrs : vectorVcrd.attributes
      = ([vcrdCredential].map fun c => c.entry vaultAnswers.env.crypto vpolKey1).filterMap
        WireEntry.toAttribute := rfl
  rw [decodeVault_eq, parseVpolFile_bytes, Outcome.mapErr_ok, Outcome.ok_bind, hkeys, orLocked,
    Outcome.ok_bind, parseVcrdAttributes_bytes, Outcome.mapErr_ok, Outcome.ok_bind, hattrs]
  exact vaultResults_entries vpolKey1 [vcrdCredential]

theorem vaultYields_vector :
    VaultYields vaultAnswers.env vectorMasterKey vectorVpol.bytes vectorVcrd.attributes
      [{ store := "vault", label := "https://portal.example.com", secret := "V@ultP4ss!"
         account := some "alice@example.com" }] :=
  (decodeVault_eq_ok_iff_of_parse linkedTables_isImpacket ⟨vectorVpol.bytes, vectorVpol.isSlice_bytes⟩
    ⟨vectorVcrd.bytes, vectorVcrd.isSlice_bytes⟩ (parseVcrdAttributes_bytes vectorVcrd)).mp
    decodeVault_vector

end Vault

theorem KnownAnswers.returnsSlices (known : KnownAnswers) : known.env.ReturnsSlices where
  base64_decode htext h := Nat.lt_of_le_of_lt (Base64.length_le_of_decodeBytes h) htext
  json_string _ hvalue := nomatch hvalue

/-- **The decoders report what is there.** Each reports precisely the results its artifact yields under the
master key: every plaintext that is sealed in it, and nothing that is not. For a vault the record is one as it
is laid out; on any other bytes the report is that of the attributes the parser takes out of them. -/
theorem decoders_report_exactly (env : Env) (himp : env.nomicon.IsImpacket) (hslices : env.ReturnsSlices) :
    (∀ localStateJson cookieBlob masterKey results, IsSlice (strBytes localStateJson) →
      (decodeBrowser env localStateJson cookieBlob masterKey = .ok results ↔
        BrowserYields env masterKey localStateJson cookieBlob results)) ∧
    (∀ (fileBytes : Slice) masterKey results,
      decodeCredman env fileBytes.val masterKey = .ok results ↔
        CredmanYields env masterKey fileBytes.val results) ∧
    (∀ (vpolBytes : Slice) (w : WireVcrd) masterKey results,
      decodeVault env vpolBytes.val w.bytes masterKey = .ok results ↔
        VaultYields env masterKey vpolBytes.val w.attributes results) ∧
    (∀ (vpolBytes vcrdBytes : Slice) masterKey results,
      decodeVault env vpolBytes.val vcrdBytes.val masterKey = .ok results ↔
        ∃ attrs, parseVcrdAttributes env vcrdBytes.val = .ok attrs ∧
          VaultYields env masterKey vpolBytes.val attrs results) ∧
    (∀ profileXml masterKey results, IsSlice (strBytes profileXml) →
      (decodeWifi env profileXml masterKey = .ok results ↔
        WifiYields env masterKey profileXml results)) :=
  ⟨fun json cookieBlob masterKey results hjson =>
      decodeBrowser_eq_ok_iff env himp hslices json hjson cookieBlob masterKey results,
    decodeCredman_eq_ok_iff env himp,
    fun vpolBytes w _ _ => decodeVault_eq_ok_iff_of_parse himp vpolBytes ⟨w.bytes, w.isSlice_bytes⟩
      (parseVcrdAttributes_bytes w),
    fun vpolBytes vcrdBytes masterKey results =>
      (decodeVault_eq_ok_iff env himp vpolBytes vcrdBytes masterKey results).trans
        (exists_congr fun _ =>
          and_congr_left' (parseVcrdAttributes_eq_ok_iff_takenAs vcrdBytes.property).symm),
    fun profileXml masterKey results hprofile =>
      decodeWifi_eq_ok_iff env himp profileXml hprofile masterKey results⟩

theorem decoders_report_exactly_vectors :
    decodeBrowser checkedEnv vectorLocalState (some v10Cookie) vectorMasterKey
      = .ok
          [{ store := "browser", label := "cookie-key", secret := hexLower cookieKey.toList
             account := none },
            { store := "browser", label := "cookie", secret := "forensic-session-token-42"
              account := none }] ∧
    decodeCredman credentialAnswers.env credentialFile vectorMasterKey
      = .ok [{ store := "credman", label := "Domain:target=TERMSRV/fileserver01"
               secret := "S3cr3t-P@ssw0rd!", account := some "CORP\\jdoe" }] ∧
    decodeVault vaultAnswers.env vectorVpol.bytes vectorVcrd.bytes vectorMasterKey
      = .ok [{ store := "vault", label := "https://portal.example.com", secret := "V@ultP4ss!"
               account := some "alice@example.com" }] ∧
    decodeWifi wifiAnswers.env keyMaterialProfile vectorMasterKey
      = .ok [{ store := "wifi", label := "PSK", secret := "CorrectHorseBatteryStaple"
               account := none }] :=
  ⟨((decoders_report_exactly checkedEnv linkedTables_isImpacket checkedEnv_returnsSlices).1
      vectorLocalState (some v10Cookie) vectorMasterKey _ isSlice_vectorLocalState).mpr
      browserYields_vector,
    ((decoders_report_exactly credentialAnswers.env linkedTables_isImpacket
      credentialAnswers.returnsSlices).2.1 ⟨credentialFile, isSlice_credentialFile⟩ vectorMasterKey
      _).mpr credmanYields_vector,
    ((decoders_report_exactly vaultAnswers.env linkedTables_isImpacket
      vaultAnswers.returnsSlices).2.2.1 ⟨vectorVpol.bytes, vectorVpol.isSlice_bytes⟩ vectorVcrd
      vectorMasterKey _).mpr vaultYields_vector,
    ((decoders_report_exactly wifiAnswers.env linkedTables_isImpacket
      wifiAnswers.returnsSlices).2.2.2.2 keyMaterialProfile vectorMasterKey _
      isSlice_keyMaterialProfile).mpr wifiYields_vector⟩

end DpapiForensic
