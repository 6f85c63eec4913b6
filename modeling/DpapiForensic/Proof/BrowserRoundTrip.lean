import DpapiForensic.Cli
import DpapiForensic.Proof.BlobRoundTrip

/-!
# Browser decoding undoes browser protection

A `Local State` that holds a cookie key, and a cookie encrypted under it, decode to the two. A key
of another length than the cipher's is refused with its length, before any cookie is looked at.
-/

namespace DpapiForensic

variable {env : Env}

/-! ### What a browser stores -/

/-- The JSON holds the blob under `os_crypt.encrypted_key`, as base64 behind `DPAPI`. -/
def HoldsKeyBlob (env : Env) (localStateJson : String) (blob : Bytes) : Prop :=
  ∃ value, env.jsonFromStr localStateJson = .ok value ∧
    ((value.get "os_crypt").bind (·.get "encrypted_key")).bind JsonValue.asStr
      = some (env.base64.encode (dpapiPrefix ++ blob))

/-- The two prefixes of an AES-GCM cookie value. -/
inductive CookieVersion where
  | v10
  | v20
  deriving DecidableEq, Repr

namespace CookieVersion

def mark : CookieVersion → Bytes
  | v10 => chromeCookieV10
  | v20 => chromeCookieV20

def encoding : CookieVersion → Vector UInt8 12 → Bytes → ChromeCookieEncoding
  | v10 => .v10
  | v20 => .v20

theorem length_mark (v : CookieVersion) : v.mark.length = 3 := by
  cases v <;> rfl

end CookieVersion

def cookieValue (crypto : Crypto) (version : CookieVersion) (key : Vector UInt8 32)
    (nonce : Vector UInt8 12) (cookie : String) : Bytes :=
  version.mark ++ (nonce.toList ++ crypto.aes256Gcm.encrypt key nonce (strBytes cookie))

/-! ### The steps of `decode_browser` -/

section Steps

/-- What is stripped first: the JSON around the key, its base64 and the `DPAPI` before it. -/
def browserKeyBlob (env : Env) (localStateJson : String) : Outcome CliError Bytes := do
  let value ←
    (match env.jsonFromStr localStateJson with
    | .ok value => .ok value
    | .error e => .err (.io ("Local State is not valid JSON: " ++ e)))
  let encryptedKeyB64 ← Outcome.okOr
    (((value.get "os_crypt").bind (·.get "encrypted_key")).bind JsonValue.asStr)
    (.io "Local State has no os_crypt.encrypted_key")
  Outcome.mapErr .dpapi (parseLocalStateEncryptedKey env (strBytes encryptedKeyB64))

/-- A cookie before it is made text. -/
def cookiePlaintext (env : Env) (cookieBlob : Bytes) (cookieKey : Vector UInt8 32) :
    Outcome CliError Bytes := do
  let encoding ← Outcome.mapErr .dpapi (detectChromeCookieEncoding cookieBlob)
  match encoding with
  | .v10 nonce ciphertext | .v20 nonce ciphertext =>
      Outcome.mapErr .dpapi (decryptV10Cookie env nonce ciphertext cookieKey)
  | .dpapiBlob _ | .raw => .err (.io "cookie value is not a v10/v20 AES-GCM blob")

/-- What is reported of an opened key, and of a cookie under it. -/
def browserResults (env : Env) (cookieBlob : Option Bytes) (cookieKey : Vector UInt8 32) :
    Outcome CliError (List StoreResult) := do
  let keyResult : StoreResult :=
    { store := "browser", label := "cookie-key", secret := Cli.hexEncode cookieKey.toList
      account := none }
  match cookieBlob with
  | none => pure [keyResult]
  | some blob => do
      let plaintext ← cookiePlaintext env blob cookieKey
      pure
        [keyResult,
          { store := "browser", label := "cookie", secret := String.ofList (fromUtf8Lossy plaintext)
            account := none }]

theorem decodeBrowser_eq (localStateJson : String) (cookieBlob : Option Bytes) (masterKey : Bytes) :
    decodeBrowser env localStateJson cookieBlob masterKey
      = (browserKeyBlob env localStateJson >>= fun keyBlob =>
          Cli.orLocked env "browser" keyBlob (decryptLocalStateKey env keyBlob masterKey) >>=
            browserResults env cookieBlob) := by
  simp only [decodeBrowser, browserKeyBlob, bind_assoc]
  refine bind_congr fun value => bind_congr fun encryptedKey => bind_congr fun keyBlob => ?_
  refine bind_congr fun cookieKey => ?_
  cases cookieBlob with
  | none => rfl
  | some blob => exact (bind_assoc _ _ _).symm

/-- The cookie key, and the cookie before it is made text. -/
def cookieCleartext (env : Env) (localStateJson : String) (cookieBlob masterKey : Bytes) :
    Outcome CliError (Vector UInt8 32 × Bytes) := do
  let keyBlob ← browserKeyBlob env localStateJson
  let cookieKey ← Cli.orLocked env "browser" keyBlob (decryptLocalStateKey env keyBlob masterKey)
  let plaintext ← cookiePlaintext env cookieBlob cookieKey
  pure (cookieKey, plaintext)

/-- What is left to do is to write the key in hexadecimal and to read the cookie as text. -/
theorem decodeBrowser_some (localStateJson : String) (cookieBlob masterKey : Bytes) :
    decodeBrowser env localStateJson (some cookieBlob) masterKey = (do
      let (cookieKey, plaintext) ← cookieCleartext env localStateJson cookieBlob masterKey
      pure
        [{ store := "browser", label := "cookie-key", secret := hexLower cookieKey.toList
           account := none },
          { store := "browser", label := "cookie", secret := String.ofList (fromUtf8Lossy plaintext)
            account := none }]) := by
  simp only [decodeBrowser_eq, cookieCleartext, bind_assoc]
  rfl

end Steps

/-! ### Each step undone -/

theorem parseLocalStateEncryptedKey_encode (blob : Bytes) :
    parseLocalStateEncryptedKey env (strBytes (env.base64.encode (dpapiPrefix ++ blob)))
      = .ok blob := by
  rw [parseLocalStateEncryptedKey, env.base64.decode_encode, Outcome.okOr_some, Outcome.ok_bind,
    if_pos (List.prefix_append _ _), List.drop_left, Outcome.pure_eq]

theorem decryptLocalStateKey_wire (himp : env.nomicon.IsImpacket) {p : Protection}
    (hentropy : p.entropy = none) :
    decryptLocalStateKey env (p.wire env.crypto).bytes p.masterKey
      = Outcome.okOr (tryIntoArray 32 p.plaintext) (.unexpectedKeyLength 32 p.plaintext.length) :=
  open_wire himp hentropy _

/-- A cookie value with anything at all behind its nonce is recognised by its prefix. -/
theorem detectChromeCookieEncoding_append (version : CookieVersion) (nonce : Vector UInt8 12)
    {ciphertext : Bytes} (hne : 0 < ciphertext.length) :
    detectChromeCookieEncoding (version.mark ++ (nonce.toList ++ ciphertext))
      = .ok (version.encoding nonce ciphertext) := by
  have hall : BytesAt (version.mark ++ (nonce.toList ++ ciphertext)) 0
      (version.mark ++ (nonce.toList ++ ciphertext)) := bytesAt_self
  simp only [bytesAt_append, version.length_mark, Vector.length_toList, Nat.zero_add,
    Nat.reduceAdd] at hall
  obtain ⟨-, hnonce, hciphertext⟩ := hall
  have hlong : 15 < (version.mark ++ (nonce.toList ++ ciphertext)).length := by
    simp only [List.length_append, version.length_mark, Vector.length_toList]
    omega
  have hstop : (version.mark ++ (nonce.toList ++ ciphertext)).length = 15 + ciphertext.length := by
    simp only [List.length_append, version.length_mark, Vector.length_toList]
    omega
  have hsliceNonce : (sliceRange (version.mark ++ (nonce.toList ++ ciphertext)) 3 15 :
      Outcome DpapiError Bytes) = .ok nonce.toList := hnonce.sliceRange_eq (by simp)
  have hsliceCiphertext : (sliceRange (version.mark ++ (nonce.toList ++ ciphertext)) 15
      (version.mark ++ (nonce.toList ++ ciphertext)).length : Outcome DpapiError Bytes)
      = .ok ciphertext := hciphertext.sliceRange_eq hstop
  cases version with
  | v20 =>
      rw [detectChromeCookieEncoding, if_pos ⟨hlong, List.prefix_append _ _⟩, hsliceNonce]
      simp only [Outcome.ok_bind, copyFromSlice_toList, hsliceCiphertext, Outcome.pure_eq]
      rfl
  | v10 =>
      have hnot : ¬chromeCookieV20 <+: CookieVersion.v10.mark ++ (nonce.toList ++ ciphertext) := by
        simp [CookieVersion.mark, chromeCookieV10, chromeCookieV20]
      rw [detectChromeCookieEncoding, if_neg fun h => hnot h.2,
        if_pos ⟨hlong, List.prefix_append _ _⟩, hsliceNonce]
      simp only [Outcome.ok_bind, copyFromSlice_toList, hsliceCiphertext, Outcome.pure_eq]
      rfl

theorem browserKeyBlob_of_holds {localStateJson : String} {blob : Bytes}
    (h : HoldsKeyBlob env localStateJson blob) : browserKeyBlob env localStateJson = .ok blob := by
  obtain ⟨value, hvalue, hfield⟩ := h
  rw [browserKeyBlob, hvalue, Outcome.ok_bind, hfield, Outcome.okOr_some, Outcome.ok_bind,
    parseLocalStateEncryptedKey_encode, Outcome.mapErr_ok]

theorem cookiePlaintext_append (version : CookieVersion) (nonce : Vector UInt8 12) {ciphertext : Bytes}
    (hne : 0 < ciphertext.length) (key : Vector UInt8 32) :
    cookiePlaintext env (version.mark ++ (nonce.toList ++ ciphertext)) key
      = Outcome.mapErr .dpapi (decryptV10Cookie env nonce ciphertext key) := by
  rw [cookiePlaintext, detectChromeCookieEncoding_append version nonce hne, Outcome.mapErr_ok,
    Outcome.ok_bind]
  cases version <;> rfl

theorem decryptV10Cookie_encrypt (key : Vector UInt8 32) (nonce : Vector UInt8 12) (plain : Bytes) :
    decryptV10Cookie env nonce (env.crypto.aes256Gcm.encrypt key nonce plain) key = .ok plain := by
  rw [decryptV10Cookie, env.crypto.aes256Gcm.decrypt_encrypt, Outcome.okOr_some]

/-! ### The whole of it -/

section Decode

variable {localStateJson : String} {p : Protection}

/-- Under the key that protection hides, a cookie's plaintext comes back, whatever its bytes. -/
theorem cookieCleartext_encrypt (himp : env.nomicon.IsImpacket) (hentropy : p.entropy = none)
    (hjson : HoldsKeyBlob env localStateJson (p.wire env.crypto).bytes) {key : Vector UInt8 32}
    (hkey : p.plaintext = key.toList) (version : CookieVersion) (nonce : Vector UInt8 12)
    (plain : Bytes) :
    cookieCleartext env localStateJson
        (version.mark ++ (nonce.toList ++ env.crypto.aes256Gcm.encrypt key nonce plain)) p.masterKey
      = .ok (key, plain) := by
  have htag : 0 < (env.crypto.aes256Gcm.encrypt key nonce plain).length := by
    rw [env.crypto.aes256Gcm.length_encrypt]
    omega
  rw [cookieCleartext, browserKeyBlob_of_holds hjson, Outcome.ok_bind,
    decryptLocalStateKey_wire himp hentropy, hkey, tryIntoArray_toList, Outcome.okOr_some, Cli.orLocked,
    Outcome.ok_bind, cookiePlaintext_append version nonce htag, decryptV10Cookie_encrypt,
    Outcome.mapErr_ok, Outcome.ok_bind, Outcome.pure_eq]

theorem decodeBrowser_cookieValue (himp : env.nomicon.IsImpacket) (hentropy : p.entropy = none)
    (hjson : HoldsKeyBlob env localStateJson (p.wire env.crypto).bytes) {key : Vector UInt8 32}
    (hkey : p.plaintext = key.toList) (version : CookieVersion) (nonce : Vector UInt8 12)
    (cookie : String) :
    decodeBrowser env localStateJson (some (cookieValue env.crypto version key nonce cookie))
        p.masterKey
      = .ok
          [{ store := "browser", label := "cookie-key", secret := hexLower key.toList
             account := none },
            { store := "browser", label := "cookie", secret := cookie, account := none }] := by
  have hopen := cookieCleartext_encrypt himp hentropy hjson hkey version nonce (strBytes cookie)
  rw [decodeBrowser_some, cookieValue, hopen, Outcome.ok_bind]
  simp only [fromUtf8Lossy_strBytes, String.ofList_toList, Outcome.pure_eq]

/-- A cleartext of another length is no key, whatever blob it came out of. -/
theorem decodeBrowser_wrong_length {blob masterKey plain : Bytes} {b : DpapiBlob}
    (hjson : HoldsKeyBlob env localStateJson blob) (hparse : parseDpapiBlob env blob = .ok b)
    (hplain : decryptDpapiBlob env b masterKey none = .ok plain) (hlen : plain.length ≠ 32)
    (cookieBlob : Option Bytes) :
    decodeBrowser env localStateJson cookieBlob masterKey
      = .err (.dpapi (.unexpectedKeyLength 32 plain.length)) := by
  rw [decodeBrowser_eq, browserKeyBlob_of_holds hjson, Outcome.ok_bind, decryptLocalStateKey, hparse,
    Outcome.ok_bind, hplain, Outcome.ok_bind, tryIntoArray, dif_neg hlen]
  rfl

/-- **Browser decoding undoes browser protection**, and a key of another length is refused with its
length. -/
theorem decodeBrowser_roundTrip (env : Env) (himp : env.nomicon.IsImpacket) :
    (∀ (localStateJson : String) (p : Protection) (key : Vector UInt8 32), p.entropy = none →
      p.plaintext = key.toList → HoldsKeyBlob env localStateJson (p.wire env.crypto).bytes →
      ∀ (version : CookieVersion) (nonce : Vector UInt8 12) (cookie : String),
        decodeBrowser env localStateJson (some (cookieValue env.crypto version key nonce cookie))
            p.masterKey
          = .ok
              [{ store := "browser", label := "cookie-key", secret := hexLower key.toList
                 account := none },
                { store := "browser", label := "cookie", secret := cookie, account := none }]) ∧
    (∀ (localStateJson : String) (blob masterKey plain : Bytes) (b : DpapiBlob),
      HoldsKeyBlob env localStateJson blob → parseDpapiBlob env blob = .ok b →
      decryptDpapiBlob env b masterKey none = .ok plain → plain.length ≠ 32 →
      ∀ cookieBlob : Option Bytes,
        decodeBrowser env localStateJson cookieBlob masterKey
          = .err (.dpapi (.unexpectedKeyLength 32 plain.length))) := by
  constructor
  · intro localStateJson p key hentropy hkey hjson version nonce cookie
    exact decodeBrowser_cookieValue himp hentropy hjson hkey version nonce cookie
  · intro localStateJson blob masterKey plain b hjson hparse hplain hlen cookieBlob
    exact decodeBrowser_wrong_length hjson hparse hplain hlen cookieBlob

end Decode

/-! ### A key and a cookie of the repository's tests -/

/-- `COOKIE_KEY_HEX`. -/
def cookieKey : Vector UInt8 32 :=
  beVector 32 0x202122232425262728292a2b2c2d2e2f303132333435363738393a3b3c3d3e3f

def cookieKeyBlob : Protection where
  version := 1
  version_supported := version_one_supported
  mkVersion := 1
  masterKeyGuid := beVector 16 0x33f19f5ee340be4a8a2e2b4e62bd0cc6
  flags := 0
  description := ⟨[0, 0], fits_nulText⟩
  cipher := .aes256
  cryptAlgoLen := 256
  salt := ⟨beBytes 32 0x00112233445566778899aabbccddeeff00112233445566778899aabbccddeeff,
    by decide⟩
  hmacKey := ⟨[], fits_nil⟩
  hash := .sha512
  hashAlgoLen := 512
  hmac := ⟨List.replicate 64 0, fits_zeros⟩
  form := .standard
  masterKey := vectorMasterKey
  entropy := none
  plaintext := cookieKey.toList
  fits := by decide

/-- `LOCAL_STATE_BLOB_HEX`. -/
def localStateBlob : Bytes :=
  beBytes 32 0x01000000d08c9ddf0115d1118c7a00c04fc297eb0100000033f19f5ee340be4a ++
    beBytes 32 0x8a2e2b4e62bd0cc6000000000200000000001066000000010000200000000011 ++
    beBytes 32 0x2233445566778899aabbccddeeff00112233445566778899aabbccddeeff0000 ++
    beBytes 32 0x00000e8000000002000040000000000000000000000000000000000000000000 ++
    beBytes 32 0x0000000000000000000000000000000000000000000000000000000000000000 ++
    beBytes 32 0x000000000000000000000000000030000000fadff9dbad57d443d7a0d77cf9fb ++
    beBytes 32 0xfdd68827ce91b2ca6ff533bf2f7467ce329865d99ceb7b841f271e14d1f508ce ++
    beBytes 32 0x3a2c40000000fe727776259faf7d3100849fb4ea49fc69fc16bebd1ec98b5a52 ++
    beBytes 32 0x27b4cfafbce2983ff94a57afd2f2ba1f9afa32ae3aa2148c10f2f3016ccabc3e ++
    beBytes 6 0x71c6f26dd6c0

def encryptedKeyB64 : String := Base64.standard.encode (dpapiPrefix ++ localStateBlob)

/-- `local_state_json`. -/
def vectorLocalState : String :=
  "\x7b\"os_crypt\":\x7b\"encrypted_key\":\"" ++ encryptedKeyB64 ++ "\"\x7d\x7d"

/-- `V10_COOKIE_HEX`. -/
def v10Cookie : Bytes :=
  beBytes 32 0x7631300102030405060708090a0b0c1b5af334ffe7a1fe676c5ab453c8848232 ++
    beBytes 24 0xab94aa630c69bae71883958ba23e4dfe4cc5faff526ce54b

def cookieAnswers : KnownAnswers where
  sha1 := [(vectorMasterKey, beVector 20 0x9e68943b06f62ef6c72f8f817b4572481480a8c4)]
  hmacSha512 :=
    [((beBytes 20 0x9e68943b06f62ef6c72f8f817b4572481480a8c4, cookieKeyBlob.salt.val),
      beVector 32 0x4f4c7b21781e9efd6614200045e8af5332740440468b2d60182bee06b44990c3 ++
      beVector 32 0x7a3f601c4a68b348894d18feaaf09e60fe6306f0807a1e9b2e8f30bf9cf333f6),
    ((beBytes 20 0x9e68943b06f62ef6c72f8f817b4572481480a8c4,
        List.replicate 64 0 ++ (localStateBlob.drop 20).take 206),
      beVector 32 0xfe727776259faf7d3100849fb4ea49fc69fc16bebd1ec98b5a5227b4cfafbce2 ++
      beVector 32 0x983ff94a57afd2f2ba1f9afa32ae3aa2148c10f2f3016ccabc3e71c6f26dd6c0)]
  aes256 := (CbcCipher.identity 32 16).withAnswer
    (beVector 32 0x4f4c7b21781e9efd6614200045e8af5332740440468b2d60182bee06b44990c3)
    (Vector.replicate 16 0) (pkcs7Pad 16 cookieKey.toList)
    (beBytes 32 0xfadff9dbad57d443d7a0d77cf9fbfdd68827ce91b2ca6ff533bf2f7467ce3298 ++
    beBytes 16 0x65d99ceb7b841f271e14d1f508ce3a2c) (by decide)
  aes256Gcm := (Aead.zeroTag 32 12 16).withAnswer cookieKey (beVector 12 0x0102030405060708090a0b0c)
    (strBytes "forensic-session-token-42")
    (beBytes 32 0x1b5af334ffe7a1fe676c5ab453c8848232ab94aa630c69bae71883958ba23e4d ++
    beBytes 9 0xfe4cc5faff526ce54b) (by decide)

/-- The test's JSON, read as `serde_json` reads it. -/
def cookieEnv : Env :=
  { cookieAnswers.env with
    jsonFromStr := fun text =>
      if text = vectorLocalState then
        .ok (.object [("os_crypt", .object [("encrypted_key", .string encryptedKeyB64)])])
      else .error "expected value at line 1 column 1" }

theorem cookieKeyBlob_bytes : (cookieKeyBlob.wire cookieEnv.crypto).bytes = localStateBlob := by
  decide +kernel

theorem holdsKeyBlob_vector :
    HoldsKeyBlob cookieEnv vectorLocalState (cookieKeyBlob.wire cookieEnv.crypto).bytes := by
  refine ⟨.object [("os_crypt", .object [("encrypted_key", .string encryptedKeyB64)])], ?_, ?_⟩
  · simp only [cookieEnv, if_true]
  · rw [cookieKeyBlob_bytes]
    rfl

theorem cookieValue_vector :
    cookieValue cookieEnv.crypto .v10 cookieKey (beVector 12 0x0102030405060708090a0b0c)
      "forensic-session-token-42" = v10Cookie := by
  decide +kernel

theorem decodeBrowser_roundTrip_vector :
    decodeBrowser cookieEnv vectorLocalState (some v10Cookie) vectorMasterKey
      = .ok
          [{ store := "browser", label := "cookie-key"
             secret := "202122232425262728292a2b2c2d2e2f303132333435363738393a3b3c3d3e3f"
             account := none },
            { store := "browser", label := "cookie", secret := "forensic-session-token-42"
              account := none }] := by
  have hkey : hexLower cookieKey.toList
      = "202122232425262728292a2b2c2d2e2f303132333435363738393a3b3c3d3e3f" := by
    decide +kernel
  rw [← hkey, ← cookieValue_vector]
  exact (decodeBrowser_roundTrip cookieEnv linkedTables_isImpacket).1 vectorLocalState
    cookieKeyBlob cookieKey rfl rfl holdsKeyBlob_vector .v10 _ _

end DpapiForensic
