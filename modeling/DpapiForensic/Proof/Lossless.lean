import DpapiForensic.Proof.BrowserRoundTrip
import DpapiForensic.Proof.CredentialRoundTrip

/-!
# What a report keeps of a secret

Secrets are reported as text, and read as text lossily: unpaired surrogates and ill-formed sequences are
replaced, an odd byte at the end is dropped. So a report keeps secrets apart as long as they are text, and
no longer.
-/

namespace DpapiForensic

variable {env : Env}

/-! ### Two runs -/

/-- A run of a decoder: the secret in its input, the texts it is reported as, and whether it is refused. -/
structure Reading where
  holds : Bytes → Prop
  reports : String → Prop
  refused : Prop

/-- Two secrets that differ in what is to be kept are not reported alike, and a secret that is no text is
refused. -/
def Lossless {α : Type} (kept : Bytes → α) (IsText : Bytes → Prop) (r r' : Reading) : Prop :=
  (∀ secret secret' text, r.holds secret → r'.holds secret' → kept secret ≠ kept secret' →
    ¬(r.reports text ∧ r'.reports text)) ∧
  (∀ secret, r.holds secret → ¬IsText secret → r.refused) ∧
  ∀ secret, r'.holds secret → ¬IsText secret → r'.refused

/-- Every secret is reported, as a function of its bytes. -/
def Reading.ReadsBy (decode : Bytes → String) (r : Reading) : Prop :=
  ∀ secret, r.holds secret → ¬r.refused ∧ ∀ text, r.reports text → text = decode secret

section Pair

variable {α : Type} {kept : Bytes → α} {IsText : Bytes → Prop} {decode : Bytes → String}
  {r r' : Reading}

theorem lossless_iff (hr : r.ReadsBy decode) (hr' : r'.ReadsBy decode)
    (hkept : ∀ {a b}, IsText a → IsText b → decode a = decode b → kept a = kept b) :
    Lossless kept IsText r r' ↔
      (∀ secret, r.holds secret → IsText secret) ∧ ∀ secret, r'.holds secret → IsText secret := by
  constructor
  · rintro ⟨-, hrefused, hrefused'⟩
    constructor
    · intro secret hsecret
      by_contra hnot
      exact (hr secret hsecret).1 (hrefused secret hsecret hnot)
    · intro secret hsecret
      by_contra hnot
      exact (hr' secret hsecret).1 (hrefused' secret hsecret hnot)
  · rintro ⟨htext, htext'⟩
    refine ⟨fun secret secret' text hsecret hsecret' hne ⟨hreport, hreport'⟩ => ?_,
      fun secret hsecret hnot => absurd (htext secret hsecret) hnot,
      fun secret hsecret hnot => absurd (htext' secret hsecret) hnot⟩
    apply hne
    apply hkept (htext secret hsecret) (htext' secret' hsecret')
    rw [← (hr secret hsecret).2 text hreport, ← (hr' secret' hsecret').2 text hreport']

end Pair

/-! ### Credentials and cookies -/

structure CredentialInput where
  blobBytes : Slice
  masterKey : Bytes

/-- The secret is the `Unknown` field of the cleartext. -/
def CredentialInput.reading (env : Env) (x : CredentialInput) : Reading where
  holds secret := ∃ blob cleartext, ∃ w : WireCredential,
    parseDpapiBlob env x.blobBytes.val = .ok blob ∧
      decryptDpapiBlob env blob x.masterKey none = .ok cleartext ∧ w.bytes <+: cleartext ∧
      secret = w.unknown.val
  reports text := ∃ cred, decryptCredential env x.blobBytes.val x.masterKey = .ok cred ∧
    cred.secret = text
  refused := ∃ e, decryptCredential env x.blobBytes.val x.masterKey = .err e

theorem credential_readsBy (x : CredentialInput) : (x.reading env).ReadsBy decodeUtf16le := by
  rintro secret ⟨blob, cleartext, w, hblob, hcleartext, hstarts, rfl⟩
  have hslice := isSlice_of_open x.blobBytes.property hblob hcleartext
  have hparse : parseCredentialBlob env cleartext = .ok w.toCredential :=
    (parseCredentialBlobWith_eq_ok_iff hslice).mpr ⟨w, bytesAt_zero_iff_starts.mpr hstarts, rfl⟩
  have hopen : decryptCredential env x.blobBytes.val x.masterKey = .ok w.toCredential := by
    rw [decryptCredential, hblob, Outcome.ok_bind, hcleartext, Outcome.ok_bind, hparse]
  constructor
  · rintro ⟨e, he⟩
    rw [hopen] at he
    cases he
  · rintro text ⟨cred, hcred, rfl⟩
    rw [hopen] at hcred
    rw [← Outcome.ok.inj hcred]
    rfl

structure CookieInput where
  localStateJson : String
  cookieBlob : Bytes
  masterKey : Bytes

def CookieInput.reading (env : Env) (x : CookieInput) : Reading where
  holds plaintext := ∃ key,
    cookieCleartext env x.localStateJson x.cookieBlob x.masterKey = .ok (key, plaintext)
  reports text := ∃ results, decodeBrowser env x.localStateJson (some x.cookieBlob) x.masterKey
      = .ok results ∧ ∃ r ∈ results, r.label = "cookie" ∧ r.secret = text
  refused := ∃ e, decodeBrowser env x.localStateJson (some x.cookieBlob) x.masterKey = .err e

theorem cookie_readsBy (x : CookieInput) :
    (x.reading env).ReadsBy fun plaintext => String.ofList (fromUtf8Lossy plaintext) := by
  rintro plaintext ⟨key, hopen⟩
  have hdecode := @decodeBrowser_some env x.localStateJson x.cookieBlob x.masterKey
  rw [hopen, Outcome.ok_bind] at hdecode
  constructor
  · rintro ⟨e, he⟩
    rw [hdecode] at he
    cases he
  · rintro text ⟨results, hresults, r, hr, hlabel, rfl⟩
    rw [hdecode] at hresults
    obtain rfl := Outcome.ok.inj hresults
    simp only [List.mem_cons, List.not_mem_nil, or_false] at hr
    have hother : "cookie-key" ≠ "cookie" := by decide
    rcases hr with rfl | rfl
    · exact absurd hlabel hother
    · rfl

/-- **When reports are lossless**: exactly for secrets that are UTF-16, and cookies that are UTF-8. -/
theorem reports_lossless_iff (env : Env) :
    (∀ x y : CredentialInput, Lossless trimNulUnits IsUtf16le (x.reading env) (y.reading env) ↔
      (∀ secret, (x.reading env).holds secret → IsUtf16le secret) ∧
        ∀ secret, (y.reading env).holds secret → IsUtf16le secret) ∧
    (∀ x y : CookieInput, Lossless id IsUtf8 (x.reading env) (y.reading env) ↔
      (∀ plaintext, (x.reading env).holds plaintext → IsUtf8 plaintext) ∧
        ∀ plaintext, (y.reading env).holds plaintext → IsUtf8 plaintext) := by
  constructor
  · intro x y
    exact lossless_iff (credential_readsBy x) (credential_readsBy y) trimNulUnits_inj
  · intro x y
    refine lossless_iff (cookie_readsBy x) (cookie_readsBy y) fun ha hb h => ?_
    exact isUtf8_inj ha hb (String.ofList_injective h)

/-! ### A lone surrogate and its replacement -/

/-- A credential whose secret is one unit. -/
def unitCredential (unit : UInt16) : WireCredential where
  header := ⟨0, 0, 0, 0, 0, 0, 0, 0, 0, 0⟩
  target := ⟨[], fits_nil⟩
  targetAlias := ⟨[], fits_nil⟩
  description := ⟨[], fits_nil⟩
  unknown := ⟨le16 unit, by rw [le16, length_leBytes]; decide⟩
  username := ⟨[], fits_nil⟩

def unitBlob (unit : UInt16) (salt : UInt8) : Protection where
  version := 1
  version_supported := version_one_supported
  mkVersion := 1
  masterKeyGuid := beVector 16 0x33f19f5ee340be4a8a2e2b4e62bd0cc6
  flags := 0
  description := ⟨[0, 0], fits_nulText⟩
  cipher := .aes256
  cryptAlgoLen := 256
  salt := ⟨List.replicate 16 salt, by simp⟩
  hmacKey := ⟨[], fits_nil⟩
  hash := .sha512
  hashAlgoLen := 512
  hmac := ⟨List.replicate 64 0, fits_zeros⟩
  form := .standard
  masterKey := vectorMasterKey
  entropy := none
  plaintext := (unitCredential unit).bytes
  fits := by simp [unitCredential, WireCredential.bytes, le16, pkcs7Pad, BlobCipher.blockLen]

/-- A blob over the secret D800, an unpaired surrogate. -/
def surrogateBlob : Bytes :=
  beBytes 32 0x01000000d08c9ddf0115d1118c7a00c04fc297eb0100000033f19f5ee340be4a ++
    beBytes 32 0x8a2e2b4e62bd0cc6000000000200000000001066000000010000100000000101 ++
    beBytes 32 0x0101010101010101010101010101000000000e80000000020000400000000000 ++
    beBytes 32 0x0000000000000000000000000000000000000000000000000000000000000000 ++
    beBytes 32 0x0000000000000000000000000000000000000000000000000000000000005000 ++
    beBytes 32 0x0000050d6e44892f3163effe9436186e4d8daf2b18572b56584c32358e26d705 ++
    beBytes 32 0x59f0fbbdbe253b186b979e244828415eca98d0991f7ae4ae575eef3782cf7ae8 ++
    beBytes 32 0xb08784617f4234e6a93916637ece9a9078ea40000000733f5efc66ed499b77d9 ++
    beBytes 32 0x48f98dce0cd5c365790c6065720af1cf3a21ac4ed22edf3b4dbdca2c2f155513 ++
    beBytes 22 0x2c964c116c6854e52559510f83a0f4cde179c55343f1

/-- A blob over the secret FFFD, the replacement character. -/
def replacementBlob : Bytes :=
  beBytes 32 0x01000000d08c9ddf0115d1118c7a00c04fc297eb0100000033f19f5ee340be4a ++
    beBytes 32 0x8a2e2b4e62bd0cc6000000000200000000001066000000010000100000000202 ++
    beBytes 32 0x0202020202020202020202020202000000000e80000000020000400000000000 ++
    beBytes 32 0x0000000000000000000000000000000000000000000000000000000000000000 ++
    beBytes 32 0x0000000000000000000000000000000000000000000000000000000000005000 ++
    beBytes 32 0x00008fe400f4eef712091b11ef48d58f0faa7bf1b6534a8a37a6dbcad33d5b64 ++
    beBytes 32 0x05a67fd016c54c181ba208b93750c6a63222b27d75183ab03ba3dedd31970e1a ++
    beBytes 32 0xc3110132cd95699e30d71d5a27ca7fd3c22f40000000bb99460f3b2991d10f23 ++
    beBytes 32 0x9103c2dd128ec111e123270c10879b92bf36b0a08ed3d0b3ef7ae29315ced391 ++
    beBytes 22 0x10968ad9bc971c1bd932b237c670a1cc18f4c48fc958

def unitAnswers : KnownAnswers where
  sha1 := [(vectorMasterKey, beVector 20 0x9e68943b06f62ef6c72f8f817b4572481480a8c4)]
  hmacSha512 :=
    [((beBytes 20 0x9e68943b06f62ef6c72f8f817b4572481480a8c4, List.replicate 16 1),
      beVector 32 0xccdfc6dc5689f294f81ea102b00401cafb058d4ac853a5552f379f6d459f7e3a ++
      beVector 32 0xe7395779a3f1d6b3d37abf4e63da4aa1e8a182df8b112aa7630d72bd279202ec),
    ((beBytes 20 0x9e68943b06f62ef6c72f8f817b4572481480a8c4,
        List.replicate 64 0 ++ (surrogateBlob.drop 20).take 222),
      beVector 32 0x733f5efc66ed499b77d948f98dce0cd5c365790c6065720af1cf3a21ac4ed22e ++
      beVector 32 0xdf3b4dbdca2c2f1555132c964c116c6854e52559510f83a0f4cde179c55343f1),
    ((beBytes 20 0x9e68943b06f62ef6c72f8f817b4572481480a8c4, List.replicate 16 2),
      beVector 32 0x022b814eaa34110192ab0c0b5b88b2059162e3048bd9d5613d222078d50933da ++
      beVector 32 0xc334666b3f61ce9a2d1c08d66efc5f76811e936f77ae6344611e6d9a50e9a8af),
    ((beBytes 20 0x9e68943b06f62ef6c72f8f817b4572481480a8c4,
        List.replicate 64 0 ++ (replacementBlob.drop 20).take 222),
      beVector 32 0xbb99460f3b2991d10f239103c2dd128ec111e123270c10879b92bf36b0a08ed3 ++
      beVector 32 0xd0b3ef7ae29315ced39110968ad9bc971c1bd932b237c670a1cc18f4c48fc958)]
  aes256 := ((CbcCipher.identity 32 16).withAnswer
    (beVector 32 0xccdfc6dc5689f294f81ea102b00401cafb058d4ac853a5552f379f6d459f7e3a)
    (Vector.replicate 16 0) (pkcs7Pad 16 (unitCredential 0xd800).bytes)
    (beBytes 32 0x050d6e44892f3163effe9436186e4d8daf2b18572b56584c32358e26d70559f0 ++
      beBytes 32 0xfbbdbe253b186b979e244828415eca98d0991f7ae4ae575eef3782cf7ae8b087 ++
      beBytes 16 0x84617f4234e6a93916637ece9a9078ea) (by decide +kernel)).withAnswer
    (beVector 32 0x022b814eaa34110192ab0c0b5b88b2059162e3048bd9d5613d222078d50933da)
    (Vector.replicate 16 0) (pkcs7Pad 16 (unitCredential 0xfffd).bytes)
    (beBytes 32 0x8fe400f4eef712091b11ef48d58f0faa7bf1b6534a8a37a6dbcad33d5b6405a6 ++
      beBytes 32 0x7fd016c54c181ba208b93750c6a63222b27d75183ab03ba3dedd31970e1ac311 ++
      beBytes 16 0x0132cd95699e30d71d5a27ca7fd3c22f) (by decide +kernel)

theorem surrogateBlob_bytes :
    ((unitBlob 0xd800 1).wire unitAnswers.env.crypto).bytes = surrogateBlob := by
  decide +kernel

theorem replacementBlob_bytes :
    ((unitBlob 0xfffd 2).wire unitAnswers.env.crypto).bytes = replacementBlob := by
  decide +kernel

def surrogateInput : CredentialInput where
  blobBytes := ⟨surrogateBlob, by simp [surrogateBlob, IsSlice, beBytes]⟩
  masterKey := vectorMasterKey

def replacementInput : CredentialInput where
  blobBytes := ⟨replacementBlob, by simp [replacementBlob, IsSlice, beBytes]⟩
  masterKey := vectorMasterKey

theorem reading_unit {unit : UInt16} {salt : UInt8} {x : CredentialInput}
    (hbytes : ((unitBlob unit salt).wire unitAnswers.env.crypto).bytes = x.blobBytes.val)
    (hkey : (unitBlob unit salt).masterKey = x.masterKey) :
    (x.reading unitAnswers.env).holds (le16 unit) ∧
      (x.reading unitAnswers.env).reports (decodeUtf16le (le16 unit)) := by
  have hparse := @parse_wire unitAnswers.env (unitBlob unit salt)
  have hdecrypt := @decrypt_wire unitAnswers.env linkedTables_isImpacket (unitBlob unit salt)
  have hopen := @decryptCredential_wire unitAnswers.env linkedTables_isImpacket
    (unitCredential unit) [] (unitBlob unit salt) rfl (List.append_nil _).symm
  rw [hbytes] at hparse
  rw [hbytes, hkey] at hopen
  rw [hkey] at hdecrypt
  exact ⟨⟨_, _, unitCredential unit, hparse, hdecrypt, List.prefix_rfl, rfl⟩, _, hopen, rfl⟩

theorem not_lossless_surrogate :
    (surrogateInput.reading unitAnswers.env).reports "\uFFFD" ∧
      (replacementInput.reading unitAnswers.env).reports "\uFFFD" ∧
      ¬Lossless trimNulUnits IsUtf16le (surrogateInput.reading unitAnswers.env)
        (replacementInput.reading unitAnswers.env) := by
  have hlone : decodeUtf16le (le16 0xd800) = "\uFFFD" := by decide +kernel
  have hplain : decodeUtf16le (le16 0xfffd) = "\uFFFD" := by decide +kernel
  have hdiffer : trimNulUnits (le16 0xd800) ≠ trimNulUnits (le16 0xfffd) := by decide +kernel
  obtain ⟨hx, hxReport⟩ := reading_unit (x := surrogateInput) surrogateBlob_bytes rfl
  obtain ⟨hy, hyReport⟩ := reading_unit (x := replacementInput) replacementBlob_bytes rfl
  rw [hlone] at hxReport
  rw [hplain] at hyReport
  exact ⟨hxReport, hyReport, fun h => h.1 _ _ _ hx hy hdiffer ⟨hxReport, hyReport⟩⟩

end DpapiForensic
