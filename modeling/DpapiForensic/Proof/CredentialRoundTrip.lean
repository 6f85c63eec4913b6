import DpapiForensic.Cli
import DpapiForensic.Layout.Text
import DpapiForensic.Proof.ArtifactGrammar
import DpapiForensic.Proof.BlobRoundTrip

/-!
# Credential Manager decoding undoes protection

Five texts behind a header, protected as a blob and wrapped in a file, come back as they went in. The
alias and the description are not reported, but the secret and the user name lie behind them.
-/

namespace DpapiForensic

variable {env : Env}

structure CredentialTexts where
  header : WireCredentialHeader
  target : FieldText
  targetAlias : FieldText
  description : FieldText
  secret : FieldText
  username : FieldText

namespace CredentialTexts

variable (t : CredentialTexts)

def wire : WireCredential where
  header := t.header
  target := t.target.field
  targetAlias := t.targetAlias.field
  description := t.description.field
  unknown := t.secret.field
  username := t.username.field

def credential : Credential where
  target := t.target.text
  username := t.username.text
  secret := t.secret.text
  lastWritten := t.header.lastWritten

theorem toCredential_wire : t.wire.toCredential = t.credential := by
  simp only [WireCredential.toCredential, wire, credential, FieldText.decode_field]

end CredentialTexts

theorem parseCredentialFile_bytes (file : WireCredentialFile) :
    parseCredentialFile env file.bytes = .ok file.data.val :=
  parseCredentialFileWith_eq_ok_iff.mpr ⟨file, bytesAt_self, rfl⟩

theorem parseCredentialBlob_bytes (w : WireCredential) {trailing : Bytes}
    (hslice : IsSlice (w.bytes ++ trailing)) :
    parseCredentialBlob env (w.bytes ++ trailing) = .ok w.toCredential :=
  (parseCredentialBlobWith_eq_ok_iff hslice).mpr ⟨w, bytesAt_zero_iff.mpr ⟨trailing, rfl⟩, rfl⟩

/-- Whatever its fields hold, a credential that is protected and opened again is parsed. -/
theorem decryptCredential_wire (himp : env.nomicon.IsImpacket) (w : WireCredential)
    (trailing : Bytes) {p : Protection} (hentropy : p.entropy = none)
    (hplain : p.plaintext = w.bytes ++ trailing) :
    decryptCredential env (p.wire env.crypto).bytes p.masterKey = .ok w.toCredential := by
  have hslice : IsSlice (w.bytes ++ trailing) := by
    have hlt := p.length_plaintext_lt
    rw [hplain] at hlt
    rw [IsSlice]
    omega
  rw [decryptCredential, open_wire himp hentropy, hplain, parseCredentialBlob_bytes w hslice]

/-- **Credential Manager decoding undoes protection**, whatever trails the user name. -/
theorem decodeCredman_roundTrip (env : Env) (himp : env.nomicon.IsImpacket) (t : CredentialTexts)
    (trailing : Bytes) (p : Protection) (hentropy : p.entropy = none)
    (hplain : p.plaintext = t.wire.bytes ++ trailing) (file : WireCredentialFile)
    (hdata : file.data.val = (p.wire env.crypto).bytes) :
    parseCredentialFile env file.bytes = .ok (p.wire env.crypto).bytes ∧
      decryptCredential env (p.wire env.crypto).bytes p.masterKey
        = .ok { target := t.target.text, username := t.username.text, secret := t.secret.text
                lastWritten := t.header.lastWritten } ∧
      decodeCredman env file.bytes p.masterKey
        = .ok [{ store := "credman", label := t.target.text, secret := t.secret.text
                 account := some t.username.text }] := by
  have hstrip : parseCredentialFile env file.bytes = .ok (p.wire env.crypto).bytes := by
    rw [parseCredentialFile_bytes, hdata]
  have hopen : decryptCredential env (p.wire env.crypto).bytes p.masterKey = .ok t.credential := by
    rw [decryptCredential_wire himp t.wire trailing hentropy hplain, t.toCredential_wire]
  refine ⟨hstrip, hopen, ?_⟩
  rw [decodeCredman, hstrip, Outcome.mapErr_ok, Outcome.ok_bind, hopen, Cli.orLocked, Outcome.ok_bind]
  rfl

/-! ### A credential of the repository's tests -/

def credentialTexts : CredentialTexts where
  header := ⟨0, 0, 0, 1, 0, 0x1d8000000000000, 0, 2, 0, 0⟩
  target := ⟨"Domain:target=TERMSRV/fileserver01", by unfold NoTrailingNul; decide +kernel,
    by decide +kernel⟩
  targetAlias := ⟨"", by unfold NoTrailingNul; decide +kernel, by decide +kernel⟩
  description := ⟨"", by unfold NoTrailingNul; decide +kernel, by decide +kernel⟩
  secret := ⟨"S3cr3t-P@ssw0rd!", by unfold NoTrailingNul; decide +kernel, by decide +kernel⟩
  username := ⟨"CORP\\jdoe", by unfold NoTrailingNul; decide +kernel, by decide +kernel⟩

/-- The blob around them: SHA-512, AES-256, no entropy. -/
def credentialBlob : Protection where
  version := 1
  version_supported := version_one_supported
  mkVersion := 1
  masterKeyGuid := beVector 16 0x33f19f5ee340be4a8a2e2b4e62bd0cc6
  flags := 0
  description := ⟨[0, 0], fits_nulText⟩
  cipher := .aes256
  cryptAlgoLen := 256
  salt := ⟨beBytes 32 0xaabbccddeeff00112233445566778899aabbccddeeff00112233445566778899,
    by decide⟩
  hmacKey := ⟨[], fits_nil⟩
  hash := .sha512
  hashAlgoLen := 512
  hmac := ⟨List.replicate 64 0, fits_zeros⟩
  form := .standard
  masterKey := vectorMasterKey
  entropy := none
  plaintext := credentialTexts.wire.bytes ++ [0, 0, 0, 0]
  fits := by decide +kernel

/-- `CRED_FILE_HEX`. -/
def credentialFile : Bytes :=
  beBytes 32 0x01000000b60100000000000001000000d08c9ddf0115d1118c7a00c04fc297eb ++
    beBytes 32 0x0100000033f19f5ee340be4a8a2e2b4e62bd0cc6000000000200000000001066 ++
    beBytes 32 0x00000001000020000000aabbccddeeff00112233445566778899aabbccddeeff ++
    beBytes 32 0x00112233445566778899000000000e8000000002000040000000000000000000 ++
    beBytes 32 0x0000000000000000000000000000000000000000000000000000000000000000 ++
    beBytes 32 0x0000000000000000000000000000000000000000000000000000c0000000e2d6 ++
    beBytes 32 0xd8670704ca1daecd786fe94c133a68fd50708f3ed0ca7013b5e0bc5f61296b5a ++
    beBytes 32 0x32b935d6b5404a2162bc26cf561cb7b45f58c7cc8d18305c9dd068860bd4f6ce ++
    beBytes 32 0xa89ea34db4acde8ebae4606ec1261e8006b104d96eb42975e0df1042aa1161e6 ++
    beBytes 32 0xc70af5530507238141080d7d7ea1f16a9609963b296143504a4af284826e1436 ++
    beBytes 32 0x641c74c6dc00d0b1731794887426fc4e4f4d440416c1874aaf34b6a74411d9ed ++
    beBytes 32 0x966d73b6a8d05c8546329e7bb4222d2518ab8e2e7d8c47624ec64ecc8a004000 ++
    beBytes 32 0x0000e0585a675fef9ed63f72673bd9408684dc7fc86ad4926a76c432af933aea ++
    beBytes 32 0xb68447e56860b1715cff46516cf38433a856b28a5d0653313a11664b98f2361e ++
    beBytes 2 0x8cca

def credentialAnswers : KnownAnswers where
  sha1 := [(vectorMasterKey, beVector 20 0x9e68943b06f62ef6c72f8f817b4572481480a8c4)]
  hmacSha512 :=
    [((beBytes 20 0x9e68943b06f62ef6c72f8f817b4572481480a8c4, credentialBlob.salt.val),
      beVector 32 0xefe5211e543cb49d731464f58cb63c2f167060b6fa1b4cae8ad2dffb46ee77ce ++
      beVector 32 0xc3e5509a009361fad8c2ccf931a1e6d130e5eaa71b2c856f3703979ddf959865),
    ((beBytes 20 0x9e68943b06f62ef6c72f8f817b4572481480a8c4,
        List.replicate 64 0 ++ (credentialFile.drop 32).take 350),
      beVector 32 0xe0585a675fef9ed63f72673bd9408684dc7fc86ad4926a76c432af933aeab684 ++
      beVector 32 0x47e56860b1715cff46516cf38433a856b28a5d0653313a11664b98f2361e8cca)]
  aes256 := (CbcCipher.identity 32 16).withAnswer
    (beVector 32 0xefe5211e543cb49d731464f58cb63c2f167060b6fa1b4cae8ad2dffb46ee77ce)
    (Vector.replicate 16 0) (pkcs7Pad 16 credentialBlob.plaintext)
    (beBytes 32 0xe2d6d8670704ca1daecd786fe94c133a68fd50708f3ed0ca7013b5e0bc5f6129 ++
      beBytes 32 0x6b5a32b935d6b5404a2162bc26cf561cb7b45f58c7cc8d18305c9dd068860bd4 ++
      beBytes 32 0xf6cea89ea34db4acde8ebae4606ec1261e8006b104d96eb42975e0df1042aa11 ++
      beBytes 32 0x61e6c70af5530507238141080d7d7ea1f16a9609963b296143504a4af284826e ++
      beBytes 32 0x1436641c74c6dc00d0b1731794887426fc4e4f4d440416c1874aaf34b6a74411 ++
      beBytes 32 0xd9ed966d73b6a8d05c8546329e7bb4222d2518ab8e2e7d8c47624ec64ecc8a00)
    (by decide +kernel)

def vectorCredentialFile : WireCredentialFile where
  version := 1
  unknown := 0
  data := ⟨(credentialBlob.wire credentialAnswers.env.crypto).bytes, by decide +kernel⟩

theorem vectorCredentialFile_bytes : vectorCredentialFile.bytes = credentialFile := by
  decide +kernel

/-! ### A credential with every field in use

The tests leave the alias and the description empty. This one is protected as theirs is, under the same
master key and salt.
-/

def backupTexts : CredentialTexts where
  header := ⟨0xca, 0x130, 3, 1, 7, 0x1da2b3c4d5e6f70, 9, 2, 1, 6⟩
  target := ⟨"LegacyGeneric:target=backup01", by unfold NoTrailingNul; decide +kernel,
    by decide +kernel⟩
  targetAlias := ⟨"files", by unfold NoTrailingNul; decide +kernel, by decide +kernel⟩
  description := ⟨"Jump host, north site", by unfold NoTrailingNul; decide +kernel, by decide +kernel⟩
  secret := ⟨"Grüße-🔑-42", by unfold NoTrailingNul; decide +kernel, by decide +kernel⟩
  username := ⟨"CORP\\svc-backup", by unfold NoTrailingNul; decide +kernel, by decide +kernel⟩

def backupBlob : Protection :=
  { credentialBlob with plaintext := backupTexts.wire.bytes ++ [1, 2, 3], fits := by decide +kernel }

def backupFile : Bytes :=
  beBytes 32 0x01000000e60100000000000001000000d08c9ddf0115d1118c7a00c04fc297eb ++
    beBytes 32 0x0100000033f19f5ee340be4a8a2e2b4e62bd0cc6000000000200000000001066 ++
    beBytes 32 0x00000001000020000000aabbccddeeff00112233445566778899aabbccddeeff ++
    beBytes 32 0x00112233445566778899000000000e8000000002000040000000000000000000 ++
    beBytes 32 0x0000000000000000000000000000000000000000000000000000000000000000 ++
    beBytes 32 0x0000000000000000000000000000000000000000000000000000f00000004d6f ++
    beBytes 32 0x88de96b9b085395f9ead59174ba37860600763d5579634aabdac4835af9abb91 ++
    beBytes 32 0xb6fc75a3d5d025c42a21a40180a4fae16df0f8ed896a6d2ac1c5a53a2257cfa4 ++
    beBytes 32 0xa4a79c3e7c827486414b9ff80832260389b81d6e7e0c3da0aeaca014dda108ea ++
    beBytes 32 0x464dd79f90d452a9a37c1605fcc7005cae5e962a4ccf39be3f8b08bb5841b864 ++
    beBytes 32 0xd57706a0d53754a741b25e8f92390b4fa128f85b8669ebb61b7b0b6e18876c42 ++
    beBytes 32 0xe489a14503b50632287e0d672ba4c96daa97e467498aa128fd136a1ab890926e ++
    beBytes 32 0x6098cb93f82196d21f9d0d73e3331accf24afa8c4b258afc72e336188f2d602b ++
    beBytes 32 0xe0c88121c0c1a1726404b661e7014000000034f137606968e4907a2870f73696 ++
    beBytes 32 0x2ffbb68e7c507325429ec1c8b3c91bd0fdacf10e50d5b984f4619d86f1a96724 ++
    beBytes 18 0x3ed125362fb6ed33df7a2d748b955bd9f522

def backupAnswers : KnownAnswers :=
  { credentialAnswers with
    hmacSha512 :=
      ((beBytes 20 0x9e68943b06f62ef6c72f8f817b4572481480a8c4,
          List.replicate 64 0 ++ (backupFile.drop 32).take 398),
        beVector 32 0x34f137606968e4907a2870f736962ffbb68e7c507325429ec1c8b3c91bd0fdac ++
        beVector 32 0xf10e50d5b984f4619d86f1a967243ed125362fb6ed33df7a2d748b955bd9f522) ::
        credentialAnswers.hmacSha512
    aes256 := (CbcCipher.identity 32 16).withAnswer
      (beVector 32 0xefe5211e543cb49d731464f58cb63c2f167060b6fa1b4cae8ad2dffb46ee77ce)
      (Vector.replicate 16 0) (pkcs7Pad 16 backupBlob.plaintext)
      (beBytes 32 0x4d6f88de96b9b085395f9ead59174ba37860600763d5579634aabdac4835af9a ++
        beBytes 32 0xbb91b6fc75a3d5d025c42a21a40180a4fae16df0f8ed896a6d2ac1c5a53a2257 ++
        beBytes 32 0xcfa4a4a79c3e7c827486414b9ff80832260389b81d6e7e0c3da0aeaca014dda1 ++
        beBytes 32 0x08ea464dd79f90d452a9a37c1605fcc7005cae5e962a4ccf39be3f8b08bb5841 ++
        beBytes 32 0xb864d57706a0d53754a741b25e8f92390b4fa128f85b8669ebb61b7b0b6e1887 ++
        beBytes 32 0x6c42e489a14503b50632287e0d672ba4c96daa97e467498aa128fd136a1ab890 ++
        beBytes 32 0x926e6098cb93f82196d21f9d0d73e3331accf24afa8c4b258afc72e336188f2d ++
        beBytes 16 0x602be0c88121c0c1a1726404b661e701)
      (by decide +kernel) }

def backupCredentialFile : WireCredentialFile where
  version := 1
  unknown := 0
  data := ⟨(backupBlob.wire backupAnswers.env.crypto).bytes, by decide +kernel⟩

theorem backupCredentialFile_bytes : backupCredentialFile.bytes = backupFile := by
  decide +kernel

theorem decodeCredman_roundTrip_vectors :
    decodeCredman credentialAnswers.env credentialFile vectorMasterKey
        = .ok [{ store := "credman", label := "Domain:target=TERMSRV/fileserver01"
                 secret := "S3cr3t-P@ssw0rd!", account := some "CORP\\jdoe" }] ∧
      parseCredentialFile backupAnswers.env backupFile
        = .ok (backupBlob.wire backupAnswers.env.crypto).bytes ∧
      decryptCredential backupAnswers.env (backupBlob.wire backupAnswers.env.crypto).bytes
          vectorMasterKey
        = .ok { target := "LegacyGeneric:target=backup01", username := "CORP\\svc-backup"
                secret := "Grüße-🔑-42", lastWritten := 0x1da2b3c4d5e6f70 } ∧
      decodeCredman backupAnswers.env backupFile vectorMasterKey
        = .ok [{ store := "credman", label := "LegacyGeneric:target=backup01"
                 secret := "Grüße-🔑-42", account := some "CORP\\svc-backup" }] := by
  rw [← vectorCredentialFile_bytes, ← backupCredentialFile_bytes]
  constructor
  · exact (decodeCredman_roundTrip credentialAnswers.env linkedTables_isImpacket credentialTexts
      [0, 0, 0, 0] credentialBlob rfl rfl vectorCredentialFile rfl).2.2
  · exact decodeCredman_roundTrip backupAnswers.env linkedTables_isImpacket backupTexts [1, 2, 3]
      backupBlob rfl rfl backupCredentialFile rfl

end DpapiForensic
