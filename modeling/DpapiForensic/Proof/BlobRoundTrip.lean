import DpapiForensic.Proof.BlobGrammar
import DpapiForensic.Proof.Decryption
import DpapiForensic.KnownAnswers

/-!
# Decryption undoes protection

A blob minted from a plaintext parses back to its components and decrypts to the plaintext, for each
hash, cipher, signature form and entropy.
-/

namespace DpapiForensic

variable {env : Env}

theorem parse_wire (p : Protection) :
    parseDpapiBlob env (p.wire env.crypto).bytes = .ok (p.wire env.crypto).toBlob :=
  parse_of_bytesAt (p.wire env.crypto).isSlice_bytes (bytesAt_self)

theorem signs_wire (p : Protection) :
    p.keys.Signs env.crypto p.hmac.val (p.unsigned env.crypto).signedBytes
      (p.wire env.crypto).sign.val :=
  ⟨p.form, rfl⟩

theorem decrypt_wire (himp : env.nomicon.IsImpacket) (p : Protection) :
    decryptDpapiBlob env (p.wire env.crypto).toBlob p.masterKey p.entropy = .ok p.plaintext := by
  obtain ⟨n, hn⟩ := hashAlg_algId himp p.hash
  have hcipher : (p.wire env.crypto).toBlob.algIdEncrypt = p.cipher.algId := rfl
  rw [decryptDpapiBlob_eq himp hcipher hn]
  refine Outcome.bind_of_ok (p.cipher.openCbc_encrypt (p.keys.cipherKey env.crypto p.cipher)
    (Vector.replicate p.cipher.blockLen 0) p.plaintext) ?_
  exact Outcome.bind_of_ok (Outcome.failIf_of_not (not_not.mpr (signs_wire p))) rfl

theorem open_wire {β : Type} (himp : env.nomicon.IsImpacket) {p : Protection}
    (hentropy : p.entropy = none) (f : Bytes → Outcome DpapiError β) :
    (do
      let blob ← parseDpapiBlob env (p.wire env.crypto).bytes
      let plain ← decryptDpapiBlob env blob p.masterKey none
      f plain) = f p.plaintext := by
  rw [parse_wire, Outcome.ok_bind, ← hentropy, decrypt_wire himp, Outcome.ok_bind]

/-- A field of a parsed blob has fewer than `2 ^ 32` bytes, and so has what it decrypts to. -/
theorem isSlice_of_open {data masterKey plain : Bytes} {blob : DpapiBlob} {entropy : Option Bytes}
    (hdata : IsSlice data) (hblob : parseDpapiBlob env data = .ok blob)
    (hplain : decryptDpapiBlob env blob masterKey entropy = .ok plain) : IsSlice plain := by
  obtain ⟨w, -, rfl⟩ := exists_wireBlob_of_parse hdata hblob
  have hle : plain.length ≤ w.ciphertext.val.length := decrypt_length_le plain hplain
  have hlt := w.ciphertext.property
  rw [IsSlice]
  omega

/-- **Decryption undoes protection.** -/
theorem decrypt_parse_wire (env : Env) (himp : env.nomicon.IsImpacket) (p : Protection) :
    parseDpapiBlob env (p.wire env.crypto).bytes = .ok (p.wire env.crypto).toBlob ∧
      decryptDpapiBlob env (p.wire env.crypto).toBlob p.masterKey p.entropy = .ok p.plaintext :=
  ⟨parse_wire p, decrypt_wire himp p⟩

/-! ### Blobs minted by Windows, and one by hand -/

/-- `MASTER_KEY_HEX`. -/
def vectorMasterKey : Bytes :=
  beBytes 32 0x9828d9873735439e823dbd216205ff88266d28ad685a413970c640d5ee943154 ++
    beBytes 32 0xbbade31fada673d542c72d707a163bb3d1bceb0c50465b359ae06998481b0ce3

/-- The first blob of `decrypt.rs`'s tests: SHA-512, AES-256, no entropy. -/
def vector1 : Protection where
  version := 1
  version_supported := version_one_supported
  mkVersion := 1
  masterKeyGuid := beVector 16 0x33f19f5ee340be4a8a2e2b4e62bd0cc6
  flags := 0
  description := ⟨[0, 0], fits_nulText⟩
  cipher := .aes256
  cryptAlgoLen := 256
  salt := ⟨beBytes 32 0x0d1af96e5e102266fd36d96ac7d1595552e5a4e972463f77e6e227f22d5fc8df,
    by decide⟩
  hmacKey := ⟨[], fits_nil⟩
  hash := .sha512
  hashAlgoLen := 512
  hmac := ⟨beBytes 32 0x834f3c5710c8a7474f7dbcea8ba28ab8e4d4443f50a0c63ff4eba1cce485295f,
    by decide⟩
  form := .standard
  masterKey := vectorMasterKey
  entropy := none
  plaintext := beBytes 16 0x536f6d65207465737420737472696e67
  fits := by decide

/-- `VECTOR1_BLOB_HEX`. -/
def vector1Bytes : Bytes :=
  beBytes 32 0x01000000d08c9ddf0115d1118c7a00c04fc297eb0100000033f19f5ee340be4a ++
    beBytes 32 0x8a2e2b4e62bd0cc6000000000200000000001066000000010000200000000d1a ++
    beBytes 32 0xf96e5e102266fd36d96ac7d1595552e5a4e972463f77e6e227f22d5fc8df0000 ++
    beBytes 32 0x00000e8000000002000020000000834f3c5710c8a7474f7dbcea8ba28ab8e4d4 ++
    beBytes 32 0x443f50a0c63ff4eba1cce485295f20000000b61d7576c0c6caf3690edb247bde ++
    beBytes 32 0x3f7edaa59580e3b4be1265ea78e8c1b8a61d400000001c03ab807147742649b6 ++
    beBytes 32 0xbdfd1c1344d178bb163842d70abacfd51233af909cb81a677ec05d8db996f587 ++
    beBytes 22 0xef5ac410dc189beda756eb0d1b6ee376823e80968538

def vector1Answers : KnownAnswers where
  sha1 := [(vectorMasterKey, beVector 20 0x9e68943b06f62ef6c72f8f817b4572481480a8c4)]
  hmacSha512 :=
    [((beBytes 20 0x9e68943b06f62ef6c72f8f817b4572481480a8c4, vector1.salt.val),
      beVector 32 0xb6e4a4a140c232a27dbc6509ba1d35036779c025b78d86efed4f6b1e5d6d1ed4 ++
      beVector 32 0x16bade15a566abc2da76016583ec2ca7acf5d9c9d21a70e6d533e6160b2e9527),
    ((beBytes 20 0x9e68943b06f62ef6c72f8f817b4572481480a8c4,
        vector1.hmac.val ++ (vector1Bytes.drop 20).take 158),
      beVector 32 0x1c03ab807147742649b6bdfd1c1344d178bb163842d70abacfd51233af909cb8 ++
      beVector 32 0x1a677ec05d8db996f587ef5ac410dc189beda756eb0d1b6ee376823e80968538)]
  aes256 := (CbcCipher.identity 32 16).withAnswer
    (beVector 32 0xb6e4a4a140c232a27dbc6509ba1d35036779c025b78d86efed4f6b1e5d6d1ed4)
    (Vector.replicate 16 0) (pkcs7Pad 16 vector1.plaintext)
    (beBytes 32 0xb61d7576c0c6caf3690edb247bde3f7edaa59580e3b4be1265ea78e8c1b8a61d) (by decide)

/-- The bytes Windows wrote are those of a minted blob. -/
theorem vector1_bytes : (vector1.wire vector1Answers.env.crypto).bytes = vector1Bytes := by
  decide +kernel

/-- `VECTOR2_BLOB_HEX`, under the entropy of its test. -/
def vector2 : Protection :=
  { vector1 with
    salt := ⟨beBytes 32 0xf239c0018e71b33bef9a6299675c7e209eef1f6447bd578d19c7973548737545,
      by decide⟩
    hmac := ⟨beBytes 32 0x9d9ef33e15ffb1b310a13ecec39b1c02adc39e8d40a7162f9f9bb3170c699a81,
      by decide⟩
    entropy := some (beBytes 12 0x536f6d6520656e74726f7079) }

def vector2Bytes : Bytes :=
  beBytes 32 0x01000000d08c9ddf0115d1118c7a00c04fc297eb0100000033f19f5ee340be4a ++
    beBytes 32 0x8a2e2b4e62bd0cc600000000020000000000106600000001000020000000f239 ++
    beBytes 32 0xc0018e71b33bef9a6299675c7e209eef1f6447bd578d19c79735487375450000 ++
    beBytes 32 0x00000e80000000020000200000009d9ef33e15ffb1b310a13ecec39b1c02adc3 ++
    beBytes 32 0x9e8d40a7162f9f9bb3170c699a812000000040e820259332c47af42e5f9de629 ++
    beBytes 32 0xe109d1504641aad853f3818c40ac311cf24a4000000010f01a84a5cc0393d3ea ++
    beBytes 32 0x44cc3a8ff00ca4d02fcabc7c353a6823c53e4e719c9b398282a06b8878250205 ++
    beBytes 22 0x160ed79fef8b026093ad5a467594953d6de28d71f8c9

def vector2Answers : KnownAnswers where
  sha1 := [(vectorMasterKey, beVector 20 0x9e68943b06f62ef6c72f8f817b4572481480a8c4)]
  hmacSha512 :=
    [((beBytes 20 0x9e68943b06f62ef6c72f8f817b4572481480a8c4,
        vector2.salt.val ++ beBytes 12 0x536f6d6520656e74726f7079),
      beVector 32 0x3a7b1135d8600573af3a9e49ff2cd56fb9eb8bce959e8d7ddab14eef1b370ca6 ++
      beVector 32 0x1b0c16caaa73c25a194adb2b64c091fcadae1f889ffffc43c3b957267a2c3570),
    ((beBytes 20 0x9e68943b06f62ef6c72f8f817b4572481480a8c4,
        vector2.hmac.val ++ beBytes 12 0x536f6d6520656e74726f7079 ++ (vector2Bytes.drop 20).take 158),
      beVector 32 0x10f01a84a5cc0393d3ea44cc3a8ff00ca4d02fcabc7c353a6823c53e4e719c9b ++
      beVector 32 0x398282a06b8878250205160ed79fef8b026093ad5a467594953d6de28d71f8c9)]
  aes256 := (CbcCipher.identity 32 16).withAnswer
    (beVector 32 0x3a7b1135d8600573af3a9e49ff2cd56fb9eb8bce959e8d7ddab14eef1b370ca6)
    (Vector.replicate 16 0) (pkcs7Pad 16 vector2.plaintext)
    (beBytes 32 0x40e820259332c47af42e5f9de629e109d1504641aad853f3818c40ac311cf24a) (by decide)

/-- A triple-DES blob of the older form, minted under an entropy. -/
def tdesBlob : Protection where
  version := 1
  version_supported := version_one_supported
  mkVersion := 1
  masterKeyGuid := beVector 16 0x33f19f5ee340be4a8a2e2b4e62bd0cc6
  flags := 0
  description := ⟨[0, 0], fits_nulText⟩
  cipher := .tdes
  cryptAlgoLen := 192
  salt := ⟨beBytes 16 0x8c3b1de2f5064a9701d2c3b4a5968778, by decide⟩
  hmacKey := ⟨[], fits_nil⟩
  hash := .sha1
  hashAlgoLen := 160
  hmac := ⟨beBytes 16 0x5ed27fa01c9b38e64417dd0a6b85f293, by decide⟩
  form := .pads
  masterKey := vectorMasterKey
  entropy := some (beBytes 6 0x706570706572)
  plaintext := beBytes 16 0x536f6d65207465737420737472696e67
  fits := by decide

def tdesBytes : Bytes :=
  beBytes 32 0x01000000d08c9ddf0115d1118c7a00c04fc297eb0100000033f19f5ee340be4a ++
    beBytes 32 0x8a2e2b4e62bd0cc60000000002000000000003660000c0000000100000008c3b ++
    beBytes 32 0x1de2f5064a9701d2c3b4a59687780000000004800000a0000000100000005ed2 ++
    beBytes 32 0x7fa01c9b38e64417dd0a6b85f29318000000de0d8f2e5204928152e9c5b8d8e4 ++
    beBytes 32 0xd62f8299b45bb4c6e7a514000000e8a3cf8b2fc6c1f482557fe9020c11dce919 ++
    beBytes 2 0x1f10

def tdesAnswers : KnownAnswers where
  sha1 :=
    [(vectorMasterKey, beVector 20 0x9e68943b06f62ef6c72f8f817b4572481480a8c4),
    (beBytes 32 0x9a7066dbb83968fca44f6261c1f71b5c0d36b2c6363636363636363636363636 ++
     beBytes 32 0x3636363636363636363636363636363636363636363636363636363636363636,
      beVector 20 0xab03c1b068b09e6e2afa3e5c0c8464861e52f4aa),
    (beBytes 32 0xf01a0cb1d2530296ce25080bab9d7136675cd8ac5c5c5c5c5c5c5c5c5c5c5c5c ++
     beBytes 32 0x5c5c5c5c5c5c5c5c5c5c5c5c5c5c5c5c5c5c5c5c5c5c5c5c5c5c5c5c5c5c5c5c,
      beVector 20 0xc93271d555d0dfd42975b65fd7814c7a05dd60f2),
    (beBytes 32 0xa85ea20d30c018c0f119b9b74d73447e22b69ef2363636363636363636363636 ++
     beBytes 32 0x3636363636363636363636363636363636363636363636363636363636363636 ++ tdesBlob.hmac.val,
      beVector 20 0xb0ce21ce7b9da6d6810c09b786033bb88df27981),
    (beBytes 32 0xc234c8675aaa72aa9b73d3dd27192e1448dcf4985c5c5c5c5c5c5c5c5c5c5c5c ++
     beBytes 32 0x5c5c5c5c5c5c5c5c5c5c5c5c5c5c5c5c5c5c5c5c5c5c5c5c5c5c5c5c5c5c5c5c ++
        beBytes 20 0xb0ce21ce7b9da6d6810c09b786033bb88df27981 ++
        beBytes 6 0x706570706572 ++ (tdesBytes.drop 20).take 118,
      beVector 20 0xe8a3cf8b2fc6c1f482557fe9020c11dce9191f10)]
  hmacSha1 :=
    [((beBytes 20 0x9e68943b06f62ef6c72f8f817b4572481480a8c4,
        tdesBlob.salt.val ++ beBytes 6 0x706570706572),
      beVector 20 0xac4650ed8e0f5eca92795457f7c12d6a3b0084f0)]
  tdesEde3 := (CbcCipher.identity 24 8).withAnswer
    (beVector 24 0xab02c1b068b09e6e2afb3e5d0d8564861f52f4abc83270d5)
    (Vector.replicate 8 0) (pkcs7Pad 8 tdesBlob.plaintext)
    (beBytes 24 0xde0d8f2e5204928152e9c5b8d8e4d62f8299b45bb4c6e7a5) (by decide)

theorem vector2_bytes : (vector2.wire vector2Answers.env.crypto).bytes = vector2Bytes := by
  decide +kernel

theorem tdesBlob_bytes : (tdesBlob.wire tdesAnswers.env.crypto).bytes = tdesBytes := by
  decide +kernel

theorem decrypt_parse_vectors :
    (parseDpapiBlob vector1Answers.env vector1Bytes
        = .ok (vector1.wire vector1Answers.env.crypto).toBlob ∧
      decryptDpapiBlob vector1Answers.env (vector1.wire vector1Answers.env.crypto).toBlob
        vectorMasterKey none = .ok (beBytes 16 0x536f6d65207465737420737472696e67)) ∧
    (parseDpapiBlob vector2Answers.env vector2Bytes
        = .ok (vector2.wire vector2Answers.env.crypto).toBlob ∧
      decryptDpapiBlob vector2Answers.env (vector2.wire vector2Answers.env.crypto).toBlob
        vectorMasterKey (some (beBytes 12 0x536f6d6520656e74726f7079))
          = .ok (beBytes 16 0x536f6d65207465737420737472696e67)) ∧
    parseDpapiBlob tdesAnswers.env tdesBytes = .ok (tdesBlob.wire tdesAnswers.env.crypto).toBlob ∧
      decryptDpapiBlob tdesAnswers.env (tdesBlob.wire tdesAnswers.env.crypto).toBlob
        vectorMasterKey (some (beBytes 6 0x706570706572))
          = .ok (beBytes 16 0x536f6d65207465737420737472696e67) := by
  rw [← vector1_bytes, ← vector2_bytes, ← tdesBlob_bytes]
  refine ⟨?_, ?_, ?_⟩
  · exact decrypt_parse_wire vector1Answers.env linkedTables_isImpacket vector1
  · exact decrypt_parse_wire vector2Answers.env linkedTables_isImpacket vector2
  · exact decrypt_parse_wire tdesAnswers.env linkedTables_isImpacket tdesBlob

end DpapiForensic
