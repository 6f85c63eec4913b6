import DpapiForensic.Layout.VaultCredential
import DpapiForensic.Proof.BlobRoundTrip
import DpapiForensic.Proof.VcrdRecord

/-!
# Vault decoding undoes vault protection

The policy opens to its keys, the record parses to its attributes, and under the first key every
attribute decrypts to the cleartext whose texts are reported.
-/

namespace DpapiForensic

variable {env : Env}

/-! ### The policy -/

theorem parseVpolFile_bytes (w : WireVpol) : parseVpolFile env w.bytes = .ok w.blob.val :=
  (parseVpolFileWith_eq_ok_iff w.isSlice_bytes).mpr ⟨w, bytesAt_self, rfl⟩

theorem decryptVpolKeys_wire (himp : env.nomicon.IsImpacket) {p : Protection}
    (hentropy : p.entropy = none) {k : WireVpolKeys} (hplain : p.plaintext = k.bytes) :
    decryptVpolKeys env (p.wire env.crypto).bytes p.masterKey = .ok k.toKeys := by
  rw [decryptVpolKeys, open_wire himp hentropy, hplain]
  exact (readVpolKeysWith_eq_ok_iff k.isSlice_bytes).mpr
    ⟨k, bytesAt_self, rfl⟩

/-! ### One credential -/

section Credential

variable (key1 : Vector UInt8 32) (c : VaultCredential)

theorem toAttribute_entry : (c.entry env.crypto key1).toAttribute
    = some { id := c.mapId, iv := c.iv.toList, data := c.ciphertext env.crypto key1 } := rfl

theorem decryptVcrdAttribute_ciphertext :
    decryptVcrdAttribute env
        { id := c.mapId, iv := c.iv.toList, data := c.ciphertext env.crypto key1 } key1.toList
      = .ok c.cleartext := by
  have hopen : env.crypto.aes256.decryptPadded noPaddingUnpadBlocks (key1, c.iv)
      (c.ciphertext env.crypto key1) = some c.cleartext :=
    env.crypto.aes256.decryptPadded_noPadding_encrypt (key1, c.iv) c.wholeBlocks
  simp only [decryptVcrdAttribute, Vector.length_toList, if_true]
  rw [CbcCipher.newFromSlices_toList, Outcome.okOr_some, Outcome.ok_bind, hopen, Outcome.okOr_some]

theorem parseInternetExplorer_cleartext :
    parseInternetExplorer env c.cleartext = .ok c.texts.wire.toWebCredential := by
  have hslice : IsSlice c.cleartext := by
    have hfits := c.fits
    rw [IsSlice, VaultCredential.cleartext]
    omega
  exact (parseInternetExplorerWith_eq_ok_iff hslice).mpr
    ⟨c.texts.wire, bytesAt_zero_iff.mpr ⟨c.pad, rfl⟩, rfl⟩

end Credential

/-! ### All of them -/

theorem vaultResults_entries (key1 : Vector UInt8 32) (creds : List VaultCredential) :
    vaultResults env key1.toList
        ((creds.map fun c => c.entry env.crypto key1).filterMap WireEntry.toAttribute)
      = .ok (creds.map VaultCredential.result) := by
  induction creds with
  | nil => rfl
  | cons c creds ih =>
      rw [List.map_cons, List.filterMap_cons_some (toAttribute_entry key1 c), vaultResults,
        decryptVcrdAttribute_ciphertext]
      simp only
      rw [parseInternetExplorer_cleartext]
      simp only
      rw [ih, Outcome.ok_bind, WebTexts.toWebCredential_wire]
      rfl

/-- **Vault decoding undoes vault protection.** -/
theorem decodeVault_roundTrip (env : Env) (himp : env.nomicon.IsImpacket) (key1 : Vector UInt8 32)
    (k : WireVpolKeys) (hkey1 : k.wrap1.bKey.val = key1.toList) (p : Protection)
    (hentropy : p.entropy = none) (hplain : p.plaintext = k.bytes) (vpol : WireVpol)
    (hblob : vpol.blob.val = (p.wire env.crypto).bytes) (creds : List VaultCredential)
    (vcrd : WireVcrd) (hentries : vcrd.entries = creds.map fun c => c.entry env.crypto key1) :
    decodeVault env vpol.bytes vcrd.bytes p.masterKey
      = .ok (creds.map VaultCredential.result) := by
  rw [decodeVault_eq, parseVpolFile_bytes, Outcome.mapErr_ok, Outcome.ok_bind, hblob,
    decryptVpolKeys_wire himp hentropy hplain, Cli.orLocked, Outcome.ok_bind,
    parseVcrdAttributes_bytes, Outcome.mapErr_ok, Outcome.ok_bind, WireVcrd.attributes, hentries,
    WireVpolKeys.toKeys, hkey1, vaultResults_entries]

/-! ### A policy and a record of the repository's tests -/

/-- `VPOL_KEY1_HEX`. -/
def vpolKey1 : Vector UInt8 32 :=
  beVector 32 0x101112131415161718191a1b1c1d1e1f202122232425262728292a2b2c2d2e2f

/-- The policy's keys. `VPOL_KEY2_HEX` is the second. -/
def vpolKeys : WireVpolKeys where
  wrap1 := ⟨0x34, 1, 0, 0x4d42444b, 1, ⟨vpolKey1.toList, by decide⟩⟩
  wrap2 := ⟨0x34, 1, 0, 0x4d42444b, 1,
    ⟨beBytes 32 0x404142434445464748494a4b4c4d4e4f505152535455565758595a5b5c5d5e5f, by decide⟩⟩

/-- The blob around them: SHA-512, AES-256, no entropy. -/
def vpolBlob : Protection where
  version := 1
  version_supported := version_one_supported
  mkVersion := 1
  masterKeyGuid := beVector 16 0x33f19f5ee340be4a8a2e2b4e62bd0cc6
  flags := 0
  description := ⟨[0, 0], fits_nulText⟩
  cipher := .aes256
  cryptAlgoLen := 256
  salt := ⟨beBytes 32 0x1122334455667788112233445566778811223344556677881122334455667788,
    by decide⟩
  hmacKey := ⟨[], fits_nil⟩
  hash := .sha512
  hashAlgoLen := 512
  hmac := ⟨List.replicate 64 0, fits_zeros⟩
  form := .standard
  masterKey := vectorMasterKey
  entropy := none
  plaintext := vpolKeys.bytes
  fits := by decide +kernel

def vcrdTexts : WebTexts where
  version := 1
  count := 3
  unknown := 0
  usernameId := 1
  username := ⟨"alice@example.com", by unfold NoTrailingNul; decide +kernel, by decide +kernel⟩
  resourceId := 2
  resource := ⟨"https://portal.example.com", by unfold NoTrailingNul; decide +kernel,
    by decide +kernel⟩
  passwordId := 3
  password := ⟨"V@ultP4ss!", by unfold NoTrailingNul; decide +kernel, by decide +kernel⟩

def vcrdCredential : VaultCredential where
  texts := vcrdTexts
  pad := [2, 2]
  wholeBlocks := by decide +kernel
  fits := by decide +kernel
  iv := beVector 16 0x0f1e2d3c4b5a69788796a5b4c3d2e1f0
  ivPresent := 1
  ivPresent_ne_zero := by decide
  id := 100
  unknown1 := 0
  unknown2 := 0
  unknown3 := 0
  unknown5 := 0
  mapId := 100
  mapUnknown1 := 0

/-- A second credential, which the tests do not have: an attribute of the other form, under another IV. -/
def vpnCredential : VaultCredential where
  texts :=
    { version := 1
      count := 3
      unknown := 0
      usernameId := 1
      username := ⟨"bob", by unfold NoTrailingNul; decide +kernel, by decide +kernel⟩
      resourceId := 2
      resource := ⟨"https://vpn.example.net", by unfold NoTrailingNul; decide +kernel,
        by decide +kernel⟩
      passwordId := 3
      password := ⟨"Tr0ub4dor&3", by unfold NoTrailingNul; decide +kernel, by decide +kernel⟩ }
  pad := [2, 2]
  wholeBlocks := by decide +kernel
  fits := by decide +kernel
  iv := beVector 16 0xa0a1a2a3a4a5a6a7a8a9aaabacadaeaf
  ivPresent := 1
  ivPresent_ne_zero := by decide
  id := 3
  unknown1 := 7
  unknown2 := 8
  unknown3 := 9
  unknown5 := 0
  mapId := 3
  mapUnknown1 := 5

/-- `VPOL_FILE_HEX`. -/
def vpolFile : Bytes :=
  beBytes 32 0x01000000000000000000000000000000000000000a000000760070006f006c00 ++
    beBytes 32 0x0000000000000000000000000000000000000000000000000000000000000000 ++
    beBytes 32 0x0000000000000000000000000000000000007601000001000000d08c9ddf0115 ++
    beBytes 32 0xd1118c7a00c04fc297eb0100000033f19f5ee340be4a8a2e2b4e62bd0cc60000 ++
    beBytes 32 0x0000020000000000106600000001000020000000112233445566778811223344 ++
    beBytes 32 0x5566778811223344556677881122334455667788000000000e80000000020000 ++
    beBytes 32 0x4000000000000000000000000000000000000000000000000000000000000000 ++
    beBytes 32 0x0000000000000000000000000000000000000000000000000000000000000000 ++
    beBytes 32 0x000000008000000065a02b0acc4ef1fb8f698d7e6c9214d19144177556a964a0 ++
    beBytes 32 0x2b9c13445d8cb6b640779e5cf1e273f2f8ede6445631e12c28c81e907373f71b ++
    beBytes 32 0x9d26ffca96bba17b5147feb3b70fb9ebe9aa4150a1ec63c1f4e7356e600ed1bb ++
    beBytes 32 0x5c15b2f850b8f21b3fac4e658821cf41f8b779baa815284576fa06d4aa59509e ++
    beBytes 32 0xb7541d331958e7ca4000000057da67b85c3f524f46e18fd82b0bcfedba543efe ++
    beBytes 32 0x03877d8f7d81daef61e311df7f8509d7ee7cd25becdfac53fa47c20a41504170 ++
    beBytes 12 0x65518659c72f200da584e654

/-- `VCRD_FILE_HEX`. -/
def vcrdFile : Bytes :=
  beBytes 32 0x0000000000000000000000000000000000000000000000000000d80100000000 ++
    beBytes 32 0x0000000040000000570069006e0064006f007700730020005700650062002000 ++
    beBytes 32 0x500061007300730077006f00720064002000430072006500640065006e007400 ++
    beBytes 32 0x690061006c0000000c0000006400000078000000000000006400000000000000 ++
    beBytes 32 0x000000000000000000000000000000000000a500000001100000000f1e2d3c4b ++
    beBytes 32 0x5a69788796a5b4c3d2e1f0d3183526451c5a94e61918a73ef697b98b4aeee92c ++
    beBytes 32 0x9d96997727f81033c97368e2dc5fde038d14400f40259325c614d74e6309d7ee ++
    beBytes 32 0x0b222a3f172b072b06118cb34acbb407d6a7d73c4f2d02034715c3ca8eea7993 ++
    beBytes 32 0xab826edc8ddcf92bb9a9a3176e4af211ae8d18fbbe9a9574d01d67a98ec41b9e ++
    beBytes 27 0x743d3ddf616db94c33c77a00a7abd0cffb59455947816dc11ff61c

/-- The second credential in front of the first, behind a map of two and a gap. -/
def vcrdPairFile : Bytes :=
  beBytes 32 0x0000000000000000000000000000000000000000000000000000d80100000000 ++
    beBytes 32 0x0000000040000000570069006e0064006f007700730020005700650062002000 ++
    beBytes 32 0x500061007300730077006f00720064002000430072006500640065006e007400 ++
    beBytes 32 0x690061006c000000180000000300000086000000050000006400000025010000 ++
    beBytes 32 0x00000000aabb0300000007000000080000000900000000000000000085000000 ++
    beBytes 32 0x0110000000a0a1a2a3a4a5a6a7a8a9aaabacadaeafcd4effad3e3b677c86397f ++
    beBytes 32 0x52d157cd7b164490eb4b2f55a5c96d06b66130995efd823ec97cc7142b59d1d3 ++
    beBytes 32 0x3967401bd6ec1c1641f0494f188307c62062b8e93cc89ec097269472e74fff84 ++
    beBytes 32 0x5dee06a4eae643247c44ea2a68fe08a1fc076c8a8e8ab3e9513bf594360919e0 ++
    beBytes 32 0x613e9276586400000000000000000000000000000000000000000000000000a5 ++
    beBytes 32 0x00000001100000000f1e2d3c4b5a69788796a5b4c3d2e1f0d3183526451c5a94 ++
    beBytes 32 0xe61918a73ef697b98b4aeee92c9d96997727f81033c97368e2dc5fde038d1440 ++
    beBytes 32 0x0f40259325c614d74e6309d7ee0b222a3f172b072b06118cb34acbb407d6a7d7 ++
    beBytes 32 0x3c4f2d02034715c3ca8eea7993ab826edc8ddcf92bb9a9a3176e4af211ae8d18 ++
    beBytes 32 0xfbbe9a9574d01d67a98ec41b9e743d3ddf616db94c33c77a00a7abd0cffb5945 ++
    beBytes 8 0x5947816dc11ff61c

def vaultAnswers : KnownAnswers where
  sha1 := [(vectorMasterKey, beVector 20 0x9e68943b06f62ef6c72f8f817b4572481480a8c4)]
  hmacSha512 :=
    [((beBytes 20 0x9e68943b06f62ef6c72f8f817b4572481480a8c4, vpolBlob.salt.val),
      beVector 32 0xfabf1565c9896169916f8ad3c37085b773d9f345f7114d4f02fb7ab89c59bf4a ++
      beVector 32 0x31d707dc8fca26d457bbeaf764df4a386ce7eec05032f18e518f62f348eca5ea),
    ((beBytes 20 0x9e68943b06f62ef6c72f8f817b4572481480a8c4,
        List.replicate 64 0 ++ (vpolFile.drop 106).take 286),
      beVector 32 0x57da67b85c3f524f46e18fd82b0bcfedba543efe03877d8f7d81daef61e311df ++
      beVector 32 0x7f8509d7ee7cd25becdfac53fa47c20a4150417065518659c72f200da584e654)]
  aes256 := (((CbcCipher.identity 32 16).withAnswer
    (beVector 32 0xfabf1565c9896169916f8ad3c37085b773d9f345f7114d4f02fb7ab89c59bf4a)
    (Vector.replicate 16 0) (pkcs7Pad 16 vpolKeys.bytes)
    (beBytes 32 0x65a02b0acc4ef1fb8f698d7e6c9214d19144177556a964a02b9c13445d8cb6b6 ++
      beBytes 32 0x40779e5cf1e273f2f8ede6445631e12c28c81e907373f71b9d26ffca96bba17b ++
      beBytes 32 0x5147feb3b70fb9ebe9aa4150a1ec63c1f4e7356e600ed1bb5c15b2f850b8f21b ++
      beBytes 32 0x3fac4e658821cf41f8b779baa815284576fa06d4aa59509eb7541d331958e7ca) (by decide +kernel)).withAnswer
    vpolKey1 vcrdCredential.iv vcrdCredential.cleartext
    (beBytes 32 0xd3183526451c5a94e61918a73ef697b98b4aeee92c9d96997727f81033c97368 ++
      beBytes 32 0xe2dc5fde038d14400f40259325c614d74e6309d7ee0b222a3f172b072b06118c ++
      beBytes 32 0xb34acbb407d6a7d73c4f2d02034715c3ca8eea7993ab826edc8ddcf92bb9a9a3 ++
      beBytes 32 0x176e4af211ae8d18fbbe9a9574d01d67a98ec41b9e743d3ddf616db94c33c77a ++
      beBytes 16 0x00a7abd0cffb59455947816dc11ff61c) (by decide +kernel)).withAnswer
    vpolKey1 vpnCredential.iv vpnCredential.cleartext
    (beBytes 32 0xcd4effad3e3b677c86397f52d157cd7b164490eb4b2f55a5c96d06b66130995e ++
      beBytes 32 0xfd823ec97cc7142b59d1d33967401bd6ec1c1641f0494f188307c62062b8e93c ++
      beBytes 32 0xc89ec097269472e74fff845dee06a4eae643247c44ea2a68fe08a1fc076c8a8e ++
      beBytes 16 0x8ab3e9513bf594360919e0613e927658) (by decide +kernel)

def vectorVpol : WireVpol where
  version := 1
  guid := Vector.replicate 16 0
  description := ⟨utf16leBytes "vpol" ++ [0, 0], by decide +kernel⟩
  unknown := Vector.replicate 12 0
  size := 0
  guid2 := Vector.replicate 16 0
  guid3 := Vector.replicate 16 0
  blob := ⟨(vpolBlob.wire vaultAnswers.env.crypto).bytes, by decide +kernel⟩

def vectorVcrd : WireVcrd where
  schemaGuid := Vector.replicate 16 0
  unknown0 := 0
  lastWritten := 0x1d8000000000000
  unknown1 := 0
  unknown2 := 0
  friendlyName := ⟨utf16leBytes "Windows Web Password Credential" ++ [0, 0], by decide +kernel⟩
  gap := []
  entries := [vcrdCredential.entry vaultAnswers.env.crypto vpolKey1]
  fits := by decide +kernel

def pairVcrd : WireVcrd :=
  { vectorVcrd with
    gap := [0xaa, 0xbb]
    entries := [vpnCredential.entry vaultAnswers.env.crypto vpolKey1,
      vcrdCredential.entry vaultAnswers.env.crypto vpolKey1]
    fits := by decide +kernel }

theorem vectorVpol_bytes : vectorVpol.bytes = vpolFile := by
  decide +kernel

theorem vectorVcrd_bytes : vectorVcrd.bytes = vcrdFile := by
  decide +kernel

theorem pairVcrd_bytes : pairVcrd.bytes = vcrdPairFile := by
  decide +kernel

/-- The record of the tests, and a record of two credentials, reported in the order of its map. -/
theorem decodeVault_roundTrip_vectors :
    decodeVault vaultAnswers.env vpolFile vcrdFile vectorMasterKey
      = .ok [{ store := "vault", label := "https://portal.example.com", secret := "V@ultP4ss!"
               account := some "alice@example.com" }] ∧
    decodeVault vaultAnswers.env vpolFile vcrdPairFile vectorMasterKey
      = .ok
          [{ store := "vault", label := "https://vpn.example.net", secret := "Tr0ub4dor&3"
             account := some "bob" },
            { store := "vault", label := "https://portal.example.com", secret := "V@ultP4ss!"
              account := some "alice@example.com" }] := by
  rw [← vectorVpol_bytes, ← vectorVcrd_bytes, ← pairVcrd_bytes]
  constructor
  · exact decodeVault_roundTrip vaultAnswers.env linkedTables_isImpacket vpolKey1 vpolKeys rfl vpolBlob
      rfl rfl vectorVpol rfl [vcrdCredential] vectorVcrd rfl
  · exact decodeVault_roundTrip vaultAnswers.env linkedTables_isImpacket vpolKey1 vpolKeys rfl vpolBlob
      rfl rfl vectorVpol rfl [vpnCredential, vcrdCredential] pairVcrd rfl

end DpapiForensic
