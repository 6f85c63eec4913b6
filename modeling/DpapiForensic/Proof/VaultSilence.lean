import DpapiForensic.Proof.VaultRoundTrip

/-!
# What an empty vault result means

The decoder passes over an attribute that does not decrypt just as over one that holds no web
credential. So its empty result says less than it seems to, and the theorem below says how much less: it
names the policies and records for which an attribute is lost without a word.
-/

namespace DpapiForensic

open Vault

variable {env : Env}

/-! ### What one attribute contributes -/

section Attribute

variable {key1 : Bytes} {attr : VcrdAttribute}

/-- The IV an attribute is decrypted with: its own when it has 16 bytes, else zeros. -/
def VcrdAttribute.usedIv (attr : VcrdAttribute) : Vector UInt8 16 :=
  (tryIntoArray 16 attr.iv).getD (Vector.replicate 16 0)

theorem VcrdAttribute.toList_usedIv (attr : VcrdAttribute) :
    attr.usedIv.toList = if attr.iv.length = 16 then attr.iv else List.replicate 16 0 := by
  rw [usedIv, tryIntoArray]
  by_cases h : attr.iv.length = 16
  · rw [dif_pos h, if_pos h]
    rfl
  · rw [dif_neg h, if_neg h]
    rfl

/-- No cleartext: the key is no AES-256 key, or the data ends inside a block. -/
def Undecryptable (key1 : Bytes) (attr : VcrdAttribute) : Prop :=
  key1.length ≠ 32 ∨ attr.data.length % 16 ≠ 0

instance : Decidable (Undecryptable key1 attr) := inferInstanceAs (Decidable (_ ∨ _))

theorem decryptVcrdAttribute_eq (key : Vector UInt8 32) (h : attr.data.length % 16 = 0) :
    decryptVcrdAttribute env attr key.toList
      = .ok (env.crypto.aes256.decrypt key attr.usedIv attr.data) := by
  simp only [decryptVcrdAttribute]
  rw [← attr.toList_usedIv, CbcCipher.newFromSlices_toList, Outcome.okOr_some, Outcome.ok_bind,
    CbcCipher.decryptPadded, if_neg (not_not.mpr h), noPaddingUnpadBlocks, Outcome.okOr_some]

theorem exists_key_of_length (h : key1.length = 32) : ∃ key : Vector UInt8 32, key.toList = key1 :=
  ⟨⟨key1.toArray, by simpa using h⟩, rfl⟩

theorem decryptVcrdAttribute_eq_err_iff :
    (∃ e, decryptVcrdAttribute env attr key1 = .err e) ↔ Undecryptable key1 attr := by
  by_cases hkey : key1.length = 32
  · obtain ⟨key, rfl⟩ := exists_key_of_length hkey
    by_cases hdata : attr.data.length % 16 = 0
    · rw [decryptVcrdAttribute_eq key hdata, Undecryptable]
      simp [hdata]
    · simp only [decryptVcrdAttribute]
      rw [← attr.toList_usedIv, CbcCipher.newFromSlices_toList, Outcome.okOr_some, Outcome.ok_bind,
        CbcCipher.decryptPadded, if_pos hdata]
      exact ⟨fun _ => Or.inr hdata, fun _ => ⟨_, rfl⟩⟩
  · simp only [decryptVcrdAttribute]
    rw [(env.crypto.aes256.newFromSlices_eq_none_iff).mpr (Or.inl hkey)]
    exact ⟨fun _ => Or.inl hkey, fun _ => ⟨_, rfl⟩⟩

/-- The cleartext exists and starts with a web credential. -/
def HoldsWebCredential (env : Env) (key1 : Bytes) (attr : VcrdAttribute) : Prop :=
  ∃ (key : Vector UInt8 32) (w : WireWebCredential), key.toList = key1 ∧
    attr.data.length % 16 = 0 ∧ w.bytes <+: env.crypto.aes256.decrypt key attr.usedIv attr.data

theorem not_holds_of_undecryptable (h : Undecryptable key1 attr) :
    ¬HoldsWebCredential env key1 attr := by
  rintro ⟨key, w, rfl, hdata, -⟩
  rcases h with hkey | hdata'
  · exact hkey key.length_toList
  · exact hdata' hdata

/-- Every other attribute has a cleartext, and the parser tells whether it holds a web credential. -/
theorem exists_cleartext (hslice : IsSlice attr.data) (h : ¬Undecryptable key1 attr) :
    ∃ cleartext, decryptVcrdAttribute env attr key1 = .ok cleartext ∧
      parseInternetExplorer env cleartext ≠ .panic ∧
      (HoldsWebCredential env key1 attr ↔
        ∃ cred, parseInternetExplorer env cleartext = .ok cred) := by
  obtain ⟨hkey, hdata⟩ := not_or.mp h
  rw [not_not] at hkey hdata
  obtain ⟨key, rfl⟩ := exists_key_of_length hkey
  have hclear : IsSlice (env.crypto.aes256.decrypt key attr.usedIv attr.data) := by
    rw [IsSlice, env.crypto.aes256.length_decrypt _ _ _ (Nat.dvd_of_mod_eq_zero hdata)]
    exact hslice
  refine ⟨_, decryptVcrdAttribute_eq key hdata, parseInternetExplorerWith_ne_panic hclear, ?_⟩
  constructor
  · rintro ⟨key', w, hkey', -, hstarts⟩
    obtain rfl := Vector.toList_inj.mp hkey'
    exact ⟨w.toWebCredential, (parseInternetExplorerWith_eq_ok_iff hclear).mpr
      ⟨w, bytesAt_zero_iff_starts.mpr hstarts, rfl⟩⟩
  · rintro ⟨cred, hcred⟩
    obtain ⟨w, hw, -⟩ := (parseInternetExplorerWith_eq_ok_iff hclear).mp hcred
    exact ⟨key, w, rfl, hdata, bytesAt_zero_iff_starts.mp hw⟩

/-- One attribute and what the decoder does with it: nothing, or one result. -/
theorem vaultResults_cons (hslice : IsSlice attr.data) (attrs : List VcrdAttribute) :
    (¬HoldsWebCredential env key1 attr ∧
      vaultResults env key1 (attr :: attrs) = vaultResults env key1 attrs) ∨
    (HoldsWebCredential env key1 attr ∧ ∃ result, vaultResults env key1 (attr :: attrs)
      = (vaultResults env key1 attrs >>= fun results => .ok (result :: results))) := by
  by_cases hbad : Undecryptable key1 attr
  · left
    obtain ⟨e, he⟩ := decryptVcrdAttribute_eq_err_iff.mpr hbad
    exact ⟨not_holds_of_undecryptable hbad, by rw [vaultResults, he]⟩
  · obtain ⟨cleartext, hdecrypt, hpanic, hholds⟩ := exists_cleartext hslice hbad
    rw [vaultResults, hdecrypt]
    simp only
    cases hparse : parseInternetExplorer env cleartext with
    | panic => exact absurd hparse hpanic
    | err e =>
        left
        refine ⟨?_, rfl⟩
        rw [hholds, hparse]
        rintro ⟨cred, hcred⟩
        cases hcred
    | ok cred =>
        right
        exact ⟨hholds.mpr ⟨cred, hparse⟩, _, rfl⟩

theorem exists_err_of_not_holds (hslice : IsSlice attr.data) (h : ¬Undecryptable key1 attr)
    (hnot : ¬HoldsWebCredential env key1 attr) :
    ∃ cleartext e, decryptVcrdAttribute env attr key1 = .ok cleartext ∧
      parseInternetExplorer env cleartext = .err e := by
  obtain ⟨cleartext, hdecrypt, hpanic, hholds⟩ := exists_cleartext hslice h
  have herr : ∃ e, parseInternetExplorer env cleartext = .err e := by
    apply Outcome.exists_err_of_ne _ hpanic
    intro cred hcred
    exact hnot (hholds.mpr ⟨cred, hcred⟩)
  obtain ⟨e, he⟩ := herr
  exact ⟨cleartext, e, hdecrypt, he⟩

end Attribute

/-! ### The whole result -/

section Result

variable {key1 masterKey : Bytes} {attrs : List VcrdAttribute}

theorem vaultResults_eq_nil_iff (hslice : ∀ attr ∈ attrs, IsSlice attr.data) :
    vaultResults env key1 attrs = .ok [] ↔ ∀ attr ∈ attrs, ¬HoldsWebCredential env key1 attr := by
  induction attrs with
  | nil => simp [vaultResults]
  | cons attr attrs ih =>
      have ih := ih fun attr' hmem => hslice attr' (List.mem_cons_of_mem attr hmem)
      have hattr := hslice attr List.mem_cons_self
      rcases vaultResults_cons hattr attrs with ⟨hnot, heq⟩ | ⟨hholds, result, heq⟩
      · rw [heq, ih, List.forall_mem_cons]
        exact (and_iff_right hnot).symm
      · rw [heq, Outcome.bind_eq_ok_iff]
        constructor
        · rintro ⟨results, -, h⟩
          cases Outcome.ok.inj h
        · intro h
          exact absurd hholds (h attr List.mem_cons_self)

/-- The policy opens to the keys and the record parses to the attributes. -/
def Opened (env : Env) (vpolBytes vcrdBytes masterKey : Bytes) (keys : VaultVpolKeys)
    (attrs : List VcrdAttribute) : Prop :=
  ∃ vpolBlob, parseVpolFile env vpolBytes = .ok vpolBlob ∧
    decryptVpolKeys env vpolBlob masterKey = .ok keys ∧
    parseVcrdAttributes env vcrdBytes = .ok attrs

theorem decodeVault_of_opened {vpolBytes vcrdBytes : Bytes} {keys : VaultVpolKeys}
    (h : Opened env vpolBytes vcrdBytes masterKey keys attrs) :
    decodeVault env vpolBytes vcrdBytes masterKey = vaultResults env keys.key1 attrs := by
  obtain ⟨vpolBlob, hvpol, hkeys, hattrs⟩ := h
  rw [decodeVault_eq, hvpol, Outcome.mapErr_ok, Outcome.ok_bind, hkeys, Cli.orLocked, Outcome.ok_bind,
    hattrs, Outcome.mapErr_ok, Outcome.ok_bind]

/-- Once policy and record are opened, a lost attribute keeps the result from being empty, and an empty
result means that every attribute was decrypted and none was a web credential. -/
def EmptyMeansNone (env : Env) (vpolBytes vcrdBytes masterKey : Bytes) : Prop :=
  ∀ keys attrs, Opened env vpolBytes vcrdBytes masterKey keys attrs →
    ((∃ attr ∈ attrs, ∃ e, decryptVcrdAttribute env attr keys.key1 = .err e) →
      decodeVault env vpolBytes vcrdBytes masterKey ≠ .ok []) ∧
    (decodeVault env vpolBytes vcrdBytes masterKey = .ok [] → ∀ attr ∈ attrs, ∃ cleartext e,
      decryptVcrdAttribute env attr keys.key1 = .ok cleartext ∧
        parseInternetExplorer env cleartext = .err e)

/-- **When an empty vault result can be believed**: exactly when no attribute is undecryptable, or
another one is reported. -/
theorem emptyMeansNone_iff (env : Env) (vpol vcrd : Slice) (masterKey : Bytes) :
    EmptyMeansNone env vpol.val vcrd.val masterKey ↔
      ∀ keys attrs, Opened env vpol.val vcrd.val masterKey keys attrs →
        (∃ attr ∈ attrs, Undecryptable keys.key1 attr) →
          ∃ attr ∈ attrs, HoldsWebCredential env keys.key1 attr := by
  have hslices : ∀ keys attrs, Opened env vpol.val vcrd.val masterKey keys attrs →
      ∀ attr ∈ attrs, IsSlice attr.data := by
    rintro keys attrs ⟨_, -, -, hattrs⟩ attr hmem
    exact lt_of_le_of_lt (parseVcrdAttributes_length_le vcrd.property hattrs attr hmem)
      vcrd.property
  constructor
  · rintro h keys attrs hopened ⟨attr, hmem, hbad⟩
    by_contra hnone
    apply (h keys attrs hopened).1 ⟨attr, hmem, decryptVcrdAttribute_eq_err_iff.mpr hbad⟩
    rw [decodeVault_of_opened hopened, vaultResults_eq_nil_iff (hslices keys attrs hopened)]
    intro attr' hmem' hholds
    exact hnone ⟨attr', hmem', hholds⟩
  · intro h keys attrs hopened
    have hnil : decodeVault env vpol.val vcrd.val masterKey = .ok [] ↔
        ∀ attr ∈ attrs, ¬HoldsWebCredential env keys.key1 attr := by
      rw [decodeVault_of_opened hopened, vaultResults_eq_nil_iff (hslices keys attrs hopened)]
    constructor
    · rintro ⟨attr, hmem, hfail⟩ hempty
      obtain ⟨attr', hmem', hholds⟩ :=
        h keys attrs hopened ⟨attr, hmem, decryptVcrdAttribute_eq_err_iff.mp hfail⟩
      exact hnil.mp hempty attr' hmem' hholds
    · intro hempty attr hmem
      apply exists_err_of_not_holds (hslices keys attrs hopened attr hmem)
      · intro hbad
        obtain ⟨attr', hmem', hholds⟩ := h keys attrs hopened ⟨attr, hmem, hbad⟩
        exact hnil.mp hempty attr' hmem' hholds
      · exact hnil.mp hempty attr hmem

end Result

/-! ### A policy that carries an AES-128 key first -/

/-- The policy of the tests, its first key cut to 16 bytes: the same salt, encrypted and signed anew. -/
def aes128VpolFile : Bytes :=
  beBytes 32 0x01000000000000000000000000000000000000000a000000760070006f006c00 ++
    beBytes 32 0x0000000000000000000000000000000000000000000000000000000000000000 ++
    beBytes 32 0x0000000000000000000000000000000000006601000001000000d08c9ddf0115 ++
    beBytes 32 0xd1118c7a00c04fc297eb0100000033f19f5ee340be4a8a2e2b4e62bd0cc60000 ++
    beBytes 32 0x0000020000000000106600000001000020000000112233445566778811223344 ++
    beBytes 32 0x5566778811223344556677881122334455667788000000000e80000000020000 ++
    beBytes 32 0x4000000000000000000000000000000000000000000000000000000000000000 ++
    beBytes 32 0x0000000000000000000000000000000000000000000000000000000000000000 ++
    beBytes 32 0x00000000700000006d6ac694e3a1313529a8d37b2d0c219c9d52a1bfb25e7016 ++
    beBytes 32 0xe035ed261ed13c0adc6c301e85d82788daec11c75f13c20e357d1571a90e1f76 ++
    beBytes 32 0x4e657a250ee043ef273427fb77c55bed05c6df5be1ad125c1ec71befc426b549 ++
    beBytes 32 0x72de8e891ca644ee46a314a891876966fcfdce04f39d3b3240000000d80f62fd ++
    beBytes 32 0x1b78297cb127357b6a9d7c4b1800b92960e5a97531197a7ec04e1653560c698c ++
    beBytes 28 0x957ca18b151c14327bf365f9824983f67173c0e928f21a029be06baa

def aes128Keys : VaultVpolKeys where
  key1 := beBytes 16 0x101112131415161718191a1b1c1d1e1f
  key2 := beBytes 32 0x404142434445464748494a4b4c4d4e4f505152535455565758595a5b5c5d5e5f

def aes128Answers : KnownAnswers where
  sha1 := [(vectorMasterKey, beVector 20 0x9e68943b06f62ef6c72f8f817b4572481480a8c4)]
  hmacSha512 :=
    [((beBytes 20 0x9e68943b06f62ef6c72f8f817b4572481480a8c4, vpolBlob.salt.val),
      beVector 32 0xfabf1565c9896169916f8ad3c37085b773d9f345f7114d4f02fb7ab89c59bf4a ++
      beVector 32 0x31d707dc8fca26d457bbeaf764df4a386ce7eec05032f18e518f62f348eca5ea),
    ((beBytes 20 0x9e68943b06f62ef6c72f8f817b4572481480a8c4,
        List.replicate 64 0 ++ (aes128VpolFile.drop 106).take 270),
      beVector 32 0xd80f62fd1b78297cb127357b6a9d7c4b1800b92960e5a97531197a7ec04e1653 ++
      beVector 32 0x560c698c957ca18b151c14327bf365f9824983f67173c0e928f21a029be06baa)]
  aes256 := (CbcCipher.identity 32 16).withAnswer
    (beVector 32 0xfabf1565c9896169916f8ad3c37085b773d9f345f7114d4f02fb7ab89c59bf4a)
    (Vector.replicate 16 0)
    (beBytes 32 0x2400000001000000000000004b44424d01000000100000001011121314151617 ++
      beBytes 32 0x18191a1b1c1d1e1f3400000001000000000000004b44424d0100000020000000 ++
      beBytes 32 0x404142434445464748494a4b4c4d4e4f505152535455565758595a5b5c5d5e5f ++
      beBytes 16 0x10101010101010101010101010101010)
    (beBytes 32 0x6d6ac694e3a1313529a8d37b2d0c219c9d52a1bfb25e7016e035ed261ed13c0a ++
      beBytes 32 0xdc6c301e85d82788daec11c75f13c20e357d1571a90e1f764e657a250ee043ef ++
      beBytes 32 0x273427fb77c55bed05c6df5be1ad125c1ec71befc426b54972de8e891ca644ee ++
      beBytes 16 0x46a314a891876966fcfdce04f39d3b32) (by decide)

def vcrdAttribute : VcrdAttribute where
  id := 100
  iv := vcrdCredential.iv.toList
  data := (vcrdFile.drop 171)

theorem aes128_opened :
    Opened aes128Answers.env aes128VpolFile vcrdFile vectorMasterKey aes128Keys [vcrdAttribute] :=
  ⟨(aes128VpolFile.drop 86), by decide +kernel, by decide +kernel, by decide +kernel⟩

/-- The credential of the tests, under that policy: not decrypted, and nothing said of it. -/
theorem emptyMeansNone_aes128 :
    decodeVault aes128Answers.env aes128VpolFile vcrdFile vectorMasterKey = .ok [] ∧
      ¬EmptyMeansNone aes128Answers.env aes128VpolFile vcrdFile vectorMasterKey := by
  have hempty : decodeVault aes128Answers.env aes128VpolFile vcrdFile vectorMasterKey = .ok [] := by
    rw [decodeVault_of_opened aes128_opened]
    decide +kernel
  refine ⟨hempty, fun h => ?_⟩
  apply (h aes128Keys [vcrdAttribute] aes128_opened).1 ?_ hempty
  exact ⟨vcrdAttribute, List.mem_singleton_self _,
    decryptVcrdAttribute_eq_err_iff.mpr (by decide +kernel)⟩

end DpapiForensic
