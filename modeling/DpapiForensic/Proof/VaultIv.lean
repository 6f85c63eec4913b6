import DpapiForensic.Lib.Cbc
import DpapiForensic.Proof.Recovered

/-!
# What the IV of a vault attribute is worth

In CBC the IV is felt in the first block of the cleartext, and a web credential has nothing there that is
reported: three words of header and the id of the user name fill that block. So what a record yields does
not depend on its IVs. One that is wrong, absent or of another length is as good as the right one.
-/

namespace DpapiForensic

open Cli

variable {env : Env} {key1 : Bytes} {attr attr' : VcrdAttribute} {attrs attrs' : List VcrdAttribute}

/-- Behind its first block, a web credential is all that is reported of it. -/
theorem exists_web_of_drop {clear clear' : Bytes} {web : WireWebCredential}
    (hlen : clear.length = clear'.length) (hdrop : clear.drop 16 = clear'.drop 16)
    (h : web.bytes <+: clear) :
    ∃ web' : WireWebCredential, web'.bytes <+: clear' ∧ web'.toWebCredential = web.toWebCredential := by
  have hat := bytesAt_zero_iff_starts.mpr h
  have hlong : 20 ≤ clear.length := by
    have hle := hat.le
    simp only [WireWebCredential.bytes, List.length_append, WireWebCredential.length_header,
      WireTriple.length_bytes] at hle
    omega
  obtain ⟨version, h₀⟩ := exists_le32_at clear' 0 (by omega)
  obtain ⟨count, h₄⟩ := exists_le32_at clear' 4 (by omega)
  obtain ⟨unknown, h₈⟩ := exists_le32_at clear' 8 (by omega)
  obtain ⟨id, h₁₂⟩ := exists_le32_at clear' 12 (by omega)
  let web' : WireWebCredential :=
    { web with version, count, unknown, username := { web.username with id } }
  refine ⟨web', bytesAt_zero_iff_starts.mp ?_, rfl⟩
  -- the rest starts in the second block, where the two cleartexts agree
  have hrest : ∀ {pos : Nat} {bytes : Bytes}, 16 ≤ pos → BytesAt clear pos bytes →
      BytesAt clear' pos bytes := by
    intro pos bytes hpos hbytes
    have hsplit : ∀ data : Bytes, data.drop pos = (data.drop 16).drop (pos - 16) := fun data => by
      rw [List.drop_drop, Nat.add_sub_cancel' hpos]
    rwa [bytesAt_iff, hlen, hsplit, hdrop, ← hsplit, ← bytesAt_iff] at hbytes
  simp only [WireWebCredential.bytes, WireWebCredential.header, WireTriple.bytes, bytesAt_append,
    List.length_append, length_le32, length_lp] at hat ⊢
  obtain ⟨-, ⟨-, husername⟩, hresource, hpassword⟩ := hat
  exact ⟨⟨h₀, h₄, h₈⟩, ⟨h₁₂, hrest (by omega) husername⟩,
    ⟨hrest (by omega) hresource.1, hrest (by omega) hresource.2⟩,
    ⟨hrest (by omega) hpassword.1, hrest (by omega) hpassword.2⟩⟩

/-- An attribute yields what another one with its data yields. -/
theorem HoldsWeb.of_data (hcbc : ∃ block : BlockCipher 32 16, env.crypto.aes256 = block.cbc)
    (hdata : attr.data = attr'.data) {web : WireWebCredential} (h : HoldsWeb env key1 attr web) :
    ∃ web', HoldsWeb env key1 attr' web' ∧ web'.toWebCredential = web.toWebCredential := by
  obtain ⟨block, hblock⟩ := hcbc
  obtain ⟨key, clear, hkey, hwhole, hencrypts, hstarts⟩ := h
  have hlen : attr.data.length = clear.length := by
    rw [hencrypts, env.crypto.aes256.length_encrypt _ _ _ hwhole]
  have hdvd : 16 ∣ attr'.data.length := by
    rw [← hdata, hlen]
    exact hwhole
  have hclear : clear = env.crypto.aes256.decrypt key attr.usedIv attr'.data := by
    rw [← hdata, hencrypts, env.crypto.aes256.decrypt_encrypt _ _ _ hwhole]
  have hlen' := env.crypto.aes256.length_decrypt key attr'.usedIv attr'.data hdvd
  have hdrop : clear.drop 16 = (env.crypto.aes256.decrypt key attr'.usedIv attr'.data).drop 16 := by
    rw [hclear, hblock, block.drop_decrypt_cbc]
  have hsame : clear.length = (env.crypto.aes256.decrypt key attr'.usedIv attr'.data).length := by
    rw [hlen', ← hdata, hlen]
  obtain ⟨web', hstarts', hweb'⟩ := exists_web_of_drop hsame hdrop hstarts
  exact ⟨web', ⟨key, _, hkey, hlen' ▸ hdvd,
    (env.crypto.aes256.encrypt_decrypt key attr'.usedIv hdvd).symm, hstarts'⟩, hweb'⟩

theorem AttributesYield.of_data (hcbc : ∃ block : BlockCipher 32 16, env.crypto.aes256 = block.cbc)
    {results : List StoreResult} (h : AttributesYield env key1 attrs results)
    (hdata : attrs.map (·.data) = attrs'.map (·.data)) : AttributesYield env key1 attrs' results := by
  induction h generalizing attrs' with
  | nil =>
      obtain rfl := List.map_eq_nil_iff.mp hdata.symm
      exact .nil
  | @found attr attrs results web hweb _ ih =>
      obtain ⟨attr', attrs', rfl, hattr, hattrs⟩ := List.map_eq_cons_iff.mp hdata.symm
      obtain ⟨web', hweb', heq⟩ := hweb.of_data hcbc hattr.symm
      have hyields := AttributesYield.found web' hweb' (ih hattrs.symm)
      obtain ⟨husername, hresource, hpassword⟩ := WebCredential.mk.inj heq
      rwa [husername, hresource, hpassword] at hyields
  | @passed attr attrs results hnone _ ih =>
      obtain ⟨attr', attrs', rfl, hattr, hattrs⟩ := List.map_eq_cons_iff.mp hdata.symm
      refine .passed (fun web hweb => ?_) (ih hattrs.symm)
      obtain ⟨web', hweb', -⟩ := hweb.of_data hcbc hattr
      exact hnone web' hweb'

/-- The loop ends in a list of results, whatever the attributes hold. -/
theorem exists_vaultResults (hslices : ∀ attr ∈ attrs, IsSlice attr.data) :
    ∃ results, vaultResults env key1 attrs = .ok results := by
  induction attrs with
  | nil => exact ⟨[], rfl⟩
  | cons attr attrs ih =>
      obtain ⟨hslice, hslices⟩ := List.forall_mem_cons.mp hslices
      obtain ⟨results, hresults⟩ := ih hslices
      rcases @vaultResults_step env key1 attr hslice attrs with ⟨web, -, hstep⟩ | ⟨-, hstep⟩
      · exact ⟨_, by rw [hstep, hresults, Outcome.ok_bind, Outcome.pure_eq]⟩
      · exact ⟨results, by rw [hstep, hresults]⟩

/-- **A vault record's IVs do not matter.** Two records whose attributes hold the same data, in the same
order, are reported alike under every policy and master key, whatever their IVs, ids and layout. -/
theorem decodeVault_ignores_iv (env : Env)
    (hcbc : ∃ block : BlockCipher 32 16, env.crypto.aes256 = block.cbc) (vpolBytes : Bytes)
    (vcrd vcrd' : Slice) (attrs attrs' : List VcrdAttribute)
    (h : parseVcrdAttributes env vcrd.val = .ok attrs)
    (h' : parseVcrdAttributes env vcrd'.val = .ok attrs')
    (hdata : attrs.map (·.data) = attrs'.map (·.data)) (masterKey : Bytes) :
    decodeVault env vpolBytes vcrd.val masterKey = decodeVault env vpolBytes vcrd'.val masterKey := by
  have hslices : ∀ {vcrd : Slice} {attrs : List VcrdAttribute},
      parseVcrdAttributes env vcrd.val = .ok attrs → ∀ attr ∈ attrs, IsSlice attr.data :=
    fun {vcrd} {attrs} h attr hmem =>
      lt_of_le_of_lt (parseVcrdAttributes_length_le vcrd.property h attr hmem) vcrd.property
  have hresults : ∀ key1, vaultResults env key1 attrs = vaultResults env key1 attrs' := by
    intro key1
    obtain ⟨results, hok⟩ := @exists_vaultResults env key1 attrs (hslices h)
    have hyields := (vaultResults_eq_ok_iff (hslices h)).mp hok
    rw [hok, (vaultResults_eq_ok_iff (hslices h')).mpr (hyields.of_data hcbc hdata)]
  rw [decodeVault_eq, decodeVault_eq, h, h']
  simp only [Outcome.mapErr_ok, Outcome.ok_bind, hresults]

/-! ### The record of the tests without its IV -/

/-- The blocks of the policy, encrypted under its session key. -/
def policyBlocks : List (Vector UInt8 16 × Vector UInt8 16) :=
  [(beVector 16 0x3400000001000000000000004b44424d, beVector 16 0x65a02b0acc4ef1fb8f698d7e6c9214d1),
    (beVector 16 0x64a02b0aec4ef1fb9f789f6d788702c6, beVector 16 0x9144177556a964a02b9c13445d8cb6b6),
    (beVector 16 0x895d0d6e4ab47abf0bbd316779a99091, beVector 16 0x40779e5cf1e273f2f8ede6445631e12c),
    (beVector 16 0x685eb477ddcf5dddccede6445731e12c, beVector 16 0x28c81e907373f71b9d26ffca96bba17b),
    (beVector 16 0x28c81e903837b5569c26ffcab6bba17b, beVector 16 0x5147feb3b70fb9ebe9aa4150a1ec63c1),
    (beVector 16 0x1106bcf0f34affaca1e30b1beda12d8e, beVector 16 0xf4e7356e600ed1bb5c15b2f850b8f21b),
    (beVector 16 0xa4b6673d345b87ec044ce8a30ce5ac44, beVector 16 0x3fac4e658821cf41f8b779baa8152845),
    (beVector 16 0x2fbc5e759831df51e8a769aab8053855, beVector 16 0x76fa06d4aa59509eb7541d331958e7ca)]

/-- The blocks of the attribute, encrypted under the policy's first key. -/
def attributeBlocks : List (Vector UInt8 16 × Vector UInt8 16) :=
  [(beVector 16 0x0e1e2d3c485a69788796a5b4c2d2e1f0, beVector 16 0xd3183526451c5a94e61918a73ef697b9),
    (beVector 16 0xf1183526241c36948f197ba75bf6d7b9, beVector 16 0x8b4aeee92c9d96997727f81033c97368),
    (beVector 16 0xee4a96e94d9dfb990727941056c95d68, beVector 16 0xe2dc5fde038d14400f40259325c614d7),
    (beVector 16 0x81dc30de6e8d16400f40119325c67cd7, beVector 16 0x4e6309d7ee0b222a3f172b072b06118c),
    (beVector 16 0x3a637dd79e0b512a051704070406618c, beVector 16 0xb34acbb407d6a7d73c4f2d02034715c3),
    (beVector 16 0xdc4ab9b473d6c6d7504f030266476dc3, beVector 16 0xca8eea7993ab826edc8ddcf92bb9a9a3),
    (beVector 16 0xab8e8779e3abee6eb98df2f948b9c6a3, beVector 16 0x176e4af211ae8d18fbbe9a9574d01d67),
    (beVector 16 0x7a6e49f211ae9918fbbecc9534d06867, beVector 16 0xa98ec41b9e743d3ddf616db94c33c77a),
    (beVector 16 0xc58eb01bce74093dac611eb96d33c578, beVector 16 0x00a7abd0cffb59455947816dc11ff61c)]

def vaultBlocks : BlockCipher 32 16 :=
  attributeBlocks.foldl (fun c answer => c.withAnswer vpolKey1 answer.1 answer.2)
    (policyBlocks.foldl
      (fun c answer => c.withAnswer
        (beVector 32 0xfabf1565c9896169916f8ad3c37085b773d9f345f7114d4f02fb7ab89c59bf4a) answer.1 answer.2)
      (.identity 32 16))

theorem aesBlock_neZero : NeZero 16 := ⟨by decide⟩

/-- The known answers of the vault, with AES in CBC mode over the blocks it was seen to encrypt. -/
def vaultBlockAnswers : KnownAnswers :=
  { vaultAnswers with aes256 := @BlockCipher.cbc 32 16 vaultBlocks aesBlock_neZero }

example : (vpolBlob.wire vaultBlockAnswers.env.crypto).bytes
    = (vpolBlob.wire vaultAnswers.env.crypto).bytes := by decide +kernel

/-- The record's attribute under an IV of zeros, with its data as it was. -/
def zeroIvEntry : WireEntry where
  id := 100
  unknown1 := 0
  item := .encrypted
    { vcrdCredential.wireAttribute vaultAnswers.env.crypto vpolKey1 with
      iv := List.replicate 16 0
      fits := by decide +kernel }

def zeroIvVcrd : WireVcrd := { vectorVcrd with entries := [zeroIvEntry], fits := by decide +kernel }

theorem decodeVault_ignores_iv_vector :
    decodeVault vaultBlockAnswers.env vectorVpol.bytes vectorVcrd.bytes vectorMasterKey
      = decodeVault vaultBlockAnswers.env vectorVpol.bytes zeroIvVcrd.bytes vectorMasterKey :=
  decodeVault_ignores_iv vaultBlockAnswers.env ⟨vaultBlocks, rfl⟩ vectorVpol.bytes
    ⟨vectorVcrd.bytes, vectorVcrd.isSlice_bytes⟩ ⟨zeroIvVcrd.bytes, zeroIvVcrd.isSlice_bytes⟩ _ _
    (parseVcrdAttributes_bytes vectorVcrd) (parseVcrdAttributes_bytes zeroIvVcrd) rfl vectorMasterKey

end DpapiForensic
