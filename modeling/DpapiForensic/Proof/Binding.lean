import DpapiForensic.Lib.Hmac
import DpapiForensic.Proof.Sealing
import DpapiForensic.Proof.SignedRegion

/-!
# What a signature binds

A signature is one of two forms, so that it binds the region it covers has to be said across the forms as
well: a blob signed in one form might be read as another blob signed in the other. HMAC being HMAC, it is
not, and one signature stands for one master key, one region and one plaintext, unless the messages that
the two verifications hash collide.
-/

namespace DpapiForensic

open Decrypt

/-! ### The two forms as hashes -/

/-- The block of a hash module. -/
def hashBlockLen : Bool → Nat
  | true => 128
  | false => 64

/-- The MACs are HMAC over the digests. -/
structure Crypto.IsHmac (crypto : Crypto) : Prop where
  hmacSha1 : ∀ key msg, crypto.hmacSha1 key msg = Hmac.mac crypto.sha1 64 key msg
  hmacSha512 : ∀ key msg, crypto.hmacSha512 key msg = Hmac.mac crypto.sha512 128 key msg

namespace SignForm

variable {n : Nat} (hash : Bytes → Vector UInt8 n) (blockLen : Nat) (key hmac rest : Bytes)

def code : SignForm → Vector UInt8 n
  | pads => hash (Hmac.outer hash blockLen key (Hmac.innerHash hash blockLen key hmac ++ rest))
  | standard => Hmac.mac hash blockLen key (hmac ++ rest)

/-- What is hashed on the way to a signature. -/
def hashed : SignForm → List Bytes
  | pads =>
      [Hmac.inner hash blockLen key hmac,
        Hmac.outer hash blockLen key (Hmac.innerHash hash blockLen key hmac ++ rest)]
  | standard => Hmac.hashed hash blockLen key (hmac ++ rest)

variable {hash} {blockLen} {key hmac rest} {key' hmac' rest' : Bytes}

theorem outer_mem_hashed_pads :
    Hmac.outer hash blockLen key (Hmac.innerHash hash blockLen key hmac ++ rest)
      ∈ pads.hashed hash blockLen key hmac rest :=
  List.mem_cons_of_mem _ List.mem_cons_self

/-- One code, whatever its two forms, is the code of one key and one message behind the HMAC field. In
different forms the outer messages have different lengths. -/
theorem eq_or_collideIn_of_code {form form' : SignForm} (hkey : key.length ≤ blockLen)
    (hlen : key.length = key'.length) (hhmac : hmac.length = hmac'.length) (hrest : rest ≠ [])
    (hrest' : rest' ≠ [])
    (h : form.code hash blockLen key hmac rest = form'.code hash blockLen key' hmac' rest') :
    (key = key' ∧ rest = rest') ∨
      CollideIn hash (form.hashed hash blockLen key hmac rest)
        (form'.hashed hash blockLen key' hmac' rest') := by
  have hne : ∀ {digest : Bytes} {key hmac rest : Bytes}, rest ≠ [] →
      digest.length = n → Hmac.innerHash hash blockLen key hmac ++ rest ≠ digest := by
    rintro digest key hmac rest hrest hdigest rfl
    rw [List.length_append, Hmac.length_innerHash, Nat.add_eq_left] at hdigest
    exact hrest (List.eq_nil_of_length_eq_zero hdigest)
  cases form with
  | pads =>
      cases form' with
      | pads =>
          apply (eq_or_collideIn outer_mem_hashed_pads outer_mem_hashed_pads h).imp_left
          intro houter
          obtain ⟨hkeys, hmsg⟩ := Hmac.masked_inj hkey hlen houter
          exact ⟨hkeys, (List.append_inj hmsg (by simp)).2⟩
      | standard =>
          apply (eq_or_collideIn outer_mem_hashed_pads Hmac.outer_mem_hashed h).imp_left
          intro houter
          exact absurd (Hmac.masked_inj hkey hlen houter).2 (hne hrest (by simp))
  | standard =>
      cases form' with
      | pads =>
          apply (eq_or_collideIn Hmac.outer_mem_hashed outer_mem_hashed_pads h).imp_left
          intro houter
          exact absurd (Hmac.masked_inj hkey hlen houter).2.symm (hne hrest' (by simp))
      | standard =>
          refine (Hmac.eq_or_collideIn_of_mac hkey hlen h).imp_left fun ⟨hkeys, hmsg⟩ => ?_
          exact ⟨hkeys, (List.append_inj hmsg hhmac).2⟩

end SignForm

section Signature

variable {crypto : Crypto} {isSha512 : Bool}

theorem BlobHash.blockLen_eq (h : BlobHash) : h.blockLen = hashBlockLen h.isSha512 := by
  cases h <;> rfl

theorem length_keyHash_le (crypto : Crypto) (isSha512 : Bool) (masterKey : Bytes) :
    (keyHash crypto masterKey).length ≤ hashBlockLen isSha512 := by
  rw [keyHash, Vector.length_toList]
  cases isSha512 <;> decide

theorem Crypto.IsHmac.hmac_eq (hhmac : crypto.IsHmac) (isSha512 : Bool) (key msg : Bytes) :
    crypto.hmac isSha512 key msg
      = Hmac.mac (crypto.digest isSha512) (hashBlockLen isSha512) key msg := by
  cases isSha512 with
  | false => exact hhmac.hmacSha1 key msg
  | true => exact hhmac.hmacSha512 key msg

theorem maskedBlock_append {key : Bytes} (hkey : key.length ≤ hashBlockLen isSha512) (mask : UInt8)
    (msg : Bytes) :
    maskedBlock (hashBlockLen isSha512) mask key ++ msg
      = Hmac.masked (crypto.digest isSha512) (hashBlockLen isSha512) key mask msg := by
  rw [Hmac.masked, Hmac.keyBlock_of_le hkey]
  rfl

theorem signature_eq_code (hhmac : crypto.IsHmac) (k : KeySource) (form : SignForm)
    (hmac signed : Bytes) :
    k.signature crypto form hmac signed
      = form.code (crypto.digest k.hash.isSha512) (hashBlockLen k.hash.isSha512)
          (keyHash crypto k.masterKey) hmac (entropyBytes k.entropy ++ signed) := by
  have hmasked := @maskedBlock_append crypto k.hash.isSha512 _
    (length_keyHash_le crypto k.hash.isSha512 k.masterKey)
  rw [entropyBytes_eq]
  cases form with
  | pads =>
      rw [KeySource.signature, k.hash.blockLen_eq, List.append_assoc, List.append_assoc]
      simp only [hmasked]
      rfl
  | standard =>
      rw [KeySource.signature, hhmac.hmac_eq, List.append_assoc]
      rfl

end Signature

/-! ### Blobs -/

/-- What is hashed on the way to one of the two signatures that a blob may carry. -/
def DpapiBlob.hashed (crypto : Crypto) (isSha512 : Bool) (masterKey : Bytes) (entropy : Option Bytes)
    (b : DpapiBlob) (form : SignForm) : List Bytes :=
  form.hashed (crypto.digest isSha512) (hashBlockLen isSha512) (keyHash crypto masterKey) b.hmac
    (entropyBytes entropy ++ b.toSign)

section Blobs

variable {env : Env} {masterKey masterKey' : Bytes} {entropy : Option Bytes}

/-- Decryption sees nothing of the master key but its SHA-1. -/
theorem decrypt_congr_keyHash (h : keyHash env.crypto masterKey = keyHash env.crypto masterKey')
    (b : DpapiBlob) (entropy : Option Bytes) :
    decryptDpapiBlob env b masterKey entropy = decryptDpapiBlob env b masterKey' entropy := by
  unfold keyHash at h
  simp only [decryptDpapiBlob, h]

theorem WireBlob.signedBytes_ne_nil (w : WireBlob) : w.signedBytes ≠ [] := by
  intro h
  have hlen := congrArg List.length h
  simp only [signedBytes, List.length_append, length_le32] at hlen
  simp at hlen

/-- Which module signed, a signature shows by its length. -/
theorem isSha512_eq_of_signs {crypto : Crypto} {k k' : KeySource} {hmac hmac' signed signed' sign : Bytes}
    (h : k.Signs crypto hmac signed sign) (h' : k'.Signs crypto hmac' signed' sign) :
    k'.hash.isSha512 = k.hash.isSha512 := by
  obtain ⟨form, rfl⟩ := h
  obtain ⟨form', hsign⟩ := h'
  have hlen := congrArg List.length hsign
  rw [Vector.length_toList, Vector.length_toList] at hlen
  revert hlen
  cases k'.hash.isSha512 <;> cases k.hash.isSha512 <;> decide

/-- One code verified twice, under keys of one length that fit a block: one key and one message, or messages
that were hashed collide. -/
theorem verifyHmacSha1_binds (hhmac : env.crypto.IsHmac) {key key' data data' expected : Bytes}
    (hkey : key.length ≤ 64) (hlen : key.length = key'.length)
    (h : verifyHmacSha1 env key data expected = .ok ())
    (h' : verifyHmacSha1 env key' data' expected = .ok ()) :
    (key = key' ∧ data = data') ∨
      CollideIn env.crypto.sha1 (Hmac.hashed env.crypto.sha1 64 key data)
        (Hmac.hashed env.crypto.sha1 64 key' data') := by
  have hcode := not_not.mp (Outcome.failIf_eq_ok_iff.mp h)
  have hcode' := not_not.mp (Outcome.failIf_eq_ok_iff.mp h')
  have hmac := Vector.toList_inj.mp (hcode.trans hcode'.symm)
  rw [hhmac.hmacSha1, hhmac.hmacSha1] at hmac
  exact Hmac.eq_or_collideIn_of_mac hkey hlen hmac

/-- One signature over two blobs, each signed under a key of its own: the keys have one hash and the blobs
one signed region, or messages that were hashed collide. -/
theorem WireBlob.signed_eq_or_collideIn {crypto : Crypto} (hhmac : crypto.IsHmac) {w₁ w₂ : WireBlob}
    {masterKey₁ masterKey₂ : Bytes}
    (h₁ : (w₁.keys masterKey₁ entropy).Signs crypto w₁.hmac.val w₁.signedBytes w₁.sign.val)
    (h₂ : (w₂.keys masterKey₂ entropy).Signs crypto w₂.hmac.val w₂.signedBytes w₁.sign.val)
    (hlen : w₁.hmac.val.length = w₂.hmac.val.length) :
    (keyHash crypto masterKey₁ = keyHash crypto masterKey₂ ∧ w₁.signedBytes = w₂.signedBytes) ∨
      ∃ form₁ form₂ isSha512, CollideIn (crypto.digest isSha512)
        (w₁.toBlob.hashed crypto isSha512 masterKey₁ entropy form₁)
        (w₂.toBlob.hashed crypto isSha512 masterKey₂ entropy form₂) := by
  have hmodule := isSha512_eq_of_signs h₁ h₂
  obtain ⟨form₁, hform₁⟩ := h₁
  obtain ⟨form₂, hform₂⟩ := h₂
  rw [signature_eq_code hhmac] at hform₁ hform₂
  rw [hmodule, ← hform₁] at hform₂
  have hcode := Vector.toList_inj.mp hform₂.symm
  have hne : ∀ w : WireBlob, entropyBytes entropy ++ w.signedBytes ≠ [] := fun w =>
    List.append_ne_nil_of_right_ne_nil _ w.signedBytes_ne_nil
  rcases SignForm.eq_or_collideIn_of_code (length_keyHash_le _ _ _) (by simp [keyHash]) hlen
    (hne w₁) (hne w₂) hcode with ⟨hkey, hrest⟩ | hcollide
  · exact Or.inl ⟨hkey, List.append_cancel_left hrest⟩
  · exact Or.inr ⟨form₁, form₂, _, hcollide⟩

/-- **A signature binds what it was made for.** Two inputs that open under one entropy, each under its own
master key, with one signature and HMAC fields of one length, hold one signed region, open to one plaintext,
and do so under master keys of one hash; or two of the messages hashed to verify them collide. -/
theorem sameSign_binds (env : Env) (himp : env.nomicon.IsImpacket) (hhmac : env.crypto.IsHmac)
    (d₁ d₂ : Slice) (b₁ b₂ : DpapiBlob) (h₁ : parseDpapiBlob env d₁.val = .ok b₁)
    (h₂ : parseDpapiBlob env d₂.val = .ok b₂) (masterKey₁ masterKey₂ : Bytes) (entropy : Option Bytes)
    (plain₁ plain₂ : Bytes) (hp₁ : decryptDpapiBlob env b₁ masterKey₁ entropy = .ok plain₁)
    (hp₂ : decryptDpapiBlob env b₂ masterKey₂ entropy = .ok plain₂) (hsign : b₁.sign = b₂.sign)
    (hlen : b₁.hmac.length = b₂.hmac.length) :
    (b₁.toSign = b₂.toSign ∧ plain₁ = plain₂ ∧
        keyHash env.crypto masterKey₁ = keyHash env.crypto masterKey₂) ∨
      ∃ form₁ form₂ isSha512, CollideIn (env.crypto.digest isSha512)
        (b₁.hashed env.crypto isSha512 masterKey₁ entropy form₁)
        (b₂.hashed env.crypto isSha512 masterKey₂ entropy form₂) := by
  obtain ⟨w₁, -, rfl⟩ := exists_wireBlob_of_parse d₁.property h₁
  obtain ⟨w₂, -, rfl⟩ := exists_wireBlob_of_parse d₂.property h₂
  have hsign : w₁.sign.val = w₂.sign.val := hsign
  have hsigns₁ := ((decrypt_toBlob_eq_ok_iff himp).mp hp₁).signs
  have hsigns₂ := ((decrypt_toBlob_eq_ok_iff himp).mp hp₂).signs
  rw [← hsign] at hsigns₂
  refine (WireBlob.signed_eq_or_collideIn hhmac hsigns₁ hsigns₂ hlen).imp_left fun ⟨hkey, hsigned⟩ => ?_
  refine ⟨hsigned, ?_, hkey⟩
  -- the region and the key hash fix what decryption does before it checks
  have hblob : w₂.toBlob = { w₁.toBlob with version := w₂.version, sign := w₂.sign.val } :=
    toBlob_congr_of_signedBytes hsigned
  have hsame : w₂.toBlob = { w₁.toBlob with version := w₂.version } := by
    rw [hblob]
    change _ = { w₁.toBlob with version := w₂.version, sign := w₁.sign.val }
    rw [hsign]
  rw [hsame, decryptDpapiBlob_version, ← decrypt_congr_keyHash hkey, hp₁] at hp₂
  exact Outcome.ok.inj hp₂

end Blobs

/-! ### HMAC on the blob minted by Windows -/

/-- The known digests, with the MACs made of them. -/
def KnownAnswers.hmacEnv (known : KnownAnswers) : Env :=
  { known.env with
    crypto :=
      { known.crypto with
        hmacSha1 := Hmac.mac known.crypto.sha1 64
        hmacSha512 := Hmac.mac known.crypto.sha512 128 } }

theorem KnownAnswers.hmacEnv_isHmac (known : KnownAnswers) : known.hmacEnv.crypto.IsHmac where
  hmacSha1 _ _ := rfl
  hmacSha512 _ _ := rfl

/-- The hash of the vectors' master key, filled to a block and masked. -/
def vectorKeyBlock (mask : UInt8) : Bytes :=
  maskedBlock 128 mask (beBytes 20 0x9e68943b06f62ef6c72f8f817b4572481480a8c4)

/-- What SHA-512 gives on the way to the session key and to the signature. -/
def vector1Digests : KnownAnswers where
  sha1 := vector1Answers.sha1
  sha512 :=
    [(vectorKeyBlock 0x36 ++ vector1.salt.val,
      beVector 32 0xbdda736fa1d5d100f328c275e49da3c2f98f6e0593a1ddcdaf665ba54b6006fb ++
      beVector 32 0x3f0232d0890d0c4f99ac3d7ff25bbe28982dd7f11b11173dd93532c0be3da92a),
    (vectorKeyBlock 0x5c ++
        (beBytes 32 0xbdda736fa1d5d100f328c275e49da3c2f98f6e0593a1ddcdaf665ba54b6006fb ++
          beBytes 32 0x3f0232d0890d0c4f99ac3d7ff25bbe28982dd7f11b11173dd93532c0be3da92a),
      beVector 32 0xb6e4a4a140c232a27dbc6509ba1d35036779c025b78d86efed4f6b1e5d6d1ed4 ++
      beVector 32 0x16bade15a566abc2da76016583ec2ca7acf5d9c9d21a70e6d533e6160b2e9527),
    (vectorKeyBlock 0x36 ++ (vector1.hmac.val ++ (vector1Bytes.drop 20).take 158),
      beVector 32 0x86b4cdcd1ebeceb7c27ad129b9b9380b9ef076a18a02d73948d4040de778dc97 ++
      beVector 32 0x82430d677f9bd3e3f8fbad57783dce3c7f30da91b3cb0928067ef9abbc96994f),
    (vectorKeyBlock 0x5c ++
        (beBytes 32 0x86b4cdcd1ebeceb7c27ad129b9b9380b9ef076a18a02d73948d4040de778dc97 ++
          beBytes 32 0x82430d677f9bd3e3f8fbad57783dce3c7f30da91b3cb0928067ef9abbc96994f),
      beVector 32 0x1c03ab807147742649b6bdfd1c1344d178bb163842d70abacfd51233af909cb8 ++
      beVector 32 0x1a677ec05d8db996f587ef5ac410dc189beda756eb0d1b6ee376823e80968538)]
  aes256 := vector1Answers.aes256

example : (vector1.wire vector1Digests.hmacEnv.crypto).bytes = vector1Bytes := by decide +kernel

/-- The blob and its copy with another version open with one signature, over one region. -/
theorem sameSign_binds_vector1 :
    ((vector1.wire vector1Digests.hmacEnv.crypto).signedBytes
          = (vector1Raised.wire vector1Digests.hmacEnv.crypto).signedBytes ∧
        vector1.plaintext = vector1Raised.plaintext ∧
        keyHash vector1Digests.hmacEnv.crypto vectorMasterKey
          = keyHash vector1Digests.hmacEnv.crypto vectorMasterKey) ∨
      ∃ form₁ form₂ isSha512, CollideIn (vector1Digests.hmacEnv.crypto.digest isSha512)
        ((vector1.wire vector1Digests.hmacEnv.crypto).toBlob.hashed vector1Digests.hmacEnv.crypto
          isSha512 vectorMasterKey none form₁)
        ((vector1Raised.wire vector1Digests.hmacEnv.crypto).toBlob.hashed
          vector1Digests.hmacEnv.crypto isSha512 vectorMasterKey none form₂) :=
  sameSign_binds vector1Digests.hmacEnv linkedTables_isImpacket vector1Digests.hmacEnv_isHmac
    ⟨_, WireBlob.isSlice_bytes _⟩ ⟨_, WireBlob.isSlice_bytes _⟩ _ _ (parse_wire vector1)
    (parse_wire vector1Raised) vectorMasterKey vectorMasterKey none _ _
    (decrypt_wire linkedTables_isImpacket vector1)
    (decrypt_wire linkedTables_isImpacket vector1Raised) rfl rfl

end DpapiForensic
