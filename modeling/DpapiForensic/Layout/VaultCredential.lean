import DpapiForensic.Layout.Artifacts
import DpapiForensic.Layout.Text
import DpapiForensic.Layout.Vcrd
import DpapiForensic.Cli

/-!
# Protecting a web credential

A web credential is three texts in a `VAULT_INTERNET_EXPLORER`, filled up to whole blocks with any
bytes, encrypted under the policy's first key with an IV of its own, and stored as an attribute.
-/

namespace DpapiForensic

/-- A web credential's texts, with the ids and the header they are stored under. -/
structure WebTexts where
  version : UInt32
  count : UInt32
  unknown : UInt32
  usernameId : UInt32
  username : FieldText
  resourceId : UInt32
  resource : FieldText
  passwordId : UInt32
  password : FieldText

namespace WebTexts

variable (t : WebTexts)

def wire : WireWebCredential where
  version := t.version
  count := t.count
  unknown := t.unknown
  username := ⟨t.usernameId, t.username.field⟩
  resource := ⟨t.resourceId, t.resource.field⟩
  password := ⟨t.passwordId, t.password.field⟩

theorem toWebCredential_wire : t.wire.toWebCredential
    = { username := t.username.text, resource := t.resource.text, password := t.password.text } := by
  simp only [WireWebCredential.toWebCredential, wire, FieldText.decode_field]

end WebTexts

structure VaultCredential where
  texts : WebTexts
  pad : Bytes
  wholeBlocks : 16 ∣ (texts.wire.bytes ++ pad).length
  fits : 16 + (texts.wire.bytes ++ pad).length + 5 < 2 ^ 32
  iv : Vector UInt8 16
  ivPresent : UInt8
  ivPresent_ne_zero : ivPresent ≠ 0
  /-- The attribute's own id. -/
  id : UInt32
  unknown1 : UInt32
  unknown2 : UInt32
  unknown3 : UInt32
  unknown5 : UInt32
  mapId : UInt32
  mapUnknown1 : UInt32

namespace VaultCredential

variable (crypto : Crypto) (key1 : Vector UInt8 32) (c : VaultCredential)

def cleartext : Bytes := c.texts.wire.bytes ++ c.pad

def ciphertext : Bytes := crypto.aes256.encrypt key1 c.iv c.cleartext

theorem length_ciphertext : (c.ciphertext crypto key1).length = c.cleartext.length :=
  crypto.aes256.length_encrypt key1 c.iv c.cleartext c.wholeBlocks

def wireAttribute : WireAttribute where
  id := c.id
  unknown1 := c.unknown1
  unknown2 := c.unknown2
  unknown3 := c.unknown3
  unknown5 := c.unknown5
  ivPresent := c.ivPresent
  ivPresent_ne_zero := c.ivPresent_ne_zero
  iv := c.iv.toList
  data := c.ciphertext crypto key1
  fits := by
    rw [length_ciphertext, Vector.length_toList]
    exact c.fits

def entry : WireEntry where
  id := c.mapId
  unknown1 := c.mapUnknown1
  item := .encrypted (c.wireAttribute crypto key1)

def result : StoreResult where
  store := "vault"
  label := c.texts.resource.text
  secret := c.texts.password.text
  account := some c.texts.username.text

end VaultCredential

end DpapiForensic
