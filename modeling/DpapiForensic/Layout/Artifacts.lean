import DpapiForensic.Credential
import DpapiForensic.Vault
import DpapiForensic.Lib.Format

/-!
# The wrappers and cleartexts

Credential files and policies wrap a blob; credentials, policy keys and web credentials are what comes
out of one. Each format below is the one the code documents, component by component, and delimits
itself.
-/

namespace DpapiForensic

/-! ### Credential Manager -/

structure WireCredentialFile where
  version : UInt32
  unknown : UInt32
  data : Field

namespace WireCredentialFile

variable (w : WireCredentialFile)

def bytes : Bytes :=
  le32 w.version ++ (le32 (UInt32.ofNat w.data.val.length) ++ (le32 w.unknown ++ w.data.val))

theorem isSlice_bytes : IsSlice w.bytes := by
  have h := w.data.property
  simp only [IsSlice, bytes, List.length_append, length_le32]
  omega

theorem selfDelimiting : SelfDelimiting bytes := by
  rintro ⟨version, unknown, data⟩ ⟨version', unknown', data'⟩ rest rest' h
  simp only [bytes, List.append_assoc] at h
  obtain ⟨hversion, h⟩ := List.append_inj h (by simp)
  obtain ⟨hsize, h⟩ := List.append_inj h (by simp)
  obtain ⟨hunknown, h⟩ := List.append_inj h (by simp)
  obtain ⟨hdata, hrest⟩ := List.append_inj h (by
    rw [← toNat_ofNat_length data.property, le32_injective hsize, toNat_ofNat_length data'.property])
  exact ⟨by rw [le32_injective hversion, le32_injective hunknown, Subtype.ext hdata], hrest⟩

end WireCredentialFile

/-- The fixed header of a `CREDENTIAL_BLOB`. -/
@[ext]
structure WireCredentialHeader where
  flags : UInt32
  size : UInt32
  unknown0 : UInt32
  type : UInt32
  flags2 : UInt32
  lastWritten : UInt64
  unknown2 : UInt32
  persist : UInt32
  attrCount : UInt32
  unknown3 : UInt64

namespace WireCredentialHeader

variable (w : WireCredentialHeader)

def bytes : Bytes :=
  le32 w.flags ++ (le32 w.size ++ (le32 w.unknown0 ++ (le32 w.type ++ (le32 w.flags2 ++
    (le64 w.lastWritten ++ (le32 w.unknown2 ++ (le32 w.persist ++ (le32 w.attrCount ++
      le64 w.unknown3))))))))

@[simp] theorem length_bytes : w.bytes.length = 48 := by
  simp [bytes]

theorem selfDelimiting : SelfDelimiting bytes := by
  intro w w' rest rest' h
  simp only [bytes, List.append_assoc] at h
  obtain ⟨hflags, h⟩ := List.append_inj h (by simp)
  obtain ⟨hsize, h⟩ := List.append_inj h (by simp)
  obtain ⟨hunknown0, h⟩ := List.append_inj h (by simp)
  obtain ⟨htype, h⟩ := List.append_inj h (by simp)
  obtain ⟨hflags2, h⟩ := List.append_inj h (by simp)
  obtain ⟨hlastWritten, h⟩ := List.append_inj h (by simp)
  obtain ⟨hunknown2, h⟩ := List.append_inj h (by simp)
  obtain ⟨hpersist, h⟩ := List.append_inj h (by simp)
  obtain ⟨hattrCount, h⟩ := List.append_inj h (by simp)
  obtain ⟨hunknown3, hrest⟩ := List.append_inj h (by simp)
  exact ⟨WireCredentialHeader.ext (le32_injective hflags) (le32_injective hsize)
    (le32_injective hunknown0) (le32_injective htype) (le32_injective hflags2)
    (le64_injective hlastWritten) (le32_injective hunknown2) (le32_injective hpersist)
    (le32_injective hattrCount) (le64_injective hunknown3), hrest⟩

theorem exists_at_zero {data : Bytes} (h : 48 ≤ data.length) :
    ∃ w : WireCredentialHeader, BytesAt data 0 w.bytes := by
  obtain ⟨flags, hflags⟩ := exists_le32_at data 0 (by omega)
  obtain ⟨size, hsize⟩ := exists_le32_at data 4 (by omega)
  obtain ⟨unknown0, hunknown0⟩ := exists_le32_at data 8 (by omega)
  obtain ⟨type, htype⟩ := exists_le32_at data 12 (by omega)
  obtain ⟨flags2, hflags2⟩ := exists_le32_at data 16 (by omega)
  obtain ⟨lastWritten, hlastWritten⟩ := exists_le64_at data 20 (by omega)
  obtain ⟨unknown2, hunknown2⟩ := exists_le32_at data 28 (by omega)
  obtain ⟨persist, hpersist⟩ := exists_le32_at data 32 (by omega)
  obtain ⟨attrCount, hattrCount⟩ := exists_le32_at data 36 (by omega)
  obtain ⟨unknown3, hunknown3⟩ := exists_le64_at data 40 (by omega)
  refine ⟨⟨flags, size, unknown0, type, flags2, lastWritten, unknown2, persist, attrCount,
    unknown3⟩, ?_⟩
  simp only [bytes, bytesAt_append, length_le32, length_le64, Nat.zero_add, Nat.reduceAdd]
  exact ⟨hflags, hsize, hunknown0, htype, hflags2, hlastWritten, hunknown2, hpersist, hattrCount,
    hunknown3⟩

theorem lastWritten_at {data : Bytes} (h : BytesAt data 0 w.bytes) :
    BytesAt data 20 (le64 w.lastWritten) := by
  simp only [bytes, bytesAt_append, length_le32, Nat.zero_add, Nat.reduceAdd] at h
  exact h.2.2.2.2.2.1

end WireCredentialHeader

@[ext]
structure WireCredential where
  header : WireCredentialHeader
  target : Field
  targetAlias : Field
  description : Field
  unknown : Field
  username : Field

namespace WireCredential

variable (w : WireCredential)

def bytes : Bytes :=
  w.header.bytes ++ (lp w.target.val ++ (lp w.targetAlias.val ++ (lp w.description.val ++
    (lp w.unknown.val ++ lp w.username.val))))

/-- What the parser makes of the components. The secret is the `Unknown` field. -/
def toCredential : Credential where
  target := decodeUtf16le w.target.val
  username := decodeUtf16le w.username.val
  secret := decodeUtf16le w.unknown.val
  lastWritten := w.header.lastWritten

theorem isSlice_bytes : IsSlice w.bytes := by
  have h₁ := w.target.property
  have h₂ := w.targetAlias.property
  have h₃ := w.description.property
  have h₄ := w.unknown.property
  have h₅ := w.username.property
  simp only [IsSlice, bytes, List.length_append, WireCredentialHeader.length_bytes, length_lp]
  omega

theorem selfDelimiting : SelfDelimiting bytes := by
  intro w w' rest rest' h
  simp only [bytes, List.append_assoc] at h
  obtain ⟨hheader, h⟩ := WireCredentialHeader.selfDelimiting h
  obtain ⟨htarget, h⟩ := lp_append_inj h
  obtain ⟨htargetAlias, h⟩ := lp_append_inj h
  obtain ⟨hdescription, h⟩ := lp_append_inj h
  obtain ⟨hunknown, h⟩ := lp_append_inj h
  obtain ⟨husername, hrest⟩ := lp_append_inj h
  exact ⟨WireCredential.ext hheader htarget htargetAlias hdescription hunknown husername, hrest⟩

end WireCredential

/-! ### Policies -/

@[ext]
structure WireVpol where
  version : UInt32
  guid : Vector UInt8 16
  description : Field
  unknown : Vector UInt8 12
  size : UInt32
  guid2 : Vector UInt8 16
  guid3 : Vector UInt8 16
  blob : Field

namespace WireVpol

variable (w : WireVpol)

def bytes : Bytes :=
  le32 w.version ++ (w.guid.toList ++ (lp w.description.val ++ (w.unknown.toList ++ (le32 w.size ++
    (w.guid2.toList ++ (w.guid3.toList ++ lp w.blob.val))))))

theorem isSlice_bytes : IsSlice w.bytes := by
  have h₁ := w.description.property
  have h₂ := w.blob.property
  simp only [IsSlice, bytes, List.length_append, length_le32, length_lp, Vector.length_toList]
  omega

theorem selfDelimiting : SelfDelimiting bytes := by
  intro w w' rest rest' h
  simp only [bytes, List.append_assoc] at h
  obtain ⟨hversion, h⟩ := List.append_inj h (by simp)
  obtain ⟨hguid, h⟩ := List.append_inj h (by simp)
  obtain ⟨hdescription, h⟩ := lp_append_inj h
  obtain ⟨hunknown, h⟩ := List.append_inj h (by simp)
  obtain ⟨hsize, h⟩ := List.append_inj h (by simp)
  obtain ⟨hguid2, h⟩ := List.append_inj h (by simp)
  obtain ⟨hguid3, h⟩ := List.append_inj h (by simp)
  obtain ⟨hblob, hrest⟩ := lp_append_inj h
  exact ⟨WireVpol.ext (le32_injective hversion) (Vector.toList_inj.mp hguid) hdescription
    (Vector.toList_inj.mp hunknown) (le32_injective hsize) (Vector.toList_inj.mp hguid2)
    (Vector.toList_inj.mp hguid3) hblob, hrest⟩

end WireVpol

/-- `BCRYPT_KEY_WRAP`, whose `Size` says nothing about how long it is. -/
@[ext]
structure WireKeyWrap where
  size : UInt32
  version : UInt32
  unknown2 : UInt32
  dwMagic : UInt32
  dwVersion : UInt32
  bKey : Field

namespace WireKeyWrap

variable (w : WireKeyWrap)

def bytes : Bytes :=
  le32 w.size ++ (le32 w.version ++ (le32 w.unknown2 ++ (le32 w.dwMagic ++ (le32 w.dwVersion ++
    lp w.bKey.val))))

@[simp] theorem length_bytes : w.bytes.length = 24 + w.bKey.val.length := by
  simp only [bytes, List.length_append, length_le32, length_lp]
  omega

theorem selfDelimiting : SelfDelimiting bytes := by
  intro w w' rest rest' h
  simp only [bytes, List.append_assoc] at h
  obtain ⟨hsize, h⟩ := List.append_inj h (by simp)
  obtain ⟨hversion, h⟩ := List.append_inj h (by simp)
  obtain ⟨hunknown2, h⟩ := List.append_inj h (by simp)
  obtain ⟨hdwMagic, h⟩ := List.append_inj h (by simp)
  obtain ⟨hdwVersion, h⟩ := List.append_inj h (by simp)
  obtain ⟨hbKey, hrest⟩ := lp_append_inj h
  exact ⟨WireKeyWrap.ext (le32_injective hsize) (le32_injective hversion) (le32_injective hunknown2)
    (le32_injective hdwMagic) (le32_injective hdwVersion) hbKey, hrest⟩

end WireKeyWrap

structure WireVpolKeys where
  wrap1 : WireKeyWrap
  wrap2 : WireKeyWrap

namespace WireVpolKeys

variable (w : WireVpolKeys)

def bytes : Bytes := w.wrap1.bytes ++ w.wrap2.bytes

def toKeys : VaultVpolKeys where
  key1 := w.wrap1.bKey.val
  key2 := w.wrap2.bKey.val

theorem isSlice_bytes : IsSlice w.bytes := by
  have h₁ := w.wrap1.bKey.property
  have h₂ := w.wrap2.bKey.property
  simp only [IsSlice, bytes, List.length_append, WireKeyWrap.length_bytes]
  omega

theorem selfDelimiting : SelfDelimiting bytes := by
  rintro ⟨wrap1, wrap2⟩ ⟨wrap1', wrap2'⟩ rest rest' h
  simp only [bytes, List.append_assoc] at h
  obtain ⟨hwrap1, h⟩ := WireKeyWrap.selfDelimiting h
  obtain ⟨hwrap2, hrest⟩ := WireKeyWrap.selfDelimiting h
  exact ⟨by rw [hwrap1, hwrap2], hrest⟩

end WireVpolKeys

/-! ### Web credentials -/

/-- An `Id Len Value` triple. -/
@[ext]
structure WireTriple where
  id : UInt32
  value : Field

namespace WireTriple

variable (w : WireTriple)

def bytes : Bytes := le32 w.id ++ lp w.value.val

@[simp] theorem length_bytes : w.bytes.length = 8 + w.value.val.length := by
  simp only [bytes, List.length_append, length_le32, length_lp]
  omega

theorem selfDelimiting : SelfDelimiting bytes := by
  intro w w' rest rest' h
  simp only [bytes, List.append_assoc] at h
  obtain ⟨hid, h⟩ := List.append_inj h (by simp)
  obtain ⟨hvalue, hrest⟩ := lp_append_inj h
  exact ⟨WireTriple.ext (le32_injective hid) hvalue, hrest⟩

end WireTriple

@[ext]
structure WireWebCredential where
  version : UInt32
  count : UInt32
  unknown : UInt32
  username : WireTriple
  resource : WireTriple
  password : WireTriple

namespace WireWebCredential

variable (w : WireWebCredential)

def header : Bytes := le32 w.version ++ (le32 w.count ++ le32 w.unknown)

@[simp] theorem length_header : w.header.length = 12 := by
  simp [header]

def bytes : Bytes :=
  w.header ++ (w.username.bytes ++ (w.resource.bytes ++ w.password.bytes))

def toWebCredential : WebCredential where
  username := decodeUtf16le w.username.value.val
  resource := decodeUtf16le w.resource.value.val
  password := decodeUtf16le w.password.value.val

theorem isSlice_bytes : IsSlice w.bytes := by
  have h₁ := w.username.value.property
  have h₂ := w.resource.value.property
  have h₃ := w.password.value.property
  simp only [IsSlice, bytes, List.length_append, length_header, WireTriple.length_bytes]
  omega

theorem selfDelimiting : SelfDelimiting bytes := by
  intro w w' rest rest' h
  simp only [bytes, List.append_assoc] at h
  obtain ⟨hheader, h⟩ := List.append_inj h (by simp)
  obtain ⟨husername, h⟩ := WireTriple.selfDelimiting h
  obtain ⟨hresource, h⟩ := WireTriple.selfDelimiting h
  obtain ⟨hpassword, hrest⟩ := WireTriple.selfDelimiting h
  simp only [header] at hheader
  obtain ⟨hversion, hheader⟩ := List.append_inj hheader (by simp)
  obtain ⟨hcount, hunknown⟩ := List.append_inj hheader (by simp)
  exact ⟨WireWebCredential.ext (le32_injective hversion) (le32_injective hcount)
    (le32_injective hunknown) husername hresource hpassword, hrest⟩

end WireWebCredential

end DpapiForensic
