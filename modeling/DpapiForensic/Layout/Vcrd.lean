import DpapiForensic.Vault

/-!
# Vault records

A `VAULT_VCRD` ends in its attributes, laid end to end; the map before them names the offset each one
starts at and leaves its end to the next offset, or to the end of the record. What an attribute looks
like inside depends on its own id, not on the map's.
-/

namespace DpapiForensic

/-! ### Attributes -/

/-- A `VAULT_ATTRIBUTE` that carries an IV. -/
structure WireAttribute where
  id : UInt32
  unknown1 : UInt32
  unknown2 : UInt32
  unknown3 : UInt32
  /-- Present only from id 100 on. -/
  unknown5 : UInt32
  ivPresent : UInt8
  ivPresent_ne_zero : ivPresent ≠ 0
  iv : Bytes
  data : Bytes
  fits : iv.length + data.length + 5 < 2 ^ 32

namespace WireAttribute

variable (a : WireAttribute)

/-- What follows the pad. -/
def optional : Bytes := if a.id ≥ 100 then le32 a.unknown5 else []

/-- `Size` counts everything behind itself. -/
def size : UInt32 := UInt32.ofNat (a.iv.length + a.data.length + 5)

def bytes : Bytes :=
  le32 a.id ++ (le32 a.unknown1 ++ (le32 a.unknown2 ++ (le32 a.unknown3 ++
    (List.replicate 6 0 ++ (a.optional ++ (le32 a.size ++ ([a.ivPresent] ++
      (lp a.iv ++ a.data))))))))

theorem toNat_size : a.size.toNat = a.iv.length + a.data.length + 5 := by
  rw [size, UInt32.toNat_ofNat', Nat.mod_eq_of_lt a.fits]

theorem length_bytes :
    a.bytes.length = 31 + a.optional.length + a.iv.length + a.data.length := by
  simp only [bytes, List.length_append, length_le32, length_lp, List.length_replicate,
    List.length_singleton]
  omega

end WireAttribute

/-- What may lie at a map entry's offset: an attribute with an IV, or one too small to hold a payload. -/
inductive WireItem where
  | encrypted (a : WireAttribute)
  | small (bytes : Bytes) (le : bytes.length ≤ 28)

namespace WireItem

def bytes : WireItem → Bytes
  | encrypted a => a.bytes
  | small bytes _ => bytes

def payload : WireItem → Option (Bytes × Bytes)
  | encrypted a => some (a.iv, a.data)
  | small _ _ => none

end WireItem

/-! ### Records -/

structure WireEntry where
  id : UInt32
  unknown1 : UInt32
  item : WireItem

namespace WireEntry

def toAttribute (e : WireEntry) : Option VcrdAttribute :=
  e.item.payload.map fun payload => { id := e.id, iv := payload.1, data := payload.2 }

def itemBytes (entries : List WireEntry) : Bytes := entries.flatMap (·.item.bytes)

/-- The map: every entry with the offset its item starts at, from the first item's on. -/
def offsets : Nat → List WireEntry → List (UInt32 × Nat)
  | _, [] => []
  | offset, e :: entries => (e.id, offset) :: offsets (offset + e.item.bytes.length) entries

def mapBytes : Nat → List WireEntry → Bytes
  | _, [] => []
  | offset, e :: entries =>
      le32 e.id ++ (le32 (UInt32.ofNat offset) ++ (le32 e.unknown1 ++
        mapBytes (offset + e.item.bytes.length) entries))

theorem length_mapBytes (offset : Nat) (entries : List WireEntry) :
    (mapBytes offset entries).length = 12 * entries.length := by
  induction entries generalizing offset with
  | nil => rfl
  | cons e entries ih =>
      simp only [mapBytes, List.length_append, length_le32, List.length_cons, ih]
      omega

end WireEntry

/-- `VAULT_VCRD`. Any bytes may stand between the map and the first item. -/
structure WireVcrd where
  schemaGuid : Vector UInt8 16
  unknown0 : UInt32
  lastWritten : UInt64
  unknown1 : UInt32
  unknown2 : UInt32
  friendlyName : Field
  gap : Bytes
  entries : List WireEntry
  fits : 44 + friendlyName.val.length + 12 * entries.length + gap.length
    + (WireEntry.itemBytes entries).length < 2 ^ 32

namespace WireVcrd

variable (w : WireVcrd)

def header : Bytes :=
  w.schemaGuid.toList ++ (le32 w.unknown0 ++ (le64 w.lastWritten ++ (le32 w.unknown1 ++
    le32 w.unknown2)))

@[simp] theorem length_header : w.header.length = 36 := by
  simp [header]

def itemsStart : Nat := 44 + w.friendlyName.val.length + 12 * w.entries.length + w.gap.length

def bytes : Bytes :=
  w.header ++ (lp w.friendlyName.val ++ (le32 (UInt32.ofNat (12 * w.entries.length)) ++
    (WireEntry.mapBytes w.itemsStart w.entries ++ (w.gap ++ WireEntry.itemBytes w.entries))))

theorem length_bytes : w.bytes.length = w.itemsStart + (WireEntry.itemBytes w.entries).length := by
  simp only [bytes, itemsStart, List.length_append, length_header, length_lp, length_le32,
    WireEntry.length_mapBytes]
  omega

theorem isSlice_bytes : IsSlice w.bytes := by
  have h := w.fits
  rw [IsSlice, length_bytes, itemsStart]
  omega

def attributes : List VcrdAttribute := w.entries.filterMap WireEntry.toAttribute

end WireVcrd

end DpapiForensic
