import DpapiForensic.Layout.Vcrd
import DpapiForensic.Proof.VcrdMap

/-!
# Records parse to their attributes

One attribute at a time: its payload is found behind whatever optional parts it has. Then the loops over
the map, by induction on the entries: the map's bytes read back as its offsets, and from an offset to
the next stands exactly one item.
-/

namespace DpapiForensic

open Vault

variable {env : Env} {data : Bytes} {pos : Nat}

/-! ### One attribute -/

section Attribute

variable (a : WireAttribute)

/-- The pad is told from its zeros, and the word behind it from the id. -/
theorem sizePos_bytes : sizePos a.bytes = 22 + a.optional.length := by
  have hall : BytesAt a.bytes 0 a.bytes := bytesAt_self
  obtain ⟨hid, hrest⟩ := bytesAt_append.mp hall
  simp only [bytesAt_append, length_le32, Nat.zero_add, Nat.reduceAdd] at hrest
  obtain ⟨-, -, -, hpad, -⟩ := hrest
  have hpadRange : getRange a.bytes 16 22 = some (List.replicate 6 0) := hpad.getRange_eq (by simp)
  rw [sizePos, if_pos hpadRange, u32At_of_bytesAt hid, WireAttribute.optional]
  split <;> simp

theorem holdsWithIv_bytes : HoldsWithIv a.bytes a.iv a.data := by
  have hfits := a.fits
  refine ⟨a.size, a.ivPresent, a.ivPresent_ne_zero, by omega, a.toNat_size, ?_⟩
  have hall : BytesAt a.bytes 0 a.bytes := bytesAt_self
  obtain ⟨-, hrest⟩ := bytesAt_append.mp hall
  simp only [bytesAt_append, length_le32, List.length_replicate, Nat.zero_add,
    Nat.reduceAdd] at hrest
  obtain ⟨-, -, -, -, -, hsize, hpresent, hiv, hdata⟩ := hrest
  rw [sizePos_bytes]
  simp only [bytesAt_append, length_le32]
  exact ⟨hsize, hpresent, hiv, hdata⟩

theorem parseAttributePayload_bytes :
    parseAttributePayload env a.bytes = .ok (a.iv, a.data) := by
  have hlen := a.length_bytes
  exact parseAttributePayload_eq_ok_iff.mpr ⟨by omega, Or.inl (holdsWithIv_bytes a)⟩

theorem parseAttributePayload_of_small {bytes : Bytes} (h : bytes.length ≤ 28) :
    parseAttributePayload env bytes = .err () := by
  rw [parseAttributePayload, Outcome.failIf_of h, Outcome.err_bind]

end Attribute

/-! ### The loops -/

section Loops

variable {entries : List WireEntry} {offset : Nat}

/-- What stands at an offset is parsed to the item's payload, if it has one. -/
theorem toOption_parseAttributePayload (item : WireItem) :
    (Outcome.toOption (parseAttributePayload env item.bytes) : Outcome DpapiError _)
      = .ok item.payload := by
  cases item with
  | encrypted a => rw [WireItem.bytes, parseAttributePayload_bytes, Outcome.toOption]; rfl
  | small bytes le => rw [WireItem.bytes, parseAttributePayload_of_small le, Outcome.toOption]; rfl

/-- The map reads back as the offsets it was made from. -/
theorem mapEntries_mapBytes (hfits : offset + (WireEntry.itemBytes entries).length < 2 ^ 32)
    (h : BytesAt data pos (WireEntry.mapBytes offset entries)) :
    mapEntries data entries.length pos = WireEntry.offsets offset entries := by
  induction entries generalizing offset pos with
  | nil => rfl
  | cons e entries ih =>
      simp only [WireEntry.itemBytes, List.flatMap_cons, List.length_append] at hfits
      simp only [WireEntry.mapBytes, bytesAt_append, length_le32] at h
      obtain ⟨hid, hoffset, -, hrest⟩ := h
      have hoffsetVal : (UInt32.ofNat offset).toNat = offset := by
        rw [UInt32.toNat_ofNat', Nat.mod_eq_of_lt (by omega)]
      rw [List.length_cons, mapEntries, WireEntry.offsets, u32At_of_bytesAt hid,
        u32At_of_bytesAt hoffset, hoffsetVal, ih (by rw [WireEntry.itemBytes]; omega) hrest]

/-- The end of an item is where the next one starts, or where the record ends. -/
theorem head_offsets_getD (entries : List WireEntry) (offset : Nat)
    (h : offset + (WireEntry.itemBytes entries).length = data.length) :
    ((WireEntry.offsets offset entries).head?.map (·.2)).getD data.length = offset := by
  cases entries with
  | nil => exact h.symm
  | cons e entries => rfl

/-- Items laid end to end up to the end of the data are read one by one. -/
theorem readAttributes_offsets (h : BytesAt data offset (WireEntry.itemBytes entries))
    (hend : offset + (WireEntry.itemBytes entries).length = data.length) :
    readAttributes env data (WireEntry.offsets offset entries)
      = .ok (entries.filterMap WireEntry.toAttribute) := by
  induction entries generalizing offset with
  | nil => rfl
  | cons e entries ih =>
      simp only [WireEntry.itemBytes, List.flatMap_cons, List.length_append] at h hend
      obtain ⟨hitem, hrest⟩ := bytesAt_append.mp h
      have hnext : offset + e.item.bytes.length + (WireEntry.itemBytes entries).length
          = data.length := by
        rw [WireEntry.itemBytes]
        omega
      rw [WireEntry.offsets, readAttributes]
      simp only [head_offsets_getD entries _ hnext]
      refine Outcome.bind_of_ok (hitem.okOr_getRange rfl) ?_
      refine Outcome.bind_of_ok (toOption_parseAttributePayload e.item) ?_
      refine Outcome.bind_of_ok (ih hrest hnext) ?_
      cases hpayload : e.item.payload with
      | none => simp [WireEntry.toAttribute, hpayload]
      | some payload => simp [WireEntry.toAttribute, hpayload]

end Loops

/-! ### The record -/

/-- **A record parses to its attributes**, in the order of its map. -/
theorem parseVcrdAttributes_bytes (w : WireVcrd) :
    parseVcrdAttributes env w.bytes = .ok w.attributes := by
  have hfits := w.fits
  have hlen := w.length_bytes
  have hall : BytesAt w.bytes 0 w.bytes := bytesAt_self
  obtain ⟨-, hrest⟩ := bytesAt_append.mp hall
  simp only [bytesAt_append, w.length_header, length_lp, length_le32, WireEntry.length_mapBytes,
    Nat.zero_add, ← Nat.add_assoc, Nat.reduceAdd] at hrest
  obtain ⟨hname, hmapsSize, hmap, -, hitems⟩ := hrest
  obtain ⟨-, hnameLen⟩ := (bytesAt_lp_iff 0).mp ⟨w.friendlyName.property, hname⟩
  have hstart : w.itemsStart
      = 40 + w.friendlyName.val.length + 4 + 12 * w.entries.length + w.gap.length := by
    rw [WireVcrd.itemsStart]
    omega
  have hnameEnd : nameEnd w.bytes = 40 + w.friendlyName.val.length := by
    rw [nameEnd, ← hnameLen]
  have hsize : mapsSize w.bytes = 12 * w.entries.length := by
    rw [mapsSize, hnameEnd, u32At_of_bytesAt hmapsSize, UInt32.toNat_ofNat',
      Nat.mod_eq_of_lt (by omega)]
  have hmapsStart : mapsStart w.bytes = 40 + w.friendlyName.val.length + 4 := by
    rw [mapsStart, hnameEnd]
  rw [parseVcrdAttributes_eq w.isSlice_bytes (by omega), hsize, hmapsStart]
  refine Outcome.bind_of_ok (Outcome.failIf_of_not (by omega)) ?_
  rw [Nat.mul_div_cancel_left _ (by decide), mapEntries_mapBytes (by omega) hmap]
  rw [← hstart] at hitems
  exact readAttributes_offsets hitems (by omega)

/-- **A well-formed record parses to exactly its encrypted attributes**: each under its map id, with its
own IV and data, whatever stands around it. -/
theorem parseVcrdAttributes_wellFormed (env : Env) (w : WireVcrd) :
    parseVcrdAttributes env w.bytes
      = .ok (w.entries.filterMap fun e =>
          match e.item with
          | .encrypted a => some { id := e.id, iv := a.iv, data := a.data }
          | .small _ _ => none) := by
  rw [parseVcrdAttributes_bytes, WireVcrd.attributes]
  congr 2
  funext e
  rw [WireEntry.toAttribute]
  cases e.item <;> rfl

end DpapiForensic
