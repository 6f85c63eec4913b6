import DpapiForensic.Proof.ArtifactGrammar
import DpapiForensic.Proof.Payload
import Mathlib.Data.List.Forall2

/-!
# What a record is read from

The parser checks that the header and the friendly name are there, that the map's size is a whole number
of entries, and that the offsets in the map do not decrease. It does not check that the map is there:
what is cut off reads as zeros. And it drops an attribute whose lengths do not fit just as it drops one
that is too small to have any.
-/

namespace DpapiForensic

open Vault

variable {env : Env} {vcrd : Bytes} {pos : Nat}

/-! ### The parser as a function of the bytes -/

def nameEnd (vcrd : Bytes) : Nat := 40 + (u32At 0 vcrd 36 40).toNat

def mapsSize (vcrd : Bytes) : Nat := (u32At 0 vcrd (nameEnd vcrd) (nameEnd vcrd + 4)).toNat

def mapsStart (vcrd : Bytes) : Nat := nameEnd vcrd + 4

/-- The map entries from a position on, zeros standing for what is cut off. -/
def mapEntries (vcrd : Bytes) : Nat → Nat → List (UInt32 × Nat)
  | 0, _ => []
  | count + 1, pos =>
      (u32At 0 vcrd pos (pos + 4), (u32At 0 vcrd (pos + 4) (pos + 4 + 4)).toNat) ::
        mapEntries vcrd count (pos + 12)

/-- Where a map entry's attribute lies. -/
structure AttributeRange where
  id : UInt32
  start : Nat
  stop : Nat

namespace AttributeRange

variable (r : AttributeRange)

def Fits (size : Nat) : Prop := r.start ≤ r.stop ∧ r.stop ≤ size

def bytes (vcrd : Bytes) : Bytes := (vcrd.drop r.start).take (r.stop - r.start)

def toAttribute (vcrd : Bytes) : Option VcrdAttribute :=
  (payload? (r.bytes vcrd)).map fun payload => { id := r.id, iv := payload.1, data := payload.2 }

theorem getRange_of_fits (h : r.Fits vcrd.length) :
    getRange vcrd r.start r.stop = some (r.bytes vcrd) := if_pos h

theorem length_bytes (h : r.Fits vcrd.length) : (r.bytes vcrd).length = r.stop - r.start := by
  obtain ⟨hle, hsize⟩ := h
  simp only [bytes, List.length_take, List.length_drop]
  omega

end AttributeRange

/-- Each attribute runs to the next one's offset, the last to the end. -/
def ranges (size : Nat) : List (UInt32 × Nat) → List AttributeRange
  | [] => []
  | (id, start) :: rest => ⟨id, start, (rest.head?.map (·.2)).getD size⟩ :: ranges size rest

def declaredRanges (vcrd : Bytes) : List AttributeRange :=
  ranges vcrd.length (mapEntries vcrd (mapsSize vcrd / 12) (mapsStart vcrd))

/-- What the parser checks. -/
def Accepts (vcrd : Bytes) : Prop :=
  nameEnd vcrd ≤ vcrd.length ∧ mapsSize vcrd % 12 = 0 ∧
    ∀ r ∈ declaredRanges vcrd, r.Fits vcrd.length

theorem readMapEntries_eq (count : Nat) (h : pos + 12 * count < 2 ^ 64) :
    readMapEntries env vcrd count pos = .ok (mapEntries vcrd count pos, pos + 12 * count) := by
  induction count generalizing pos with
  | zero => rfl
  | succ count ih =>
      rw [readMapEntries]
      refine Outcome.bind_of_ok (readU32_eq (by omega)) ?_
      refine Outcome.bind_of_ok (readU32_eq (by omega)) ?_
      refine Outcome.bind_of_ok (readU32_eq (by omega)) ?_
      refine Outcome.bind_of_ok (ih (by omega)) ?_
      rw [mapEntries]
      change Outcome.ok (_, _) = _
      congr 2
      omega

theorem readAttributes_eq_ok_iff {offsets : List (UInt32 × Nat)} {attrs : List VcrdAttribute} :
    readAttributes env vcrd offsets = .ok attrs ↔
      (∀ r ∈ ranges vcrd.length offsets, r.Fits vcrd.length) ∧
        attrs = (ranges vcrd.length offsets).filterMap (·.toAttribute vcrd) := by
  induction offsets generalizing attrs with
  | nil => simp [readAttributes, ranges, eq_comm]
  | cons entry offsets ih =>
      obtain ⟨id, start⟩ := entry
      rw [readAttributes, ranges, List.forall_mem_cons, List.filterMap_cons]
      generalize ((offsets.head?.map (·.2)).getD vcrd.length) = stop
      by_cases hfits : start ≤ stop ∧ stop ≤ vcrd.length
      · have hfits' : AttributeRange.Fits ⟨id, start, stop⟩ vcrd.length := hfits
        have hrange := AttributeRange.getRange_of_fits ⟨id, start, stop⟩ hfits
        simp only [AttributeRange.toAttribute]
        simp only at hrange
        rw [hrange, Outcome.okOr_some, Outcome.ok_bind, parseAttributePayload_eq,
          Outcome.toOption_okOr, Outcome.ok_bind, and_iff_right hfits', Outcome.bind_eq_ok_iff]
        rcases payload? (AttributeRange.bytes ⟨id, start, stop⟩ vcrd) with _ | payload
        all_goals
          constructor
          · rintro ⟨rest, hrest, h⟩
            obtain ⟨hall, rfl⟩ := ih.mp hrest
            exact ⟨hall, (Outcome.ok.inj h).symm⟩
          · rintro ⟨hall, rfl⟩
            exact ⟨_, ih.mpr ⟨hall, rfl⟩, rfl⟩
      · have hnone : getRange vcrd start stop = none := if_neg hfits
        rw [hnone, Outcome.okOr_none, Outcome.err_bind]
        exact iff_of_false nofun fun h => hfits h.1.1

theorem readAttributes_ne_panic {offsets : List (UInt32 × Nat)} :
    readAttributes env vcrd offsets ≠ .panic := by
  induction offsets with
  | nil => simp [readAttributes]
  | cons entry offsets ih =>
      refine Outcome.bind_ne_panic Outcome.okOr_ne_panic fun attrBytes _ => ?_
      rw [parseAttributePayload_eq, Outcome.toOption_okOr, Outcome.ok_bind]
      refine Outcome.bind_ne_panic ih fun attrs _ => ?_
      split <;> simp

/-- Behind the friendly name, the parser checks the map's size, reserves memory for as many entries as it
declares, and reads the declared map, whatever of it there is. -/
theorem parseVcrdAttributesWith_eq {reserve : Nat → Outcome DpapiError Unit} (hvcrd : IsSlice vcrd)
    (hname : nameEnd vcrd ≤ vcrd.length) :
    parseVcrdAttributesWith reserve env vcrd = (do
      Outcome.failIf (mapsSize vcrd % 12 ≠ 0) (tooShort vcrd.length)
      reserve (16 * (mapsSize vcrd / 12))
      reserve (56 * (mapsSize vcrd / 12))
      readAttributes env vcrd (mapEntries vcrd (mapsSize vcrd / 12) (mapsStart vcrd))) := by
  have hmax : vcrd.length < 2 ^ 63 := hvcrd
  have hlt : mapsSize vcrd < 2 ^ 32 := UInt32.toNat_lt _
  have hstart : mapsStart vcrd = nameEnd vcrd + 4 := rfl
  have hmin : 40 ≤ nameEnd vcrd := Nat.le_add_right _ _
  rw [parseVcrdAttributesWith]
  refine Outcome.bind_of_ok ((advance_eq_ok_iff hvcrd).mpr ⟨by omega, rfl⟩) ?_
  refine Outcome.bind_of_ok (readU32_eq (by decide)) ?_
  refine Outcome.bind_of_ok (a := nameEnd vcrd) ((advance_eq_ok_iff hvcrd).mpr ⟨hname, rfl⟩) ?_
  refine Outcome.bind_of_ok (readU32_eq (by omega)) ?_
  refine Outcome.bind_of_ok (a := mapsStart vcrd + mapsSize vcrd) ?_ ?_
  · exact Outcome.okOr_eq_ok_iff.mpr
      (checkedAdd_of_lt (show mapsStart vcrd + mapsSize vcrd < 2 ^ 64 by omega))
  refine bind_congr fun _ => bind_congr fun _ => ?_
  refine Outcome.bind_of_ok (readMapEntries_eq (mapsSize vcrd / 12)
    (show mapsStart vcrd + 12 * (mapsSize vcrd / 12) < 2 ^ 64 by omega)) ?_
  exact Outcome.bind_of_ok (Outcome.failIf_of_not (by omega)) rfl

theorem parseVcrdAttributes_eq (hvcrd : IsSlice vcrd) (hname : nameEnd vcrd ≤ vcrd.length) :
    parseVcrdAttributes env vcrd = (do
      Outcome.failIf (mapsSize vcrd % 12 ≠ 0) (tooShort vcrd.length)
      readAttributes env vcrd (mapEntries vcrd (mapsSize vcrd / 12) (mapsStart vcrd))) := by
  have hlt : mapsSize vcrd < 2 ^ 32 := UInt32.toNat_lt _
  rw [parseVcrdAttributes, parseVcrdAttributesWith_eq hvcrd hname, withCapacity_of_lt (by omega),
    withCapacity_of_lt (by omega)]
  rfl

/-- A record that is cut off in its name is refused before anything is reserved. -/
theorem parseVcrdAttributesWith_congr {env' : Env} {reserve reserve' : Nat → Outcome DpapiError Unit}
    (hvcrd : IsSlice vcrd) (hname : ¬nameEnd vcrd ≤ vcrd.length) :
    parseVcrdAttributesWith reserve env vcrd = parseVcrdAttributesWith reserve' env' vcrd := by
  apply Outcome.bind_congr_of_ok rfl
  intro pos hpos
  obtain ⟨-, rfl⟩ := (advance_eq_ok_iff hvcrd).mp hpos
  rw [readU32_eq (by decide), readU32_eq (by decide), Outcome.ok_bind, Outcome.ok_bind]
  apply Outcome.bind_congr_of_ok rfl
  intro pos hpos
  exact absurd ((advance_eq_ok_iff hvcrd).mp hpos).1 hname

theorem nameEnd_le_of_parse (hvcrd : IsSlice vcrd) {attrs : List VcrdAttribute}
    (h : parseVcrdAttributes env vcrd = .ok attrs) : nameEnd vcrd ≤ vcrd.length := by
  obtain ⟨pos, hpos, h⟩ := Outcome.bind_eq_ok_iff.mp h
  obtain ⟨-, rfl⟩ := (advance_eq_ok_iff hvcrd).mp hpos
  rw [readU32_eq (by decide), Outcome.ok_bind] at h
  obtain ⟨pos, hpos, -⟩ := Outcome.bind_eq_ok_iff.mp h
  exact ((advance_eq_ok_iff hvcrd).mp hpos).1

theorem parseVcrdAttributes_eq_ok_iff (hvcrd : IsSlice vcrd) {attrs : List VcrdAttribute} :
    parseVcrdAttributes env vcrd = .ok attrs ↔
      Accepts vcrd ∧ attrs = (declaredRanges vcrd).filterMap (·.toAttribute vcrd) := by
  by_cases hname : nameEnd vcrd ≤ vcrd.length
  · rw [parseVcrdAttributes_eq hvcrd hname, Outcome.bind_eq_ok_iff]
    simp only [Outcome.failIf_eq_ok_iff, not_not, readAttributes_eq_ok_iff, exists_const, Accepts,
      declaredRanges, hname, true_and, and_assoc]
  · exact iff_of_false (fun h => hname (nameEnd_le_of_parse hvcrd h)) fun h => hname h.1.1

theorem AttributeRange.length_data_le {r : AttributeRange} {attr : VcrdAttribute}
    (h : r.toAttribute vcrd = some attr) : attr.data.length ≤ vcrd.length := by
  obtain ⟨payload, hpayload, rfl⟩ := Option.map_eq_some_iff.mp h
  have hle : payload.2.length ≤ (r.bytes vcrd).length := length_data_le_of_payload? hpayload
  rw [bytes, List.length_take, List.length_drop] at hle
  change payload.2.length ≤ vcrd.length
  omega

theorem parseVcrdAttributes_length_le (hvcrd : IsSlice vcrd) {attrs : List VcrdAttribute}
    (h : parseVcrdAttributes env vcrd = .ok attrs) :
    ∀ attr ∈ attrs, attr.data.length ≤ vcrd.length := by
  obtain ⟨-, rfl⟩ := (parseVcrdAttributes_eq_ok_iff hvcrd).mp h
  intro attr hmem
  obtain ⟨r, -, hr⟩ := List.mem_filterMap.mp hmem
  exact r.length_data_le hr

theorem parseVcrdAttributes_ne_panic (hvcrd : IsSlice vcrd) :
    parseVcrdAttributes env vcrd ≠ .panic := by
  by_cases hname : nameEnd vcrd ≤ vcrd.length
  · rw [parseVcrdAttributes_eq hvcrd hname]
    exact Outcome.bind_ne_panic Outcome.failIf_ne_panic fun _ _ => readAttributes_ne_panic
  · refine Outcome.bind_ne_panic advance_ne_panic fun pos hpos => ?_
    obtain ⟨-, rfl⟩ := (advance_eq_ok_iff hvcrd).mp hpos
    rw [readU32_eq (by decide), Outcome.ok_bind]
    refine Outcome.bind_ne_panic advance_ne_panic fun pos hpos => ?_
    exact absurd ((advance_eq_ok_iff hvcrd).mp hpos).1 hname

/-! ### The map it is read from -/

/-- A map entry, as it stands in a record. -/
structure StoredEntry where
  id : UInt32
  offset : UInt32
  unknown1 : UInt32

namespace StoredEntry

variable (e : StoredEntry)

def bytes : Bytes := le32 e.id ++ (le32 e.offset ++ le32 e.unknown1)

def entry : UInt32 × Nat := (e.id, e.offset.toNat)

end StoredEntry

/-- The map and the size before it lie in the record, and so does all that comes before them. -/
def MapInside (vcrd : Bytes) : Prop := mapsStart vcrd + mapsSize vcrd ≤ vcrd.length

/-- Each attribute comes from an entry of the record's map, with the id and the offset stored there. -/
def ComesFromMap (vcrd : Bytes) (attrs : List VcrdAttribute) : Prop :=
  ∃ stored : List StoredEntry, stored.length = mapsSize vcrd / 12 ∧
    BytesAt vcrd (mapsStart vcrd) (stored.flatMap StoredEntry.bytes) ∧
    attrs = (ranges vcrd.length (stored.map StoredEntry.entry)).filterMap (·.toAttribute vcrd)

/-- A record is read from its map, or refused. -/
def ReadsInside (env : Env) (vcrd : Bytes) : Prop :=
  (∀ attrs, parseVcrdAttributes env vcrd = .ok attrs →
    MapInside vcrd ∧ mapsSize vcrd / 12 ≤ vcrd.length / 12 ∧ ComesFromMap vcrd attrs) ∧
  (¬MapInside vcrd → ∃ e, parseVcrdAttributes env vcrd = .err e)

/-- The map's size is cut off, or the map is, and what is left of it passes the checks. -/
def MapCutOff (vcrd : Bytes) : Prop :=
  nameEnd vcrd ≤ vcrd.length ∧
    (vcrd.length < mapsStart vcrd ∨
      vcrd.length < mapsStart vcrd + mapsSize vcrd ∧ mapsSize vcrd % 12 = 0 ∧
        ∀ r ∈ declaredRanges vcrd, r.Fits vcrd.length)

theorem exists_stored (count : Nat) (h : pos + 12 * count ≤ vcrd.length) :
    ∃ stored : List StoredEntry, stored.length = count ∧
      BytesAt vcrd pos (stored.flatMap StoredEntry.bytes) ∧
      mapEntries vcrd count pos = stored.map StoredEntry.entry := by
  induction count generalizing pos with
  | zero => exact ⟨[], rfl, bytesAt_iff.mpr ⟨by simpa using h, _, rfl⟩, rfl⟩
  | succ count ih =>
      obtain ⟨id, hid⟩ := exists_le32_at vcrd pos (by omega)
      obtain ⟨offset, hoffset⟩ := exists_le32_at vcrd (pos + 4) (by omega)
      obtain ⟨unknown1, hunknown1⟩ := exists_le32_at vcrd (pos + 4 + 4) (by omega)
      obtain ⟨stored, hlen, hstored, hentries⟩ := ih (show pos + 12 + 12 * count ≤ vcrd.length by omega)
      refine ⟨⟨id, offset, unknown1⟩ :: stored, by rw [List.length_cons, hlen], ?_, ?_⟩
      · simp only [List.flatMap_cons, StoredEntry.bytes, bytesAt_append, List.length_append, length_le32]
        exact ⟨⟨hid, hoffset, hunknown1⟩, hstored⟩
      · rw [mapEntries, hentries, u32At_of_bytesAt hid, u32At_of_bytesAt hoffset, List.map_cons]
        rfl

theorem comesFromMap_of_parse (hvcrd : IsSlice vcrd) (hinside : MapInside vcrd)
    {attrs : List VcrdAttribute} (h : parseVcrdAttributes env vcrd = .ok attrs) :
    ComesFromMap vcrd attrs := by
  rw [MapInside] at hinside
  obtain ⟨-, rfl⟩ := (parseVcrdAttributes_eq_ok_iff hvcrd).mp h
  obtain ⟨stored, hlen, hstored, hentries⟩ := exists_stored (mapsSize vcrd / 12)
    (show mapsStart vcrd + 12 * (mapsSize vcrd / 12) ≤ vcrd.length by omega)
  exact ⟨stored, hlen, hstored, by rw [declaredRanges, hentries]⟩

theorem mapCutOff_iff : MapCutOff vcrd ↔ Accepts vcrd ∧ ¬MapInside vcrd := by
  rw [MapCutOff, Accepts, MapInside]
  by_cases hsize : vcrd.length < mapsStart vcrd
  · -- a size that is cut off reads as zero, and declares no entries
    have hzero : mapsSize vcrd = 0 := by
      have hnone : getRange vcrd (nameEnd vcrd) (nameEnd vcrd + 4) = none :=
        getRange_eq_none_iff.mpr (Or.inr hsize)
      rw [mapsSize, u32At, hnone]
      rfl
    simp [hsize, hzero, declaredRanges, mapEntries, ranges]
  · simp only [hsize, false_or, not_le]
    tauto

/-- **When a record is read from its map**: unless its map is cut off and what is left passes for one. -/
theorem readsInside_iff (env : Env) (vcrd : Slice) :
    ReadsInside env vcrd.val ↔ ¬MapCutOff vcrd.val := by
  have hiff := @parseVcrdAttributes_eq_ok_iff env vcrd.val vcrd.property
  rw [mapCutOff_iff, not_and, not_not]
  constructor
  · rintro ⟨hinside, -⟩ haccepts
    exact (hinside _ (hiff.mpr ⟨haccepts, rfl⟩)).1
  · intro h
    refine ⟨fun attrs hattrs => ?_, fun hnot => ?_⟩
    · have hinside := h (hiff.mp hattrs).1
      refine ⟨hinside, ?_, comesFromMap_of_parse vcrd.property hinside hattrs⟩
      rw [MapInside] at hinside
      omega
    · exact Outcome.exists_err_of_ne (fun attrs hattrs => hnot (h (hiff.mp hattrs).1))
        (parseVcrdAttributes_ne_panic vcrd.property)

/-- A header that declares one map entry, and no map. Its own bytes pass for the attribute. -/
def cutOffRecord : Slice :=
  ⟨List.replicate 22 0 ++ [6, 0, 0, 0, 1] ++ List.replicate 13 0 ++ le32 12, by simp [IsSlice]⟩

theorem not_readsInside_cutOffRecord :
    parseVcrdAttributes (KnownAnswers.env {}) cutOffRecord.val
        = .ok [{ id := 0, iv := [], data := [0] }] ∧
      ¬ReadsInside (KnownAnswers.env {}) cutOffRecord.val := by
  have hparse : parseVcrdAttributes (KnownAnswers.env {}) cutOffRecord.val
      = .ok [{ id := 0, iv := [], data := [0] }] := by
    decide +kernel
  refine ⟨hparse, fun h => ?_⟩
  have hinside : ¬MapInside cutOffRecord.val := by
    unfold MapInside
    decide +kernel
  exact hinside (h.1 _ hparse).1

/-! ### What is lost -/

/-- The attributes that are not too small to hold a payload. -/
def longRanges (vcrd : Bytes) : List AttributeRange :=
  (declaredRanges vcrd).filter fun r => 28 < r.stop - r.start

/-- An accepted record yields one attribute for every long enough part of it, in the map's order, and all
their lengths fit. -/
def LosesNothing (env : Env) (vcrd : Bytes) : Prop :=
  ∀ attrs, parseVcrdAttributes env vcrd = .ok attrs →
    List.Forall₂ (fun r attr => attr.id = r.id ∧
      parseAttributePayload env (r.bytes vcrd) = .ok (attr.iv, attr.data)) (longRanges vcrd) attrs ∧
    ∀ r ∈ longRanges vcrd, LengthsFit (r.bytes vcrd)

theorem toAttribute_eq_some_iff {r : AttributeRange} {attr : VcrdAttribute} :
    r.toAttribute vcrd = some attr ↔
      attr.id = r.id ∧ parseAttributePayload env (r.bytes vcrd) = .ok (attr.iv, attr.data) := by
  rw [AttributeRange.toAttribute, parseAttributePayload_eq, Outcome.okOr_eq_ok_iff,
    Option.map_eq_some_iff]
  constructor
  · rintro ⟨payload, hpayload, rfl⟩
    exact ⟨rfl, hpayload⟩
  · rintro ⟨hid, hpayload⟩
    exact ⟨_, hpayload, by rw [← hid]⟩

theorem toAttribute_of_short {r : AttributeRange} (hfits : r.Fits vcrd.length)
    (h : ¬28 < r.stop - r.start) : r.toAttribute vcrd = none := by
  have hshort : (r.bytes vcrd).length ≤ 28 := by
    rw [r.length_bytes hfits]
    omega
  rw [AttributeRange.toAttribute, payload?, if_pos hshort, Option.map_none]

/-- A loop that keeps what it can read keeps everything exactly when it can read it all. -/
theorem forall₂_filterMap_iff {α β : Type} {f : α → Option β} (xs : List α) :
    List.Forall₂ (fun x y => f x = some y) xs (xs.filterMap f) ↔ ∀ x ∈ xs, ∃ y, f x = some y := by
  induction xs with
  | nil => simp
  | cons x xs ih =>
      cases hx : f x with
      | none =>
          rw [List.filterMap_cons_none hx, List.forall_mem_cons]
          refine iff_of_false (fun h => ?_) fun h => ?_
          · have hlen := h.length_eq
            have hle := List.length_filterMap_le f xs
            rw [List.length_cons] at hlen
            omega
          · obtain ⟨y, hy⟩ := h.1
            rw [hx] at hy
            cases hy
      | some y =>
          rw [List.filterMap_cons_some hx, List.forall₂_cons, ih, List.forall_mem_cons]
          simp [hx]

theorem filterMap_longRanges (h : ∀ r ∈ declaredRanges vcrd, r.Fits vcrd.length) :
    (declaredRanges vcrd).filterMap (·.toAttribute vcrd)
      = (longRanges vcrd).filterMap (·.toAttribute vcrd) := by
  rw [longRanges, List.filterMap_filter]
  apply List.filterMap_congr
  intro r hr
  by_cases hlong : 28 < r.stop - r.start
  · simp [hlong]
  · simp [hlong, toAttribute_of_short (h r hr) hlong]

theorem exists_toAttribute_iff {r : AttributeRange} (hfits : r.Fits vcrd.length)
    (hlong : 28 < r.stop - r.start) :
    (∃ attr, r.toAttribute vcrd = some attr) ↔ PayloadFits (r.bytes vcrd) := by
  have hlen : 28 < (r.bytes vcrd).length := by
    rw [r.length_bytes hfits]
    exact hlong
  rw [← and_iff_right (b := PayloadFits (r.bytes vcrd)) hlen, ← exists_payload?_iff]
  simp only [← Option.isSome_iff_exists, AttributeRange.toAttribute, Option.isSome_map]

/-- **When nothing is lost**: the record is refused for its map, or every part of it that is not too small
holds what it declares, with four bytes to spare where there is no IV. -/
theorem losesNothing_iff (env : Env) (vcrd : Slice) :
    LosesNothing env vcrd.val ↔
      (Accepts vcrd.val → ∀ r ∈ longRanges vcrd.val, PayloadFits (r.bytes vcrd.val)) := by
  have hiff := @parseVcrdAttributes_eq_ok_iff env vcrd.val vcrd.property
  have hmem : ∀ r ∈ longRanges vcrd.val, r ∈ declaredRanges vcrd.val ∧ 28 < r.stop - r.start :=
    fun r hr => by simpa [longRanges] using hr
  simp only [LosesNothing, ← toAttribute_eq_some_iff]
  constructor
  · intro h haccepts r hr
    have hall := (h _ (hiff.mpr ⟨haccepts, rfl⟩)).1
    rw [filterMap_longRanges haccepts.2.2, forall₂_filterMap_iff] at hall
    exact (exists_toAttribute_iff (haccepts.2.2 r (hmem r hr).1) (hmem r hr).2).mp (hall r hr)
  · intro h attrs hattrs
    obtain ⟨haccepts, rfl⟩ := hiff.mp hattrs
    have hsome : ∀ r ∈ longRanges vcrd.val, ∃ attr, r.toAttribute vcrd.val = some attr :=
      fun r hr => (exists_toAttribute_iff (haccepts.2.2 r (hmem r hr).1) (hmem r hr).2).mpr
        (h haccepts r hr)
    refine ⟨?_, fun r hr => ?_⟩
    · rw [filterMap_longRanges haccepts.2.2]
      exact (forall₂_filterMap_iff _).mpr hsome
    · obtain ⟨attr, hattr⟩ := hsome r hr
      obtain ⟨payload, hpayload, -⟩ := Option.map_eq_some_iff.mp hattr
      exact lengthsFit_of_payload hpayload

/-- One attribute with an IV, and the last byte of its data cut off. -/
def cutAttribute : Slice :=
  ⟨List.replicate 36 0 ++ (le32 0 ++ (le32 12 ++ (le32 1 ++ (le32 56 ++ (le32 0 ++ (List.replicate 22 0
    ++ (le32 37 ++ ([1] ++ (lp (List.replicate 16 0x11) ++ List.replicate 15 0xaa))))))))),
    by simp [IsSlice, lp]⟩

theorem not_losesNothing_cutAttribute :
    parseVcrdAttributes (KnownAnswers.env {}) cutAttribute.val = .ok [] ∧
      (longRanges cutAttribute.val).length = 1 ∧ ¬LosesNothing (KnownAnswers.env {}) cutAttribute.val := by
  have hparse : parseVcrdAttributes (KnownAnswers.env {}) cutAttribute.val = .ok [] := by
    decide +kernel
  have hlong : (longRanges cutAttribute.val).length = 1 := by decide +kernel
  refine ⟨hparse, hlong, fun h => ?_⟩
  have hlen := (h _ hparse).1.length_eq
  rw [hlong] at hlen
  cases hlen

end DpapiForensic
