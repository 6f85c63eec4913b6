import DpapiForensic.Layout.Guid
import DpapiForensic.Proof.Hex

/-!
# GUIDs as they are shown

The code puts the bytes of a GUID out in the order in which its text shows them. That is the canonical
text, number by number.
-/

namespace DpapiForensic

open Cli Guid

theorem hexDigits_littleEndian (bytes : Bytes) :
    hexDigits (2 * bytes.length) (littleEndian bytes) = (hexLower bytes.reverse).toList := by
  rw [toList_hexLower]
  induction bytes with
  | nil => rfl
  | cons b bytes ih =>
      have hb := b.toNat_lt
      have hvalue : littleEndian (b :: bytes) = b.toNat + 256 * littleEndian bytes := by
        simp [littleEndian, Nat.ofDigits_cons]
      rw [List.reverse_cons, List.flatMap_append, ← ih, List.length_cons, Nat.mul_succ, hexDigits,
        hexDigits, hvalue, List.append_assoc]
      -- a byte is the last two digits
      rw [show (b.toNat + 256 * littleEndian bytes) / 16 / 16 = littleEndian bytes by omega,
        show (b.toNat + 256 * littleEndian bytes) / 16 % 16 = b.toNat / 16 by omega,
        show (b.toNat + 256 * littleEndian bytes) % 16 = b.toNat % 16 by omega]
      rfl

theorem hexDigits_bigEndian (bytes : Bytes) :
    hexDigits (2 * bytes.length) (bigEndian bytes) = (hexLower bytes).toList := by
  have h := hexDigits_littleEndian bytes.reverse
  rwa [List.length_reverse, List.reverse_reverse] at h

theorem part_eq (guid : Vector UInt8 16) (start length : Nat) :
    part guid start length = (((List.finRange 16).drop start).take length).map guid.get := by
  have hlist : guid.toList = (List.finRange 16).map guid.get := by
    apply List.ext_getElem
    · simp
    · intro i hi hi'
      simp [Vector.get]
  rw [part, hlist, List.map_take, List.map_drop]

/-- **The text of a GUID is the canonical one.** -/
theorem guidToString_eq (guid : Vector UInt8 16) : guidToString guid = canonicalGuid guid := by
  have hlittle : ∀ start length positions,
      (((List.finRange 16).drop start).take length).reverse = positions →
      hexDigits (2 * positions.length) (littleEndian (part guid start length))
        = (guidGroup guid positions).toList := by
    rintro start length positions rfl
    rw [part_eq, guidGroup, List.map_reverse, ← hexDigits_littleEndian, List.length_map,
      List.length_reverse]
  have hbig : ∀ start length positions,
      ((List.finRange 16).drop start).take length = positions →
      hexDigits (2 * positions.length) (bigEndian (part guid start length))
        = (guidGroup guid positions).toList := by
    rintro start length positions rfl
    rw [part_eq, guidGroup, ← hexDigits_bigEndian, List.length_map]
  have h₁ := hlittle 0 4 [3, 2, 1, 0] (by decide)
  have h₂ := hlittle 4 2 [5, 4] (by decide)
  have h₃ := hlittle 6 2 [7, 6] (by decide)
  have h₄ := hbig 8 2 [8, 9] (by decide)
  have h₅ := hbig 10 6 [10, 11, 12, 13, 14, 15] (by decide)
  simp only [List.length_cons, List.length_nil] at h₁ h₂ h₃ h₄ h₅
  rw [canonicalGuid, groups, h₁, h₂, h₃, h₄, h₅]
  simp only [List.map_cons, List.map_nil, String.ofList_toList]
  rfl

theorem canonicalGuid_ne_unknown (guid : Vector UInt8 16) : canonicalGuid guid ≠ "unknown" := by
  intro h
  have hdash : '-' ∈ (guidToString guid).toList := by
    simp [guidToString]
  rw [guidToString_eq, h] at hdash
  exact absurd hdash (by decide)

end DpapiForensic
