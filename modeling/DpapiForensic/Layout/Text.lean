import DpapiForensic.Blob

/-!
# Texts in fields

The decoder trims trailing NULs and nothing else, so a text that does not end in one survives being
stored as UTF-16.
-/

namespace DpapiForensic

theorem le_length_encodeUtf16_of_ne_nil {cs : List Char} (h : cs ≠ []) :
    1 ≤ (encodeUtf16 cs).length := by
  cases cs with
  | nil => exact absurd rfl h
  | cons c cs =>
      rw [encodeUtf16, List.flatMap_cons, List.length_append, encodeCharUtf16]
      split <;> simp only [List.length_cons] <;> omega

theorem decodeUtf16le_utf16leBytes (s : String) :
    decodeUtf16le (utf16leBytes s) = trimEndNul s := by
  rw [decodeUtf16le, fromUtf16Lossy_unitsLe_utf16leBytes, String.ofList_toList]
  by_cases hs : s.toList = []
  · have hnil : s = "" := String.toList_inj.mp hs
    rw [hnil]
    decide
  · have hlen := le_length_encodeUtf16_of_ne_nil hs
    rw [if_neg (by rw [length_utf16leBytes]; omega)]

/-- The decoder tells any two texts apart that differ before their trailing NULs. -/
theorem trimNulUnits_inj {a b : Bytes} (ha : IsUtf16le a) (hb : IsUtf16le b)
    (h : decodeUtf16le a = decodeUtf16le b) : trimNulUnits a = trimNulUnits b := by
  obtain ⟨s, rfl⟩ := ha
  obtain ⟨s', rfl⟩ := hb
  rw [decodeUtf16le_utf16leBytes, decodeUtf16le_utf16leBytes] at h
  rw [trimNulUnits_utf16leBytes, trimNulUnits_utf16leBytes, h]

/-- A text that a field can hold and the decoder gives back: it does not end in U+0000. -/
structure FieldText where
  text : String
  noTrailingNul : NoTrailingNul text
  fits : (utf16leBytes text).length < 2 ^ 32

namespace FieldText

variable (t : FieldText)

def field : Field := ⟨utf16leBytes t.text, t.fits⟩

@[simp] theorem decode_field : decodeUtf16le t.field.val = t.text := by
  rw [field, decodeUtf16le_utf16leBytes, trimEndNul_of_noTrailingNul t.noTrailingNul]

end FieldText

end DpapiForensic
