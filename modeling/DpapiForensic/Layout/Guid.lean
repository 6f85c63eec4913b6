import DpapiForensic.Lib.Bytes
import Mathlib.Data.Nat.Digits.Defs

/-!
# The canonical text of a GUID

The mixed-endian form that `guid_to_string` promises: three numbers, stored lowest byte first, and eight
bytes stored as they stand. The text shows all five groups in lowercase hexadecimal, dashes between them.
-/

namespace DpapiForensic

namespace Guid

/-- The number that bytes stand for, lowest byte first. -/
def littleEndian (bytes : Bytes) : Nat := Nat.ofDigits 256 (bytes.map UInt8.toNat)

def bigEndian (bytes : Bytes) : Nat := littleEndian bytes.reverse

/-- The last `width` hexadecimal digits of a number. -/
def hexDigits : Nat → Nat → List Char
  | 0, _ => []
  | width + 1, n => hexDigits width (n / 16) ++ [Nat.digitChar (n % 16)]

/-- Some of the sixteen bytes. -/
def part (guid : Vector UInt8 16) (start length : Nat) : Bytes :=
  (guid.toList.drop start).take length

def groups (guid : Vector UInt8 16) : List (List Char) :=
  [hexDigits 8 (littleEndian (part guid 0 4)),
    hexDigits 4 (littleEndian (part guid 4 2)),
    hexDigits 4 (littleEndian (part guid 6 2)),
    hexDigits 4 (bigEndian (part guid 8 2)),
    hexDigits 12 (bigEndian (part guid 10 6))]

end Guid

def canonicalGuid (guid : Vector UInt8 16) : String :=
  String.intercalate "-" ((Guid.groups guid).map String.ofList)

/-- `guid_to_string_renders_mixed_endian`. -/
example : canonicalGuid (beVector 16 0x443322116655887799aabbccddeeff00) =
    "11223344-5566-7788-99aa-bbccddeeff00" := by
  decide +kernel

end DpapiForensic
