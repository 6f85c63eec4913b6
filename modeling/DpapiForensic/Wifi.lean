import DpapiForensic.Decrypt
import DpapiForensic.Hex

/-!
# Wi-Fi profiles (`core/src/wifi.rs`)

The pre-shared key of a profile is the cleartext of a DPAPI blob that the XML holds as hexadecimal.
Positions in a text are counted in characters: `str::find` and `str::get` count bytes, and every
position here is the start or end of a match.
-/

namespace DpapiForensic

/-- `char::is_whitespace`. -/
def isWhitespace (c : Char) : Bool :=
  let n := c.toNat
  (0x09 ≤ n && n ≤ 0x0d) || n == 0x20 || n == 0x85 || n == 0xa0 || n == 0x1680 ||
    (0x2000 ≤ n && n ≤ 0x200a) || n == 0x2028 || n == 0x2029 || n == 0x202f || n == 0x205f ||
    n == 0x3000

def trim (cs : List Char) : List Char := (cs.dropWhile isWhitespace).rdropWhile isWhitespace

/-- `str::find` of a pattern: where its first occurrence starts. -/
def findText (pattern : List Char) : List Char → Option Nat
  | [] => if pattern = [] then some 0 else none
  | c :: cs =>
      if pattern <+: c :: cs then some 0
      else (findText pattern cs).map (· + 1)

namespace Wifi

/-- `OPEN`. -/
def openTag : List Char := "<keyMaterial>".toList

/-- `CLOSE`. -/
def closeTag : List Char := "</keyMaterial>".toList

end Wifi

open Wifi

def extractKeyMaterial (profileXml : String) : Option String := do
  let start ← findText openTag profileXml.toList
  let rest := profileXml.toList.drop (start + openTag.length)
  let stop ← findText closeTag rest
  pure (String.ofList (trim (rest.take stop)))

/-- `wifi::hex_decode`. -/
def Wifi.hexDecode (s : String) : Outcome DpapiError Bytes :=
  hexDecodeWith .invalidHex (fun n => "odd length (" ++ toString n ++ " chars)") (strBytes s)

/-- `profile_xml.find(OPEN)? + OPEN.len()`, counted in bytes. -/
def Wifi.keyMaterialStart (env : Env) (profileXml : String) : Outcome DpapiError (Option Nat) :=
  match findText openTag profileXml.toList with
  | none => pure none
  | some start => do
      let before := (profileXml.toList.take start).flatMap String.utf8EncodeChar
      let start ← usizeAdd env.profile before.length openTag.length
      pure (some start)

/-- The cleartext up to its first NUL, `&cleartext[..nul]`. -/
def Wifi.trimAtNul (cleartext : Bytes) : Outcome DpapiError Bytes :=
  match cleartext.findIdx? (· = 0) with
  | none => pure cleartext
  | some nul => sliceRange cleartext 0 nul

def decryptWlanKeyMaterial (env : Env) (keyMaterialHex : String) (masterKey : Bytes) :
    Outcome DpapiError String := do
  let blobBytes ← Wifi.hexDecode keyMaterialHex
  let blob ← parseDpapiBlob env blobBytes
  let cleartext ← decryptDpapiBlob env blob masterKey none
  let trimmed := cleartext.takeWhile (· ≠ 0)
  let psk ← Outcome.okOr (fromUtf8 trimmed) .utf16Error
  pure (String.ofList psk)

end DpapiForensic
