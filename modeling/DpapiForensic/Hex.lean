import DpapiForensic.Blob

/-!
# Hexadecimal

The repository decodes hexadecimal in three places: the `keyMaterial` of a Wi-Fi profile in the core
crate, the same text again in the command-line crate, and the master key given on the command line.
The three differ in their errors and, for the last, in an optional `0x`.
-/

namespace DpapiForensic

/-- The nibble of an ASCII hexadecimal digit of either case. -/
def nibble? (b : UInt8) : Option UInt8 :=
  if 0x30 ≤ b ∧ b ≤ 0x39 then some (b - 0x30)
  else if 0x61 ≤ b ∧ b ≤ 0x66 then some (b - 0x61 + 10)
  else if 0x41 ≤ b ∧ b ≤ 0x46 then some (b - 0x41 + 10)
  else none

/-- `format!("non-hex byte {other:#04x}")`. -/
def nonHexByte (b : UInt8) : String := "non-hex byte 0x" ++ hexByte b

section Decoder

variable {ε : Type} (bad : String → ε)

/-- `hex_nibble` and `nibble`. -/
def hexNibble (b : UInt8) : Outcome ε UInt8 := Outcome.okOr (nibble? b) (bad (nonHexByte b))

/-- The loop over pairs of digits; an odd last digit is not reached. -/
def hexPairs : Bytes → Outcome ε Bytes
  | d :: d' :: rest => do
      let hi ← hexNibble bad d
      let lo ← hexNibble bad d'
      let out ← hexPairs rest
      pure (((hi <<< 4) ||| lo) :: out)
  | _ => pure []

/-- A decoder that refuses an odd length with the given text, and then any byte that is no digit. -/
def hexDecodeWith (odd : Nat → String) (text : Bytes) : Outcome ε Bytes := do
  Outcome.failIf (text.length % 2 ≠ 0) (bad (odd text.length))
  hexPairs bad text

end Decoder

/-! ### The loop as it indexes -/

section Indexed

variable {ε : Type} (bad : String → ε) (profile : Profile)

/-- `hex_nibble` and `nibble`, with the sums on bytes. -/
def hexNibbleSum (b : UInt8) : Outcome ε UInt8 :=
  if 0x30 ≤ b ∧ b ≤ 0x39 then pure (b - 0x30)
  else if 0x61 ≤ b ∧ b ≤ 0x66 then do
    let v ← wordAdd 8 profile (b - 0x61).toNat 10
    pure (UInt8.ofNat v)
  else if 0x41 ≤ b ∧ b ≤ 0x46 then do
    let v ← wordAdd 8 profile (b - 0x41).toNat 10
    pure (UInt8.ofNat v)
  else .err (bad (nonHexByte b))

/-- `while i < bytes.len()`, from a cursor and the bytes put out so far. The cursor moves on in every turn,
so fuel for every byte is more than enough. -/
def hexLoop (bytes : Bytes) : Nat → Nat → Bytes → Outcome ε Bytes
  | 0, _, out => pure out
  | fuel + 1, i, out =>
      if i < bytes.length then do
        let hi ← hexNibbleSum bad profile (← index bytes i)
        let next ← usizeAdd profile i 1
        let lo ← hexNibbleSum bad profile (← index bytes next)
        let i ← usizeAdd profile i 2
        hexLoop bytes fuel i (out ++ [(hi <<< 4) ||| lo])
      else pure out

/-- `hexDecodeWith`, digit by digit. -/
def hexDecodeIndexed (odd : Nat → String) (text : Bytes) : Outcome ε Bytes := do
  Outcome.failIf (text.length % 2 ≠ 0) (bad (odd text.length))
  hexLoop bad profile text text.length 0 []

end Indexed

end DpapiForensic
