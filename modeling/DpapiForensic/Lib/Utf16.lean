import DpapiForensic.Lib.Bytes
import Mathlib.Data.List.DropRight

/-!
# UTF-16

`str::encode_utf16` and `String::from_utf16_lossy`, on characters and 16-bit units. A Rust `char` is
a Unicode scalar value, as a Lean `Char` is, so encoding never produces an unpaired surrogate and the
lossy decoder gives every encoded text back. The decoder replaces an unpaired surrogate by U+FFFD
and goes on with the unit after it.
-/

namespace DpapiForensic

/-- U+FFFD, what the lossy decoders put for what they cannot decode. -/
def replacementChar : Char := Char.ofNat 0xFFFD

def IsSurrogate (u : UInt16) : Prop := 0xD800 ≤ u.toNat ∧ u.toNat < 0xE000

def IsTrailing (u : UInt16) : Prop := 0xDC00 ≤ u.toNat ∧ u.toNat < 0xE000

instance (u : UInt16) : Decidable (IsSurrogate u) := inferInstanceAs (Decidable (_ ∧ _))

instance (u : UInt16) : Decidable (IsTrailing u) := inferInstanceAs (Decidable (_ ∧ _))

/-- The units of one character: itself, or a surrogate pair outside the basic plane. -/
def encodeCharUtf16 (c : Char) : List UInt16 :=
  if c.toNat < 0x10000 then [UInt16.ofNat c.toNat]
  else
    [UInt16.ofNat (0xD800 + (c.toNat - 0x10000) / 0x400),
      UInt16.ofNat (0xDC00 + (c.toNat - 0x10000) % 0x400)]

def encodeUtf16 (cs : List Char) : List UInt16 := cs.flatMap encodeCharUtf16

def pairChar (hi lo : UInt16) : Char :=
  Char.ofNat (0x10000 + (hi.toNat - 0xD800) * 0x400 + (lo.toNat - 0xDC00))

def fromUtf16Lossy : List UInt16 → List Char
  | [] => []
  | u :: rest =>
      if ¬IsSurrogate u then Char.ofNat u.toNat :: fromUtf16Lossy rest
      else if IsTrailing u then replacementChar :: fromUtf16Lossy rest
      else match rest with
        | [] => [replacementChar]
        | u2 :: rest' =>
            if IsTrailing u2 then pairChar u u2 :: fromUtf16Lossy rest'
            else replacementChar :: fromUtf16Lossy (u2 :: rest')

theorem fromUtf16Lossy_of_not_surrogate {u : UInt16} (h : ¬IsSurrogate u) (rest : List UInt16) :
    fromUtf16Lossy (u :: rest) = Char.ofNat u.toNat :: fromUtf16Lossy rest := by
  rw [fromUtf16Lossy.eq_def]
  simp only [if_pos h]

theorem fromUtf16Lossy_of_pair {u u2 : UInt16} (h : IsSurrogate u) (hlead : ¬IsTrailing u)
    (htrail : IsTrailing u2) (rest : List UInt16) :
    fromUtf16Lossy (u :: u2 :: rest) = pairChar u u2 :: fromUtf16Lossy rest := by
  rw [fromUtf16Lossy.eq_def]
  simp only [if_neg (not_not.mpr h), if_neg hlead, if_pos htrail]

/-- A scalar value is below the surrogates, or above them and in Unicode's range. -/
theorem Char.toNat_range (c : Char) :
    c.toNat < 0xD800 ∨ 0xE000 ≤ c.toNat ∧ c.toNat < 0x110000 := by
  rcases c.valid with h | ⟨h, h'⟩
  · exact Or.inl h
  · refine Or.inr ⟨?_, h'⟩
    change 57343 < c.toNat at h
    omega

theorem fromUtf16Lossy_encodeChar_append (c : Char) (rest : List UInt16) :
    fromUtf16Lossy (encodeCharUtf16 c ++ rest) = c :: fromUtf16Lossy rest := by
  have hrange := Char.toNat_range c
  unfold encodeCharUtf16
  split
  · rename_i hbmp
    have hunit : (UInt16.ofNat c.toNat).toNat = c.toNat := by
      rw [UInt16.toNat_ofNat', Nat.mod_eq_of_lt hbmp]
    have hns : ¬IsSurrogate (UInt16.ofNat c.toNat) := by
      unfold IsSurrogate
      rw [hunit]
      omega
    rw [List.singleton_append, fromUtf16Lossy_of_not_surrogate hns, hunit, Char.ofNat_toNat]
  · rename_i hastral
    set v := c.toNat - 0x10000 with hv
    have hhi : (UInt16.ofNat (0xD800 + v / 0x400)).toNat = 0xD800 + v / 0x400 := by
      rw [UInt16.toNat_ofNat', Nat.mod_eq_of_lt (by omega)]
    have hlo : (UInt16.ofNat (0xDC00 + v % 0x400)).toNat = 0xDC00 + v % 0x400 := by
      rw [UInt16.toNat_ofNat', Nat.mod_eq_of_lt (by omega)]
    have hsur : IsSurrogate (UInt16.ofNat (0xD800 + v / 0x400)) := by
      unfold IsSurrogate
      rw [hhi]
      omega
    have hlead : ¬IsTrailing (UInt16.ofNat (0xD800 + v / 0x400)) := by
      unfold IsTrailing
      rw [hhi]
      omega
    have htrail : IsTrailing (UInt16.ofNat (0xDC00 + v % 0x400)) := by
      unfold IsTrailing
      rw [hlo]
      omega
    have hchar : pairChar (UInt16.ofNat (0xD800 + v / 0x400)) (UInt16.ofNat (0xDC00 + v % 0x400))
        = c := by
      rw [pairChar, hhi, hlo,
        show 0x10000 + (0xD800 + v / 0x400 - 0xD800) * 0x400 + (0xDC00 + v % 0x400 - 0xDC00)
          = c.toNat by omega, Char.ofNat_toNat]
    rw [List.cons_append, List.cons_append, List.nil_append,
      fromUtf16Lossy_of_pair hsur hlead htrail, hchar]

theorem fromUtf16Lossy_encodeUtf16 (cs : List Char) : fromUtf16Lossy (encodeUtf16 cs) = cs := by
  induction cs with
  | nil => rfl
  | cons c cs ih =>
      rw [encodeUtf16, List.flatMap_cons, fromUtf16Lossy_encodeChar_append]
      exact congrArg _ ih

/-- Every character that comes out uses up a unit. -/
theorem length_fromUtf16Lossy_le (us : List UInt16) : (fromUtf16Lossy us).length ≤ us.length := by
  induction us using fromUtf16Lossy.induct with
  | case1 => rfl
  | case2 u rest h ih =>
      rw [fromUtf16Lossy_of_not_surrogate h]
      exact Nat.succ_le_succ ih
  | case3 u rest h htrail ih =>
      rw [fromUtf16Lossy.eq_def]
      simp only [if_neg h, if_pos htrail, List.length_cons]
      omega
  | case4 u h htrail =>
      rw [fromUtf16Lossy.eq_def]
      simp [h, htrail]
  | case5 u h hlead u2 rest htrail ih =>
      rw [fromUtf16Lossy_of_pair (not_not.mp h) hlead htrail]
      simp only [List.length_cons]
      omega
  | case6 u h hlead u2 rest htrail ih =>
      rw [fromUtf16Lossy.eq_def]
      simp only [if_neg h, if_neg hlead, if_neg htrail, List.length_cons] at ih ⊢
      omega

/-! ### Units and bytes -/

/-- `u16::to_le_bytes`. -/
def le16 (u : UInt16) : Bytes := leBytes 2 u.toNat

/-- `bytes.chunks_exact(2)` read as little-endian units; an odd last byte is left out. -/
def unitsLe : Bytes → List UInt16
  | lo :: hi :: rest => UInt16.ofNat (leValue [lo, hi]) :: unitsLe rest
  | _ => []

/-- `s.encode_utf16().flat_map(u16::to_le_bytes)`. -/
def utf16leBytes (s : String) : Bytes := (encodeUtf16 s.toList).flatMap le16

theorem unitsLe_le16_append (u : UInt16) (rest : Bytes) :
    unitsLe (le16 u ++ rest) = u :: unitsLe rest := by
  have hlt : u.toNat < 256 ^ 2 := u.toNat_lt
  have hvalue := leValue_leBytes 2 u.toNat
  rw [Nat.mod_eq_of_lt hlt] at hvalue
  simp only [le16, leBytes, List.cons_append, List.nil_append, unitsLe] at hvalue ⊢
  rw [hvalue, UInt16.ofNat_toNat]

theorem unitsLe_flatMap_le16 (us : List UInt16) : unitsLe (us.flatMap le16) = us := by
  induction us with
  | nil => rfl
  | cons u us ih => rw [List.flatMap_cons, unitsLe_le16_append, ih]

/-- The text that little-endian bytes encode, lossily decoded, is the encoded text. -/
theorem fromUtf16Lossy_unitsLe_utf16leBytes (s : String) :
    fromUtf16Lossy (unitsLe (utf16leBytes s)) = s.toList := by
  rw [utf16leBytes, unitsLe_flatMap_le16, fromUtf16Lossy_encodeUtf16]

theorem length_utf16leBytes (s : String) :
    (utf16leBytes s).length = 2 * (encodeUtf16 s.toList).length := by
  rw [utf16leBytes]
  induction encodeUtf16 s.toList with
  | nil => rfl
  | cons u us ih =>
      rw [List.flatMap_cons, List.length_append, ih, le16, length_leBytes, List.length_cons]
      omega

theorem two_mul_length_unitsLe_le (bytes : Bytes) : 2 * (unitsLe bytes).length ≤ bytes.length := by
  induction bytes using unitsLe.induct with
  | case1 lo hi rest ih =>
      simp only [unitsLe, List.length_cons]
      omega
  | case2 bytes h =>
      rw [unitsLe.eq_def]
      split
      · exact absurd rfl (h _ _ _)
      · exact Nat.zero_le _

/-! ### What is UTF-16 -/

/-- The little-endian UTF-16 of some text. -/
def IsUtf16le (bytes : Bytes) : Prop := ∃ s, utf16leBytes s = bytes

theorem isUtf16le_iff {bytes : Bytes} :
    IsUtf16le bytes ↔ utf16leBytes (String.ofList (fromUtf16Lossy (unitsLe bytes))) = bytes := by
  constructor
  · rintro ⟨s, rfl⟩
    rw [fromUtf16Lossy_unitsLe_utf16leBytes, String.ofList_toList]
  · intro h
    exact ⟨_, h⟩

instance (bytes : Bytes) : Decidable (IsUtf16le bytes) := decidable_of_iff' _ isUtf16le_iff

/-! ### Trailing NULs -/

/-- `s.trim_end_matches('\0')`. -/
def trimEndNul (s : String) : String :=
  String.ofList (s.toList.rdropWhile fun c => c = Char.ofNat 0)

/-- A text that does not end in U+0000. -/
def NoTrailingNul (s : String) : Prop := s.toList.getLast? ≠ some (Char.ofNat 0)

theorem trimEndNul_of_noTrailingNul {s : String} (h : NoTrailingNul s) : trimEndNul s = s := by
  have hkeep : s.toList.rdropWhile (fun c => decide (c = Char.ofNat 0)) = s.toList := by
    rw [List.rdropWhile_eq_self_iff]
    intro hne hlast
    apply h
    rw [List.getLast?_eq_some_getLast hne]
    exact congrArg some (of_decide_eq_true hlast)
  rw [trimEndNul, hkeep, String.ofList_toList]

/-- A string of whole units without the NUL units at its end. -/
def trimNulUnits (bytes : Bytes) : Bytes :=
  if bytes.length % 2 = 0 then ((unitsLe bytes).rdropWhile (· = 0)).flatMap le16 else bytes

theorem encodeCharUtf16_concat {c : Char} (hc : c ≠ Char.ofNat 0) :
    ∃ us u, encodeCharUtf16 c = us ++ [u] ∧ u ≠ 0 := by
  have hrange := Char.toNat_range c
  unfold encodeCharUtf16
  split
  · rename_i hbmp
    refine ⟨[], _, rfl, fun hzero => hc ?_⟩
    have hnat := congrArg UInt16.toNat hzero
    rw [UInt16.toNat_ofNat', Nat.mod_eq_of_lt hbmp] at hnat
    rw [← Char.ofNat_toNat c, hnat]
    rfl
  · refine ⟨[_], _, rfl, fun hzero => ?_⟩
    have hnat := congrArg UInt16.toNat hzero
    rw [UInt16.toNat_ofNat', Nat.mod_eq_of_lt (by omega)] at hnat
    simp at hnat

theorem rdropWhile_encodeUtf16 (cs : List Char) :
    (encodeUtf16 cs).rdropWhile (· = 0)
      = encodeUtf16 (cs.rdropWhile fun c => c = Char.ofNat 0) := by
  induction cs using List.reverseRecOn with
  | nil => rfl
  | append_singleton cs c ih =>
      have hsplit : encodeUtf16 (cs ++ [c]) = encodeUtf16 cs ++ encodeCharUtf16 c := by
        simp [encodeUtf16]
      rw [hsplit, List.rdropWhile_concat]
      by_cases hc : c = Char.ofNat 0
      · have hnul : encodeCharUtf16 c = [0] := by
          rw [hc]
          rfl
        rw [hnul, List.rdropWhile_concat, if_pos (by decide), if_pos (by simpa using hc), ih]
      · obtain ⟨us, u, hus, hu⟩ := encodeCharUtf16_concat hc
        rw [hus, ← List.append_assoc, List.rdropWhile_concat, if_neg (by simpa using hu),
          if_neg (by simpa using hc), List.append_assoc, ← hus, hsplit]

theorem trimNulUnits_utf16leBytes (s : String) :
    trimNulUnits (utf16leBytes s) = utf16leBytes (trimEndNul s) := by
  rw [trimNulUnits, if_pos (by rw [length_utf16leBytes]; omega), utf16leBytes,
    unitsLe_flatMap_le16, rdropWhile_encodeUtf16, utf16leBytes, trimEndNul, String.toList_ofList]

end DpapiForensic
