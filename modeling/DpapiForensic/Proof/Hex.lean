import DpapiForensic.Cli

/-!
# The hexadecimal decoders agree

They differ in what they call an error, not in what they accept or return. What they accept is an even
number of digits of either case.
-/

namespace DpapiForensic

section Agree

variable {ε ε' : Type} {bad : String → ε} {bad' : String → ε'} {odd odd' : Nat → String}

theorem hexNibble_eq_ok_iff {d v : UInt8} : hexNibble bad d = .ok v ↔ nibble? d = some v := by
  rw [hexNibble, Outcome.okOr_eq_ok_iff]

theorem hexPairs_agree (text : Bytes) {bytes : Bytes} (h : hexPairs bad text = .ok bytes) :
    hexPairs bad' text = .ok bytes := by
  induction text using hexPairs.induct generalizing bytes with
  | case1 d d' rest ih =>
      rw [hexPairs] at h ⊢
      obtain ⟨hi, hhi, h⟩ := Outcome.bind_eq_ok_iff.mp h
      obtain ⟨lo, hlo, h⟩ := Outcome.bind_eq_ok_iff.mp h
      obtain ⟨out, hout, h⟩ := Outcome.bind_eq_ok_iff.mp h
      refine Outcome.bind_of_ok (hexNibble_eq_ok_iff.mpr (hexNibble_eq_ok_iff.mp hhi)) ?_
      refine Outcome.bind_of_ok (hexNibble_eq_ok_iff.mpr (hexNibble_eq_ok_iff.mp hlo)) ?_
      refine Outcome.bind_of_ok (ih hout) ?_
      rw [Outcome.pure_eq, Outcome.ok.injEq] at h
      rw [Outcome.pure_eq, h]
  | case2 text hshort =>
      rw [hexPairs.eq_2 _ _ hshort] at h ⊢
      rw [Outcome.pure_eq, Outcome.ok.injEq] at h
      rw [Outcome.pure_eq, h]

/-- Two decoders that name their errors differently accept the same texts, with the same bytes. -/
theorem hexDecodeWith_agree {text bytes : Bytes} (h : hexDecodeWith bad odd text = .ok bytes) :
    hexDecodeWith bad' odd' text = .ok bytes := by
  rw [hexDecodeWith] at h ⊢
  obtain ⟨_, heven, h⟩ := Outcome.bind_eq_ok_iff.mp h
  rw [Outcome.failIf_eq_ok_iff] at heven
  exact Outcome.bind_of_ok (Outcome.failIf_of_not heven) (hexPairs_agree text h)

end Agree

/-! ### What is refused -/

/-- An even number of bytes, all of them hexadecimal digits. -/
def Hexadecimal (text : Bytes) : Prop := text.length % 2 = 0 ∧ ∀ b ∈ text, nibble? b ≠ none

instance (text : Bytes) : Decidable (Hexadecimal text) :=
  inferInstanceAs (Decidable (_ ∧ _))

section Refused

variable {ε : Type} {bad : String → ε} {odd : Nat → String}

theorem eq_nil_of_no_pair {text : Bytes} (heven : text.length % 2 = 0)
    (h : ∀ d d' rest, text = d :: d' :: rest → False) : text = [] := by
  match text, h with
  | [], _ => rfl
  | [_], _ => simp at heven
  | d :: d' :: rest, h => exact absurd rfl (h d d' rest)

theorem hexPairs_cases (text : Bytes) (heven : text.length % 2 = 0) :
    ((∀ b ∈ text, nibble? b ≠ none) ∧ ∃ bytes, hexPairs bad text = .ok bytes) ∨
      ((∃ b ∈ text, nibble? b = none) ∧ ∃ reason, hexPairs bad text = .err (bad reason)) := by
  induction text using hexPairs.induct with
  | case1 d d' rest ih =>
      rw [hexPairs, hexNibble, hexNibble]
      cases hd : nibble? d with
      | none => exact Or.inr ⟨⟨d, by simp, hd⟩, _, rfl⟩
      | some hi =>
          cases hd' : nibble? d' with
          | none => exact Or.inr ⟨⟨d', by simp, hd'⟩, _, rfl⟩
          | some lo =>
              simp only [Outcome.okOr_some, Outcome.ok_bind]
              have heven' : rest.length % 2 = 0 := by
                simp only [List.length_cons] at heven
                omega
              rcases ih heven' with ⟨hall, bytes, hbytes⟩ | ⟨⟨b, hb, hbnone⟩, reason, hreason⟩
              · rw [hbytes]
                refine Or.inl ⟨?_, _, rfl⟩
                simp only [List.forall_mem_cons, hd, hd']
                exact ⟨nofun, nofun, hall⟩
              · rw [hreason]
                exact Or.inr ⟨⟨b, by simp [hb], hbnone⟩, reason, rfl⟩
  | case2 text hshort =>
      obtain rfl := eq_nil_of_no_pair heven hshort
      exact Or.inl ⟨by simp, [], rfl⟩

theorem hexDecodeWith_cases (text : Bytes) :
    (Hexadecimal text ∧ ∃ bytes, hexDecodeWith bad odd text = .ok bytes) ∨
      (¬Hexadecimal text ∧ ∃ reason, hexDecodeWith bad odd text = .err (bad reason)) := by
  rw [hexDecodeWith]
  by_cases heven : text.length % 2 = 0
  · rw [Outcome.failIf_of_not (not_not.mpr heven), Outcome.ok_bind]
    rcases @hexPairs_cases _ bad text heven with ⟨hall, hbytes⟩ | ⟨⟨b, hb, hnone⟩, hreason⟩
    · exact Or.inl ⟨⟨heven, hall⟩, hbytes⟩
    · exact Or.inr ⟨fun h => h.2 b hb hnone, hreason⟩
  · rw [Outcome.failIf_of heven]
    exact Or.inr ⟨fun h => heven h.1, _, rfl⟩

theorem hexDecodeWith_eq_ok_iff_hexadecimal {text : Bytes} :
    (∃ bytes, hexDecodeWith bad odd text = .ok bytes) ↔ Hexadecimal text := by
  rcases hexDecodeWith_cases text with ⟨hhex, hbytes⟩ | ⟨hnot, reason, hreason⟩
  · exact iff_of_true hbytes hhex
  · refine iff_of_false ?_ hnot
    rintro ⟨bytes, hbytes⟩
    rw [hreason] at hbytes
    cases hbytes

end Refused

/-! ### Digits as characters -/

section Characters

/-- An ASCII hexadecimal digit of either case. -/
def IsHexDigit (c : Char) : Prop :=
  ('0' ≤ c ∧ c ≤ '9') ∨ ('a' ≤ c ∧ c ≤ 'f') ∨ ('A' ≤ c ∧ c ≤ 'F')

instance (c : Char) : Decidable (IsHexDigit c) := inferInstanceAs (Decidable (_ ∨ _))

theorem toNat_lt_of_isHexDigit {c : Char} (h : IsHexDigit c) : c.toNat < 128 := by
  have hle : ∀ {d : Char}, d.toNat < 128 → c ≤ d → c.toNat < 128 := fun hd hcd =>
    Nat.lt_of_le_of_lt (UInt32.le_iff_toNat_le.mp hcd) hd
  rcases h with ⟨-, h⟩ | ⟨-, h⟩ | ⟨-, h⟩
  · exact hle (by decide) h
  · exact hle (by decide) h
  · exact hle (by decide) h

theorem utf8EncodeChar_of_isHexDigit {c : Char} (h : IsHexDigit c) :
    String.utf8EncodeChar c = [UInt8.ofNat c.toNat] ∧ nibble? (UInt8.ofNat c.toNat) ≠ none := by
  have hall : ∀ n < 128, IsHexDigit (Char.ofNat n) →
      String.utf8EncodeChar (Char.ofNat n) = [UInt8.ofNat n] ∧ nibble? (UInt8.ofNat n) ≠ none := by
    decide +kernel
  have hc := hall c.toNat (toNat_lt_of_isHexDigit h)
  rw [Char.ofNat_toNat] at hc
  exact hc h

theorem isHexDigit_of_nibble {b : UInt8} (h : nibble? b ≠ none) :
    b.toNat < 128 ∧ IsHexDigit (Char.ofNat b.toNat) := by
  have hall : ∀ n < 256, nibble? (UInt8.ofNat n) ≠ none →
      n < 128 ∧ IsHexDigit (Char.ofNat n) := by
    decide +kernel
  have hb := hall b.toNat b.toNat_lt
  rw [UInt8.ofNat_toNat] at hb
  exact hb h

/-- Counted in bytes or in characters, a hexadecimal text is an even number of digits. -/
theorem hexadecimal_strBytes_iff {s : String} :
    Hexadecimal (strBytes s) ↔ s.toList.length % 2 = 0 ∧ ∀ c ∈ s.toList, IsHexDigit c := by
  constructor
  · rintro ⟨heven, hall⟩
    have hchars := toList_eq_map_strBytes fun b hb => (isHexDigit_of_nibble (hall b hb)).1
    rw [hchars, List.length_map]
    refine ⟨heven, fun c hc => ?_⟩
    obtain ⟨b, hb, rfl⟩ := List.mem_map.mp hc
    exact (isHexDigit_of_nibble (hall b hb)).2
  · rintro ⟨heven, hdigits⟩
    have hbytes : strBytes s = s.toList.map fun c => UInt8.ofNat c.toNat := by
      rw [strBytes, List.map_eq_flatMap]
      exact List.flatMap_congr fun c hc => (utf8EncodeChar_of_isHexDigit (hdigits c hc)).1
    rw [hbytes, Hexadecimal, List.length_map]
    refine ⟨heven, fun b hb => ?_⟩
    obtain ⟨c, hc, rfl⟩ := List.mem_map.mp hb
    exact (utf8EncodeChar_of_isHexDigit (hdigits c hc)).2

end Characters

/-! ### The loop as it indexes -/

section Indexed

variable {ε : Type} {bad : String → ε} {profile : Profile}

theorem sub_add_ten_lt {a b c : UInt8} (hle : a ≤ b) (hlt : b ≤ c) (hc : c.toNat ≤ a.toNat + 5) :
    (b - a).toNat + 10 < 2 ^ 8 := by
  rw [UInt8.toNat_sub_of_le _ _ hle]
  rw [UInt8.le_iff_toNat_le] at hle hlt
  omega

/-- The sums on a digit stay in a byte. -/
theorem hexNibbleSum_eq (b : UInt8) : hexNibbleSum bad profile b = hexNibble bad b := by
  rw [hexNibbleSum, hexNibble, nibble?]
  split_ifs with hdigit hlower hupper
  · rfl
  · rw [wordAdd_of_lt (sub_add_ten_lt hlower.1 hlower.2 (by decide)), Outcome.ok_bind,
      UInt8.ofNat_add, UInt8.ofNat_toNat]
    rfl
  · rw [wordAdd_of_lt (sub_add_ten_lt hupper.1 hupper.2 (by decide)), Outcome.ok_bind,
      UInt8.ofNat_add, UInt8.ofNat_toNat]
    rfl
  · rfl

theorem hexLoop_eq {text : Bytes} (hslice : IsSlice text) (rest : Bytes) {fuel i : Nat} {out : Bytes}
    (hrest : text.drop i = rest) (heven : rest.length % 2 = 0) (hfuel : rest.length ≤ fuel) :
    hexLoop bad profile text fuel i out = (do
      let more ← hexPairs bad rest
      pure (out ++ more)) := by
  have hmax : text.length < 2 ^ 63 := hslice
  induction rest using hexPairs.induct generalizing fuel i out with
  | case1 d d' rest ih =>
      obtain ⟨fuel, rfl⟩ : ∃ n, fuel = n + 1 := ⟨fuel - 1, by simp at hfuel; omega⟩
      have hlt := lt_length_of_eq_cons hrest
      have hrest' := drop_succ_of_eq_cons hrest
      rw [hexLoop, if_pos hlt, index_of_eq_cons hrest, Outcome.ok_bind, hexNibbleSum_eq, hexPairs,
        bind_assoc]
      refine bind_congr fun hi => ?_
      rw [usizeAdd_of_lt (by omega), Outcome.ok_bind, index_of_eq_cons hrest', Outcome.ok_bind,
        hexNibbleSum_eq, bind_assoc]
      refine bind_congr fun lo => ?_
      rw [usizeAdd_of_lt (by omega), Outcome.ok_bind, bind_assoc,
        ih (drop_succ_of_eq_cons hrest') (by simp at heven; omega) (by simp at hfuel; omega)]
      simp
  | case2 rest hshort =>
      obtain rfl := eq_nil_of_no_pair heven hshort
      have hge : ¬i < text.length := not_lt.mpr (List.drop_eq_nil_iff.mp hrest)
      cases fuel with
      | zero => simp [hexLoop, hexPairs]
      | succ fuel => simp [hexLoop, hexPairs, hge]

theorem hexDecodeIndexed_eq {odd : Nat → String} {text : Bytes} (hslice : IsSlice text) :
    hexDecodeIndexed bad profile odd text = hexDecodeWith bad odd text := by
  rw [hexDecodeIndexed, hexDecodeWith]
  by_cases heven : text.length % 2 = 0
  · rw [Outcome.failIf_of_not (not_not.mpr heven), Outcome.ok_bind, Outcome.ok_bind,
      hexLoop_eq hslice text rfl heven le_rfl]
    exact bind_pure _
  · rw [Outcome.failIf_of heven]
    rfl

theorem hexDecodeWith_ne_panic {odd : Nat → String} {text : Bytes} :
    hexDecodeWith bad odd text ≠ .panic := by
  rcases hexDecodeWith_cases text with ⟨-, bytes, hbytes⟩ | ⟨-, reason, hreason⟩
  · rw [hbytes]
    nofun
  · rw [hreason]
    nofun

end Indexed

/-! ### What a decoder can end in -/

section Ends

variable {ε : Type} {bad : String → ε} {odd : Nat → String}

theorem errs_hexPairs {P : ε → Prop} (hbad : ∀ reason, P (bad reason))
    (text : Bytes) : Outcome.Errs P (hexPairs bad text) := by
  induction text using hexPairs.induct with
  | case1 d d' rest ih =>
      rw [hexPairs]
      refine Outcome.Errs.bind (Outcome.errs_okOr (hbad _)) fun _ => ?_
      refine Outcome.Errs.bind (Outcome.errs_okOr (hbad _)) fun _ => ?_
      exact Outcome.Errs.bind ih fun _ => Outcome.errs_ok _
  | case2 text hshort =>
      rw [hexPairs.eq_2 _ _ hshort]
      exact Outcome.errs_ok _

theorem errs_hexDecodeWith {P : ε → Prop} (hbad : ∀ reason, P (bad reason)) (text : Bytes) :
    Outcome.Errs P (hexDecodeWith bad odd text) :=
  Outcome.Errs.bind (Outcome.errs_failIf (hbad _)) fun _ => errs_hexPairs hbad text

theorem length_hexPairs_le (text : Bytes) :
    Outcome.Oks (fun bytes => bytes.length ≤ text.length) (hexPairs bad text) := by
  induction text using hexPairs.induct with
  | case1 d d' rest ih =>
      refine Outcome.Oks.bind_right fun hi => Outcome.Oks.bind_right fun lo => ?_
      refine Outcome.Oks.bind fun out hout => ?_
      rintro bytes h
      obtain rfl := Outcome.ok.inj h
      have hle := ih out hout
      simp only [List.length_cons]
      omega
  | case2 text hshort =>
      rw [hexPairs.eq_2 _ _ hshort]
      rintro bytes h
      obtain rfl := Outcome.ok.inj h
      exact Nat.zero_le _

theorem isSlice_of_hexDecode {text bytes : Bytes}
    (htext : IsSlice text) (h : hexDecodeWith bad odd text = .ok bytes) : IsSlice bytes := by
  obtain ⟨_, -, h⟩ := Outcome.bind_eq_ok_iff.mp h
  exact Nat.lt_of_le_of_lt (length_hexPairs_le text bytes h) htext

end Ends

theorem wifi_hexDecode_of_cli {s : String} {bytes : Bytes} (h : Cli.hexDecode s = .ok bytes) :
    Wifi.hexDecode s = .ok bytes :=
  hexDecodeWith_agree h

/-! ### Digits of either case -/

section Digits

/-- The text is the bytes in hexadecimal, each digit in either case. -/
def IsHexOf (digits : List Char) (bytes : Bytes) : Prop :=
  digits.map Char.toLower = (hexLower bytes).toList

theorem toList_hexLower (bytes : Bytes) :
    (hexLower bytes).toList
      = bytes.flatMap fun b => [Nat.digitChar (b.toNat / 16), Nat.digitChar (b.toNat % 16)] := by
  have hfold : ∀ (bytes : Bytes) (s : String),
      (bytes.foldl (fun s b => s ++ hexByte b) s).toList = s.toList ++
        bytes.flatMap fun b => [Nat.digitChar (b.toNat / 16), Nat.digitChar (b.toNat % 16)] := by
    intro bytes
    induction bytes with
    | nil => simp
    | cons b bs ih =>
        intro s
        rw [List.foldl_cons, ih, String.toList_append, hexByte, String.toList_ofList,
          List.flatMap_cons, List.append_assoc]
  simpa [hexLower] using hfold bytes ""

theorem toNat_lt_of_toLower {c : Char} {n : Nat} (hn : n < 16)
    (h : c.toLower = Nat.digitChar n) : c.toNat < 128 := by
  have hdigit : ∀ n < 16, (Nat.digitChar n).toNat < 128 := by decide
  unfold Char.toLower at h
  split at h
  · rename_i hupper
    have hle : c.val.toNat ≤ 90 := UInt32.le_iff_toNat_le.mp hupper.2
    exact Nat.lt_of_le_of_lt hle (by decide)
  · rw [h]
    exact hdigit n hn

/-- A digit of either case is one byte, read back as its value; it is neither white space nor part of a
tag. -/
theorem digit_spec {c : Char} {n : Nat} (hn : n < 16) (h : c.toLower = Nat.digitChar n) :
    ∃ d : UInt8, String.utf8EncodeChar c = [d] ∧ nibble? d = some (UInt8.ofNat n) ∧
      ¬isWhitespace c ∧ c ≠ '<' := by
  have hlt := toNat_lt_of_toLower hn h
  have hall : ∀ m < 128, ∀ n < 16, (Char.ofNat m).toLower = Nat.digitChar n →
      nibble? (UInt8.ofNat m) = some (UInt8.ofNat n) ∧ ¬isWhitespace (Char.ofNat m) ∧
        Char.ofNat m ≠ '<' := by
    decide +kernel
  have hc := hall c.toNat hlt n hn
  rw [Char.ofNat_toNat] at hc
  obtain ⟨hnibble, hspace, hopen⟩ := hc h
  have hbyte : (UInt8.ofNat c.toNat).toNat = c.toNat := by
    rw [UInt8.toNat_ofNat', Nat.mod_eq_of_lt (by omega)]
  have hencode := utf8EncodeChar_ofNat (b := UInt8.ofNat c.toNat) (by omega)
  rw [hbyte, Char.ofNat_toNat] at hencode
  exact ⟨_, hencode, hnibble, hspace, hopen⟩

theorem nibbles_byte (b : UInt8) :
    (UInt8.ofNat (b.toNat / 16) <<< 4) ||| UInt8.ofNat (b.toNat % 16) = b := by
  have hall : ∀ n < 256, (UInt8.ofNat (n / 16) <<< 4) ||| UInt8.ofNat (n % 16) = UInt8.ofNat n := by
    decide +kernel
  have hb := hall b.toNat b.toNat_lt
  rwa [UInt8.ofNat_toNat] at hb

variable {ε : Type} {bad : String → ε} {odd : Nat → String}

theorem hexPairs_of_isHexOf {bytes : Bytes} {digits : List Char} (h : IsHexOf digits bytes) :
    hexPairs bad (digits.flatMap String.utf8EncodeChar) = .ok bytes ∧
      (digits.flatMap String.utf8EncodeChar).length % 2 = 0 := by
  rw [IsHexOf, toList_hexLower] at h
  induction bytes generalizing digits with
  | nil =>
      obtain rfl := List.map_eq_nil_iff.mp h
      exact ⟨rfl, rfl⟩
  | cons b bs ih =>
      rw [List.flatMap_cons, List.cons_append, List.cons_append, List.nil_append] at h
      obtain ⟨c, digits, rfl, hc, h⟩ := List.map_eq_cons_iff.mp h
      obtain ⟨c', digits, rfl, hc', h⟩ := List.map_eq_cons_iff.mp h
      have hlt := b.toNat_lt
      obtain ⟨d, hd, hnibble, -⟩ := digit_spec (by omega) hc
      obtain ⟨d', hd', hnibble', -⟩ := digit_spec (Nat.mod_lt _ (by decide)) hc'
      obtain ⟨hpairs, heven⟩ := ih h
      simp only [List.flatMap_cons, hd, hd', List.singleton_append, List.length_cons]
      refine ⟨?_, by omega⟩
      rw [hexPairs, hexNibble, hnibble, hexNibble, hnibble', hpairs]
      simp only [Outcome.okOr_some, Outcome.ok_bind, Outcome.pure_eq, nibbles_byte]

theorem exists_digit_of_isHexOf {bytes : Bytes} {digits : List Char} (h : IsHexOf digits bytes) :
    ∀ c ∈ digits, ∃ n < 16, c.toLower = Nat.digitChar n := by
  intro c hc
  rw [IsHexOf, toList_hexLower] at h
  have hmem : c.toLower ∈ digits.map Char.toLower := List.mem_map_of_mem hc
  rw [h] at hmem
  obtain ⟨b, -, hb⟩ := List.mem_flatMap.mp hmem
  have hlt := b.toNat_lt
  rcases List.mem_pair.mp hb with hb | hb
  · exact ⟨b.toNat / 16, by omega, hb⟩
  · exact ⟨b.toNat % 16, Nat.mod_lt _ (by decide), hb⟩

theorem plain_of_isHexOf {bytes : Bytes} {digits : List Char} (h : IsHexOf digits bytes) :
    ∀ c ∈ digits, ¬isWhitespace c ∧ c ≠ '<' := by
  intro c hc
  obtain ⟨n, hn, hlower⟩ := exists_digit_of_isHexOf h c hc
  obtain ⟨-, -, -, hplain⟩ := digit_spec hn hlower
  exact hplain

/-- What the encoder puts out is already in lower case. -/
theorem isHexOf_hexLower (bytes : Bytes) : IsHexOf (hexLower bytes).toList bytes := by
  have hdigit : ∀ n < 16, (Nat.digitChar n).toLower = Nat.digitChar n := by decide
  rw [IsHexOf, toList_hexLower, List.map_flatMap]
  refine List.flatMap_congr fun b _ => ?_
  have hlt := b.toNat_lt
  rw [List.map_cons, List.map_cons, List.map_nil, hdigit _ (by omega),
    hdigit _ (Nat.mod_lt _ (by decide))]

theorem hexDecodeWith_of_isHexOf {bytes : Bytes} {digits : String} (h : IsHexOf digits.toList bytes) :
    hexDecodeWith bad odd (strBytes digits) = .ok bytes := by
  obtain ⟨hpairs, heven⟩ := hexPairs_of_isHexOf h
  rw [strBytes, hexDecodeWith]
  exact Outcome.bind_of_ok (Outcome.failIf_of_not (by omega)) hpairs

theorem exists_digitChar_of_isHexDigit {c : Char} (h : IsHexDigit c) :
    ∃ n < 16, c.toLower = Nat.digitChar n := by
  have hall : ∀ m < 128, IsHexDigit (Char.ofNat m) →
      ∃ n < 16, (Char.ofNat m).toLower = Nat.digitChar n := by
    decide +kernel
  have hc := hall c.toNat (toNat_lt_of_isHexDigit h)
  rw [Char.ofNat_toNat] at hc
  exact hc h

theorem exists_isHexOf : ∀ {digits : List Char}, digits.length % 2 = 0 →
    (∀ c ∈ digits, IsHexDigit c) → ∃ bytes, IsHexOf digits bytes
  | [], _, _ => ⟨[], rfl⟩
  | [_], heven, _ => absurd heven (by simp)
  | c :: c' :: digits, heven, hall => by
      obtain ⟨hc, hall⟩ := List.forall_mem_cons.mp hall
      obtain ⟨hc', hall⟩ := List.forall_mem_cons.mp hall
      obtain ⟨hi, hhi, hchi⟩ := exists_digitChar_of_isHexDigit hc
      obtain ⟨lo, hlo, hclo⟩ := exists_digitChar_of_isHexDigit hc'
      obtain ⟨bytes, hbytes⟩ := exists_isHexOf
        (by simp only [List.length_cons] at heven; omega) hall
      refine ⟨UInt8.ofNat (16 * hi + lo) :: bytes, ?_⟩
      have hbyte : (UInt8.ofNat (16 * hi + lo)).toNat = 16 * hi + lo := by
        rw [UInt8.toNat_ofNat', Nat.mod_eq_of_lt (by omega)]
      rw [IsHexOf, toList_hexLower] at hbytes
      rw [IsHexOf, toList_hexLower, List.map_cons, List.map_cons, hbytes, hchi, hclo,
        List.flatMap_cons, hbyte, show (16 * hi + lo) / 16 = hi by omega,
        show (16 * hi + lo) % 16 = lo by omega]
      rfl

/-- Decoding undoes the encoding in either case, and decodes nothing else. -/
theorem hexDecodeWith_eq_ok_iff {s : String} {bytes : Bytes} :
    hexDecodeWith bad odd (strBytes s) = .ok bytes ↔ IsHexOf s.toList bytes := by
  constructor
  · intro h
    have hhex := hexDecodeWith_eq_ok_iff_hexadecimal.mp ⟨bytes, h⟩
    obtain ⟨heven, hdigits⟩ := hexadecimal_strBytes_iff.mp hhex
    obtain ⟨bytes', hbytes'⟩ := exists_isHexOf heven hdigits
    rw [hexDecodeWith_of_isHexOf hbytes', Outcome.ok.injEq] at h
    exact h ▸ hbytes'
  · exact hexDecodeWith_of_isHexOf

theorem isSlice_of_isHexOf {s : String} {bytes : Bytes} (hs : IsSlice (strBytes s))
    (h : IsHexOf s.toList bytes) : IsSlice bytes := by
  have hdecode : (hexDecodeWith id (fun _ => "") (strBytes s) : Outcome String Bytes) = .ok bytes :=
    hexDecodeWith_of_isHexOf h
  exact isSlice_of_hexDecode hs hdecode

end Digits

end DpapiForensic
