import DpapiForensic.Proof.Locked

/-!
# Three decoders, one language

The core, the command line and the master key's argument each decode hexadecimal on their own. They
accept the same texts and give the same bytes, and so the error the core has for bad hexadecimal never
comes out of the Wi-Fi decoder: the command line has decoded the same text before.
-/

namespace DpapiForensic

/-! ### A text's own digits -/

section Digits

variable {bytes : Bytes} {digits : String}

theorem strip0x_append (hex : String) : strip0x ("0x" ++ hex) = hex := by
  have hlist : ("0x" ++ hex).toList = '0' :: 'x' :: hex.toList := by
    rw [String.toList_append]
    rfl
  rw [strip0x, hlist, if_pos ⟨hex.toList, rfl⟩]
  exact String.ofList_toList

theorem strip0x_eq_self {s : String} (h : ¬['0', 'x'] <+: s.toList) : strip0x s = s :=
  if_neg h

theorem strip0x_of_isHexOf (h : IsHexOf digits.toList bytes) : strip0x digits = digits := by
  have hx : ∀ n < 16, 'x'.toLower ≠ Nat.digitChar n := by decide
  apply strip0x_eq_self
  intro hstart
  obtain ⟨n, hn, hlower⟩ := exists_digit_of_isHexOf h 'x' (hstart.subset (by simp))
  exact hx n hn hlower

/-- What a decoder of hexadecimal does, once `strip` has taken off what may stand before the digits. -/
structure DecodesHex {ε : Type} (strip : String → String) (decode : String → Outcome ε Bytes) :
    Prop where
  accepts : ∀ s, (∃ bytes, decode s = .ok bytes) ↔
    (strip s).toList.length % 2 = 0 ∧ ∀ c ∈ (strip s).toList, IsHexDigit c
  decodes_encoded : ∀ bytes, decode (Cli.hexEncode bytes) = .ok bytes
  decodes_recased : ∀ bytes digits, IsHexOf digits.toList bytes → decode digits = .ok bytes

theorem decodesHex_of_hexDecodeWith {ε : Type} {bad : String → ε} {odd : Nat → String}
    {strip : String → String}
    (hstrip : ∀ bytes digits, IsHexOf digits.toList bytes → strip digits = digits) :
    DecodesHex strip fun s => hexDecodeWith bad odd (strBytes (strip s)) where
  accepts s := hexDecodeWith_eq_ok_iff_hexadecimal.trans hexadecimal_strBytes_iff
  decodes_encoded bytes := by
    have hdigits := isHexOf_hexLower bytes
    rw [Cli.hexEncode, hstrip bytes _ hdigits]
    exact hexDecodeWith_of_isHexOf hdigits
  decodes_recased bytes digits h := by
    rw [hstrip bytes digits h]
    exact hexDecodeWith_of_isHexOf h

end Digits

/-! ### The error that does not come out -/

section Wifi

variable {env : Env} {masterKey : Bytes}

def NotInvalidHex : DpapiError → Prop
  | .invalidHex _ => False
  | _ => True

/-- The same of an error of the command line. -/
def NotDpapiInvalidHex : CliError → Prop
  | .dpapi e => NotInvalidHex e
  | _ => True

theorem notInvalidHex_of_malformed (e : DpapiError) (h : Malformed e) : NotInvalidHex e := by
  cases e with
  | invalidHex _ => exact h
  | _ => trivial

theorem errs_decryptDpapiBlob {P : DpapiError → Prop} (halg : ∀ algId, P (.unsupportedAlgId algId))
    (hkey : P .invalidKeyLength) (hfailed : P .decryptionFailed) (hhmac : P .hmacMismatch)
    {blob : DpapiBlob} {entropy : Option Bytes} :
    Outcome.Errs P (decryptDpapiBlob env blob masterKey entropy) := by
  refine Outcome.Errs.bind (Outcome.errs_okOr (halg _)) fun cipher => ?_
  refine Outcome.Errs.bind (Outcome.errs_ok _) fun sessionKey => ?_
  refine Outcome.Errs.bind (Outcome.errs_failIf hkey) fun _ => ?_
  refine Outcome.Errs.bind errs_sliceRange fun key => ?_
  refine Outcome.Errs.bind ?_ fun _ => Outcome.Errs.bind ?_ fun _ => Outcome.errs_ok _
  · split
    · exact Outcome.Errs.bind (Outcome.errs_okOr hkey) fun _ => Outcome.errs_okOr hfailed
    · refine Outcome.Errs.bind (Outcome.errs_okOr hkey) fun _ => ?_
      refine Outcome.Errs.bind (Outcome.errs_okOr hfailed) fun out => ?_
      intro e he
      rcases pkcsUnpad_cases out 8 with ⟨plain, hplain⟩ | hfail
      · rw [hplain] at he
        cases he
      · rw [hfail] at he
        exact Outcome.err.inj he ▸ hfailed
  · refine Outcome.Errs.bind errs_usizeAdd fun _ => ?_
    refine Outcome.Errs.bind (Outcome.errs_ok _) fun _ => ?_
    split
    · exact Outcome.errs_ok _
    · exact Outcome.errs_err_iff.mpr hhmac

/-- Once its text is hexadecimal, no later step complains that it is not. -/
theorem errs_decryptWlanKeyMaterial {keyMaterialHex : String} {blobBytes : Bytes}
    (hhex : Wifi.hexDecode keyMaterialHex = .ok blobBytes) :
    Outcome.Errs NotInvalidHex (decryptWlanKeyMaterial env keyMaterialHex masterKey) := by
  rw [decryptWlanKeyMaterial, hhex, Outcome.ok_bind]
  refine Outcome.Errs.bind (errs_parseDpapiBlobWith.mono notInvalidHex_of_malformed) fun blob => ?_
  refine Outcome.Errs.bind ?_ fun cleartext => ?_
  · exact errs_decryptDpapiBlob (fun _ => trivial) trivial trivial trivial
  · exact Outcome.Errs.bind (Outcome.errs_okOr trivial) fun _ => Outcome.errs_ok _

theorem errs_decodeWifi (profileXml : String) :
    Outcome.Errs NotDpapiInvalidHex (decodeWifi env profileXml masterKey) := by
  rw [decodeWifi]
  refine Outcome.Errs.bind (Outcome.errs_okOr trivial) fun keyMaterial => ?_
  cases hhex : Cli.hexDecode keyMaterial with
  | panic => exact Outcome.errs_panic
  | err e =>
      have hbad : ∀ reason, NotDpapiInvalidHex (.badMasterKey reason) := fun _ => trivial
      exact Outcome.errs_err_iff.mpr (errs_hexDecodeWith hbad (strBytes keyMaterial) e hhex)
  | ok blobBytes =>
      rw [Outcome.ok_bind]
      refine Outcome.Errs.bind ?_ fun psk => Outcome.errs_ok _
      exact errs_orLocked (fun _ _ => trivial) (fun _ he => he)
        (errs_decryptWlanKeyMaterial (wifi_hexDecode_of_cli hhex))

end Wifi

/-- **The hexadecimal decoders agree.** The core's and the command line's accept the same texts with the
same bytes, and the master key's does what either does without a leading `0x`: behind one, of the rest,
and where there is none, of the text itself. What they accept is an even number of digits, and every byte
string comes back from its digits in whatever case. The loops over indices compute just that, and the
Wi-Fi decoder never reports bad hexadecimal as the core's error. -/
theorem hexDecoders_agree :
    (∀ s bytes, Wifi.hexDecode s = .ok bytes ↔ Cli.hexDecode s = .ok bytes) ∧
      (∀ s bytes, (parseMasterKeyHex s = .ok bytes ↔ Wifi.hexDecode (strip0x s) = .ok bytes) ∧
        (parseMasterKeyHex s = .ok bytes ↔ Cli.hexDecode (strip0x s) = .ok bytes)) ∧
      (∀ t bytes, (parseMasterKeyHex ("0x" ++ t) = .ok bytes ↔ Wifi.hexDecode t = .ok bytes) ∧
        (parseMasterKeyHex ("0x" ++ t) = .ok bytes ↔ Cli.hexDecode t = .ok bytes)) ∧
      (∀ s bytes, ¬['0', 'x'] <+: s.toList →
        (parseMasterKeyHex s = .ok bytes ↔ Wifi.hexDecode s = .ok bytes) ∧
        (parseMasterKeyHex s = .ok bytes ↔ Cli.hexDecode s = .ok bytes)) ∧
      DecodesHex id Wifi.hexDecode ∧ DecodesHex id Cli.hexDecode ∧
      DecodesHex strip0x parseMasterKeyHex ∧
      (∀ {ε : Type} (bad : String → ε) (profile : Profile) (odd : Nat → String) (text : Slice),
        hexDecodeIndexed bad profile odd text.val = hexDecodeWith bad odd text.val) ∧
      ∀ env profileXml masterKey reason,
        decodeWifi env profileXml masterKey ≠ .err (.dpapi (.invalidHex reason)) := by
  have hstripped : ∀ s bytes,
      (parseMasterKeyHex s = .ok bytes ↔ Wifi.hexDecode (strip0x s) = .ok bytes) ∧
        (parseMasterKeyHex s = .ok bytes ↔ Cli.hexDecode (strip0x s) = .ok bytes) := fun s bytes =>
    ⟨⟨hexDecodeWith_agree, hexDecodeWith_agree⟩, ⟨hexDecodeWith_agree, hexDecodeWith_agree⟩⟩
  refine ⟨fun s bytes => ⟨hexDecodeWith_agree, hexDecodeWith_agree⟩, hstripped, ?_, ?_,
    decodesHex_of_hexDecodeWith fun _ _ _ => rfl, decodesHex_of_hexDecodeWith fun _ _ _ => rfl,
    decodesHex_of_hexDecodeWith fun _ _ => strip0x_of_isHexOf, ?_, ?_⟩
  · intro t bytes
    have h := hstripped ("0x" ++ t) bytes
    rwa [strip0x_append] at h
  · intro s bytes hprefix
    have h := hstripped s bytes
    rwa [strip0x_eq_self hprefix] at h
  · intro ε bad profile odd text
    exact hexDecodeIndexed_eq text.property
  · intro env profileXml masterKey reason
    exact errs_decodeWifi profileXml _

/-- Digits of mixed case, as the master key's argument decodes them with and without a `0x`, of which
only one is taken off. -/
theorem hexDecoders_agree_mixed :
    parseMasterKeyHex "0A0bfF" = .ok [0x0a, 0x0b, 0xff] ∧
      parseMasterKeyHex "0x0A0bfF" = .ok [0x0a, 0x0b, 0xff] ∧
      ∀ bytes, parseMasterKeyHex "0x0x0A0bfF" ≠ .ok bytes := by
  obtain ⟨-, -, hbehind, hwithout, -, hcli, -⟩ := hexDecoders_agree
  have hdecode : Cli.hexDecode "0A0bfF" = .ok [0x0a, 0x0b, 0xff] :=
    hcli.decodes_recased _ _ (by unfold IsHexOf; decide +kernel)
  refine ⟨?_, ?_, ?_⟩
  · exact (hwithout "0A0bfF" _ (by decide)).2.mpr hdecode
  · exact (hbehind "0A0bfF" _).2.mpr hdecode
  · intro bytes htwice
    have htwice := (hbehind "0x0A0bfF" bytes).2.mp htwice
    have hdigit := ((hcli.accepts "0x0A0bfF").mp ⟨bytes, htwice⟩).2 'x' (by decide)
    exact absurd hdigit (by decide)

end DpapiForensic
