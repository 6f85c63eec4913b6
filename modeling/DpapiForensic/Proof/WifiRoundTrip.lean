import DpapiForensic.Cli
import DpapiForensic.Proof.BlobRoundTrip
import DpapiForensic.Proof.Hex
import DpapiForensic.Proof.Profile

/-!
# Wi-Fi decoding undoes protection

The first `keyMaterial` of a profile holds digits of either case, with white space around them. They
decode to the same bytes in both crates, and the pre-shared key comes back from in front of its NUL.
-/

namespace DpapiForensic

open Wifi

variable {env : Env}

/-! ### The pre-shared key -/

section Psk

/-- Only U+0000 has a zero byte. -/
theorem zero_notMem_utf8EncodeChar {c : Char} (h : c.toNat ≠ 0) : 0 ∉ String.utf8EncodeChar c := by
  have hbyte : ∀ n, 0 < n → n < 256 → (0 : UInt8) ≠ UInt8.ofNat n := by
    intro n hpos hlt heq
    have hnat := congrArg UInt8.toNat heq
    rw [UInt8.toNat_ofNat', Nat.mod_eq_of_lt hlt] at hnat
    change 0 = n at hnat
    omega
  have hval : c.val.toNat ≠ 0 := h
  simp only [String.utf8EncodeChar]
  split_ifs with h₁ h₂ h₃
  · rw [List.mem_singleton]
    exact hbyte _ (by omega) (by omega)
  · simp only [List.mem_cons, List.not_mem_nil, or_false, not_or]
    exact ⟨hbyte _ (by omega) (by omega), hbyte _ (by omega) (by omega)⟩
  · simp only [List.mem_cons, List.not_mem_nil, or_false, not_or]
    exact ⟨hbyte _ (by omega) (by omega), hbyte _ (by omega) (by omega),
      hbyte _ (by omega) (by omega)⟩
  · simp only [List.mem_cons, List.not_mem_nil, or_false, not_or]
    exact ⟨hbyte _ (by omega) (by omega), hbyte _ (by omega) (by omega),
      hbyte _ (by omega) (by omega), hbyte _ (by omega) (by omega)⟩

theorem takeWhile_strBytes {s : String} (h : Char.ofNat 0 ∉ s.toList) :
    (strBytes s ++ [0]).takeWhile (· ≠ 0) = strBytes s := by
  have hnonzero : ∀ b ∈ strBytes s, decide (b ≠ 0) = true := by
    intro b hb
    obtain ⟨c, hc, hbc⟩ := List.mem_flatMap.mp hb
    have hne : c.toNat ≠ 0 := by
      intro hzero
      rw [← Char.ofNat_toNat c, hzero] at hc
      exact h hc
    have hb0 : b ≠ 0 := by
      rintro rfl
      exact zero_notMem_utf8EncodeChar hne hbc
    simpa using hb0
  rw [List.takeWhile_append_of_pos hnonzero]
  simp

theorem decryptWlanKeyMaterial_digits (himp : env.nomicon.IsImpacket) {psk : String}
    (hpsk : Char.ofNat 0 ∉ psk.toList) {p : Protection} (hentropy : p.entropy = none)
    (hplain : p.plaintext = strBytes psk ++ [0]) {digits : String}
    (hdigits : IsHexOf digits.toList (p.wire env.crypto).bytes) :
    decryptWlanKeyMaterial env digits p.masterKey = .ok psk := by
  rw [decryptWlanKeyMaterial]
  refine Outcome.bind_of_ok (hexDecodeWith_of_isHexOf hdigits) ?_
  rw [open_wire himp hentropy, hplain, takeWhile_strBytes hpsk]
  simp only [fromUtf8_strBytes, Outcome.okOr_some, Outcome.ok_bind, String.ofList_toList,
    Outcome.pure_eq]

end Psk

/-- **Wi-Fi decoding undoes protection**, in whatever profile the key material is the first, and
whatever the case of its digits. -/
theorem decodeWifi_roundTrip (env : Env) (himp : env.nomicon.IsImpacket) (psk : String)
    (hpsk : Char.ofNat 0 ∉ psk.toList) (p : Protection) (hentropy : p.entropy = none)
    (hplain : p.plaintext = strBytes psk ++ [0]) (digits : String)
    (hdigits : IsHexOf digits.toList (p.wire env.crypto).bytes) (pre ws ws' post : String)
    (hpre : ¬"<keyMaterial>".toList <:+: pre.toList) (hws : ∀ c ∈ ws.toList, isWhitespace c)
    (hws' : ∀ c ∈ ws'.toList, isWhitespace c) :
    decodeWifi env
        (pre ++ "<keyMaterial>" ++ ws ++ digits ++ ws' ++ "</keyMaterial>" ++ post) p.masterKey
      = .ok [{ store := "wifi", label := "PSK", secret := psk, account := none }] := by
  have hspace : ∀ c, isWhitespace c → c ≠ '<' := by
    rintro c hc rfl
    exact absurd hc (by decide)
  have hdigit := plain_of_isHexOf hdigits
  have hbody : '<' ∉ ws.toList ++ (digits.toList ++ ws'.toList) := by
    simp only [List.mem_append, not_or]
    exact ⟨fun h => hspace _ (hws _ h) rfl, fun h => (hdigit _ h).2 rfl,
      fun h => hspace _ (hws' _ h) rfl⟩
  have hextract : extractKeyMaterial
      (pre ++ "<keyMaterial>" ++ ws ++ digits ++ ws' ++ "</keyMaterial>" ++ post) = some digits := by
    refine extractKeyMaterial_eq_some_iff.mpr ⟨ws.toList ++ (digits.toList ++ ws'.toList),
      ⟨pre.toList, post.toList, ?_, hpre, fun h => hbody (h.subset (by decide))⟩, ?_⟩
    · simp only [String.toList_append, List.append_assoc]
      rfl
    · rw [trim_append hws (fun c hc => (hdigit c hc).1) hws', String.ofList_toList]
  rw [decodeWifi, hextract, Outcome.okOr_some, Outcome.ok_bind]
  refine Outcome.bind_of_ok (hexDecodeWith_of_isHexOf hdigits) ?_
  rw [decryptWlanKeyMaterial_digits himp hpsk hentropy hplain hdigits, Cli.orLocked, Outcome.ok_bind]
  rfl

/-! ### A profile of the repository's tests -/

/-- The blob around the key: SHA-512, AES-256, no entropy. -/
def wifiBlob : Protection where
  version := 1
  version_supported := version_one_supported
  mkVersion := 1
  masterKeyGuid := beVector 16 0x33f19f5ee340be4a8a2e2b4e62bd0cc6
  flags := 0
  description := ⟨[0, 0], fits_nulText⟩
  cipher := .aes256
  cryptAlgoLen := 256
  salt := ⟨beBytes 32 0xdeadbeefcafebabe0011223344556677deadbeefcafebabe0011223344556677,
    by decide⟩
  hmacKey := ⟨[], fits_nil⟩
  hash := .sha512
  hashAlgoLen := 512
  hmac := ⟨List.replicate 64 0, fits_zeros⟩
  form := .standard
  masterKey := vectorMasterKey
  entropy := none
  plaintext := strBytes "CorrectHorseBatteryStaple" ++ [0]
  fits := by decide +kernel

/-- The bytes of `KEY_MATERIAL_HEX`. -/
def wifiBytes : Bytes :=
  beBytes 32 0x01000000d08c9ddf0115d1118c7a00c04fc297eb0100000033f19f5ee340be4a ++
    beBytes 32 0x8a2e2b4e62bd0cc600000000020000000000106600000001000020000000dead ++
    beBytes 32 0xbeefcafebabe0011223344556677deadbeefcafebabe00112233445566770000 ++
    beBytes 32 0x00000e8000000002000040000000000000000000000000000000000000000000 ++
    beBytes 32 0x0000000000000000000000000000000000000000000000000000000000000000 ++
    beBytes 32 0x00000000000000000000000000002000000051e2c9e20723ef48230a95fcebba ++
    beBytes 32 0x31af8bc567edabbbd958f6e42e4cce9236c240000000538815e34921b886d09a ++
    beBytes 32 0x9cead4024e596a73c9c3b53e37a4481d05d7097751049323c613f78c8bd0d8a3 ++
    beBytes 22 0xaaab8bf9fbc966e87526245734d0c781dfe0214b1d70

/-- `KEY_MATERIAL_HEX`, which is in upper case. -/
def keyMaterialHex : String := String.ofList ((hexLower wifiBytes).toList.map Char.toUpper)

def wifiAnswers : KnownAnswers where
  sha1 := [(vectorMasterKey, beVector 20 0x9e68943b06f62ef6c72f8f817b4572481480a8c4)]
  hmacSha512 :=
    [((beBytes 20 0x9e68943b06f62ef6c72f8f817b4572481480a8c4, wifiBlob.salt.val),
      beVector 32 0x400cd86002a59e0e6effe6128f849ae348d338dba17bfb847c9cb8ddec3c7110 ++
      beVector 32 0x42fa7e304bc0c99641e889246c867a3d3a3ea4686418514c91dc721f39c9ba40),
    ((beBytes 20 0x9e68943b06f62ef6c72f8f817b4572481480a8c4,
        List.replicate 64 0 ++ (wifiBytes.drop 20).take 190),
      beVector 32 0x538815e34921b886d09a9cead4024e596a73c9c3b53e37a4481d05d709775104 ++
      beVector 32 0x9323c613f78c8bd0d8a3aaab8bf9fbc966e87526245734d0c781dfe0214b1d70)]
  aes256 := (CbcCipher.identity 32 16).withAnswer
    (beVector 32 0x400cd86002a59e0e6effe6128f849ae348d338dba17bfb847c9cb8ddec3c7110)
    (Vector.replicate 16 0) (pkcs7Pad 16 wifiBlob.plaintext)
    (beBytes 32 0x51e2c9e20723ef48230a95fcebba31af8bc567edabbbd958f6e42e4cce9236c2)
    (by decide +kernel)

theorem wifiBlob_bytes : (wifiBlob.wire wifiAnswers.env.crypto).bytes = wifiBytes := by
  decide +kernel

theorem isHexOf_keyMaterialHex :
    IsHexOf keyMaterialHex.toList (wifiBlob.wire wifiAnswers.env.crypto).bytes := by
  rw [wifiBlob_bytes, IsHexOf, keyMaterialHex, String.toList_ofList, toList_hexLower]
  decide +kernel

theorem decodeWifi_roundTrip_vector :
    decodeWifi wifiAnswers.env
        ("<WLANProfile><MSM><security><sharedKey>" ++ "<keyMaterial>" ++ "\n  " ++ keyMaterialHex ++
          "\n  " ++ "</keyMaterial>" ++ "</sharedKey></security></MSM></WLANProfile>")
        vectorMasterKey
      = .ok [{ store := "wifi", label := "PSK", secret := "CorrectHorseBatteryStaple"
               account := none }] :=
  decodeWifi_roundTrip wifiAnswers.env linkedTables_isImpacket "CorrectHorseBatteryStaple"
    (by decide +kernel) wifiBlob rfl rfl keyMaterialHex isHexOf_keyMaterialHex
    "<WLANProfile><MSM><security><sharedKey>" "\n  " "\n  "
    "</sharedKey></security></MSM></WLANProfile>" (by decide +kernel)
    (List.all_eq_true.mp (by decide)) (List.all_eq_true.mp (by decide))

end DpapiForensic
