import DpapiForensic.Layout.Blob

/-!
# The blob parser accepts exactly its grammar

`read_u32` never fails, so four bare reads can leave the cursor past the end of the data with a
made-up value in hand. What saves the parser is that a length-prefixed read follows each of them, and
such a read succeeds only inside the data: from its success every earlier read was in range. The
argument below goes forward through the reads collecting positions, and backward collecting ranges.
-/

namespace DpapiForensic

namespace Blob

variable {env : Env} {fallback : UInt32} {data bs : Bytes} {pos next : Nat} {β : Type} {b : β}

/-! ### The readers -/

theorem readU32_eq (h : pos + 4 < 2 ^ 64) :
    readU32 env fallback data pos = .ok (u32At fallback data pos (pos + 4), pos + 4) := by
  simp only [readU32, usizeAdd_of_lt h, Outcome.ok_bind, Outcome.pure_eq]

theorem readU32_of_bytesAt (hdata : IsSlice data) {v : UInt32} (h : BytesAt data pos (le32 v)) :
    readU32 env fallback data pos = .ok (v, pos + 4) := by
  have hle := h.le
  rw [length_le32] at hle
  unfold IsSlice at hdata
  rw [readU32_eq (by omega), u32At_of_bytesAt h]

/-- **A length-prefixed read is exact.** It succeeds precisely on a field that stands, length and all,
inside the data, from a cursor that may already have run past the end. -/
theorem readLenPrefixed_eq_ok_iff (hdata : IsSlice data) (hpos : pos ≤ data.length + 64) :
    readLenPrefixed env fallback data pos = .ok (bs, next) ↔
      bs.length < 2 ^ 32 ∧ BytesAt data pos (lp bs) ∧ next = pos + (lp bs).length := by
  unfold IsSlice at hdata
  have hlen := (u32At fallback data pos (pos + 4)).toNat_lt
  rw [readLenPrefixed, readU32_eq (by omega)]
  simp only [Outcome.ok_bind]
  rw [usizeAdd_of_lt (by omega)]
  simp only [Outcome.ok_bind, Outcome.bind_eq_ok_iff, Outcome.okOr_eq_ok_iff, getRange_eq_some_iff,
    Outcome.pure_eq, Outcome.ok.injEq, Prod.mk.injEq]
  rw [← and_assoc, bytesAt_lp_iff fallback, length_lp]
  constructor
  · rintro ⟨slice, ⟨hslice, hstop⟩, rfl, rfl⟩
    exact ⟨⟨hslice, by omega⟩, by omega⟩
  · rintro ⟨⟨hslice, hbs⟩, rfl⟩
    exact ⟨bs, ⟨hslice, by omega⟩, rfl, by omega⟩

theorem readLenPrefixed_of_bytesAt (hdata : IsSlice data) (hbs : bs.length < 2 ^ 32)
    (h : BytesAt data pos (lp bs)) :
    readLenPrefixed env fallback data pos = .ok (bs, pos + (lp bs).length) := by
  have hle := h.le
  exact (readLenPrefixed_eq_ok_iff hdata (by omega)).mpr ⟨hbs, h, rfl⟩

/-- A bare read never fails, but it read a word that is there once its cursor stays in range. -/
theorem readU32_bind_eq_ok {f : UInt32 × Nat → Outcome DpapiError β} (hdata : IsSlice data)
    (hpos : pos ≤ data.length + 64) (h : (readU32 env fallback data pos >>= f) = .ok b) :
    ∃ v, (pos + 4 ≤ data.length → BytesAt data pos (le32 v)) ∧ f (v, pos + 4) = .ok b := by
  unfold IsSlice at hdata
  rw [readU32_eq (by omega), Outcome.ok_bind] at h
  exact ⟨u32At fallback data pos (pos + 4), bytesAt_u32At, h⟩

theorem readLenPrefixed_bind_eq_ok {f : Bytes × Nat → Outcome DpapiError β} (hdata : IsSlice data)
    (hpos : pos ≤ data.length + 64) (h : (readLenPrefixed env fallback data pos >>= f) = .ok b) :
    ∃ field : Field, pos + (lp field.val).length ≤ data.length ∧ BytesAt data pos (lp field.val) ∧
      f (field.val, pos + (lp field.val).length) = .ok b := by
  obtain ⟨⟨bs, next⟩, hread, hf⟩ := Outcome.bind_eq_ok_iff.mp h
  obtain ⟨hbs, hat, rfl⟩ := (readLenPrefixed_eq_ok_iff hdata hpos).mp hread
  exact ⟨⟨bs, hbs⟩, hat.le, hat, hf⟩

theorem readU32_bind_ne_panic {f : UInt32 × Nat → Outcome DpapiError β} (hdata : IsSlice data)
    (hpos : pos ≤ data.length + 64) (hf : ∀ v, f (v, pos + 4) ≠ .panic) :
    (readU32 env fallback data pos >>= f) ≠ .panic := by
  unfold IsSlice at hdata
  rw [readU32_eq (by omega), Outcome.ok_bind]
  exact hf _

theorem readLenPrefixed_ne_panic (hdata : IsSlice data) (hpos : pos ≤ data.length + 64) :
    readLenPrefixed env fallback data pos ≠ .panic := by
  unfold IsSlice at hdata
  have hlen := (u32At fallback data pos (pos + 4)).toNat_lt
  rw [readLenPrefixed, readU32_eq (by omega)]
  simp only [Outcome.ok_bind]
  rw [usizeAdd_of_lt (by omega)]
  simp only [Outcome.ok_bind]
  exact Outcome.bind_ne_panic Outcome.okOr_ne_panic (by simp)

/-- What follows a length-prefixed read starts inside the data, behind the length at least. -/
theorem readLenPrefixed_bind_ne_panic {f : Bytes × Nat → Outcome DpapiError β}
    (hdata : IsSlice data) (hpos : pos ≤ data.length + 64)
    (hf : ∀ bs next, pos + 4 ≤ next → next ≤ data.length → f (bs, next) ≠ .panic) :
    (readLenPrefixed env fallback data pos >>= f) ≠ .panic := by
  refine Outcome.bind_ne_panic (readLenPrefixed_ne_panic hdata hpos) fun ⟨bs, next⟩ hread => ?_
  obtain ⟨-, hat, rfl⟩ := (readLenPrefixed_eq_ok_iff hdata hpos).mp hread
  have hle := hat.le
  rw [length_lp] at hle ⊢
  exact hf bs _ (by omega) hle

theorem readGuid_eq_ok_iff (hdata : IsSlice data) (hpos : pos + 16 ≤ data.length)
    {guid : Vector UInt8 16} :
    readGuid env data pos = .ok guid ↔ BytesAt data pos guid.toList := by
  unfold IsSlice at hdata
  obtain ⟨slice, hslice, hlen⟩ := exists_bytesAt 16 hpos
  have hread : readGuid env data pos = .ok ⟨slice.toArray, by simpa using hlen⟩ := by
    rw [readGuid, usizeAdd_of_lt (by omega)]
    simp only [Outcome.ok_bind, hslice.sliceRange_eq (by rw [hlen]), tryIntoArray, dif_pos hlen,
      Outcome.pure_eq]
  rw [hread, Outcome.ok.injEq]
  constructor
  · rintro rfl
    exact hslice
  · intro h
    apply Vector.toList_inj.mp
    exact hslice.inj h (by simp [hlen])

theorem readGuid_ne_panic (hdata : IsSlice data) (hpos : pos + 16 ≤ data.length) :
    readGuid env data pos ≠ .panic := by
  obtain ⟨slice, hslice, hlen⟩ := exists_bytesAt 16 hpos
  have hread : readGuid env data pos = .ok ⟨slice.toArray, by simpa using hlen⟩ :=
    (readGuid_eq_ok_iff hdata hpos).mpr hslice
  rw [hread]
  simp

end Blob

open Blob

section Parse

variable {env : Env} {fallback : UInt32} {data : Bytes} {b : DpapiBlob}

theorem sliceRange_signedBytes {w : WireBlob} (h : BytesAt data 0 w.bytes) {stop : Nat}
    (hstop : stop = 20 + w.signedBytes.length) :
    (sliceRange data 20 stop : Outcome DpapiError Bytes) = .ok w.signedBytes := by
  rw [WireBlob.bytes, bytesAt_append, bytesAt_append, bytesAt_append, length_le32,
    Vector.length_toList] at h
  obtain ⟨-, -, hsigned, -⟩ := h
  exact hsigned.sliceRange_eq hstop

theorem exists_wireBlob_of_parse (hdata : IsSlice data)
    (h : parseDpapiBlobWith env fallback data = .ok b) :
    ∃ w : WireBlob, BytesAt data 0 w.bytes ∧ b = w.toBlob := by
  have hmax : data.length < 2 ^ 63 := hdata
  rw [parseDpapiBlobWith] at h
  -- forward: the cursor after each read, and that it is inside the data after a checked one
  obtain ⟨_, hlen, h⟩ := Outcome.bind_eq_ok_iff.mp h
  rw [Outcome.failIf_eq_ok_iff] at hlen
  obtain ⟨version, hversion, h⟩ := readU32_bind_eq_ok hdata (by omega) h
  obtain ⟨_, hsupported, h⟩ := Outcome.bind_eq_ok_iff.mp h
  rw [Outcome.failIf_eq_ok_iff] at hsupported
  obtain ⟨provider, hprovider, h⟩ := Outcome.bind_eq_ok_iff.mp h
  rw [readGuid_eq_ok_iff hdata (by omega)] at hprovider
  obtain ⟨_, hisProvider, h⟩ := Outcome.bind_eq_ok_iff.mp h
  rw [Outcome.failIf_eq_ok_iff, not_not] at hisProvider
  rw [hisProvider] at hprovider
  rw [usizeAdd_of_lt (by omega), Outcome.ok_bind] at h
  obtain ⟨mkVersion, hmkVersion, h⟩ := readU32_bind_eq_ok hdata (by omega) h
  obtain ⟨guid, hguid, h⟩ := Outcome.bind_eq_ok_iff.mp h
  rw [readGuid_eq_ok_iff hdata (by omega)] at hguid
  rw [usizeAdd_of_lt (by omega), Outcome.ok_bind] at h
  obtain ⟨flags, hflags, h⟩ := readU32_bind_eq_ok hdata (by omega) h
  obtain ⟨desc, hdescLe, hdesc, h⟩ := readLenPrefixed_bind_eq_ok hdata (by omega) h
  obtain ⟨crypt, hcrypt, h⟩ := readU32_bind_eq_ok hdata (by omega) h
  obtain ⟨cryptLen, hcryptLen, h⟩ := readU32_bind_eq_ok hdata (by omega) h
  obtain ⟨salt, hsaltLe, hsalt, h⟩ := readLenPrefixed_bind_eq_ok hdata (by omega) h
  obtain ⟨hmacKey, hhmacKeyLe, hhmacKey, h⟩ := readLenPrefixed_bind_eq_ok hdata (by omega) h
  obtain ⟨hash, hhash, h⟩ := readU32_bind_eq_ok hdata (by omega) h
  obtain ⟨hashLen, hhashLen, h⟩ := readU32_bind_eq_ok hdata (by omega) h
  obtain ⟨hmac, hhmacLe, hhmac, h⟩ := readLenPrefixed_bind_eq_ok hdata (by omega) h
  obtain ⟨cipher, hcipherLe, hcipher, h⟩ := readLenPrefixed_bind_eq_ok hdata (by omega) h
  obtain ⟨sign, hsignLe, hsign, h⟩ := readLenPrefixed_bind_eq_ok hdata (by omega) h
  obtain ⟨_, -, h⟩ := Outcome.bind_eq_ok_iff.mp h
  obtain ⟨toSign, htoSign, h⟩ := Outcome.bind_eq_ok_iff.mp h
  -- backward: every bare read lies before a checked one, so it was in range
  let w : WireBlob :=
    { version, mkVersion, masterKeyGuid := guid, flags, description := desc
      version_supported := by
        by_contra hne
        exact hsupported (not_or.mp hne)
      algIdEncrypt := crypt, cryptAlgoLen := cryptLen, salt, hmacKey, algIdHash := hash
      hashAlgoLen := hashLen, hmac, ciphertext := cipher, sign }
  have hbytes : BytesAt data 0 w.bytes := by
    simp only [w, WireBlob.bytes, WireBlob.signedBytes, List.append_assoc, bytesAt_append,
      length_le32, Vector.length_toList]
    exact ⟨hversion (by omega), hprovider, hmkVersion (by omega), hguid, hflags (by omega), hdesc,
      hcrypt (by omega), hcryptLen (by omega), hsalt, hhmacKey, hhash (by omega),
      hhashLen (by omega), hhmac, hcipher, hsign⟩
  refine ⟨w, hbytes, ?_⟩
  rw [sliceRange_signedBytes hbytes (by
    simp only [w, WireBlob.signedBytes, List.length_append, length_le32, Vector.length_toList]
    omega), Outcome.ok.injEq] at htoSign
  rw [Outcome.pure_eq, Outcome.ok.injEq] at h
  rw [← h, ← htoSign]
  rfl

theorem parse_of_bytesAt (hdata : IsSlice data) {w : WireBlob} (h : BytesAt data 0 w.bytes) :
    parseDpapiBlobWith env fallback data = .ok w.toBlob := by
  have hmax : data.length < 2 ^ 63 := hdata
  have htoSign := sliceRange_signedBytes h rfl
  have hsupported := w.version_supported
  simp only [WireBlob.bytes, WireBlob.signedBytes, List.append_assoc, bytesAt_append,
    length_le32, Vector.length_toList] at h
  obtain ⟨hversion, hprovider, hmkVersion, hguid, hflags, hdesc, hcrypt, hcryptLen, hsalt, hhmacKey,
    hhash, hhashLen, hhmac, hcipher, hsign⟩ := h
  have hhashLe := hhash.le
  have hguidLe := hguid.le
  have hdescLe := hdesc.le
  simp only [length_le32, Vector.length_toList, length_lp] at hhashLe hguidLe hdescLe
  rw [parseDpapiBlobWith]
  refine Outcome.bind_of_ok (Outcome.failIf_of_not (by omega)) ?_
  refine Outcome.bind_of_ok (readU32_of_bytesAt hdata hversion) ?_
  refine Outcome.bind_of_ok (Outcome.failIf_of_not (by tauto)) ?_
  refine Outcome.bind_of_ok ((readGuid_eq_ok_iff hdata (by omega)).mpr hprovider) ?_
  refine Outcome.bind_of_ok (Outcome.failIf_of_not (not_not.mpr rfl)) ?_
  refine Outcome.bind_of_ok (usizeAdd_of_lt (by omega)) ?_
  refine Outcome.bind_of_ok (readU32_of_bytesAt hdata hmkVersion) ?_
  refine Outcome.bind_of_ok ((readGuid_eq_ok_iff hdata (by omega)).mpr hguid) ?_
  refine Outcome.bind_of_ok (usizeAdd_of_lt (by omega)) ?_
  refine Outcome.bind_of_ok (readU32_of_bytesAt hdata hflags) ?_
  refine Outcome.bind_of_ok (readLenPrefixed_of_bytesAt hdata w.description.property hdesc) ?_
  refine Outcome.bind_of_ok (readU32_of_bytesAt hdata hcrypt) ?_
  refine Outcome.bind_of_ok (readU32_of_bytesAt hdata hcryptLen) ?_
  refine Outcome.bind_of_ok (readLenPrefixed_of_bytesAt hdata w.salt.property hsalt) ?_
  refine Outcome.bind_of_ok (readLenPrefixed_of_bytesAt hdata w.hmacKey.property hhmacKey) ?_
  refine Outcome.bind_of_ok (readU32_of_bytesAt hdata hhash) ?_
  refine Outcome.bind_of_ok (readU32_of_bytesAt hdata hhashLen) ?_
  refine Outcome.bind_of_ok (readLenPrefixed_of_bytesAt hdata w.hmac.property hhmac) ?_
  refine Outcome.bind_of_ok (readLenPrefixed_of_bytesAt hdata w.ciphertext.property hcipher) ?_
  refine Outcome.bind_of_ok (readLenPrefixed_of_bytesAt hdata w.sign.property hsign) ?_
  refine Outcome.bind_of_ok (Outcome.failIf_of_not (by omega)) ?_
  refine Outcome.bind_of_ok ?_ rfl
  rw [← htoSign]
  congr 1
  simp only [WireBlob.signedBytes, List.length_append, length_le32, Vector.length_toList]
  omega

theorem parse_ne_panic (hdata : IsSlice data) : parseDpapiBlobWith env fallback data ≠ .panic := by
  have hmax : data.length < 2 ^ 63 := hdata
  rw [parseDpapiBlobWith]
  refine Outcome.bind_ne_panic Outcome.failIf_ne_panic fun _ hlen => ?_
  rw [Outcome.failIf_eq_ok_iff] at hlen
  refine readU32_bind_ne_panic hdata (by omega) fun version => ?_
  refine Outcome.bind_ne_panic Outcome.failIf_ne_panic fun _ _ => ?_
  refine Outcome.bind_ne_panic (readGuid_ne_panic hdata (by omega)) fun provider _ => ?_
  refine Outcome.bind_ne_panic Outcome.failIf_ne_panic fun _ _ => ?_
  rw [usizeAdd_of_lt (by omega), Outcome.ok_bind]
  refine readU32_bind_ne_panic hdata (by omega) fun mkVersion => ?_
  refine Outcome.bind_ne_panic (readGuid_ne_panic hdata (by omega)) fun guid _ => ?_
  rw [usizeAdd_of_lt (by omega), Outcome.ok_bind]
  refine readU32_bind_ne_panic hdata (by omega) fun flags => ?_
  refine readLenPrefixed_bind_ne_panic hdata (by omega) fun description p hp hle => ?_
  refine readU32_bind_ne_panic hdata (by omega) fun algIdEncrypt => ?_
  refine readU32_bind_ne_panic hdata (by omega) fun cryptAlgoLen => ?_
  refine readLenPrefixed_bind_ne_panic hdata (by omega) fun salt p hp hle => ?_
  refine readLenPrefixed_bind_ne_panic hdata (by omega) fun hmacKey p hp hle => ?_
  refine readU32_bind_ne_panic hdata (by omega) fun algIdHash => ?_
  refine readU32_bind_ne_panic hdata (by omega) fun hashAlgoLen => ?_
  refine readLenPrefixed_bind_ne_panic hdata (by omega) fun hmac p hp hle => ?_
  refine readLenPrefixed_bind_ne_panic hdata (by omega) fun ciphertext stop hp hle => ?_
  refine Outcome.bind_ne_panic (readLenPrefixed_ne_panic hdata (by omega)) fun _ _ => ?_
  refine Outcome.bind_ne_panic Outcome.failIf_ne_panic fun _ hstop => ?_
  rw [Outcome.failIf_eq_ok_iff] at hstop
  obtain ⟨slice, hslice, -⟩ := exists_getRange (show 20 ≤ stop by omega) hle
  simp [sliceRange, hslice]

theorem parse_strict_prefix {w : WireBlob} {cut : Bytes} (hcut : cut <+: w.bytes)
    (hne : cut ≠ w.bytes) : ∃ e, parseDpapiBlobWith env fallback cut = .err e := by
  have hslice : IsSlice cut := lt_of_le_of_lt hcut.length_le w.isSlice_bytes
  refine Outcome.exists_err_of_ne (fun b hb => ?_) (parse_ne_panic hslice)
  obtain ⟨w', hw', -⟩ := exists_wireBlob_of_parse hslice hb
  exact WireBlob.selfDelimiting.not_bytesAt_cut hcut hne hw'

/-- **The parser accepts exactly its grammar.** An input is accepted precisely when it starts with a
serialisation, whose components are returned; what a read past the end yields is irrelevant; a
serialisation cut short is refused; and nothing that follows one changes the result. -/
theorem parseDpapiBlob_exact (env : Env) :
    (∀ (data : Slice) (b : DpapiBlob), parseDpapiBlob env data.val = .ok b ↔
      ∃ (w : WireBlob) (rest : Bytes), data.val = w.bytes ++ rest ∧ b = w.toBlob ∧
        b.toSign = (w.bytes.take (w.bytes.length - (lp w.sign.val).length)).drop 20) ∧
    (∀ (data : Slice) (fallback : UInt32) (b : DpapiBlob),
      parseDpapiBlobWith env fallback data.val = .ok b ↔ parseDpapiBlob env data.val = .ok b) ∧
    (∀ (w : WireBlob) (cut : Bytes), cut <+: w.bytes → cut ≠ w.bytes →
      ∃ e, parseDpapiBlob env cut = .err e) ∧
    (∀ (w : WireBlob) (data : Slice), w.bytes <+: data.val →
      parseDpapiBlob env data.val = parseDpapiBlob env w.bytes) := by
  refine ⟨fun data b => ⟨fun h => ?_, ?_⟩, fun data fallback b => ⟨fun h => ?_, fun h => ?_⟩,
    fun w cut => parse_strict_prefix, fun w data ⟨rest, hrest⟩ => ?_⟩
  · obtain ⟨w, hw, rfl⟩ := exists_wireBlob_of_parse data.property h
    obtain ⟨rest, hrest⟩ := bytesAt_zero_iff.mp hw
    exact ⟨w, rest, hrest, rfl, w.signedBytes_eq_slice⟩
  · rintro ⟨w, rest, hrest, rfl, -⟩
    exact parse_of_bytesAt data.property (bytesAt_zero_iff.mpr ⟨rest, hrest⟩)
  · obtain ⟨w, hw, rfl⟩ := exists_wireBlob_of_parse data.property h
    exact parse_of_bytesAt data.property hw
  · obtain ⟨w, hw, rfl⟩ := exists_wireBlob_of_parse data.property h
    exact parse_of_bytesAt data.property hw
  · have hself : BytesAt w.bytes 0 w.bytes := bytesAt_self
    have hdata : BytesAt data.val 0 w.bytes := bytesAt_zero_iff.mpr ⟨rest, hrest.symm⟩
    rw [parseDpapiBlob, parse_of_bytesAt data.property hdata, parseDpapiBlob,
      parse_of_bytesAt w.isSlice_bytes hself]

end Parse

end DpapiForensic
