import DpapiForensic.Lib.Truncation
import DpapiForensic.Proof.MasterKeyFile
import DpapiForensic.Proof.RunLocked

/-!
# What is said of files that were cut short

A file that stops in the middle is reported as too short, with the length it has and a length it would
take to read on. The first is true by construction. The second is not: most reads of the parsers fall
back to 0 past the end, so the length they ask for next is made up. It still is a lower bound. A
made-up length is 0, and the cursor in front of it is where the whole file has its field.
-/

namespace DpapiForensic

variable {env : Env} {data rest : Bytes} {pos whole : Nat}

/-! ### The blob -/

namespace Blob

variable {β : Type} {v : UInt32} {f : UInt32 × Nat → Outcome DpapiError β}

/-- A bare read may make up its value, but not the position it leaves. -/
theorem readU32_bind_asksWithin {fallback : UInt32} (hwhole : whole < 2 ^ 63)
    (hcut : CutAt data (le32 v ++ rest) pos whole)
    (hf : ∀ v, CutAt data rest (pos + 4) whole →
      (f (v, pos + 4)).AsksWithin .tooShort data.length whole) :
    (readU32 env fallback data pos >>= f).AsksWithin .tooShort data.length whole := by
  have hends := hcut.ends
  rw [readU32_eq (by omega), Outcome.ok_bind]
  exact hf _ (by simpa using hcut.next)

theorem readLenPrefixed_reportsCuts :
    Reader.ReportsCuts .tooShort (readLenPrefixed env 0) (fun field : Field => lp field.val)
      fun field => field.val := by
  intro data rest pos whole field hdata hwhole hcut
  have hends := hcut.ends
  rcases hcut.lp_cases with hthere | ⟨hlt, hle⟩
  · exact Or.inl ⟨hthere.le, readLenPrefixed_of_bytesAt hdata field.property hthere⟩
  · apply Or.inr
    rw [readLenPrefixed, readU32_eq (by omega), Outcome.ok_bind]
    simp only
    rw [usizeAdd_of_lt (by omega), Outcome.ok_bind, Outcome.ok_bind]
    exact (Outcome.asksWithin_getRange hlt hle).bind

end Blob

open Blob in
theorem parseDpapiBlob_reportsCuts :
    ReportsCuts .tooShort (parseDpapiBlob env) WireBlob.bytes := by
  apply ReportsCuts.of_cutAt WireBlob.isSlice_bytes
  intro w cut whole hdata hwhole hcut
  have hlength := hcut.ends
  simp only [WireBlob.bytes, WireBlob.signedBytes, List.length_append, length_le32, length_lp,
    Vector.length_toList] at hlength
  rw [parseDpapiBlob, parseDpapiBlobWith]
  by_cases hshort : cut.length < 48
  · exact (Outcome.asksWithin_failIf hshort hshort (by omega)).bind
  simp only [WireBlob.bytes, WireBlob.signedBytes, List.append_assoc] at hcut
  -- the first 48 bytes are there
  have hversion := hcut.bytesAt (by rw [length_le32]; omega)
  have hguids := hcut.next
  have hprovider := hguids.bytesAt (by simp only [length_le32, Vector.length_toList]; omega)
  have hmkVersion := hguids.next
  have hguid := hmkVersion.next.bytesAt
    (by simp only [length_le32, Vector.length_toList]; omega)
  simp only [length_le32, Vector.length_toList, Nat.zero_add, Nat.reduceAdd]
    at hprovider hmkVersion hguid
  have hflags := hmkVersion.next.next
  simp only [length_le32, Vector.length_toList, Nat.reduceAdd] at hflags
  rw [Outcome.failIf_of_not hshort, Outcome.ok_bind]
  simp only
  rw [Blob.readU32_of_bytesAt hdata hversion, Outcome.ok_bind]
  simp only
  rw [Outcome.failIf_of_not (by have := w.version_supported; tauto), Outcome.ok_bind,
    (readGuid_eq_ok_iff hdata (by omega)).mpr hprovider, Outcome.ok_bind,
    Outcome.failIf_of_not (not_not.mpr rfl), Outcome.ok_bind, usizeAdd_of_lt (by omega),
    Outcome.ok_bind]
  apply readU32_bind_asksWithin hwhole hmkVersion
  intro _ hcut
  simp only
  rw [(readGuid_eq_ok_iff hdata (by omega)).mpr hguid, Outcome.ok_bind, usizeAdd_of_lt (by omega),
    Outcome.ok_bind]
  -- from here on any read may be the one that fails
  apply readU32_bind_asksWithin hwhole hflags
  intro _ hcut
  apply readLenPrefixed_reportsCuts.bind (w := w.description) hdata hwhole hcut
  intro _ hcut
  apply readU32_bind_asksWithin hwhole hcut
  intro _ hcut
  apply readU32_bind_asksWithin hwhole hcut
  intro _ hcut
  apply readLenPrefixed_reportsCuts.bind (w := w.salt) hdata hwhole hcut
  intro _ hcut
  apply readLenPrefixed_reportsCuts.bind (w := w.hmacKey) hdata hwhole hcut
  intro _ hcut
  apply readU32_bind_asksWithin hwhole hcut
  intro _ hcut
  apply readU32_bind_asksWithin hwhole hcut
  intro _ hcut
  apply readLenPrefixed_reportsCuts.bind (w := w.hmac) hdata hwhole hcut
  intro _ hcut
  apply readLenPrefixed_reportsCuts.bind (w := w.ciphertext) hdata hwhole hcut
  intro _ hcut
  rw [← List.append_nil (lp w.sign.val)] at hcut
  apply readLenPrefixed_reportsCuts.bind (w := w.sign) hdata hwhole hcut
  intro hle hcut
  exact absurd hcut.lt_length (Nat.not_lt.mpr hle)

/-! ### The vault -/

namespace Vault

theorem takeBytes_of_cut {field : Field} (hwhole : whole < 2 ^ 63)
    (hcut : CutAt data (lp field.val ++ rest) pos whole) :
    pos + (lp field.val).length ≤ data.length ∧
        takeBytes data (pos + 4) (u32At 0 data pos (pos + 4)).toNat
          = .ok (field.val, pos + (lp field.val).length) ∨
      (takeBytes data (pos + 4) (u32At 0 data pos (pos + 4)).toNat).AsksWithin .tooShort
        data.length whole := by
  have hends := hcut.ends
  rcases hcut.lp_cases with hthere | ⟨hlt, hle⟩
  · exact Or.inl ⟨hthere.le, (takeBytes_u32At_eq_ok_iff (by omega)).mpr
      ⟨field.property, hthere, rfl⟩⟩
  · apply Or.inr
    rw [takeBytes, checkedAdd_of_lt (by omega), Outcome.okOr_some, Outcome.ok_bind]
    exact (Outcome.asksWithin_getRange hlt hle).bind

section Advance

variable {β : Type} {f : Nat → Outcome DpapiError β} {len : Nat}

theorem advance_asksWithin (hwhole : whole < 2 ^ 63) (hlt : data.length < pos + len)
    (hle : pos + len ≤ whole) :
    (advance pos len data.length).AsksWithin .tooShort data.length whole := by
  rw [advance, checkedAdd_of_lt (by omega), Outcome.okOr_some, Outcome.ok_bind]
  exact (Outcome.asksWithin_failIf hlt hlt hle).bind

theorem advance_bind_asksWithin {bytes : Bytes} (hdata : IsSlice data) (hwhole : whole < 2 ^ 63)
    (hcut : CutAt data (bytes ++ rest) pos whole) (hlen : len = bytes.length)
    (hf : CutAt data rest (pos + len) whole →
      (f (pos + len)).AsksWithin .tooShort data.length whole) :
    (advance pos len data.length >>= f).AsksWithin .tooShort data.length whole := by
  have hends := hcut.ends
  rw [List.length_append] at hends
  by_cases hthere : pos + len ≤ data.length
  · rw [(advance_eq_ok_iff hdata).mpr ⟨hthere, rfl⟩, Outcome.ok_bind]
    exact hf (hlen ▸ hcut.next)
  · exact (advance_asksWithin hwhole (by omega) (by omega)).bind

/-- Skipping a field by the length in front of it. -/
theorem advance_field_bind_asksWithin {field : Field} (hdata : IsSlice data) (hwhole : whole < 2 ^ 63)
    (hcut : CutAt data (lp field.val ++ rest) pos whole)
    (hf : CutAt data rest (pos + (lp field.val).length) whole →
      (f (pos + (lp field.val).length)).AsksWithin .tooShort data.length whole) :
    (advance (pos + 4) (u32At 0 data pos (pos + 4)).toNat data.length >>= f).AsksWithin .tooShort
      data.length whole := by
  rcases hcut.lp_cases with hthere | ⟨hlt, hle⟩
  · have hlen := ((bytesAt_lp_iff 0).mp ⟨field.property, hthere⟩).2
    have hstop : pos + (lp field.val).length = pos + 4 + field.val.length := by
      rw [length_lp, Nat.add_assoc]
    rw [← hlen, (advance_eq_ok_iff hdata).mpr ⟨hstop ▸ hthere.le, rfl⟩, Outcome.ok_bind, ← hstop]
    exact hf hcut.next
  · exact (advance_asksWithin hwhole hlt hle).bind

end Advance

theorem readIdLenUtf16_reportsCuts :
    Reader.ReportsCuts .tooShort (readIdLenUtf16 env 0) WireTriple.bytes
      fun w => decodeUtf16le w.value.val := by
  intro data rest pos whole w hdata hwhole hcut
  have hends := hcut.ends
  rw [WireTriple.bytes, List.append_assoc] at hcut
  rw [List.length_append, WireTriple.length_bytes] at hends
  have hvalue := hcut.next
  rw [length_le32] at hvalue
  rw [readIdLenUtf16, readU32_eq (by omega), Outcome.ok_bind]
  simp only
  rw [readU32_eq (by omega), Outcome.ok_bind]
  simp only
  rcases takeBytes_of_cut hwhole hvalue with ⟨hle, htake⟩ | hasks
  · apply Or.inl
    rw [length_lp] at hle htake
    rw [htake, Outcome.ok_bind, WireTriple.length_bytes]
    exact ⟨by omega, by rw [Outcome.pure_eq, Nat.add_assoc, ← Nat.add_assoc 4]⟩
  · exact Or.inr hasks.bind

theorem readBcryptKey_reportsCuts :
    Reader.ReportsCuts .tooShort (readBcryptKey env 0) WireKeyWrap.bytes fun w => w.bKey.val := by
  intro data rest pos whole w hdata hwhole hcut
  have hends := hcut.ends
  simp only [WireKeyWrap.bytes, List.append_assoc] at hcut
  have hkey := hcut.next.next.next.next.next
  simp only [length_le32] at hkey
  rw [List.length_append, WireKeyWrap.length_bytes] at hends
  rw [readBcryptKey_eq (by omega), WireKeyWrap.length_bytes]
  rcases takeBytes_of_cut hwhole hkey with ⟨hle, htake⟩ | hasks
  · apply Or.inl
    rw [length_lp] at hle htake
    rw [htake]
    exact ⟨by omega, by congr 2; omega⟩
  · exact Or.inr hasks

end Vault

open Vault

theorem parseVpolFile_reportsCuts : ReportsCuts .tooShort (parseVpolFile env) WireVpol.bytes := by
  apply ReportsCuts.of_cutAt WireVpol.isSlice_bytes
  intro w cut whole hdata hwhole hcut
  simp only [WireVpol.bytes] at hcut
  have hdescription := hcut.next.next
  simp only [length_le32, Vector.length_toList, Nat.zero_add, Nat.reduceAdd] at hdescription
  rw [← List.append_nil (lp w.blob.val)] at hdescription
  rw [parseVpolFile, parseVpolFileWith, readU32_eq (by omega), Outcome.ok_bind]
  simp only [Nat.zero_add]
  rw [saturatingAdd_of_lt (by omega), readU32_eq (by omega), Outcome.ok_bind]
  apply advance_field_bind_asksWithin hdata hwhole hdescription
  intro hunknown
  apply advance_bind_asksWithin hdata hwhole hunknown (by simp)
  intro hsize
  have hends := hsize.ends
  rw [List.length_append, length_le32] at hends
  rw [readU32_eq (by omega), Outcome.ok_bind]
  have hguids := hsize.next
  rw [length_le32, ← List.append_assoc] at hguids
  apply advance_bind_asksWithin hdata hwhole hguids (by simp)
  intro hblob
  have hends := hblob.ends
  rw [List.length_append, length_lp] at hends
  rw [readU32_eq (by omega), Outcome.ok_bind]
  simp only
  rcases takeBytes_of_cut hwhole hblob with ⟨hle, -⟩ | hasks
  · exact absurd hblob.next.lt_length (Nat.not_lt.mpr hle)
  · exact hasks.bind

theorem readVpolKeysWith_reportsCuts :
    ReportsCuts .tooShort (readVpolKeysWith env 0) WireVpolKeys.bytes := by
  apply ReportsCuts.of_cutAt WireVpolKeys.isSlice_bytes
  intro w cut whole hdata hwhole hcut
  rw [WireVpolKeys.bytes, ← List.append_nil w.wrap2.bytes] at hcut
  apply readBcryptKey_reportsCuts.bind hdata hwhole hcut
  intro _ hwrap2
  apply readBcryptKey_reportsCuts.bind hdata hwhole hwrap2
  intro hle hend
  exact absurd hend.lt_length (Nat.not_lt.mpr hle)

theorem parseInternetExplorer_reportsCuts :
    ReportsCuts .tooShort (parseInternetExplorer env) WireWebCredential.bytes := by
  apply ReportsCuts.of_cutAt WireWebCredential.isSlice_bytes
  intro w cut whole hdata hwhole hcut
  simp only [WireWebCredential.bytes] at hcut
  have husername := hcut.next
  rw [← List.append_nil w.password.bytes] at husername
  rw [WireWebCredential.length_header, Nat.zero_add] at husername
  apply readIdLenUtf16_reportsCuts.bind hdata hwhole husername
  intro _ hresource
  apply readIdLenUtf16_reportsCuts.bind hdata hwhole hresource
  intro _ hpassword
  apply readIdLenUtf16_reportsCuts.bind hdata hwhole hpassword
  intro hle hend
  exact absurd hend.lt_length (Nat.not_lt.mpr hle)

/-! ### Credential Manager -/

theorem readLenPrefixedUtf16_reportsCuts :
    Reader.ReportsCuts .tooShort (Credential.readLenPrefixedUtf16 env 0)
      (fun field : Field => lp field.val) fun field => decodeUtf16le field.val := by
  intro data rest pos whole field hdata hwhole hcut
  have hends := hcut.ends
  rcases hcut.lp_cases with hthere | ⟨hlt, hle⟩
  · exact Or.inl ⟨hthere.le, Credential.readLenPrefixedUtf16_exact.of_bytesAt hdata hthere⟩
  · apply Or.inr
    rw [Credential.readLenPrefixedUtf16, Credential.readU32_eq (by omega), Outcome.ok_bind,
      checkedAdd_of_lt (by omega), Outcome.okOr_some, Outcome.ok_bind, checkedAdd_of_lt (by omega),
      Outcome.okOr_some, Outcome.ok_bind]
    exact (Outcome.asksWithin_getRange hlt hle).bind

theorem parseCredentialFile_reportsCuts :
    ReportsCuts .tooShort (parseCredentialFile env) WireCredentialFile.bytes := by
  apply ReportsCuts.of_cutAt WireCredentialFile.isSlice_bytes
  intro w cut whole hdata hwhole hcut
  have hends := hcut.ends
  have hshort := hcut.short
  simp only [WireCredentialFile.bytes, List.length_append, length_le32] at hends
  have hsize := hcut.next
  rw [length_le32, Nat.zero_add] at hsize
  rw [parseCredentialFile, parseCredentialFileWith, Credential.readU32_eq (by decide), Outcome.ok_bind]
  simp only [Nat.reduceAdd]
  by_cases hword : 8 ≤ cut.length
  · rw [hsize.u32At_eq hword, toNat_ofNat_length w.data.property, checkedAdd_of_lt (by omega),
      Outcome.okOr_some, Outcome.ok_bind]
    exact Outcome.asksWithin_getRange (by omega) (by omega)
  · rw [u32At_of_lt (show cut.length < 4 + 4 by omega), UInt32.toNat_zero, checkedAdd_of_lt (by decide),
      Outcome.okOr_some, Outcome.ok_bind]
    exact Outcome.asksWithin_getRange (by omega) (by omega)

theorem parseCredentialBlob_reportsCuts :
    ReportsCuts .tooShort (parseCredentialBlob env) WireCredential.bytes := by
  apply ReportsCuts.of_cutAt WireCredential.isSlice_bytes
  intro w cut whole hdata hwhole hcut
  have hends := hcut.ends
  simp only [WireCredential.bytes, List.length_append, WireCredentialHeader.length_bytes] at hends
  rw [parseCredentialBlob, parseCredentialBlobWith]
  simp only
  by_cases hshort : cut.length < 48
  · exact (Outcome.asksWithin_failIf hshort hshort (by omega)).bind
  simp only [WireCredential.bytes] at hcut
  have htarget := hcut.next
  rw [WireCredentialHeader.length_bytes, ← List.append_nil (lp w.username.val)] at htarget
  rw [Outcome.failIf_of_not hshort, Outcome.ok_bind, readU64_eq (by decide), Outcome.ok_bind]
  apply readLenPrefixedUtf16_reportsCuts.bind hdata hwhole htarget
  intro _ htargetAlias
  apply readLenPrefixedUtf16_reportsCuts.bind hdata hwhole htargetAlias
  intro _ hdescription
  apply readLenPrefixedUtf16_reportsCuts.bind hdata hwhole hdescription
  intro _ hunknown
  apply readLenPrefixedUtf16_reportsCuts.bind hdata hwhole hunknown
  intro _ husername
  apply readLenPrefixedUtf16_reportsCuts.bind hdata hwhole husername
  intro hle hend
  exact absurd hend.lt_length (Nat.not_lt.mpr hle)

/-! ### Master-key files -/

namespace MasterKey

variable {β : Type} {f : Bytes × Nat → Outcome DpapiError β} {len : Nat}

theorem takeSub_bind_asksWithin {bytes : Bytes} (hdata : IsSlice data) (hwhole : whole < 2 ^ 63)
    (hcut : CutAt data (bytes ++ rest) pos whole) (hlen : len = bytes.length)
    (hf : pos + len ≤ data.length → CutAt data rest (pos + len) whole →
      (f (bytes, pos + len)).AsksWithin .tooShort data.length whole) :
    (takeSub env data pos len >>= f).AsksWithin .tooShort data.length whole := by
  subst hlen
  have hends := hcut.ends
  rw [List.length_append] at hends
  by_cases hthere : pos + bytes.length ≤ data.length
  · rw [takeSub_of_bytesAt hdata (hcut.bytesAt hthere) rfl, Outcome.ok_bind]
    exact hf hthere hcut.next
  · rw [takeSub_of_gt (by omega) (by omega), Outcome.err_bind]
    exact ⟨_, rfl, by omega, by omega⟩

end MasterKey

open MasterKey in
theorem parseMasterkeyFile_reportsCuts :
    ReportsCuts .tooShort (parseMasterkeyFile env)
      fun w : { w : WireMasterKeyFile // IsSlice w.bytes } => w.val.bytes := by
  apply ReportsCuts.of_cutAt (fun w => w.property)
  intro w cut whole hdata hwhole hcut
  have hends := hcut.ends
  simp only [WireMasterKeyFile.bytes, List.length_append, MasterKeyHeader.length_bytes] at hends
  by_cases hshort : cut.length < headerLen
  · exact ⟨_, parse_of_short hshort, hshort, by unfold headerLen; omega⟩
  simp only [WireMasterKeyFile.bytes] at hcut
  have hheader := hcut.bytesAt (by
    rw [MasterKeyHeader.length_bytes, Nat.zero_add]
    exact Nat.not_lt.mp hshort)
  have hmasterKey := hcut.next
  rw [MasterKeyHeader.length_bytes, Nat.zero_add, ← List.append_nil w.val.domainKey] at hmasterKey
  have hlen : ∀ n, n ≤ whole → (UInt64.ofNat n).toNat = n := fun n hn => by
    rw [UInt64.toNat_ofNat', Nat.mod_eq_of_lt (by omega)]
  rw [parse_eq_takeAll hdata hheader, takeAll]
  apply takeSub_bind_asksWithin hdata hwhole hmasterKey (hlen _ (by omega))
  intro _ hbackupKey
  apply takeSub_bind_asksWithin hdata hwhole hbackupKey (hlen _ (by omega))
  intro _ hcredHist
  apply takeSub_bind_asksWithin hdata hwhole hcredHist (hlen _ (by omega))
  intro _ hdomainKey
  apply takeSub_bind_asksWithin hdata hwhole hdomainKey (hlen _ (by omega))
  intro hle hend
  exact absurd hend.lt_length (Nat.not_lt.mpr hle)

/-! ### The runs -/

/-- The error a run ends in where its parsers end in theirs. -/
def CliError.tooShort (needed got : Nat) : CliError := .dpapi (.tooShort needed got)

/-- A file that a command reads, or the blob inside it, was cut to `got` of its `whole` bytes. -/
inductive CutIn (env : Env) (fs : FileSystem) : Command → Nat → Nat → Prop
  | credential {path masterKeyHex : String} {cut : Bytes} {file : WireCredentialFile}
      (hfile : fs.readBytes path = .ok cut) (hcut : cut <+: file.bytes) (hne : cut ≠ file.bytes) :
      CutIn env fs (.credman path masterKeyHex) cut.length file.bytes.length
  | policy {vpol vcrd masterKeyHex : String} {cut vcrdBytes : Bytes} {policy : WireVpol}
      (hvpol : fs.readBytes vpol = .ok cut) (hvcrd : fs.readBytes vcrd = .ok vcrdBytes)
      (hcut : cut <+: policy.bytes) (hne : cut ≠ policy.bytes) :
      CutIn env fs (.vault vpol vcrd masterKeyHex) cut.length policy.bytes.length
  | blob {command : Command} {store : String} {cut : Bytes} {w : WireBlob}
      (hwraps : Wraps env fs cut command store) (hcut : cut <+: w.bytes) (hne : cut ≠ w.bytes) :
      CutIn env fs command cut.length w.bytes.length

section Run

open Cli Outcome

variable {α : Type} {fs : FileSystem} {got whole : Nat}

/-- A parser's complaint is passed on as it is: it locks nothing. -/
theorem AsksWithin.orLocked {store : String} {inner : Bytes} {x : Outcome DpapiError α}
    (h : x.AsksWithin .tooShort got whole) :
    (orLocked env store inner x).AsksWithin CliError.tooShort got whole := by
  obtain ⟨needed, rfl, hlt, hle⟩ := h
  exact ⟨needed, rfl, hlt, hle⟩

theorem run_asksWithin {decode : Bytes → Outcome CliError (List StoreResult)}
    {masterKeyHex : String} {masterKey : Bytes} (hkey : KeyGiven masterKeyHex masterKey)
    (h : (decode masterKey).AsksWithin CliError.tooShort got whole) :
    (do
      let results ← (do
        let mk ← parseMasterKeyHex masterKeyHex
        decode mk)
      pure { results } : Outcome CliError CliReport).AsksWithin CliError.tooShort got whole := by
  rw [parseMasterKeyHex_eq_ok_iff.mpr hkey, Outcome.ok_bind]
  exact h.bind

theorem run_of_cutIn (hfs : fs.ReturnsSlices) {command : Command} {masterKey : Bytes}
    (hkey : KeyGiven command.masterKeyHex masterKey) (h : CutIn env fs command got whole) :
    (Cli.run env fs command).AsksWithin CliError.tooShort got whole := by
  cases h with
  | credential hfile hcut hne =>
      apply run_asksWithin hkey
      rw [readBytes, hfile, orIo, Outcome.ok_bind, decodeCredman]
      exact ((parseCredentialFile_reportsCuts _ _ hcut hne).mapErr CliError.dpapi).bind
  | policy hvpol hvcrd hcut hne =>
      apply run_asksWithin hkey
      rw [readBytes, hvpol, orIo, Outcome.ok_bind, readBytes, hvcrd, orIo, Outcome.ok_bind, decodeVaultWith]
      exact ((parseVpolFile_reportsCuts _ _ hcut hne).mapErr CliError.dpapi).bind
  | blob hwraps hcut hne =>
      have hasks := @parseDpapiBlob_reportsCuts env _ _ hcut hne
      cases hwraps with
      | browser hjson hcookie hvalue hfield hdecoded =>
          rw [run_browser]
          apply run_asksWithin hkey
          rw [readToString, hjson, orIo, Outcome.ok_bind, readCookie_eq_ok_iff.mpr hcookie,
            Outcome.ok_bind, decodeBrowser_eq,
            browserKeyBlob_eq_ok_iff.mpr ⟨_, _, hvalue, hfield, hdecoded⟩, Outcome.ok_bind]
          exact (AsksWithin.orLocked hasks.bind).bind
      | credman hfile hinner =>
          apply run_asksWithin hkey
          rw [readBytes, hfile, orIo, Outcome.ok_bind, decodeCredman,
            stripCredential_eq_ok_iff.mpr ⟨_, _, rfl, hinner⟩, Outcome.ok_bind]
          exact (AsksWithin.orLocked hasks.bind).bind
      | vault hvpol hvcrd hinner =>
          apply run_asksWithin hkey
          rw [readBytes, hvpol, orIo, Outcome.ok_bind, readBytes, hvcrd, orIo, Outcome.ok_bind,
            decodeVaultWith, (stripPolicy_eq_ok_iff (hfs.bytes hvpol)).mpr ⟨_, _, rfl, hinner⟩,
            Outcome.ok_bind]
          exact (AsksWithin.orLocked hasks.bind).bind
      | wifi hprofile hbody hhex =>
          apply run_asksWithin hkey
          obtain ⟨keyMaterial, hkeyMaterial, hinner⟩ :=
            Outcome.bind_eq_ok_iff.mp (wifiKeyBlob_eq_ok_iff.mpr ⟨_, hbody, hhex⟩)
          rw [readToString, hprofile, orIo, Outcome.ok_bind, decodeWifi, hkeyMaterial,
            Outcome.ok_bind, hinner, Outcome.ok_bind, decryptWlanKeyMaterial,
            wifi_hexDecode_of_cli hinner, Outcome.ok_bind]
          exact (AsksWithin.orLocked hasks.bind).bind

end Run

/-- **What was cut short is said to be too short.** Every parser of a format that delimits itself refuses
a serialisation that stops early with the length it has and a length that reading on would take: more
than it has, and no more than the whole. A run over such a file, or over such a blob, ends in that error
too, under every key. -/
theorem cuts_reported (env : Env) :
    (ReportsCuts .tooShort (parseDpapiBlob env) WireBlob.bytes ∧
      ReportsCuts .tooShort (parseCredentialFile env) WireCredentialFile.bytes ∧
      ReportsCuts .tooShort (parseCredentialBlob env) WireCredential.bytes ∧
      ReportsCuts .tooShort (parseVpolFile env) WireVpol.bytes ∧
      ReportsCuts .tooShort (readVpolKeysWith env 0) WireVpolKeys.bytes ∧
      ReportsCuts .tooShort (parseInternetExplorer env) WireWebCredential.bytes ∧
      ReportsCuts .tooShort (parseMasterkeyFile env)
        fun w : { w : WireMasterKeyFile // IsSlice w.bytes } => w.val.bytes) ∧
    ∀ fs : FileSystem, fs.ReturnsSlices → ∀ command masterKey got whole,
      KeyGiven command.masterKeyHex masterKey → CutIn env fs command got whole →
        (Cli.run env fs command).AsksWithin CliError.tooShort got whole :=
  ⟨⟨parseDpapiBlob_reportsCuts, parseCredentialFile_reportsCuts, parseCredentialBlob_reportsCuts,
    parseVpolFile_reportsCuts, readVpolKeysWith_reportsCuts, parseInternetExplorer_reportsCuts,
    parseMasterkeyFile_reportsCuts⟩, fun _ hfs _ _ _ _ hkey => run_of_cutIn hfs hkey⟩

/-- A Credential file of fourteen bytes. -/
def smallCredential : WireCredentialFile where
  version := 1
  unknown := 0
  data := ⟨[0xd0, 0x8c], by decide⟩

theorem cuts_reported_smallCredential :
    (Cli.run vector1Answers.env (oneFile "Credentials" (smallCredential.bytes.take 13))
      (.credman "Credentials" (hexLower (List.replicate 64 0)))).AsksWithin CliError.tooShort 13 14 := by
  have hslice : IsSlice (smallCredential.bytes.take 13) :=
    lt_of_le_of_lt (List.length_take_le' 13 _) smallCredential.isSlice_bytes
  exact (cuts_reported vector1Answers.env).2 _ (oneFile_returnsSlices hslice) _ _ _ _
    (keyGiven_hexLower _)
    (.credential readBytes_oneFile (List.take_prefix 13 smallCredential.bytes) (by decide))

end DpapiForensic
