import DpapiForensic.Proof.Run

/-!
# When a run reports a locked store

Said of the files alone: a run ends in `Locked` when its files wrap a well-formed blob under a known
cipher, and that blob is no protection of anything under the key that was given. It then names the
store of the command and the master key the blob asks for. Every other failure is reported otherwise.
-/

namespace DpapiForensic

open Cli Wifi

variable {env : Env} {fs : FileSystem}

/-- The blob names a known cipher, and protects nothing under the master key. -/
structure WireBlob.Withholds (crypto : Crypto) (w : WireBlob) (masterKey : Bytes) : Prop where
  cipher : ∃ c : BlobCipher, w.algIdEncrypt = c.algId
  seals_nothing : ∀ plain, ¬w.Seals crypto masterKey none plain

/-- The files of a command can be read, and wrap `inner`. The name is that of the command's store. -/
inductive Wraps (env : Env) (fs : FileSystem) (inner : Bytes) : Command → String → Prop
  | browser {localState masterKeyHex json text : String} {cookie : Option String}
      {cookieBlob : Option Bytes} {value : JsonValue} (hjson : fs.readToString localState = .ok json)
      (hcookie : Option.Rel (fun path bytes => fs.readBytes path = .ok bytes) cookie cookieBlob)
      (hvalue : env.jsonFromStr json = .ok value)
      (hfield : (value.get "os_crypt").bind (·.get "encrypted_key") = some (.string text))
      (hdecoded : env.base64.decode (strBytes text) = some (dpapiPrefix ++ inner)) :
      Wraps env fs inner (.browser localState cookie masterKeyHex) "browser"
  | credman {path masterKeyHex : String} {file : WireCredentialFile} {rest : Bytes}
      (hfile : fs.readBytes path = .ok (file.bytes ++ rest)) (hinner : inner = file.data.val) :
      Wraps env fs inner (.credman path masterKeyHex) "credman"
  | vault {vpol vcrd masterKeyHex : String} {policy : WireVpol} {rest vcrdBytes : Bytes}
      (hvpol : fs.readBytes vpol = .ok (policy.bytes ++ rest))
      (hvcrd : fs.readBytes vcrd = .ok vcrdBytes) (hinner : inner = policy.blob.val) :
      Wraps env fs inner (.vault vpol vcrd masterKeyHex) "vault"
  | wifi {profile masterKeyHex profileXml : String} {body : List Char}
      (hprofile : fs.readToString profile = .ok profileXml)
      (hbody : FirstElement profileXml.toList body) (hhex : IsHexOf (trim body) inner) :
      Wraps env fs inner (.wifi profile masterKeyHex) "wifi"

section Blob

variable {w : WireBlob} {masterKey : Bytes}

theorem withheld_toBlob_iff (himp : env.nomicon.IsImpacket) :
    Withheld env w.toBlob masterKey ↔ w.Withholds env.crypto masterKey := by
  constructor
  · rintro ⟨hsupported, e, he⟩
    refine ⟨exists_cipher_of_isSome himp hsupported, fun plain hseals => ?_⟩
    rw [(decrypt_toBlob_eq_ok_iff himp).mpr hseals] at he
    cases he
  · rintro ⟨⟨c, hc⟩, hnothing⟩
    have hsupported : Supported env w.toBlob.algIdEncrypt := by
      rw [Supported, show w.toBlob.algIdEncrypt = c.algId from hc, cipherAlgInfo_algId himp]
      rfl
    refine ⟨hsupported, ?_⟩
    rcases @decrypt_cases env w.toBlob masterKey none himp hsupported with ⟨plain, hplain⟩ | hfail | hfail
    · exact absurd ((decrypt_toBlob_eq_ok_iff himp).mp hplain) (hnothing plain)
    · exact ⟨_, hfail⟩
    · exact ⟨_, hfail⟩

/-- What `LocksExactly` says of a decoder, with the blob as it is written. -/
theorem LocksExactly.eq_locked_iff {storeName store guid : String} {strip : Outcome CliError Bytes}
    {decode : Bytes → Outcome CliError (List StoreResult)} (himp : env.nomicon.IsImpacket)
    (h : LocksExactly env storeName strip decode)
    (hslice : ∀ {inner}, strip = .ok inner → IsSlice inner) :
    decode masterKey = .err (.locked store guid) ↔
      ∃ (inner : Bytes) (w : WireBlob) (rest : Bytes), strip = .ok inner ∧ inner = w.bytes ++ rest ∧
        w.Withholds env.crypto masterKey ∧ store = storeName ∧ guid = canonicalGuid w.masterKeyGuid := by
  rw [h.1 masterKey store guid]
  constructor
  · rintro ⟨inner, b, hstrip, hparse, hwithheld, hstore, hguid, -⟩
    obtain ⟨w, hw, rfl⟩ := exists_wireBlob_of_parse (hslice hstrip) hparse
    obtain ⟨rest, hrest⟩ := bytesAt_zero_iff.mp hw
    exact ⟨inner, w, rest, hstrip, hrest, (withheld_toBlob_iff himp).mp hwithheld, hstore, hguid⟩
  · rintro ⟨inner, w, rest, hstrip, hrest, hwithholds, hstore, hguid⟩
    have hparse : parseDpapiBlob env inner = .ok w.toBlob :=
      parse_of_bytesAt (hslice hstrip) (bytesAt_zero_iff.mpr ⟨rest, hrest⟩)
    exact ⟨inner, _, hstrip, hparse, (withheld_toBlob_iff himp).mpr hwithholds, hstore, hguid,
      hguid ▸ canonicalGuid_ne_unknown _⟩

end Blob

/-! ### What is stripped -/

section Strip

theorem stripCredential_eq_ok_iff {fileBytes inner : Bytes} :
    (parseCredentialFile env fileBytes).mapErr CliError.dpapi = .ok inner ↔
      ∃ (file : WireCredentialFile) (rest : Bytes), fileBytes = file.bytes ++ rest ∧
        inner = file.data.val := by
  simp only [Outcome.mapErr_eq_ok_iff, parseCredentialFile, parseCredentialFileWith_eq_ok_iff,
    bytesAt_zero_iff, exists_and_right]

theorem stripPolicy_eq_ok_iff {vpolBytes inner : Bytes} (hvpol : IsSlice vpolBytes) :
    (parseVpolFile env vpolBytes).mapErr CliError.dpapi = .ok inner ↔
      ∃ (policy : WireVpol) (rest : Bytes), vpolBytes = policy.bytes ++ rest ∧
        inner = policy.blob.val := by
  simp only [Outcome.mapErr_eq_ok_iff, parseVpolFile, parseVpolFileWith_eq_ok_iff hvpol,
    bytesAt_zero_iff, exists_and_right]

theorem wifiKeyBlob_eq_ok_iff {profileXml : String} {inner : Bytes} :
    wifiKeyBlob profileXml = .ok inner ↔
      ∃ body, FirstElement profileXml.toList body ∧ IsHexOf (trim body) inner := by
  simp only [wifiKeyBlob, Outcome.bind_eq_ok_iff, Outcome.okOr_eq_ok_iff,
    extractKeyMaterial_eq_some_iff, Cli.hexDecode, hexDecodeWith_eq_ok_iff]
  constructor
  · rintro ⟨_, ⟨body, hbody, rfl⟩, hhex⟩
    exact ⟨body, hbody, by rwa [String.toList_ofList] at hhex⟩
  · rintro ⟨body, hbody, hhex⟩
    exact ⟨_, ⟨body, hbody, rfl⟩, by rwa [String.toList_ofList]⟩

theorem isSlice_wifiKeyBlob {profileXml : String} {inner : Bytes}
    (hprofile : IsSlice (strBytes profileXml)) (h : wifiKeyBlob profileXml = .ok inner) :
    IsSlice inner := by
  obtain ⟨keyMaterial, hkey, hinner⟩ := Outcome.bind_eq_ok_iff.mp h
  have hhex := hexDecodeWith_eq_ok_iff.mp hinner
  exact isSlice_of_isHexOf (isSlice_keyMaterial hprofile (Outcome.okOr_eq_ok_iff.mp hkey)) hhex

end Strip

/-! ### The steps of a run -/

section Steps

variable {α β : Type} {store guid : String}

theorem errs_orIo_notLocked {path : String} {contents : Except String α} :
    Outcome.Errs NotLocked (orIo path contents) := by
  cases contents with
  | ok a => exact Outcome.errs_ok a
  | error e => exact Outcome.errs_err_iff.mpr (notLocked_io _)

theorem orIo_bind_eq_locked_iff {path : String} {contents : Except String α}
    {f : α → Outcome CliError β} :
    (orIo path contents >>= f) = .err (.locked store guid) ↔
      ∃ a, contents = .ok a ∧ f a = .err (.locked store guid) := by
  simp only [bind_eq_locked_iff errs_orIo_notLocked, orIo_eq_ok_iff]

theorem readCookie_bind_eq_locked_iff {cookie : Option String} {f : Option Bytes → Outcome CliError α} :
    (readCookie fs cookie >>= f) = .err (.locked store guid) ↔
      ∃ cookieBlob, Option.Rel (fun path bytes => fs.readBytes path = .ok bytes) cookie cookieBlob ∧
        f cookieBlob = .err (.locked store guid) := by
  have herrs : Outcome.Errs NotLocked (readCookie fs cookie) := by
    cases cookie with
    | none => exact Outcome.errs_ok none
    | some path => exact Outcome.Errs.bind errs_orIo_notLocked fun bytes => Outcome.errs_ok _
  simp only [bind_eq_locked_iff herrs, readCookie_eq_ok_iff]

/-- A run's report of a locked store is its decoder's, under the key that was given. -/
theorem report_eq_locked_iff {masterKeyHex : String}
    {decode : Bytes → Outcome CliError (List StoreResult)} :
    (do
      let results ← (do
        let mk ← parseMasterKeyHex masterKeyHex
        decode mk)
      pure { results } : Outcome CliError CliReport) = .err (.locked store guid) ↔
      ∃ masterKey, KeyGiven masterKeyHex masterKey ∧ decode masterKey = .err (.locked store guid) := by
  have hreport : ∀ results : List StoreResult,
      Outcome.Errs NotLocked (pure { results } : Outcome CliError CliReport) :=
    fun results => Outcome.errs_ok _
  have hkey : Outcome.Errs NotLocked (parseMasterKeyHex masterKeyHex) :=
    errs_hexDecodeWith notLocked_badMasterKey _
  simp only [bind_eq_locked_iff_left hreport, bind_eq_locked_iff hkey, parseMasterKeyHex_eq_ok_iff]

end Steps

/-- A run reports a locked store exactly when its files wrap a blob that the given key does not open. The
store is the command's, and the GUID the one the blob asks for. -/
theorem run_eq_locked_iff (env : Env) (himp : env.nomicon.IsImpacket) (hslices : env.ReturnsSlices)
    (fs : FileSystem) (hfs : fs.ReturnsSlices) (command : Command) (store guid : String) :
    Cli.run env fs command = .err (.locked store guid) ↔
      ∃ (masterKey inner : Bytes) (w : WireBlob) (rest : Bytes),
        KeyGiven command.masterKeyHex masterKey ∧ Wraps env fs inner command store ∧
        inner = w.bytes ++ rest ∧ w.Withholds env.crypto masterKey ∧
        guid = canonicalGuid w.masterKeyGuid := by
  cases command with
  | browser localState cookie masterKeyHex =>
      rw [run_browser, report_eq_locked_iff]
      apply exists_congr
      intro masterKey
      simp only [readToString, orIo_bind_eq_locked_iff, readCookie_bind_eq_locked_iff]
      constructor
      · rintro ⟨hkey, json, hjson, cookieBlob, hcookie, h⟩
        obtain ⟨inner, w, rest, hstrip, hrest, hwithholds, rfl, hguid⟩ :=
          ((browser_locksExactly himp json cookieBlob).eq_locked_iff himp
            (isSlice_of_browserKeyBlob hslices (hfs.text hjson))).mp h
        obtain ⟨value, text, hvalue, hfield, hdecoded⟩ := browserKeyBlob_eq_ok_iff.mp hstrip
        exact ⟨inner, w, rest, hkey, .browser hjson hcookie hvalue hfield hdecoded, hrest, hwithholds,
          hguid⟩
      · rintro ⟨inner, w, rest, hkey, hwraps, hrest, hwithholds, hguid⟩
        cases hwraps with
        | browser hjson hcookie hvalue hfield hdecoded =>
            have hstrip := browserKeyBlob_eq_ok_iff.mpr ⟨_, _, hvalue, hfield, hdecoded⟩
            exact ⟨hkey, _, hjson, _, hcookie,
              ((browser_locksExactly himp _ _).eq_locked_iff himp
                (isSlice_of_browserKeyBlob hslices (hfs.text hjson))).mpr
                ⟨inner, w, rest, hstrip, hrest, hwithholds, rfl, hguid⟩⟩
  | credman path masterKeyHex =>
      refine report_eq_locked_iff.trans (exists_congr fun masterKey => ?_)
      have hslice : ∀ {fileBytes inner : Bytes},
          (parseCredentialFile env fileBytes).mapErr CliError.dpapi = .ok inner → IsSlice inner := by
        intro fileBytes inner hstrip
        obtain ⟨file, _, -, rfl⟩ := stripCredential_eq_ok_iff.mp hstrip
        exact isSlice_field file.data
      simp only [readBytes, orIo_bind_eq_locked_iff]
      constructor
      · rintro ⟨hkey, fileBytes, hfile, h⟩
        obtain ⟨inner, w, rest, hstrip, hrest, hwithholds, rfl, hguid⟩ :=
          ((credman_locksExactly himp fileBytes).eq_locked_iff himp hslice).mp h
        obtain ⟨file, tail, rfl, hinner⟩ := stripCredential_eq_ok_iff.mp hstrip
        exact ⟨inner, w, rest, hkey, .credman hfile hinner, hrest, hwithholds, hguid⟩
      · rintro ⟨inner, w, rest, hkey, hwraps, hrest, hwithholds, hguid⟩
        cases hwraps with
        | @credman _ _ file tail hfile hinner =>
            have hstrip := (@stripCredential_eq_ok_iff env _ inner).mpr ⟨file, tail, rfl, hinner⟩
            exact ⟨hkey, _, hfile, ((credman_locksExactly himp _).eq_locked_iff himp hslice).mpr
              ⟨inner, w, rest, hstrip, hrest, hwithholds, rfl, hguid⟩⟩
  | vault vpol vcrd masterKeyHex =>
      refine report_eq_locked_iff.trans (exists_congr fun masterKey => ?_)
      have hslice : ∀ {vpolBytes inner : Bytes}, IsSlice vpolBytes →
          (parseVpolFile env vpolBytes).mapErr CliError.dpapi = .ok inner → IsSlice inner := by
        intro vpolBytes inner hvpol hstrip
        obtain ⟨policy, _, -, rfl⟩ := (stripPolicy_eq_ok_iff hvpol).mp hstrip
        exact isSlice_field policy.blob
      simp only [readBytes, orIo_bind_eq_locked_iff]
      constructor
      · rintro ⟨hkey, vpolBytes, hvpol, vcrdBytes, hvcrd, h⟩
        obtain ⟨inner, w, rest, hstrip, hrest, hwithholds, rfl, hguid⟩ :=
          ((vault_locksExactly himp vpolBytes vcrdBytes).eq_locked_iff himp
            (hslice (hfs.bytes hvpol))).mp h
        obtain ⟨policy, tail, rfl, hinner⟩ := (stripPolicy_eq_ok_iff (hfs.bytes hvpol)).mp hstrip
        exact ⟨inner, w, rest, hkey, .vault hvpol hvcrd hinner, hrest, hwithholds, hguid⟩
      · rintro ⟨inner, w, rest, hkey, hwraps, hrest, hwithholds, hguid⟩
        cases hwraps with
        | vault hvpol hvcrd hinner =>
            have hstrip := (@stripPolicy_eq_ok_iff env _ inner (hfs.bytes hvpol)).mpr ⟨_, _, rfl, hinner⟩
            exact ⟨hkey, _, hvpol, _, hvcrd, ((vault_locksExactly himp _ _).eq_locked_iff himp
              (hslice (hfs.bytes hvpol))).mpr ⟨inner, w, rest, hstrip, hrest, hwithholds, rfl, hguid⟩⟩
  | wifi profile masterKeyHex =>
      refine report_eq_locked_iff.trans (exists_congr fun masterKey => ?_)
      simp only [readToString, orIo_bind_eq_locked_iff]
      constructor
      · rintro ⟨hkey, profileXml, hprofile, h⟩
        obtain ⟨inner, w, rest, hstrip, hrest, hwithholds, rfl, hguid⟩ :=
          ((wifi_locksExactly himp profileXml).eq_locked_iff himp
            (isSlice_wifiKeyBlob (hfs.text hprofile))).mp h
        obtain ⟨body, hbody, hhex⟩ := wifiKeyBlob_eq_ok_iff.mp hstrip
        exact ⟨inner, w, rest, hkey, .wifi hprofile hbody hhex, hrest, hwithholds, hguid⟩
      · rintro ⟨inner, w, rest, hkey, hwraps, hrest, hwithholds, hguid⟩
        cases hwraps with
        | wifi hprofile hbody hhex =>
            have hstrip := wifiKeyBlob_eq_ok_iff.mpr ⟨_, hbody, hhex⟩
            exact ⟨hkey, _, hprofile, ((wifi_locksExactly himp _).eq_locked_iff himp
              (isSlice_wifiKeyBlob (hfs.text hprofile))).mpr
              ⟨inner, w, rest, hstrip, hrest, hwithholds, rfl, hguid⟩⟩

end DpapiForensic
