import DpapiForensic.Proof.Locked
import DpapiForensic.Proof.Profile

/-!
# Whom a bad master key is blamed on

The master key is parsed before any file is read, and fails as a bad master key exactly when it is not
hexadecimal. No decoder fails that way, except that the Wi-Fi decoder shares the helper that names the
error: key material that is no hexadecimal is reported as a bad master key too.
-/

namespace DpapiForensic

open Cli

variable {env : Env} {fs : FileSystem}

/-- An error of the command line that does not blame the master key. -/
def NotBadKey (e : CliError) : Prop := ∀ reason, e ≠ .badMasterKey reason

section Blameless

open Outcome

variable {α β : Type}

theorem notBadKey_dpapi (e : DpapiError) : NotBadKey (.dpapi e) := fun _ => nofun

theorem notBadKey_io (reason : String) : NotBadKey (.io reason) := fun _ => nofun

theorem errs_orIo {path : String} {contents : Except String α} :
    Errs NotBadKey (orIo path contents) := by
  cases contents with
  | ok a => exact errs_ok a
  | error e => exact errs_err_iff.mpr (notBadKey_io _)

theorem errs_orLocked_notBadKey {store : String} {inner : Bytes} {x : Outcome DpapiError α} :
    Errs NotBadKey (orLocked env store inner x) :=
  errs_orLocked (Q := fun _ => True) (fun _ _ _ => nofun) (fun e _ => notBadKey_dpapi e)
    fun _ _ => trivial

theorem errs_decodeBrowser (localStateJson : String) (cookieBlob : Option Bytes)
    (masterKey : Bytes) : Errs NotBadKey (decodeBrowser env localStateJson cookieBlob masterKey) := by
  rw [decodeBrowser_eq]
  refine Errs.bind (errs_browserKeyBlob notBadKey_dpapi notBadKey_io localStateJson) fun keyBlob => ?_
  refine Errs.bind errs_orLocked_notBadKey fun cookieKey => ?_
  exact errs_browserResults notBadKey_dpapi notBadKey_io cookieBlob cookieKey

theorem errs_decodeCredman (fileBytes masterKey : Bytes) :
    Errs NotBadKey (decodeCredman env fileBytes masterKey) := by
  refine Errs.bind (errs_mapErr notBadKey_dpapi) fun _ => ?_
  exact Errs.bind errs_orLocked_notBadKey fun _ => errs_ok _

theorem errs_decodeVault (vpolBytes vcrdBytes masterKey : Bytes) :
    Errs NotBadKey (decodeVault env vpolBytes vcrdBytes masterKey) := by
  refine Errs.bind (errs_mapErr notBadKey_dpapi) fun _ => ?_
  refine Errs.bind errs_orLocked_notBadKey fun keys => ?_
  exact Errs.bind (errs_mapErr notBadKey_dpapi) fun attrs => errs_vaultResults keys.key1 attrs

/-- The Wi-Fi decoder blames the master key exactly for key material that is no hexadecimal. -/
theorem decodeWifi_eq_badMasterKey_iff (profileXml : String) (masterKey : Bytes) :
    (∃ reason, decodeWifi env profileXml masterKey = .err (.badMasterKey reason)) ↔
      ∃ body, FirstElement profileXml.toList body ∧
        ¬Hexadecimal (strBytes (String.ofList (trim body))) := by
  rw [decodeWifi]
  cases hkey : extractKeyMaterial profileXml with
  | none =>
      have hnone : ∀ body, ¬FirstElement profileXml.toList body := by
        intro body hbody
        rw [extractKeyMaterial_eq_some_iff.mpr ⟨body, hbody, rfl⟩] at hkey
        cases hkey
      simp [hnone]
  | some keyMaterial =>
      obtain ⟨body, hbody, rfl⟩ := extractKeyMaterial_eq_some_iff.mp hkey
      have hfirst : ∀ body', FirstElement profileXml.toList body' →
          String.ofList (trim body') = String.ofList (trim body) := by
        intro body' hbody'
        have hkey' := extractKeyMaterial_eq_some_iff.mpr ⟨body', hbody', rfl⟩
        rw [hkey] at hkey'
        exact (Option.some.inj hkey').symm
      rw [Outcome.okOr_some, Outcome.ok_bind]
      rcases hexDecodeWith_cases (strBytes (String.ofList (trim body))) with
        ⟨hhex, blob, hblob⟩ | ⟨hbad, reason, hreason⟩
      · rw [Cli.hexDecode, hblob, Outcome.ok_bind]
        constructor
        · rintro ⟨reason, hreason⟩
          exact absurd rfl (Errs.bind errs_orLocked_notBadKey (fun _ => errs_ok _) _ hreason reason)
        · rintro ⟨body', hbody', hbad⟩
          rw [hfirst body' hbody'] at hbad
          exact absurd hhex hbad
      · rw [Cli.hexDecode, hreason]
        exact iff_of_true ⟨reason, rfl⟩ ⟨body, hbody, hbad⟩

end Blameless

/-! ### Running a command -/

/-- The command reads a profile whose key material is no hexadecimal. -/
def HoldsBadKeyMaterial (fs : FileSystem) : Command → Prop
  | .wifi profile _ => ∃ text body, fs.readToString profile = .ok text ∧
      FirstElement text.toList body ∧ ¬Hexadecimal (strBytes (String.ofList (trim body)))
  | _ => False

/-- A run blames the master key for its own digits, and for whatever the decoding behind it does. -/
theorem report_eq_badMasterKey_iff {masterKeyHex : String} {bad : Prop}
    {decode : Bytes → Outcome CliError (List StoreResult)}
    (hdecode : ∀ mk, (∃ reason, decode mk = .err (.badMasterKey reason)) ↔ bad) :
    (∃ reason, (do
        let results ← (do
          let mk ← parseMasterKeyHex masterKeyHex
          decode mk)
        pure { results } : Outcome CliError CliReport) = .err (.badMasterKey reason)) ↔
      ¬Hexadecimal (strBytes (strip0x masterKeyHex)) ∨ bad := by
  rw [parseMasterKeyHex]
  rcases hexDecodeWith_cases (strBytes (strip0x masterKeyHex)) with
    ⟨hhex, mk, hmk⟩ | ⟨hbad, reason, hreason⟩
  · rw [hmk, Outcome.ok_bind, ← hdecode mk, or_iff_right (not_not.mpr hhex)]
    cases decode mk <;> simp
  · rw [hreason]
    simp [hbad]

theorem run_eq_badMasterKey_iff (env : Env) (fs : FileSystem) (command : Command) :
    (∃ reason, Cli.run env fs command = .err (.badMasterKey reason)) ↔
      ¬Hexadecimal (strBytes (strip0x command.masterKeyHex)) ∨ HoldsBadKeyMaterial fs command := by
  have hnever : ∀ {x : Outcome CliError (List StoreResult)}, Outcome.Errs NotBadKey x →
      ((∃ reason, x = .err (.badMasterKey reason)) ↔ False) := fun hx =>
    iff_false_intro fun ⟨reason, hreason⟩ => hx _ hreason reason rfl
  cases command with
  | browser localState cookie masterKeyHex =>
      refine report_eq_badMasterKey_iff fun mk => hnever ?_
      refine Outcome.Errs.bind errs_orIo fun json => ?_
      refine Outcome.Errs.bind ?_ fun cookieBytes => errs_decodeBrowser json cookieBytes mk
      cases cookie with
      | none => exact Outcome.errs_ok none
      | some p => exact Outcome.Errs.bind errs_orIo fun bytes => Outcome.errs_ok (some bytes)
  | credman file masterKeyHex =>
      refine report_eq_badMasterKey_iff fun mk => hnever ?_
      exact Outcome.Errs.bind errs_orIo fun fileBytes => errs_decodeCredman fileBytes mk
  | vault vpol vcrd masterKeyHex =>
      refine report_eq_badMasterKey_iff fun mk => hnever ?_
      refine Outcome.Errs.bind errs_orIo fun vpolBytes => ?_
      exact Outcome.Errs.bind errs_orIo fun vcrdBytes => errs_decodeVault vpolBytes vcrdBytes mk
  | wifi profile masterKeyHex =>
      refine report_eq_badMasterKey_iff fun mk => ?_
      rw [HoldsBadKeyMaterial, readToString]
      cases fs.readToString profile with
      | error e => simp [orIo]
      | ok text =>
          rw [orIo, Outcome.ok_bind, decodeWifi_eq_badMasterKey_iff]
          simp

/-- A run blames the master key exactly when the master key is at fault. -/
def BlamesKeyOnly (env : Env) (fs : FileSystem) (command : Command) : Prop :=
  (∃ reason, Cli.run env fs command = .err (.badMasterKey reason)) ↔
    ¬Hexadecimal (strBytes (strip0x command.masterKeyHex))

/-- **When a bad master key is the master key's fault**: whatever the files hold, unless the master key
is sound and a profile's key material is no hexadecimal. -/
theorem blamesKeyOnly_iff (env : Env) (fs : FileSystem) (command : Command) :
    BlamesKeyOnly env fs command ↔
      ¬Hexadecimal (strBytes (strip0x command.masterKeyHex)) ∨ ¬HoldsBadKeyMaterial fs command := by
  rw [BlamesKeyOnly, run_eq_badMasterKey_iff]
  tauto

/-! ### An open profile -/

/-- A profile that is not protected holds its key as text. -/
def openProfile : FileSystem where
  readToString _ := .ok ("<WLANProfile><MSM><security><sharedKey><keyType>passPhrase</keyType>" ++
    "<protected>false</protected><keyMaterial>CorrectHorseBatteryStaple</keyMaterial>" ++
    "</sharedKey></security></MSM></WLANProfile>")
  readBytes path := .error (path ++ " is not there")

theorem not_blamesKeyOnly_openProfile :
    ¬BlamesKeyOnly (KnownAnswers.env {}) openProfile (.wifi "profile.xml" "0x00") := by
  have hrun : Cli.run (KnownAnswers.env {}) openProfile (.wifi "profile.xml" "0x00")
      = .err (.badMasterKey "odd-length hex (25 chars)") := by
    decide +kernel
  have hkey : Hexadecimal (strBytes (strip0x "0x00")) := by
    decide +kernel
  exact fun h => h.mp ⟨_, hrun⟩ hkey

end DpapiForensic
