import DpapiForensic.Proof.BadMasterKey
import DpapiForensic.Proof.HexAgreement
import DpapiForensic.Proof.Recovered
import Mathlib.Data.Option.Defs

/-!
# What a run reports

A run decodes its key argument, reads its files, and hands both to one decoder. So it reports what the
files it reads yield under the key it is given, and in every other case it reports nothing.
-/

namespace DpapiForensic

open Cli

variable {env : Env} {fs : FileSystem}

/-- What a read returns is in memory. -/
structure FileSystem.ReturnsSlices (fs : FileSystem) : Prop where
  text : ∀ {path text : String}, fs.readToString path = .ok text → IsSlice (strBytes text)
  bytes : ∀ {path : String} {bytes : Bytes}, fs.readBytes path = .ok bytes → IsSlice bytes

/-- The argument is the key in hexadecimal, behind an optional `0x`. -/
def KeyGiven (masterKeyHex : String) (masterKey : Bytes) : Prop :=
  ∃ digits : String, (masterKeyHex = digits ∨ masterKeyHex = "0x" ++ digits) ∧
    IsHexOf digits.toList masterKey

/-- What the files of a command yield under a master key, given which attributes a vault's record has. -/
inductive ArtifactYields (Record : Bytes → List VcrdAttribute → Prop) (env : Env) (fs : FileSystem)
    (masterKey : Bytes) : Command → List StoreResult → Prop
  | browser {localState masterKeyHex json : String} {cookie : Option String}
      {cookieBlob : Option Bytes} {results : List StoreResult}
      (hjson : fs.readToString localState = .ok json)
      (hcookie : Option.Rel (fun path bytes => fs.readBytes path = .ok bytes) cookie cookieBlob)
      (h : BrowserYields env masterKey json cookieBlob results) :
      ArtifactYields Record env fs masterKey (.browser localState cookie masterKeyHex) results
  | credman {file masterKeyHex : String} {fileBytes : Bytes} {results : List StoreResult}
      (hfile : fs.readBytes file = .ok fileBytes) (h : CredmanYields env masterKey fileBytes results) :
      ArtifactYields Record env fs masterKey (.credman file masterKeyHex) results
  | vault {vpol vcrd masterKeyHex : String} {vpolBytes vcrdBytes : Bytes} {attrs : List VcrdAttribute}
      {results : List StoreResult} (hvpol : fs.readBytes vpol = .ok vpolBytes)
      (hvcrd : fs.readBytes vcrd = .ok vcrdBytes) (hrecord : Record vcrdBytes attrs)
      (h : VaultYields env masterKey vpolBytes attrs results) :
      ArtifactYields Record env fs masterKey (.vault vpol vcrd masterKeyHex) results
  | wifi {profile masterKeyHex profileXml : String} {results : List StoreResult}
      (hprofile : fs.readToString profile = .ok profileXml)
      (h : WifiYields env masterKey profileXml results) :
      ArtifactYields Record env fs masterKey (.wifi profile masterKeyHex) results

/-- The record that a vault command reads is laid out as one. -/
def RecordLaidOut (fs : FileSystem) : Command → Prop
  | .vault _ vcrd _ => ∀ bytes, fs.readBytes vcrd = .ok bytes → ∃ w : WireVcrd, bytes = w.bytes
  | _ => True

/-! ### The steps of a run -/

section Steps

theorem keyGiven_iff {masterKeyHex : String} {masterKey : Bytes} :
    KeyGiven masterKeyHex masterKey ↔ IsHexOf (strip0x masterKeyHex).toList masterKey := by
  constructor
  · rintro ⟨digits, rfl | rfl, hdigits⟩
    · rwa [strip0x_of_isHexOf hdigits]
    · rwa [strip0x_append]
  · intro h
    apply Exists.intro (strip0x masterKeyHex)
    refine ⟨?_, h⟩
    by_cases hprefix : ['0', 'x'] <+: masterKeyHex.toList
    · obtain ⟨rest, hrest⟩ := hprefix
      apply Or.inr
      have hsplit : masterKeyHex = "0x" ++ String.ofList rest := by
        apply String.toList_inj.mp
        rw [String.toList_append, String.toList_ofList, String.toList_ofList, ← hrest]
      rw [hsplit, strip0x_append]
    · exact Or.inl (strip0x_eq_self hprefix).symm

theorem parseMasterKeyHex_eq_ok_iff {masterKeyHex : String} {masterKey : Bytes} :
    parseMasterKeyHex masterKeyHex = .ok masterKey ↔ KeyGiven masterKeyHex masterKey :=
  hexDecodeWith_eq_ok_iff.trans keyGiven_iff.symm

theorem keyGiven_inj {masterKeyHex : String} {masterKey masterKey' : Bytes}
    (h : KeyGiven masterKeyHex masterKey) (h' : KeyGiven masterKeyHex masterKey') :
    masterKey = masterKey' :=
  Outcome.ok.inj
    ((parseMasterKeyHex_eq_ok_iff.mpr h).symm.trans (parseMasterKeyHex_eq_ok_iff.mpr h'))

theorem orIo_eq_ok_iff {α : Type} {path : String} {contents : Except String α} {a : α} :
    orIo path contents = .ok a ↔ contents = .ok a := by
  cases contents with
  | ok b => rw [orIo, Outcome.ok.injEq, Except.ok.injEq]
  | error e => exact iff_of_false Outcome.err_ne_ok (by simp)

/-- The cookie's file is read if there is one. -/
def readCookie (fs : FileSystem) : Option String → Outcome CliError (Option Bytes)
  | none => pure none
  | some path => do
      let bytes ← readBytes fs path
      pure (some bytes)

theorem run_browser (env : Env) (fs : FileSystem) (localState masterKeyHex : String)
    (cookie : Option String) :
    Cli.run env fs (.browser localState cookie masterKeyHex) = (do
      let results ← (do
        let mk ← parseMasterKeyHex masterKeyHex
        let json ← readToString fs localState
        let cookieBytes ← readCookie fs cookie
        decodeBrowser env json cookieBytes mk)
      pure { results }) := by
  cases cookie <;> rfl

theorem readCookie_eq_ok_iff {cookie : Option String} {cookieBlob : Option Bytes} :
    readCookie fs cookie = .ok cookieBlob ↔
      Option.Rel (fun path bytes => fs.readBytes path = .ok bytes) cookie cookieBlob := by
  cases cookie with
  | none =>
      constructor
      · intro h
        obtain rfl := Outcome.ok.inj h
        exact .none
      · rintro ⟨⟩
        rfl
  | some path =>
      rw [readCookie, Outcome.bind_eq_ok_iff]
      constructor
      · rintro ⟨bytes, hbytes, h⟩
        obtain rfl := Outcome.ok.inj h
        exact .some (orIo_eq_ok_iff.mp hbytes)
      · rintro ⟨hbytes⟩
        exact ⟨_, orIo_eq_ok_iff.mpr hbytes, rfl⟩

end Steps

section Yields

variable {Record Record' : Bytes → List VcrdAttribute → Prop} {masterKey : Bytes} {command : Command}
  {results : List StoreResult}

theorem ArtifactYields.of_record (h : ArtifactYields Record env fs masterKey command results)
    (hrecord : ∀ {vpol vcrd masterKeyHex bytes attrs}, command = .vault vpol vcrd masterKeyHex →
      fs.readBytes vcrd = .ok bytes → Record bytes attrs → Record' bytes attrs) :
    ArtifactYields Record' env fs masterKey command results := by
  cases h with
  | browser hjson hcookie h => exact .browser hjson hcookie h
  | credman hfile h => exact .credman hfile h
  | vault hvpol hvcrd hread h => exact .vault hvpol hvcrd (hrecord rfl hvcrd hread) h
  | wifi hprofile h => exact .wifi hprofile h

/-- On a record as it is laid out, the parser and the layout agree on the attributes. -/
theorem artifactYields_takenAs_iff (hlaid : RecordLaidOut fs command) :
    ArtifactYields TakenAs env fs masterKey command results ↔
      ArtifactYields LaidOut env fs masterKey command results := by
  constructor
  · intro h
    apply h.of_record
    rintro vpol vcrd masterKeyHex bytes attrs rfl hbytes htaken
    obtain ⟨w, rfl⟩ := hlaid bytes hbytes
    exact ⟨w, rfl, (takenAs_bytes_iff env w).mp htaken⟩
  · intro h
    apply h.of_record
    rintro vpol vcrd masterKeyHex bytes attrs - - ⟨w, rfl, hattrs⟩
    exact (takenAs_bytes_iff env w).mpr hattrs

end Yields

/-- A run reports what its files yield under the key it is given, whatever they contain. A vault's record
yields what the attributes do that the parser takes out of it. -/
theorem run_eq_ok_iff (env : Env) (himp : env.nomicon.IsImpacket) (hslices : env.ReturnsSlices)
    (fs : FileSystem) (hfs : fs.ReturnsSlices) (command : Command) (report : CliReport) :
    Cli.run env fs command = .ok report ↔
      ∃ masterKey, KeyGiven command.masterKeyHex masterKey ∧
        ArtifactYields TakenAs env fs masterKey command report.results := by
  obtain ⟨results⟩ := report
  have hreport : ∀ {x : Outcome CliError (List StoreResult)},
      (do
        let results ← x
        pure { results } : Outcome CliError CliReport) = .ok { results } ↔ x = .ok results := by
    intro x
    cases x <;> simp
  cases command with
  | browser localState cookie masterKeyHex =>
      rw [run_browser, hreport]
      simp only [Outcome.bind_eq_ok_iff, parseMasterKeyHex_eq_ok_iff, readToString, orIo_eq_ok_iff,
        readCookie_eq_ok_iff]
      refine exists_congr fun masterKey => and_congr_right fun _ => ?_
      constructor
      · rintro ⟨json, hjson, cookieBlob, hcookie, h⟩
        exact .browser hjson hcookie
          ((decodeBrowser_eq_ok_iff env himp hslices json (hfs.text hjson) _ _ _).mp h)
      · intro h
        cases h with
        | browser hjson hcookie h =>
            exact ⟨_, hjson, _, hcookie,
              (decodeBrowser_eq_ok_iff env himp hslices _ (hfs.text hjson) _ _ _).mpr h⟩
  | credman file masterKeyHex =>
      refine hreport.trans ?_
      simp only [Outcome.bind_eq_ok_iff, parseMasterKeyHex_eq_ok_iff, readBytes, orIo_eq_ok_iff]
      refine exists_congr fun masterKey => and_congr_right fun _ => ?_
      constructor
      · rintro ⟨fileBytes, hfile, h⟩
        exact .credman hfile ((decodeCredman_eq_ok_iff env himp ⟨fileBytes, hfs.bytes hfile⟩ _ _).mp h)
      · intro h
        cases h with
        | credman hfile h =>
            exact ⟨_, hfile, (decodeCredman_eq_ok_iff env himp ⟨_, hfs.bytes hfile⟩ _ _).mpr h⟩
  | vault vpol vcrd masterKeyHex =>
      refine hreport.trans ?_
      simp only [Outcome.bind_eq_ok_iff, parseMasterKeyHex_eq_ok_iff, readBytes, orIo_eq_ok_iff]
      refine exists_congr fun masterKey => and_congr_right fun _ => ?_
      constructor
      · rintro ⟨vpolBytes, hvpol, vcrdBytes, hvcrd, h⟩
        obtain ⟨attrs, htaken, hyields⟩ := (decodeVault_eq_ok_iff env himp
          ⟨vpolBytes, hfs.bytes hvpol⟩ ⟨vcrdBytes, hfs.bytes hvcrd⟩ _ _).mp h
        exact .vault hvpol hvcrd htaken hyields
      · intro h
        cases h with
        | vault hvpol hvcrd htaken hyields =>
            exact ⟨_, hvpol, _, hvcrd, (decodeVault_eq_ok_iff env himp ⟨_, hfs.bytes hvpol⟩
              ⟨_, hfs.bytes hvcrd⟩ _ _).mpr ⟨_, htaken, hyields⟩⟩
  | wifi profile masterKeyHex =>
      refine hreport.trans ?_
      simp only [Outcome.bind_eq_ok_iff, parseMasterKeyHex_eq_ok_iff, readToString, orIo_eq_ok_iff]
      refine exists_congr fun masterKey => and_congr_right fun _ => ?_
      constructor
      · rintro ⟨profileXml, hprofile, h⟩
        exact .wifi hprofile
          ((decodeWifi_eq_ok_iff env himp profileXml (hfs.text hprofile) _ _).mp h)
      · intro h
        cases h with
        | wifi hprofile h =>
            exact ⟨_, hprofile, (decodeWifi_eq_ok_iff env himp _ (hfs.text hprofile) _ _).mpr h⟩

theorem run_eq_ok_iff_laidOut (himp : env.nomicon.IsImpacket) (hslices : env.ReturnsSlices)
    (hfs : fs.ReturnsSlices) {command : Command} (hlaid : RecordLaidOut fs command) (report : CliReport) :
    Cli.run env fs command = .ok report ↔
      ∃ masterKey, KeyGiven command.masterKeyHex masterKey ∧
        ArtifactYields LaidOut env fs masterKey command report.results := by
  rw [run_eq_ok_iff env himp hslices fs hfs]
  simp only [artifactYields_takenAs_iff hlaid]

/-! ### Evidence on disk -/

/-- A disk that holds one file. -/
def oneFile (path : String) (contents : Bytes) : FileSystem where
  readToString _ := .error "not found"
  readBytes p := if p = path then .ok contents else .error "not found"

theorem oneFile_returnsSlices {path : String} {contents : Bytes} (h : IsSlice contents) :
    (oneFile path contents).ReturnsSlices where
  text hread := nomatch hread
  bytes {p bytes} hread := by
    by_cases hp : p = path
    · simp only [oneFile, if_pos hp] at hread
      rwa [← Except.ok.inj hread]
    · simp only [oneFile, if_neg hp] at hread
      cases hread

theorem readBytes_oneFile {path : String} {contents : Bytes} :
    (oneFile path contents).readBytes path = .ok contents :=
  if_pos rfl

/-- A disk that holds a policy and a record. -/
def vaultDisk (policy record : Bytes) : FileSystem where
  readToString _ := .error "not found"
  readBytes path :=
    if path = "Policy.vpol" then .ok policy
    else if path = "record.vcrd" then .ok record
    else .error "not found"

theorem vaultDisk_returnsSlices {policy record : Bytes} (hpolicy : IsSlice policy)
    (hrecord : IsSlice record) : (vaultDisk policy record).ReturnsSlices where
  text hread := nomatch hread
  bytes {path bytes} hread := by
    by_cases hvpol : path = "Policy.vpol"
    · simp only [vaultDisk, if_pos hvpol] at hread
      rwa [← Except.ok.inj hread]
    by_cases hvcrd : path = "record.vcrd"
    · simp only [vaultDisk, if_neg hvpol, if_pos hvcrd] at hread
      rwa [← Except.ok.inj hread]
    · simp only [vaultDisk, if_neg hvpol, if_neg hvcrd] at hread
      cases hread

theorem keyGiven_hexLower (masterKey : Bytes) : KeyGiven (hexLower masterKey) masterKey :=
  ⟨hexLower masterKey, Or.inl rfl, isHexOf_hexLower masterKey⟩

end DpapiForensic
