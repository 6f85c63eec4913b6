import DpapiForensic.Proof.Binding
import DpapiForensic.Proof.Run

/-!
# What a run depends on

Of the master key a run sees its SHA-1, and of the disk the files that the command names. Nothing else of
either reaches what it ends in, be that a report or an error.
-/

namespace DpapiForensic

open Cli

variable {env : Env} {fs fs' : FileSystem} {masterKey masterKey' : Bytes}

/-! ### Decoders under one key hash -/

section KeyHash

variable (h : keyHash env.crypto masterKey = keyHash env.crypto masterKey')
include h

theorem decodeBrowser_congr_keyHash (localStateJson : String) (cookieBlob : Option Bytes) :
    decodeBrowser env localStateJson cookieBlob masterKey
      = decodeBrowser env localStateJson cookieBlob masterKey' := by
  simp only [decodeBrowser, decryptLocalStateKey, decrypt_congr_keyHash h]

theorem decodeCredman_congr_keyHash (fileBytes : Bytes) :
    decodeCredman env fileBytes masterKey = decodeCredman env fileBytes masterKey' := by
  simp only [decodeCredman, decryptCredential, decrypt_congr_keyHash h]

theorem decodeVaultWith_congr_keyHash (reserve : Nat → Outcome DpapiError Unit)
    (vpolBytes vcrdBytes : Bytes) :
    decodeVaultWith reserve env vpolBytes vcrdBytes masterKey
      = decodeVaultWith reserve env vpolBytes vcrdBytes masterKey' := by
  simp only [decodeVaultWith, decryptVpolKeys, decrypt_congr_keyHash h]

theorem decodeWifi_congr_keyHash (profileXml : String) :
    decodeWifi env profileXml masterKey = decodeWifi env profileXml masterKey' := by
  simp only [decodeWifi, decryptWlanKeyMaterial, decrypt_congr_keyHash h]

end KeyHash

/-! ### Runs -/

/-- The commands differ in their key at most, and the disks agree on the files they name. -/
inductive SameReads (fs fs' : FileSystem) : Command → Command → Prop
  | browser {localState : String} {cookie : Option String} {masterKeyHex masterKeyHex' : String}
      (hjson : fs.readToString localState = fs'.readToString localState)
      (hcookie : ∀ path ∈ cookie, fs.readBytes path = fs'.readBytes path) :
      SameReads fs fs' (.browser localState cookie masterKeyHex)
        (.browser localState cookie masterKeyHex')
  | credman {file masterKeyHex masterKeyHex' : String}
      (hfile : fs.readBytes file = fs'.readBytes file) :
      SameReads fs fs' (.credman file masterKeyHex) (.credman file masterKeyHex')
  | vault {vpol vcrd masterKeyHex masterKeyHex' : String}
      (hvpol : fs.readBytes vpol = fs'.readBytes vpol)
      (hvcrd : fs.readBytes vcrd = fs'.readBytes vcrd) :
      SameReads fs fs' (.vault vpol vcrd masterKeyHex) (.vault vpol vcrd masterKeyHex')
  | wifi {profile masterKeyHex masterKeyHex' : String}
      (hprofile : fs.readToString profile = fs'.readToString profile) :
      SameReads fs fs' (.wifi profile masterKeyHex) (.wifi profile masterKeyHex')

/-- Runs under keys of one hash end alike. -/
theorem run_congr_keyHash {command command' : Command}
    (hkey : KeyGiven command.masterKeyHex masterKey)
    (hkey' : KeyGiven command'.masterKeyHex masterKey')
    (hhash : keyHash env.crypto masterKey = keyHash env.crypto masterKey')
    (hreads : SameReads fs fs' command command') :
    Cli.run env fs command = Cli.run env fs' command' := by
  have hkey := parseMasterKeyHex_eq_ok_iff.mpr hkey
  have hkey' := parseMasterKeyHex_eq_ok_iff.mpr hkey'
  cases hreads with
  | @browser localState cookie masterKeyHex masterKeyHex' hjson hcookie =>
      simp only [Command.masterKeyHex] at hkey hkey'
      simp only [Cli.run, Cli.runWith, hkey, hkey', Outcome.ok_bind, readToString, hjson,
        decodeBrowser_congr_keyHash hhash]
      cases cookie with
      | none => rfl
      | some path => simp only [readBytes, hcookie path rfl]
  | credman hfile =>
      simp only [Command.masterKeyHex] at hkey hkey'
      simp only [Cli.run, Cli.runWith, hkey, hkey', Outcome.ok_bind, readBytes, hfile,
        decodeCredman_congr_keyHash hhash]
  | vault hvpol hvcrd =>
      simp only [Command.masterKeyHex] at hkey hkey'
      simp only [Cli.run, Cli.runWith, hkey, hkey', Outcome.ok_bind, readBytes, hvpol, hvcrd,
        decodeVaultWith_congr_keyHash hhash]
  | wifi hprofile =>
      simp only [Command.masterKeyHex] at hkey hkey'
      simp only [Cli.run, Cli.runWith, hkey, hkey', Outcome.ok_bind, readToString, hprofile,
        decodeWifi_congr_keyHash hhash]

/-- **What a run depends on.** Two runs of one command on disks that agree on its files, under keys of one
SHA-1 in whatever spelling, end in the same report or the same error. -/
theorem run_eq_of_sameReads (env : Env) (fs fs' : FileSystem) (command command' : Command)
    (masterKey masterKey' : Bytes) (hkey : KeyGiven command.masterKeyHex masterKey)
    (hkey' : KeyGiven command'.masterKeyHex masterKey')
    (hhash : env.crypto.sha1 masterKey = env.crypto.sha1 masterKey')
    (hreads : SameReads fs fs' command command') :
    Cli.run env fs command = Cli.run env fs' command' :=
  run_congr_keyHash hkey hkey' (congrArg Vector.toList hhash) hreads

theorem keyGiven_append (masterKey : Bytes) : KeyGiven ("0x" ++ hexLower masterKey) masterKey :=
  ⟨hexLower masterKey, Or.inr rfl, isHexOf_hexLower masterKey⟩

/-- The key of the vectors behind `0x`, on a disk with other files besides. -/
theorem run_eq_of_sameReads_vector :
    Cli.run credentialAnswers.env (oneFile "Credentials" credentialFile)
        (.credman "Credentials" (hexLower vectorMasterKey))
      = Cli.run credentialAnswers.env
          { oneFile "Credentials" credentialFile with readToString := fun path => .ok path }
          (.credman "Credentials" ("0x" ++ hexLower vectorMasterKey)) :=
  run_eq_of_sameReads credentialAnswers.env _ _ _ _ vectorMasterKey vectorMasterKey
    (keyGiven_hexLower _) (keyGiven_append _) rfl (.credman rfl)

end DpapiForensic
