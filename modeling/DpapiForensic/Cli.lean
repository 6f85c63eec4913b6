import DpapiForensic.Chrome
import DpapiForensic.Credential
import DpapiForensic.Vault
import DpapiForensic.Wifi

/-!
# The command line's decoders (`forensic/src/lib.rs`)

Each decoder strips its artifact's wrapper, opens the blob inside with the analyst's master key, and
reports what it recovered. A blob that does not open is reported as a locked store, with the GUID of
the master key it needs.
-/

namespace DpapiForensic

inductive CliError where
  | dpapi (e : DpapiError)
  | io (reason : String)
  | badMasterKey (reason : String)
  | locked (store mkGuid : String)
  deriving DecidableEq

structure StoreResult where
  store : String
  label : String
  secret : String
  account : Option String
  deriving DecidableEq

namespace Cli

/-- The bytes at the given positions, in hexadecimal. -/
def guidGroup (g : Vector UInt8 16) (positions : List (Fin 16)) : String :=
  hexLower (positions.map g.get)

/-- `guid_to_string`: `Uuid::from_bytes_le`, which reads the first three fields little-endian. -/
def guidToString (g : Vector UInt8 16) : String :=
  guidGroup g [3, 2, 1, 0] ++ "-" ++ guidGroup g [5, 4] ++ "-" ++ guidGroup g [7, 6] ++ "-" ++
    guidGroup g [8, 9] ++ "-" ++ guidGroup g [10, 11, 12, 13, 14, 15]

def lockedOrErr {α : Type} (env : Env) (store : String) (blobBytes : Bytes) (e : DpapiError) :
    Outcome CliError α :=
  match e with
  | .hmacMismatch | .decryptionFailed | .domainBackupUnsupported =>
      match parseDpapiBlob env blobBytes with
      | .ok b => .err (.locked store (guidToString b.masterKeyGuid))
      | .err _ => .err (.locked store "unknown")
      | .panic => .panic
  | other => .err (.dpapi other)

/-- `result.map_err(|e| locked_or_err(store, blob_bytes, e))`. -/
def orLocked {α : Type} (env : Env) (store : String) (blobBytes : Bytes) :
    Outcome DpapiError α → Outcome CliError α
  | .ok a => .ok a
  | .err e => lockedOrErr env store blobBytes e
  | .panic => .panic

def hexEncode (bytes : Bytes) : String := hexLower bytes

def hexDecode (s : String) : Outcome CliError Bytes :=
  hexDecodeWith .badMasterKey (fun n => "odd-length hex (" ++ toString n ++ " chars)") (strBytes s)

end Cli

open Cli

/-- `hex.strip_prefix("0x").unwrap_or(hex)`. -/
def strip0x (hex : String) : String :=
  if ['0', 'x'] <+: hex.toList then String.ofList (hex.toList.drop 2) else hex

def parseMasterKeyHex (hex : String) : Outcome CliError Bytes :=
  hexDecodeWith .badMasterKey (fun n => "odd length (" ++ toString n ++ " chars)")
    (strBytes (strip0x hex))

def decodeBrowser (env : Env) (localStateJson : String) (cookieBlob : Option Bytes)
    (masterKey : Bytes) : Outcome CliError (List StoreResult) := do
  let value ←
    (match env.jsonFromStr localStateJson with
    | .ok value => .ok value
    | .error e => .err (.io ("Local State is not valid JSON: " ++ e)))
  let encryptedKeyB64 ← Outcome.okOr
    (((value.get "os_crypt").bind (·.get "encrypted_key")).bind JsonValue.asStr)
    (.io "Local State has no os_crypt.encrypted_key")
  let keyBlob ← Outcome.mapErr .dpapi (parseLocalStateEncryptedKey env (strBytes encryptedKeyB64))
  let cookieKey ← orLocked env "browser" keyBlob (decryptLocalStateKey env keyBlob masterKey)
  let keyResult : StoreResult :=
    { store := "browser", label := "cookie-key", secret := hexEncode cookieKey.toList
      account := none }
  match cookieBlob with
  | none => pure [keyResult]
  | some blob => do
      let encoding ← Outcome.mapErr .dpapi (detectChromeCookieEncoding blob)
      let plaintext ←
        (match encoding with
        | .v10 nonce ciphertext | .v20 nonce ciphertext =>
            Outcome.mapErr .dpapi (decryptV10Cookie env nonce ciphertext cookieKey)
        | .dpapiBlob _ | .raw => .err (.io "cookie value is not a v10/v20 AES-GCM blob"))
      pure
        [keyResult,
          { store := "browser", label := "cookie", secret := String.ofList (fromUtf8Lossy plaintext)
            account := none }]

def decodeCredman (env : Env) (fileBytes masterKey : Bytes) :
    Outcome CliError (List StoreResult) := do
  let blob ← Outcome.mapErr .dpapi (parseCredentialFile env fileBytes)
  let cred ← orLocked env "credman" blob (decryptCredential env blob masterKey)
  pure
    [{ store := "credman", label := cred.target, secret := cred.secret
       account := some cred.username }]

/-- The loop of `decode_vault` over the attributes. One that does not decrypt, or does not hold a web
credential, is passed over. -/
def vaultResults (env : Env) (key1 : Bytes) :
    List VcrdAttribute → Outcome CliError (List StoreResult)
  | [] => pure []
  | attr :: attrs =>
      match decryptVcrdAttribute env attr key1 with
      | .err _ => vaultResults env key1 attrs
      | .panic => .panic
      | .ok cleartext =>
          match parseInternetExplorer env cleartext with
          | .err _ => vaultResults env key1 attrs
          | .panic => .panic
          | .ok cred => do
              let results ← vaultResults env key1 attrs
              pure ({ store := "vault", label := cred.resource, secret := cred.password
                      account := some cred.username } :: results)

/-- `decode_vault`, with what reserves memory. -/
def decodeVaultWith (reserve : Nat → Outcome DpapiError Unit) (env : Env)
    (vpolBytes vcrdBytes masterKey : Bytes) : Outcome CliError (List StoreResult) := do
  let vpolBlob ← Outcome.mapErr .dpapi (parseVpolFile env vpolBytes)
  let keys ← orLocked env "vault" vpolBlob (decryptVpolKeys env vpolBlob masterKey)
  let attrs ← Outcome.mapErr .dpapi (parseVcrdAttributesWith reserve env vcrdBytes)
  vaultResults env keys.key1 attrs

def decodeVault (env : Env) (vpolBytes vcrdBytes masterKey : Bytes) :
    Outcome CliError (List StoreResult) :=
  decodeVaultWith withCapacity env vpolBytes vcrdBytes masterKey

theorem decodeVault_eq (env : Env) (vpolBytes vcrdBytes masterKey : Bytes) :
    decodeVault env vpolBytes vcrdBytes masterKey = (do
      let vpolBlob ← Outcome.mapErr .dpapi (parseVpolFile env vpolBytes)
      let keys ← orLocked env "vault" vpolBlob (decryptVpolKeys env vpolBlob masterKey)
      let attrs ← Outcome.mapErr .dpapi (parseVcrdAttributes env vcrdBytes)
      vaultResults env keys.key1 attrs) := rfl

def decodeWifi (env : Env) (profileXml : String) (masterKey : Bytes) :
    Outcome CliError (List StoreResult) := do
  let keyMaterial ← Outcome.okOr (extractKeyMaterial profileXml)
    (.io "profile XML has no <keyMaterial>")
  let blob ← hexDecode keyMaterial
  let psk ← orLocked env "wifi" blob (decryptWlanKeyMaterial env keyMaterial masterKey)
  pure [{ store := "wifi", label := "PSK", secret := psk, account := none }]

/-! ### Running a command -/

structure CliReport where
  results : List StoreResult
  deriving DecidableEq

/-- What reading a path gives: the file's contents, or the reason it cannot be read. -/
structure FileSystem where
  readToString : String → Except String String
  readBytes : String → Except String Bytes

inductive Command where
  | browser (localState : String) (cookie : Option String) (masterKeyHex : String)
  | credman (file masterKeyHex : String)
  | vault (vpol vcrd masterKeyHex : String)
  | wifi (profile masterKeyHex : String)

def Command.masterKeyHex : Command → String
  | browser _ _ masterKeyHex => masterKeyHex
  | credman _ masterKeyHex => masterKeyHex
  | vault _ _ masterKeyHex => masterKeyHex
  | wifi _ masterKeyHex => masterKeyHex

namespace Cli

/-- A read, with its failure under the path's name. -/
def orIo {α : Type} (path : String) : Except String α → Outcome CliError α
  | .ok contents => .ok contents
  | .error e => .err (.io (path ++ ": " ++ e))

def readToString (fs : FileSystem) (path : String) : Outcome CliError String :=
  orIo path (fs.readToString path)

def readBytes (fs : FileSystem) (path : String) : Outcome CliError Bytes :=
  orIo path (fs.readBytes path)

/-- `Cli::run`, with what reserves memory. The master key is parsed before any file is read. -/
def runWith (reserve : Nat → Outcome DpapiError Unit) (env : Env) (fs : FileSystem) (command : Command) :
    Outcome CliError CliReport := do
  let results ←
    (match command with
    | .browser localState cookie masterKeyHex => do
        let mk ← parseMasterKeyHex masterKeyHex
        let json ← readToString fs localState
        let cookieBytes ←
          (match cookie with
          | some p => do
              let bytes ← readBytes fs p
              pure (some bytes)
          | none => pure none)
        decodeBrowser env json cookieBytes mk
    | .credman file masterKeyHex => do
        let mk ← parseMasterKeyHex masterKeyHex
        let fileBytes ← readBytes fs file
        decodeCredman env fileBytes mk
    | .vault vpol vcrd masterKeyHex => do
        let mk ← parseMasterKeyHex masterKeyHex
        let vpolBytes ← readBytes fs vpol
        let vcrdBytes ← readBytes fs vcrd
        decodeVaultWith reserve env vpolBytes vcrdBytes mk
    | .wifi profile masterKeyHex => do
        let mk ← parseMasterKeyHex masterKeyHex
        let profileXml ← readToString fs profile
        decodeWifi env profileXml mk)
  pure { results }

def run (env : Env) (fs : FileSystem) (command : Command) : Outcome CliError CliReport :=
  runWith withCapacity env fs command

end Cli

/-! ### The text report -/

/-- One `writeln!` of `render_text`. -/
def Cli.renderRow (r : StoreResult) : String :=
  let account := r.account.getD "-"
  "[" ++ r.store ++ "] " ++ r.label ++ " | account=" ++ account ++ " | secret=" ++ r.secret ++ "\n"

def renderText (report : CliReport) : String :=
  if report.results.isEmpty then "No secrets recovered.\n"
  else report.results.foldl (fun out r => out ++ renderRow r) ""

end DpapiForensic
