import DpapiForensic.Cli

/-!
# The process (`forensic/src/main.rs`)

`main` runs the command and turns the end of the run into what the process leaves behind: an exit code,
the report on standard output, or one line on standard error. The line is the error's `Display`.
-/

namespace DpapiForensic

/-- `format!("{v:#010x}")`. -/
def hexWord (v : UInt32) : String := "0x" ++ hexLower (be32 v.toNat)

/-- `impl Display for DpapiError`. -/
def DpapiError.display : DpapiError → String
  | tooShort needed got =>
      "data too short: need at least " ++ toString needed ++ " bytes, got " ++ toString got
  | unsupportedVersion version => "unsupported version: " ++ toString version.toNat
  | notDpapiProvider guid =>
      "not a DPAPI blob: provider GUID " ++ guid ++ " != the DPAPI provider"
  | unsupportedAlgId algId => "unsupported algorithm ID: " ++ hexWord algId
  | invalidKeyLength => "invalid key or IV length"
  | decryptionFailed => "decryption failed"
  | hmacMismatch => "HMAC verification failed"
  | utf16Error => "UTF-16 decode error"
  | domainBackupUnsupported => "domain RSA backup-key path is not implemented"
  | base64Error => "base64 decode error in Local State encrypted_key"
  | missingDpapiPrefix shown =>
      "Local State encrypted_key missing the 5-byte 'DPAPI' prefix (first bytes: " ++ shown ++ ")"
  | unexpectedKeyLength expected got =>
      "recovered cookie key has unexpected length: expected " ++ toString expected ++ " bytes, got " ++
        toString got
  | invalidHex reason => "invalid hex in WLAN keyMaterial: " ++ reason

/-- `impl Display for CliError`. -/
def CliError.display : CliError → String
  | dpapi e => "decode failed: " ++ e.display
  | io reason => "io error: " ++ reason
  | badMasterKey reason => "bad master key: " ++ reason
  | locked store mkGuid =>
      store ++ " store present but LOCKED: no usable master key (master-key GUID " ++ mkGuid ++
        "); supply the key for that GUID"

inductive ExitCode where
  | success
  | failure
  deriving DecidableEq

/-- What a process that has ended leaves behind. -/
structure Exit where
  code : ExitCode
  stdout : String
  stderr : String
  deriving DecidableEq

/-- `main`, after the arguments are parsed, on a machine that grants some requests for memory and refuses
others. `toStringPretty` is `serde_json::to_string_pretty`, its error as displayed. -/
def Cli.main (grants : Nat → Bool) (env : Env) (toStringPretty : CliReport → Except String String)
    (fs : FileSystem) (command : Command) (json : Bool) : Outcome Empty Exit :=
  match Cli.runWith (withCapacityFrom grants) env fs command with
  | .ok report =>
      if json then
        match toStringPretty report with
        | .ok s => .ok { code := .success, stdout := s ++ "\n", stderr := "" }
        | .error e =>
            .ok { code := .failure, stdout := "", stderr := "error serializing report: " ++ e ++ "\n" }
      else .ok { code := .success, stdout := renderText report, stderr := "" }
  | .err e => .ok { code := .failure, stdout := "", stderr := "dpapi4n6: " ++ e.display ++ "\n" }
  | .panic => .panic

end DpapiForensic
