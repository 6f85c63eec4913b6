import DpapiForensic.Main
import DpapiForensic.Lib.Separator
import DpapiForensic.Proof.RunLocked

/-!
# What the process says

A failed run leaves one line. Each kind of error opens its line in its own way, and what follows the
opening shows the error's data in full, so the line tells which error it was. In particular a line
that reports a locked store tells which master key to look for.
-/

namespace DpapiForensic

open Cli

/-! ### Numbers and digits in a text -/

section Numbers

theorem notMem_toDigits {c : Char} (hc : ¬c.isDigit) (n : Nat) : c ∉ Nat.toDigits 10 n := by
  intro hmem
  exact hc (Nat.isDigit_of_mem_toDigits (by decide) (by decide) hmem)

theorem toDigits_injective {n n' : Nat} (h : Nat.toDigits 10 n = Nat.toDigits 10 n') : n = n' := by
  have hvalue := congrArg (fun cs => Nat.ofDigitChars 10 cs 0) h
  simpa only [Nat.ofDigitChars_toDigits (b := 10) (by decide) (by decide)] using hvalue

theorem toString_injective {n n' : Nat} (h : toString n = toString n') : n = n' := by
  apply toDigits_injective
  rw [← Nat.toList_repr, ← Nat.toList_repr]
  exact congrArg String.toList h

theorem toString_append_inj {c : Char} (hc : ¬c.isDigit) {n n' : Nat} {s s' : List Char}
    (h : (toString n).toList ++ c :: s = (toString n').toList ++ c :: s') : n = n' ∧ s = s' := by
  simp only [Nat.toString_eq_repr, Nat.toList_repr] at h
  obtain ⟨hdigits, hs⟩ := append_cons_inj (notMem_toDigits hc n) (notMem_toDigits hc n') h
  exact ⟨toDigits_injective hdigits, hs⟩

/-- Two numbers in a message come back apart. -/
theorem numbers_inj {n m n' m' : Nat}
    (h : toString n ++ (" bytes, got " ++ toString m) = toString n' ++ (" bytes, got " ++ toString m')) :
    n = n' ∧ m = m' := by
  have hspace : " bytes, got ".toList = ' ' :: "bytes, got ".toList := by decide +kernel
  have hcut : ∀ n m : Nat, (toString n ++ (" bytes, got " ++ toString m)).toList
      = (toString n).toList ++ ' ' :: ("bytes, got " ++ toString m).toList := by
    intro n m
    rw [String.toList_append, String.toList_append, String.toList_append, hspace, List.cons_append]
  have hlist := congrArg String.toList h
  rw [hcut, hcut] at hlist
  obtain ⟨hn, hrest⟩ := toString_append_inj (by decide) hlist
  exact ⟨hn, toString_injective ((String.append_right_inj _).mp (String.toList_inj.mp hrest))⟩

theorem hexLower_injective {bytes bytes' : Bytes} (h : hexLower bytes = hexLower bytes') :
    bytes = bytes' :=
  keyGiven_inj (keyGiven_hexLower bytes) (h ▸ keyGiven_hexLower bytes')

theorem hexWord_injective {v v' : UInt32} (h : hexWord v = hexWord v') : v = v' := by
  have hbytes := hexLower_injective ((String.append_right_inj "0x").mp h)
  exact le32_injective (List.reverse_injective hbytes)

end Numbers

/-! ### The core's errors -/

section Core

/-- What stands in front of the data in the lines of the core's errors. -/
def DpapiError.opening : Fin 13 → String
  | 0 => "data too short: need at least "
  | 1 => "unsupported version: "
  | 2 => "not a DPAPI blob: provider GUID "
  | 3 => "unsupported algorithm ID: "
  | 4 => "invalid key or IV length"
  | 5 => "decryption failed"
  | 6 => "HMAC verification failed"
  | 7 => "UTF-16 decode error"
  | 8 => "domain RSA backup-key path is not implemented"
  | 9 => "base64 decode error in Local State encrypted_key"
  | 10 => "Local State encrypted_key missing the 5-byte 'DPAPI' prefix (first bytes: "
  | 11 => "recovered cookie key has unexpected length: expected "
  | 12 => "invalid hex in WLAN keyMaterial: "

def DpapiError.kind : DpapiError → Fin 13
  | tooShort _ _ => 0
  | unsupportedVersion _ => 1
  | notDpapiProvider _ => 2
  | unsupportedAlgId _ => 3
  | invalidKeyLength => 4
  | decryptionFailed => 5
  | hmacMismatch => 6
  | utf16Error => 7
  | domainBackupUnsupported => 8
  | base64Error => 9
  | missingDpapiPrefix _ => 10
  | unexpectedKeyLength _ _ => 11
  | invalidHex _ => 12

/-- The data, and the text between and behind it. -/
def DpapiError.shown : DpapiError → String
  | tooShort needed got => toString needed ++ (" bytes, got " ++ toString got)
  | unsupportedVersion version => toString version.toNat
  | notDpapiProvider guid => guid ++ " != the DPAPI provider"
  | unsupportedAlgId algId => hexWord algId
  | missingDpapiPrefix shown => shown ++ ")"
  | unexpectedKeyLength expected got => toString expected ++ (" bytes, got " ++ toString got)
  | invalidHex reason => reason
  | _ => ""

theorem DpapiError.display_eq (e : DpapiError) : e.display = opening e.kind ++ e.shown := by
  have hnumbers : ∀ a b c d : String, a ++ b ++ c ++ d = a ++ (b ++ (c ++ d)) := by
    intro a b c d
    rw [String.append_assoc, String.append_assoc]
  cases e with
  | tooShort needed got => exact hnumbers _ _ _ _
  | unsupportedVersion version => rfl
  | notDpapiProvider guid => exact String.append_assoc
  | unsupportedAlgId algId => rfl
  | missingDpapiPrefix shown => exact String.append_assoc
  | unexpectedKeyLength expected got => exact hnumbers _ _ _ _
  | invalidHex reason => rfl
  | _ => exact String.append_empty.symm

theorem DpapiError.opening_free : ∀ i j, (opening i).toList <+: (opening j).toList → i = j := by
  decide +kernel

/-- The line shows the error's data in full. -/
theorem DpapiError.display_injective {e e' : DpapiError} (h : e.display = e'.display) : e = e' := by
  have hopens : ∀ e : DpapiError, (opening e.kind).toList <+: e.display.toList := by
    intro e
    rw [e.display_eq, String.toList_append]
    exact List.prefix_append _ _
  have hkind : e.kind = e'.kind := opening_unique opening_free (hopens e) (h ▸ hopens e')
  have hshown : e.shown = e'.shown := by
    rwa [e.display_eq, e'.display_eq, hkind, String.append_right_inj] at h
  cases e with
  | tooShort needed got =>
      cases e' with
      | tooShort needed' got' =>
          obtain ⟨rfl, rfl⟩ := numbers_inj hshown
          rfl
      | _ => cases hkind
  | unsupportedVersion version =>
      cases e' with
      | unsupportedVersion version' => rw [UInt32.toNat_inj.mp (toString_injective hshown)]
      | _ => cases hkind
  | notDpapiProvider guid =>
      cases e' with
      | notDpapiProvider guid' => rw [(String.append_left_inj _).mp hshown]
      | _ => cases hkind
  | unsupportedAlgId algId =>
      cases e' with
      | unsupportedAlgId algId' => rw [hexWord_injective hshown]
      | _ => cases hkind
  | missingDpapiPrefix shown =>
      cases e' with
      | missingDpapiPrefix shown' => rw [(String.append_left_inj _).mp hshown]
      | _ => cases hkind
  | unexpectedKeyLength expected got =>
      cases e' with
      | unexpectedKeyLength expected' got' =>
          obtain ⟨rfl, rfl⟩ := numbers_inj hshown
          rfl
      | _ => cases hkind
  | invalidHex reason =>
      cases e' with
      | invalidHex reason' => exact congrArg invalidHex hshown
      | _ => cases hkind
  | _ => cases e' <;> first | rfl | cases hkind

end Core

/-! ### The command line's errors -/

section CommandLine

/-- The store a command reads. -/
def Command.store : Command → String
  | browser _ _ _ => "browser"
  | credman _ _ => "credman"
  | vault _ _ _ => "vault"
  | wifi _ _ => "wifi"

theorem Wraps.store_eq {env : Env} {fs : FileSystem} {inner : Bytes} {command : Command}
    {store : String} (h : Wraps env fs inner command store) : store = command.store := by
  cases h <;> rfl

def CliError.openings : List String :=
  ["decode failed: ", "io error: ", "bad master key: ", "browser", "credman", "vault", "wifi"]

theorem CliError.openings_free :
    ∀ w ∈ openings, ∀ w' ∈ openings, w.toList <+: w'.toList → w = w' := by
  decide +kernel

def CliError.opening : CliError → String
  | dpapi _ => "decode failed: "
  | io _ => "io error: "
  | badMasterKey _ => "bad master key: "
  | locked store _ => store

def CliError.shown : CliError → String
  | dpapi e => e.display
  | io reason => reason
  | badMasterKey reason => reason
  | locked _ mkGuid => " store present but LOCKED: no usable master key (master-key GUID " ++
      (mkGuid ++ "); supply the key for that GUID")

theorem CliError.display_eq (e : CliError) : e.display = e.opening ++ e.shown := by
  cases e with
  | locked store mkGuid =>
      have hparts : ∀ a b c d : String, a ++ b ++ c ++ d = a ++ (b ++ (c ++ d)) := by
        intro a b c d
        rw [String.append_assoc, String.append_assoc]
      exact hparts _ _ _ _
  | _ => rfl

/-- If the error reports a locked store, it is one that a command reads. -/
def CliError.OfCommand (e : CliError) : Prop :=
  ∀ s g, e = .locked s g → ∃ command : Command, s = command.store

theorem CliError.OfCommand.mem_openings {e : CliError} (h : e.OfCommand) : e.opening ∈ openings := by
  cases e with
  | locked s g =>
      obtain ⟨command, rfl⟩ := h s g rfl
      cases command <;> simp [opening, openings, Command.store]
  | _ => simp [opening, openings]

theorem Command.opening_ne_store (command : Command) {e : CliError} (he : NotLocked e) :
    e.opening ≠ command.store := by
  cases e with
  | locked s g => exact absurd rfl (he s g)
  | _ => cases command <;> simp [CliError.opening, store]

theorem CliError.display_injective {e e' : CliError} (he : e.OfCommand) (he' : e'.OfCommand)
    (h : e.display = e'.display) : e = e' := by
  have hopens : ∀ e : CliError, e.opening.toList <+: e.display.toList := by
    intro e
    rw [e.display_eq, String.toList_append]
    exact List.prefix_append _ _
  have hopening : e.opening = e'.opening := by
    rcases List.prefix_or_prefix_of_prefix (hopens e) (h ▸ hopens e') with hle | hle
    · exact openings_free _ he.mem_openings _ he'.mem_openings hle
    · exact (openings_free _ he'.mem_openings _ he.mem_openings hle).symm
  have hshown : e.shown = e'.shown := by
    rwa [e.display_eq, e'.display_eq, hopening, String.append_right_inj] at h
  -- a store is none of the other openings, so the two errors are of one kind
  cases e with
  | dpapi d =>
      cases e' with
      | dpapi d' => rw [DpapiError.display_injective hshown]
      | locked s' g' =>
          obtain ⟨command, rfl⟩ := he' s' g' rfl
          exact absurd hopening (command.opening_ne_store (notLocked_dpapi d))
      | _ => simp [opening] at hopening
  | io reason =>
      cases e' with
      | io reason' => exact congrArg CliError.io hshown
      | locked s' g' =>
          obtain ⟨command, rfl⟩ := he' s' g' rfl
          exact absurd hopening (command.opening_ne_store (notLocked_io reason))
      | _ => simp [opening] at hopening
  | badMasterKey reason =>
      cases e' with
      | badMasterKey reason' => exact congrArg CliError.badMasterKey hshown
      | locked s' g' =>
          obtain ⟨command, rfl⟩ := he' s' g' rfl
          exact absurd hopening (command.opening_ne_store (notLocked_badMasterKey reason))
      | _ => simp [opening] at hopening
  | locked s g =>
      obtain ⟨command, rfl⟩ := he s g rfl
      cases e' with
      | locked s' g' =>
          have hguid := (String.append_left_inj _).mp ((String.append_right_inj _).mp hshown)
          rw [show command.store = s' from hopening, hguid]
      | dpapi d' => exact absurd hopening.symm (command.opening_ne_store (notLocked_dpapi d'))
      | io reason' => exact absurd hopening.symm (command.opening_ne_store (notLocked_io reason'))
      | badMasterKey reason' =>
          exact absurd hopening.symm (command.opening_ne_store (notLocked_badMasterKey reason'))

end CommandLine

/-! ### GUIDs -/

section Guid

variable {g g' : Vector UInt8 16}

theorem length_hexLower (bytes : Bytes) : (hexLower bytes).toList.length = 2 * bytes.length := by
  rw [toList_hexLower, List.length_flatMap]
  simp [Nat.mul_comm]

end Guid

end DpapiForensic
