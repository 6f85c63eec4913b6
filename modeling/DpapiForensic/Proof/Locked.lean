import DpapiForensic.Proof.BrowserRoundTrip
import DpapiForensic.Proof.Guid

/-!
# When a store is locked

A locked store is told from other failures by the variant of an error. So every error of the pipelines
is traced to its variant here: parsing never ends in one that locks, and under a supported cipher
decryption ends in no others.
-/

namespace DpapiForensic

open Decrypt

variable {env : Env}

/-- The errors that report a store as locked. -/
def Locks : DpapiError → Prop
  | .hmacMismatch | .decryptionFailed | .domainBackupUnsupported => True
  | _ => False

/-- A supported cipher, as far as the table goes. -/
def Supported (env : Env) (algId : UInt32) : Prop := (env.nomicon.cipherAlgInfo algId).isSome

/-! ### Parsing does not lock -/

/-- What a parser complains about: a size, a version, or another provider's blob. -/
def Malformed : DpapiError → Prop
  | .tooShort _ _ | .unsupportedVersion _ | .notDpapiProvider _ => True
  | _ => False

theorem not_locks_of_malformed (e : DpapiError) (h : Malformed e) : ¬Locks e := by
  cases e <;> simp_all [Malformed, Locks]

section Parsers

variable {fallback : UInt32} {data : Bytes} {pos : Nat}

open Outcome

theorem errs_blob_readU32 : Errs Malformed (Blob.readU32 env fallback data pos) :=
  Errs.bind errs_usizeAdd fun _ => Errs.bind errs_usizeAdd fun _ => errs_ok _

theorem errs_readLenPrefixed : Errs Malformed (Blob.readLenPrefixed env fallback data pos) := by
  refine Errs.bind errs_blob_readU32 fun ⟨_, _⟩ => ?_
  refine Errs.bind errs_usizeAdd fun _ => Errs.bind errs_usizeAdd fun _ => ?_
  exact Errs.bind (errs_okOr trivial) fun _ => Errs.bind errs_usizeAdd fun _ => errs_ok _

theorem errs_readGuid : Errs Malformed (Blob.readGuid env data pos) := by
  refine Errs.bind errs_usizeAdd fun _ => Errs.bind errs_sliceRange fun slice => ?_
  cases tryIntoArray 16 slice with
  | some guid => exact errs_ok guid
  | none => exact Errs.bind errs_usizeAdd fun _ => errs_err_iff.mpr trivial

theorem errs_parseDpapiBlobWith : Errs Malformed (parseDpapiBlobWith env fallback data) := by
  refine Errs.bind (errs_failIf trivial) fun _ => ?_
  refine Errs.bind errs_blob_readU32 fun ⟨_, _⟩ => ?_
  refine Errs.bind (errs_failIf trivial) fun _ => ?_
  refine Errs.bind errs_readGuid fun _ => ?_
  refine Errs.bind (errs_failIf trivial) fun _ => Errs.bind errs_usizeAdd fun _ => ?_
  refine Errs.bind errs_blob_readU32 fun ⟨_, _⟩ => ?_
  refine Errs.bind errs_readGuid fun _ => Errs.bind errs_usizeAdd fun _ => ?_
  refine Errs.bind errs_blob_readU32 fun ⟨_, _⟩ => ?_
  refine Errs.bind errs_readLenPrefixed fun ⟨_, _⟩ => ?_
  refine Errs.bind errs_blob_readU32 fun ⟨_, _⟩ => Errs.bind errs_blob_readU32 fun ⟨_, _⟩ => ?_
  refine Errs.bind errs_readLenPrefixed fun ⟨_, _⟩ => ?_
  refine Errs.bind errs_readLenPrefixed fun ⟨_, _⟩ => ?_
  refine Errs.bind errs_blob_readU32 fun ⟨_, _⟩ => Errs.bind errs_blob_readU32 fun ⟨_, _⟩ => ?_
  refine Errs.bind errs_readLenPrefixed fun ⟨_, _⟩ => ?_
  refine Errs.bind errs_readLenPrefixed fun ⟨_, _⟩ => ?_
  refine Errs.bind errs_readLenPrefixed fun ⟨_, _⟩ => ?_
  refine Errs.bind (errs_failIf trivial) fun _ => ?_
  exact Errs.bind errs_sliceRange fun _ => errs_ok _

theorem errs_readLenPrefixedUtf16 :
    Errs Malformed (Credential.readLenPrefixedUtf16 env fallback data pos) := by
  refine Errs.bind (Errs.bind errs_usizeAdd fun _ => errs_ok _) fun _ => ?_
  refine Errs.bind (errs_okOr trivial) fun _ => Errs.bind (errs_okOr trivial) fun _ => ?_
  exact Errs.bind (errs_okOr trivial) fun _ => errs_ok _

theorem errs_parseCredentialBlob : Errs Malformed (parseCredentialBlob env data) := by
  refine Errs.bind (errs_failIf trivial) fun _ => ?_
  refine Errs.bind (Errs.bind errs_usizeAdd fun _ => errs_ok _) fun _ => ?_
  refine Errs.bind errs_readLenPrefixedUtf16 fun ⟨_, _⟩ => ?_
  refine Errs.bind errs_readLenPrefixedUtf16 fun ⟨_, _⟩ => ?_
  refine Errs.bind errs_readLenPrefixedUtf16 fun ⟨_, _⟩ => ?_
  refine Errs.bind errs_readLenPrefixedUtf16 fun ⟨_, _⟩ => ?_
  exact Errs.bind errs_readLenPrefixedUtf16 fun ⟨_, _⟩ => errs_ok _

theorem errs_vault_readU32 : Errs Malformed (Vault.readU32 env fallback data pos) :=
  Errs.bind errs_usizeAdd fun _ => errs_ok _

theorem errs_takeBytes {len : Nat} : Errs Malformed (Vault.takeBytes data pos len) :=
  Errs.bind (errs_okOr trivial) fun _ => Errs.bind (errs_okOr trivial) fun _ => errs_ok _

theorem errs_readBcryptKey : Errs Malformed (Vault.readBcryptKey env fallback data pos) := by
  refine Errs.bind errs_vault_readU32 fun ⟨_, _⟩ => Errs.bind errs_vault_readU32 fun ⟨_, _⟩ => ?_
  refine Errs.bind errs_vault_readU32 fun ⟨_, _⟩ => Errs.bind errs_vault_readU32 fun ⟨_, _⟩ => ?_
  refine Errs.bind errs_vault_readU32 fun ⟨_, _⟩ => Errs.bind errs_vault_readU32 fun ⟨_, _⟩ => ?_
  exact errs_takeBytes

theorem errs_readVpolKeysWith : Errs Malformed (readVpolKeysWith env fallback data) := by
  refine Errs.bind errs_readBcryptKey fun ⟨_, _⟩ => ?_
  exact Errs.bind errs_readBcryptKey fun ⟨_, _⟩ => errs_ok _

end Parsers

/-! ### Decryption -/

section Decryption

variable {blob : DpapiBlob} {masterKey : Bytes} {entropy : Option Bytes}

theorem decrypt_cases (himp : env.nomicon.IsImpacket) (h : Supported env blob.algIdEncrypt) :
    (∃ plain, decryptDpapiBlob env blob masterKey entropy = .ok plain) ∨
      decryptDpapiBlob env blob masterKey entropy = .err .decryptionFailed ∨
      decryptDpapiBlob env blob masterKey entropy = .err .hmacMismatch := by
  obtain ⟨c, hc⟩ := exists_cipher_of_isSome himp h
  obtain ⟨hash, n, hn⟩ := exists_hashAlg_eq_row himp blob.algIdHash
  rw [decryptDpapiBlob_eq himp hc hn]
  rcases c.openCbc_cases ((blob.keys hash masterKey entropy).cipherKey env.crypto c)
    (Vector.replicate c.blockLen 0) blob.ciphertext with ⟨plain, hplain⟩ | hfail
  · rw [hplain, Outcome.ok_bind]
    by_cases hsigns :
        (blob.keys hash masterKey entropy).Signs env.crypto blob.hmac blob.toSign blob.sign
    · rw [Outcome.failIf_of_not (not_not.mpr hsigns)]
      exact Or.inl ⟨plain, rfl⟩
    · rw [Outcome.failIf_of hsigns]
      exact Or.inr (Or.inr rfl)
  · rw [hfail]
    exact Or.inr (Or.inl rfl)

theorem decrypt_of_not_supported (h : ¬Supported env blob.algIdEncrypt) :
    decryptDpapiBlob env blob masterKey entropy = .err (.unsupportedAlgId blob.algIdEncrypt) := by
  rw [Supported, Option.not_isSome_iff_eq_none] at h
  rw [decryptDpapiBlob, h, Outcome.okOr_none, Outcome.err_bind]

end Decryption

/-! ### The report -/

/-- An error of the command line that is no report of a locked store. -/
def NotLocked (e : CliError) : Prop := ∀ s g, e ≠ .locked s g

section Report

variable {α β : Type} {store s g : String} {inner masterKey : Bytes} {e : DpapiError}

theorem notLocked_dpapi (e : DpapiError) : NotLocked (.dpapi e) := by
  intro s g h
  cases h

theorem errs_mapErr_dpapi {x : Outcome DpapiError α} : Outcome.Errs NotLocked (x.mapErr .dpapi) :=
  Outcome.errs_mapErr notLocked_dpapi

theorem notLocked_io (reason : String) : NotLocked (.io reason) := by
  intro s g h
  cases h

theorem notLocked_badMasterKey (reason : String) : NotLocked (.badMasterKey reason) := by
  intro s g h
  cases h

theorem lockedOrErr_of_locks (he : Locks e) {b : DpapiBlob} (hb : parseDpapiBlob env inner = .ok b) :
    (Cli.lockedOrErr env store inner e : Outcome CliError α)
      = .err (.locked store (canonicalGuid b.masterKeyGuid)) := by
  rw [← guidToString_eq]
  cases e <;> simp_all [Locks, Cli.lockedOrErr]

theorem lockedOrErr_of_not_locks (he : ¬Locks e) :
    (Cli.lockedOrErr env store inner e : Outcome CliError α) = .err (.dpapi e) := by
  cases e <;> simp_all [Locks, Cli.lockedOrErr]

theorem errs_lockedOrErr {P : CliError → Prop} (hlocked : ∀ s g, P (.locked s g))
    (hdpapi : ¬Locks e → P (.dpapi e)) :
    Outcome.Errs P (Cli.lockedOrErr env store inner e : Outcome CliError α) := by
  by_cases he : Locks e
  · cases hparse : parseDpapiBlob env inner with
    | ok b =>
        rw [lockedOrErr_of_locks he hparse]
        exact Outcome.errs_err_iff.mpr (hlocked _ _)
    | err e' => cases e <;> simp_all [Locks, Cli.lockedOrErr]
    | panic => cases e <;> simp_all [Locks, Cli.lockedOrErr]
  · rw [lockedOrErr_of_not_locks he]
    exact Outcome.errs_err_iff.mpr (hdpapi he)

/-- Of a call's errors, those that lock are reported as such and the others passed on. -/
theorem errs_orLocked {P : CliError → Prop} {Q : DpapiError → Prop} (hlocked : ∀ s g, P (.locked s g))
    (hdpapi : ∀ e, Q e → P (.dpapi e)) {x : Outcome DpapiError α} (hx : Outcome.Errs Q x) :
    Outcome.Errs P (Cli.orLocked env store inner x) := by
  cases x with
  | ok a => exact Outcome.errs_ok a
  | err e => exact errs_lockedOrErr hlocked fun _ => hdpapi e (hx e rfl)
  | panic => exact Outcome.errs_panic

/-- A step that never reports a locked store leaves the report to what follows it. -/
theorem bind_eq_locked_iff {x : Outcome CliError α} {f : α → Outcome CliError β}
    (hx : Outcome.Errs NotLocked x) :
    (x >>= f) = .err (.locked s g) ↔ ∃ a, x = .ok a ∧ f a = .err (.locked s g) := by
  rw [Outcome.bind_eq_err_iff, or_iff_right]
  intro h
  exact hx _ h s g rfl

theorem bind_eq_locked_iff_left {x : Outcome CliError α} {f : α → Outcome CliError β}
    (hf : ∀ a, Outcome.Errs NotLocked (f a)) :
    (x >>= f) = .err (.locked s g) ↔ x = .err (.locked s g) := by
  rw [Outcome.bind_eq_err_iff, or_iff_left]
  rintro ⟨a, -, h⟩
  exact hf a _ h s g rfl

/-- The blob is one that could be opened, and this master key does not open it. -/
def Withheld (env : Env) (b : DpapiBlob) (masterKey : Bytes) : Prop :=
  Supported env b.algIdEncrypt ∧ ∃ e, decryptDpapiBlob env b masterKey none = .err e

/-- Parses the blob, decrypts it, and then ends in no error that locks. -/
def Opens (env : Env) (masterKey inner : Bytes) (x : Outcome DpapiError α) : Prop :=
  ∃ tail : Bytes → Outcome DpapiError α, (∀ plain, Outcome.Errs (¬Locks ·) (tail plain)) ∧
    x = (do
      let b ← parseDpapiBlob env inner
      let plain ← decryptDpapiBlob env b masterKey none
      tail plain)

/-- Opening a blob is reported as locked exactly when the blob does not open. -/
theorem orLocked_eq_locked_iff (himp : env.nomicon.IsImpacket) {x : Outcome DpapiError α}
    (hx : Opens env masterKey inner x) :
    Cli.orLocked env store inner x = .err (.locked s g) ↔
      ∃ b, parseDpapiBlob env inner = .ok b ∧ Withheld env b masterKey ∧ s = store ∧
        g = canonicalGuid b.masterKeyGuid := by
  obtain ⟨tail, htail, rfl⟩ := hx
  cases hparse : parseDpapiBlob env inner with
  | panic => simp [Cli.orLocked]
  | err e =>
      have he := not_locks_of_malformed e (errs_parseDpapiBlobWith e hparse)
      simp [Cli.orLocked, lockedOrErr_of_not_locks he]
  | ok b =>
      simp only [Outcome.ok_bind, Outcome.ok.injEq, exists_eq_left', Withheld]
      by_cases hsupported : Supported env b.algIdEncrypt
      · rcases decrypt_cases himp hsupported with ⟨plain, hplain⟩ | hfail | hfail
        · rw [hplain, Outcome.ok_bind]
          cases htailPlain : tail plain with
          | ok a => simp [Cli.orLocked]
          | panic => simp [Cli.orLocked]
          | err e => simp [Cli.orLocked, lockedOrErr_of_not_locks (htail plain e htailPlain)]
        · rw [hfail, Outcome.err_bind, Cli.orLocked,
            lockedOrErr_of_locks (e := .decryptionFailed) trivial hparse]
          simp [hsupported, eq_comm]
        · rw [hfail, Outcome.err_bind, Cli.orLocked,
            lockedOrErr_of_locks (e := .hmacMismatch) trivial hparse]
          simp [hsupported, eq_comm]
      · rw [decrypt_of_not_supported hsupported, Outcome.err_bind, Cli.orLocked,
          lockedOrErr_of_not_locks (e := .unsupportedAlgId _) not_false]
        simp [hsupported]

end Report

/-! ### The decoders -/

section Decoders

/-- A decoder, given what stripping its wrapper gives, reports its store as locked exactly when the
blob inside does not open, and always under that blob's GUID. -/
def LocksExactly (env : Env) (store : String) (strip : Outcome CliError Bytes)
    (decode : Bytes → Outcome CliError (List StoreResult)) : Prop :=
  (∀ masterKey s g, decode masterKey = .err (.locked s g) ↔
    ∃ B b, strip = .ok B ∧ parseDpapiBlob env B = .ok b ∧ Withheld env b masterKey ∧ s = store ∧
      g = canonicalGuid b.masterKeyGuid ∧ g ≠ "unknown") ∧
  (∀ masterKey masterKey' s s' g g', decode masterKey = .err (.locked s g) →
    decode masterKey' = .err (.locked s' g') → s = s' ∧ g = g')

/-- A decoder that strips its wrapper, opens the blob, and goes on without a report locks exactly. -/
theorem locksExactly_of_opens {α : Type} (himp : env.nomicon.IsImpacket) {store : String}
    {strip : Outcome CliError Bytes} {openBlob : Bytes → Bytes → Outcome DpapiError α}
    {rest : α → Outcome CliError (List StoreResult)}
    {decode : Bytes → Outcome CliError (List StoreResult)}
    (hdecode : ∀ masterKey, decode masterKey =
      (strip >>= fun B => Cli.orLocked env store B (openBlob masterKey B) >>= rest))
    (hstrip : Outcome.Errs NotLocked strip)
    (hopen : ∀ masterKey B, strip = .ok B → Opens env masterKey B (openBlob masterKey B))
    (hrest : ∀ a, Outcome.Errs NotLocked (rest a)) : LocksExactly env store strip decode := by
  have hiff : ∀ masterKey s g, decode masterKey = .err (.locked s g) ↔
      ∃ B, strip = .ok B ∧ ∃ b, parseDpapiBlob env B = .ok b ∧ Withheld env b masterKey ∧
        s = store ∧ g = canonicalGuid b.masterKeyGuid := by
    intro masterKey s g
    rw [hdecode, bind_eq_locked_iff hstrip]
    apply exists_congr
    intro B
    rw [bind_eq_locked_iff_left hrest]
    apply and_congr_right
    intro hB
    exact orLocked_eq_locked_iff himp (hopen masterKey B hB)
  constructor
  · intro masterKey s g
    rw [hiff]
    constructor
    · rintro ⟨B, hB, b, hb, hwithheld, hs, hg⟩
      exact ⟨B, b, hB, hb, hwithheld, hs, hg, hg ▸ canonicalGuid_ne_unknown _⟩
    · rintro ⟨B, b, hB, hb, hwithheld, hs, hg, -⟩
      exact ⟨B, hB, b, hb, hwithheld, hs, hg⟩
  · intro masterKey masterKey' s s' g g' hlocked hlocked'
    obtain ⟨B, hB, b, hb, -, rfl, rfl⟩ := (hiff _ _ _).mp hlocked
    obtain ⟨B', hB', b', hb', -, rfl, rfl⟩ := (hiff _ _ _).mp hlocked'
    rw [hB, Outcome.ok.injEq] at hB'
    rw [← hB', hb, Outcome.ok.injEq] at hb'
    rw [hb']
    exact ⟨rfl, rfl⟩

section Browser

variable {P : CliError → Prop}

theorem errs_browserKeyBlob (hdpapi : ∀ e, P (.dpapi e)) (hio : ∀ reason, P (.io reason))
    (localStateJson : String) : Outcome.Errs P (browserKeyBlob env localStateJson) := by
  refine Outcome.Errs.bind ?_ fun _ => ?_
  · cases env.jsonFromStr localStateJson with
    | ok value => exact Outcome.errs_ok _
    | error reason => exact Outcome.errs_err_iff.mpr (hio _)
  · exact Outcome.Errs.bind (Outcome.errs_okOr (hio _)) fun _ => Outcome.errs_mapErr hdpapi

theorem errs_browserResults (hdpapi : ∀ e, P (.dpapi e)) (hio : ∀ reason, P (.io reason))
    (cookieBlob : Option Bytes) (cookieKey : Vector UInt8 32) :
    Outcome.Errs P (browserResults env cookieBlob cookieKey) := by
  cases cookieBlob with
  | none => exact Outcome.errs_ok _
  | some blob =>
      refine Outcome.Errs.bind ?_ fun _ => Outcome.errs_ok _
      refine Outcome.Errs.bind (Outcome.errs_mapErr hdpapi) fun encoding => ?_
      cases encoding with
      | v10 => exact Outcome.errs_mapErr hdpapi
      | v20 => exact Outcome.errs_mapErr hdpapi
      | dpapiBlob => exact Outcome.errs_err_iff.mpr (hio _)
      | raw => exact Outcome.errs_err_iff.mpr (hio _)

end Browser

/-- What `decode_wifi` strips: the XML around the key, and its hexadecimal. -/
def wifiKeyBlob (profileXml : String) : Outcome CliError Bytes := do
  let keyMaterial ← Outcome.okOr (extractKeyMaterial profileXml)
    (.io "profile XML has no <keyMaterial>")
  Cli.hexDecode keyMaterial

theorem errs_vaultResults {P : CliError → Prop} (key1 : Bytes) (attrs : List VcrdAttribute) :
    Outcome.Errs P (vaultResults env key1 attrs) := by
  induction attrs with
  | nil => exact Outcome.errs_ok _
  | cons attr attrs ih =>
      rw [vaultResults]
      cases decryptVcrdAttribute env attr key1 with
      | err e => exact ih
      | panic => exact Outcome.errs_panic
      | ok cleartext =>
          simp only
          cases parseInternetExplorer env cleartext with
          | err e => exact ih
          | panic => exact Outcome.errs_panic
          | ok cred => exact Outcome.Errs.bind ih fun _ => Outcome.errs_ok _

theorem browser_locksExactly (himp : env.nomicon.IsImpacket) (localStateJson : String)
    (cookieBlob : Option Bytes) :
    LocksExactly env "browser" (browserKeyBlob env localStateJson)
      (decodeBrowser env localStateJson cookieBlob) := by
  apply locksExactly_of_opens himp (decodeBrowser_eq localStateJson cookieBlob)
    (errs_browserKeyBlob notLocked_dpapi notLocked_io localStateJson)
  · intro masterKey B _
    refine ⟨_, fun _ => ?_, rfl⟩
    exact Outcome.errs_okOr not_false
  · exact errs_browserResults notLocked_dpapi notLocked_io cookieBlob

theorem credman_locksExactly (himp : env.nomicon.IsImpacket) (fileBytes : Bytes) :
    LocksExactly env "credman" ((parseCredentialFile env fileBytes).mapErr .dpapi)
      (decodeCredman env fileBytes) := by
  apply locksExactly_of_opens himp (fun masterKey => rfl) errs_mapErr_dpapi
  · intro masterKey B _
    exact ⟨parseCredentialBlob env, fun _ => errs_parseCredentialBlob.mono not_locks_of_malformed, rfl⟩
  · intro cred
    exact Outcome.errs_ok _

theorem vault_locksExactly (himp : env.nomicon.IsImpacket) (vpolBytes vcrdBytes : Bytes) :
    LocksExactly env "vault" ((parseVpolFile env vpolBytes).mapErr .dpapi)
      (decodeVault env vpolBytes vcrdBytes) := by
  apply locksExactly_of_opens himp (fun masterKey => rfl) errs_mapErr_dpapi
  · intro masterKey B _
    exact ⟨readVpolKeysWith env 0, fun _ => errs_readVpolKeysWith.mono not_locks_of_malformed, rfl⟩
  · intro keys
    exact Outcome.Errs.bind errs_mapErr_dpapi fun attrs => errs_vaultResults keys.key1 attrs

theorem wifi_locksExactly (himp : env.nomicon.IsImpacket) (profileXml : String) :
    LocksExactly env "wifi" (wifiKeyBlob profileXml) (decodeWifi env profileXml) := by
  cases hkey : extractKeyMaterial profileXml with
  | none => simp [LocksExactly, decodeWifi, wifiKeyBlob, hkey]
  | some keyMaterial =>
      have hstrip : wifiKeyBlob profileXml = Cli.hexDecode keyMaterial := by
        rw [wifiKeyBlob, hkey, Outcome.okOr_some, Outcome.ok_bind]
      rw [hstrip]
      apply locksExactly_of_opens himp
      · intro masterKey
        rw [decodeWifi, hkey, Outcome.okOr_some, Outcome.ok_bind]
      · exact errs_hexDecodeWith notLocked_badMasterKey _
      · intro masterKey B hB
        -- the core decodes the same text again, to the same bytes
        rw [decryptWlanKeyMaterial, wifi_hexDecode_of_cli hB, Outcome.ok_bind]
        refine ⟨_, fun _ => ?_, rfl⟩
        exact Outcome.Errs.bind (Outcome.errs_okOr not_false) fun _ => Outcome.errs_ok _
      · intro psk
        exact Outcome.errs_ok _

/-- **A store is reported as locked exactly when its blob does not open.** Under a supported cipher
decryption fails in two ways only. -/
theorem decoders_lock_exactly (env : Env) (himp : env.nomicon.IsImpacket) :
    (∀ localStateJson cookieBlob, LocksExactly env "browser" (browserKeyBlob env localStateJson)
      (decodeBrowser env localStateJson cookieBlob)) ∧
    (∀ fileBytes, LocksExactly env "credman" ((parseCredentialFile env fileBytes).mapErr .dpapi)
      (decodeCredman env fileBytes)) ∧
    (∀ vpolBytes vcrdBytes, LocksExactly env "vault" ((parseVpolFile env vpolBytes).mapErr .dpapi)
      (decodeVault env vpolBytes vcrdBytes)) ∧
    (∀ profileXml, LocksExactly env "wifi" (wifiKeyBlob profileXml) (decodeWifi env profileXml)) ∧
    (∀ blob masterKey entropy e, Supported env blob.algIdEncrypt →
      decryptDpapiBlob env blob masterKey entropy = .err e →
        e = .decryptionFailed ∨ e = .hmacMismatch) := by
  refine ⟨browser_locksExactly himp, credman_locksExactly himp, vault_locksExactly himp,
    wifi_locksExactly himp, ?_⟩
  intro blob masterKey entropy e hsupported he
  rcases decrypt_cases himp hsupported with ⟨plain, hplain⟩ | hfail | hfail
  · rw [hplain] at he
    cases he
  · exact Or.inl (Outcome.err.inj (he.symm.trans hfail))
  · exact Or.inr (Outcome.err.inj (he.symm.trans hfail))

/-- A credential file around a blob. -/
def credentialFileOf (inner : Bytes) : Bytes :=
  le32 1 ++ le32 (UInt32.ofNat inner.length) ++ le32 0 ++ inner

/-- The blob minted by Windows, naming another master key. -/
def vector1Elsewhere : Protection :=
  { vector1 with masterKeyGuid := beVector 16 0x443322116655887799aabbccddeeff00 }

/-- What the primitives give for that blob under a master key of 64 zeros. The padding is wrong. -/
def zeroKeyAnswers : KnownAnswers where
  sha1 := [(List.replicate 64 0, beVector 20 0xc8d7d0ef0eedfa82d2ea1aa592845b9a6d4b02b7)]
  hmacSha512 :=
    [((beBytes 20 0xc8d7d0ef0eedfa82d2ea1aa592845b9a6d4b02b7, vector1.salt.val),
      beVector 32 0x2b5f56dfc1013e409c9f3f6314ff120336cb0e5eb8726f6e50e31939f8dce7af ++
      beVector 32 0xca16318b1915cda427ab9d96f0454bae274b1ea7391d39720609e8228d759c7b)]
  aes256 := (CbcCipher.identity 32 16).withAnswer
    (beVector 32 0x2b5f56dfc1013e409c9f3f6314ff120336cb0e5eb8726f6e50e31939f8dce7af)
    (Vector.replicate 16 0)
    (beBytes 32 0x78a45d588b27187affa7fb27c36bf1f1fef3537187643667def56e65b9ca65c6)
    (beBytes 32 0xb61d7576c0c6caf3690edb247bde3f7edaa59580e3b4be1265ea78e8c1b8a61d) (by decide)

/-- Two blobs that differ in their master key's GUID, each locked under its own. -/
theorem decoders_lock_exactly_vectors :
    decodeCredman zeroKeyAnswers.env (credentialFileOf vector1Bytes) (List.replicate 64 0)
      = .err (.locked "credman" "5e9ff133-40e3-4abe-8a2e-2b4e62bd0cc6") ∧
    decodeCredman zeroKeyAnswers.env
        (credentialFileOf (vector1Elsewhere.wire vector1Answers.env.crypto).bytes)
        (List.replicate 64 0)
      = .err (.locked "credman" "11223344-5566-7788-99aa-bbccddeeff00") := by
  have hlocks := (decoders_lock_exactly zeroKeyAnswers.env linkedTables_isImpacket).2.1
  constructor
  · have hfile : parseCredentialFile zeroKeyAnswers.env (credentialFileOf vector1Bytes)
        = .ok vector1Bytes := by
      decide +kernel
    have hparse : parseDpapiBlob zeroKeyAnswers.env vector1Bytes
        = .ok (vector1.wire vector1Answers.env.crypto).toBlob := by
      decide +kernel
    have hfail : decryptDpapiBlob zeroKeyAnswers.env (vector1.wire vector1Answers.env.crypto).toBlob
        (List.replicate 64 0) none = .err .decryptionFailed := by
      decide +kernel
    exact (hlocks (credentialFileOf vector1Bytes)).1 _ _ _ |>.mpr ⟨vector1Bytes, _,
      by rw [hfile, Outcome.mapErr_ok], hparse, ⟨rfl, _, hfail⟩, rfl, by decide +kernel,
      by decide +kernel⟩
  · have hfile : parseCredentialFile zeroKeyAnswers.env
        (credentialFileOf (vector1Elsewhere.wire vector1Answers.env.crypto).bytes)
        = .ok (vector1Elsewhere.wire vector1Answers.env.crypto).bytes := by
      decide +kernel
    have hparse : parseDpapiBlob zeroKeyAnswers.env (vector1Elsewhere.wire vector1Answers.env.crypto).bytes
        = .ok (vector1Elsewhere.wire vector1Answers.env.crypto).toBlob := by
      decide +kernel
    have hfail : decryptDpapiBlob zeroKeyAnswers.env
        (vector1Elsewhere.wire vector1Answers.env.crypto).toBlob (List.replicate 64 0) none
          = .err .decryptionFailed := by
      decide +kernel
    exact (hlocks _).1 _ _ _ |>.mpr ⟨_, _, by rw [hfile, Outcome.mapErr_ok], hparse,
      ⟨rfl, _, hfail⟩, rfl, by decide +kernel, by decide +kernel⟩

end Decoders

end DpapiForensic
