import DpapiForensic.Proof.Footprint
import DpapiForensic.Proof.Messages

/-!
# One report for all keys

A run that reports has opened a blob, and opening checks a signature that is made under the key. So two
keys that both open it signed the same blob, and unless messages that were hashed for the two signatures
collide, they are one key as far as decryption goes. And a key that does not open it is told so.
-/

namespace DpapiForensic

open Cli

variable {env : Env} {fs fs' : FileSystem} {command command' : Command}

/-- What a report comes from: the files wrap a blob that is sealed under the key. -/
theorem exists_seals_of_yields {Record : Bytes → List VcrdAttribute → Prop} {masterKey : Bytes}
    {results : List StoreResult} (h : ArtifactYields Record env fs masterKey command results) :
    ∃ (inner : Bytes) (w : WireBlob) (rest plain : Bytes), Wraps env fs inner command command.store ∧
      inner = w.bytes ++ rest ∧ w.Seals env.crypto masterKey none plain := by
  cases h with
  | browser hjson hcookie h =>
      obtain ⟨value, text, keyBlob, key, cookie, hvalue, hfield, hdecoded, ⟨w, rest, hblob, hseals⟩, -⟩ := h
      exact ⟨keyBlob, w, rest, _, .browser hjson hcookie hvalue hfield hdecoded, hblob, hseals⟩
  | credman hfile h =>
      obtain ⟨file, tail, cred, rest', rfl, ⟨w, rest, hblob, hseals⟩, -⟩ := h
      exact ⟨_, w, rest, _, .credman hfile rfl, hblob, hseals⟩
  | vault hvpol hvcrd _ h =>
      obtain ⟨vpol, tail, keys, rest', rfl, ⟨w, rest, hblob, hseals⟩, -⟩ := h
      exact ⟨_, w, rest, _, .vault hvpol hvcrd rfl, hblob, hseals⟩
  | wifi hprofile h =>
      obtain ⟨body, blob, plain, psk, hbody, hhex, ⟨w, rest, hblob, hseals⟩, -⟩ := h
      exact ⟨blob, w, rest, plain, .wifi hprofile hbody hhex, hblob, hseals⟩

/-- Disks that agree on what a command reads wrap the same, whichever key is given. -/
theorem Wraps.congr {inner : Bytes} {store : String} (hreads : SameReads fs fs' command command')
    (h : Wraps env fs inner command store) : Wraps env fs' inner command' store := by
  cases hreads with
  | @browser _ cookie _ _ hjson hcookie =>
      cases h with
      | @browser _ _ _ _ _ cookieBlob _ hjson₁ hcookie₁ hvalue hfield hdecoded =>
          have hcookie' :
              Option.Rel (fun path bytes => fs'.readBytes path = .ok bytes) cookie cookieBlob := by
            cases hcookie₁ with
            | none => exact .none
            | some hread => exact .some ((hcookie _ rfl).symm.trans hread)
          exact .browser (hjson.symm.trans hjson₁) hcookie' hvalue hfield hdecoded
  | credman hfile =>
      cases h with
      | credman hfile₁ hinner => exact .credman (hfile.symm.trans hfile₁) hinner
  | vault hvpol hvcrd =>
      cases h with
      | vault hvpol₁ hvcrd₁ hinner =>
          exact .vault (hvpol.symm.trans hvpol₁) (hvcrd.symm.trans hvcrd₁) hinner
  | wifi hprofile =>
      cases h with
      | wifi hprofile₁ hbody hhex => exact .wifi (hprofile.symm.trans hprofile₁) hbody hhex

/-- Two keys that open one blob have one hash, or messages that were hashed to verify it collide. -/
theorem WireBlob.Seals.keyHash_eq_or_collideIn {crypto : Crypto} (hhmac : crypto.IsHmac) {w : WireBlob}
    {masterKey masterKey' plain plain' : Bytes} (h : w.Seals crypto masterKey none plain)
    (h' : w.Seals crypto masterKey' none plain') :
    keyHash crypto masterKey = keyHash crypto masterKey' ∨
      ∃ form form' isSha512, CollideIn (crypto.digest isSha512)
        (w.toBlob.hashed crypto isSha512 masterKey none form)
        (w.toBlob.hashed crypto isSha512 masterKey' none form') :=
  (WireBlob.signed_eq_or_collideIn hhmac h.signs h'.signs rfl).imp_left And.left

/-- **One report, or a locked store.** Where a command reports under one key, it reports the same under
every key of that SHA-1, and says under every other key that its store is locked, with the GUID of the blob
that its files wrap; or two of the messages that are hashed to verify this blob, under the one key and under
the other, collide. -/
theorem every_key_tells (env : Env) (himp : env.nomicon.IsImpacket) (hhmac : env.crypto.IsHmac)
    (hslices : env.ReturnsSlices) (fs fs' : FileSystem) (hfs : fs.ReturnsSlices) (hfs' : fs'.ReturnsSlices)
    (command command' : Command) (hreads : SameReads fs fs' command command')
    (masterKey masterKey' : Bytes) (hkey : KeyGiven command.masterKeyHex masterKey)
    (hkey' : KeyGiven command'.masterKeyHex masterKey') (report : CliReport)
    (h : Cli.run env fs command = .ok report) :
    ∃ (inner : Bytes) (w : WireBlob) (rest : Bytes),
      Wraps env fs inner command command.store ∧ inner = w.bytes ++ rest ∧
      ((env.crypto.sha1 masterKey = env.crypto.sha1 masterKey' ∧
          Cli.run env fs' command' = .ok report) ∨
        (env.crypto.sha1 masterKey ≠ env.crypto.sha1 masterKey' ∧
          Cli.run env fs' command' = .err (.locked command.store (canonicalGuid w.masterKeyGuid))) ∨
        ∃ (form form' : SignForm) (isSha512 : Bool),
          CollideIn (env.crypto.digest isSha512)
            (w.toBlob.hashed env.crypto isSha512 masterKey none form)
            (w.toBlob.hashed env.crypto isSha512 masterKey' none form')) := by
  obtain ⟨given, hgiven, hyields⟩ := (run_eq_ok_iff env himp hslices fs hfs command report).mp h
  obtain rfl := keyGiven_inj hgiven hkey
  obtain ⟨inner, w, rest, plain, hwraps, hblob, hseals⟩ := exists_seals_of_yields hyields
  refine ⟨inner, w, rest, hwraps, hblob, ?_⟩
  have hcongr : keyHash env.crypto given = keyHash env.crypto masterKey' →
      Cli.run env fs' command' = .ok report := by
    intro hhash
    rw [← run_congr_keyHash hkey hkey' hhash hreads, h]
  by_cases hopens : ∃ plain', w.Seals env.crypto masterKey' none plain'
  · obtain ⟨plain', hseals'⟩ := hopens
    rcases hseals.keyHash_eq_or_collideIn hhmac hseals' with hhash | hcollide
    · exact Or.inl ⟨Vector.toList_inj.mp hhash, hcongr hhash⟩
    · exact Or.inr (Or.inr hcollide)
  · have hwithholds : w.Withholds env.crypto masterKey' :=
      ⟨hseals.encrypts.imp fun _ => And.left, not_exists.mp hopens⟩
    have hlocked := (run_eq_locked_iff env himp hslices fs' hfs' command' _ _).mpr
      ⟨masterKey', inner, w, rest, hkey', hwraps.congr hreads, hblob, hwithholds, rfl⟩
    refine Or.inr (Or.inl ⟨fun hhash => ?_, hlocked⟩)
    rw [hcongr (congrArg Vector.toList hhash)] at hlocked
    exact Outcome.ok_ne_err hlocked

/-! ### The credential of the tests, under HMAC -/

/-- What SHA-512 gives on the way to the credential's session key and to its signature. -/
def credentialDigests : KnownAnswers where
  sha1 := credentialAnswers.sha1
  sha512 :=
    [(vectorKeyBlock 0x36 ++ credentialBlob.salt.val,
      beVector 32 0x25c7dee3bf5a09e8cf6d1c96a29824a8272c3bd78167978257068008309a3cba ++
      beVector 32 0x4353e68ecf9c038d361061bc9a11b25b174fddad6182b96d5858d5fac30aec59),
    (vectorKeyBlock 0x5c ++
        (beBytes 32 0x25c7dee3bf5a09e8cf6d1c96a29824a8272c3bd78167978257068008309a3cba ++
          beBytes 32 0x4353e68ecf9c038d361061bc9a11b25b174fddad6182b96d5858d5fac30aec59),
      beVector 32 0xefe5211e543cb49d731464f58cb63c2f167060b6fa1b4cae8ad2dffb46ee77ce ++
      beVector 32 0xc3e5509a009361fad8c2ccf931a1e6d130e5eaa71b2c856f3703979ddf959865),
    (vectorKeyBlock 0x36 ++ (List.replicate 64 0 ++ (credentialFile.drop 32).take 350),
      beVector 32 0x33ec6a97baea4a5a95ba46bd77e4a1aad9956b58ba0caac16314044efa4d03d9 ++
      beVector 32 0x5603fc570634e8c7254ad032c433f054ae4923a0cb60c4c00f5012ca23827add),
    (vectorKeyBlock 0x5c ++
        (beBytes 32 0x33ec6a97baea4a5a95ba46bd77e4a1aad9956b58ba0caac16314044efa4d03d9 ++
          beBytes 32 0x5603fc570634e8c7254ad032c433f054ae4923a0cb60c4c00f5012ca23827add),
      beVector 32 0xe0585a675fef9ed63f72673bd9408684dc7fc86ad4926a76c432af933aeab684 ++
      beVector 32 0x47e56860b1715cff46516cf38433a856b28a5d0653313a11664b98f2361e8cca)]
  aes256 := credentialAnswers.aes256

theorem credentialDigests_wire :
    (credentialBlob.wire credentialDigests.hmacEnv.crypto).bytes = vectorCredentialFile.data.val := by
  decide +kernel

theorem KnownAnswers.hmacEnv_returnsSlices (known : KnownAnswers) : known.hmacEnv.ReturnsSlices where
  base64_decode := known.returnsSlices.base64_decode
  json_string := known.returnsSlices.json_string

/-- The report on the credential. -/
def credentialReport : CliReport where
  results :=
    [{ store := "credman", label := "Domain:target=TERMSRV/fileserver01", secret := "S3cr3t-P@ssw0rd!"
       account := some "CORP\\jdoe" }]

/-- The credential opens with its MACs made of digests, whatever the spelling of the key. -/
theorem run_credentialDigests {fs : FileSystem} (hfs : fs.ReturnsSlices)
    (hfile : fs.readBytes "Credentials" = .ok credentialFile) {masterKeyHex : String}
    (hkey : KeyGiven masterKeyHex vectorMasterKey) :
    Cli.run credentialDigests.hmacEnv fs (.credman "Credentials" masterKeyHex)
      = .ok credentialReport := by
  refine (run_eq_ok_iff _ linkedTables_isImpacket credentialDigests.hmacEnv_returnsSlices fs hfs _ _).mpr
    ⟨vectorMasterKey, hkey, .credman hfile ?_⟩
  have hsealed := @isSealed_wire credentialDigests.hmacEnv credentialBlob []
  rw [List.append_nil, credentialDigests_wire] at hsealed
  rw [← vectorCredentialFile_bytes]
  refine ⟨vectorCredentialFile, [], credentialTexts.wire, [0, 0, 0, 0], (List.append_nil _).symm,
    hsealed, ?_⟩
  simp only [CredentialTexts.wire, FieldText.decode_field]
  rfl

/-- The credential under a key of zeros. -/
theorem every_key_tells_credential :
    ∃ (inner : Bytes) (w : WireBlob) (rest : Bytes),
      Wraps credentialDigests.hmacEnv (oneFile "Credentials" credentialFile) inner
        (.credman "Credentials" (hexLower vectorMasterKey)) "credman" ∧
      inner = w.bytes ++ rest ∧
      ((credentialDigests.hmacEnv.crypto.sha1 vectorMasterKey
            = credentialDigests.hmacEnv.crypto.sha1 (List.replicate 64 0) ∧
          Cli.run credentialDigests.hmacEnv (oneFile "Credentials" credentialFile)
            (.credman "Credentials" (hexLower (List.replicate 64 0))) = .ok credentialReport) ∨
        (credentialDigests.hmacEnv.crypto.sha1 vectorMasterKey
            ≠ credentialDigests.hmacEnv.crypto.sha1 (List.replicate 64 0) ∧
          Cli.run credentialDigests.hmacEnv (oneFile "Credentials" credentialFile)
              (.credman "Credentials" (hexLower (List.replicate 64 0)))
            = .err (.locked "credman" (canonicalGuid w.masterKeyGuid))) ∨
        ∃ (form form' : SignForm) (isSha512 : Bool),
          CollideIn (credentialDigests.hmacEnv.crypto.digest isSha512)
            (w.toBlob.hashed credentialDigests.hmacEnv.crypto isSha512 vectorMasterKey none form)
            (w.toBlob.hashed credentialDigests.hmacEnv.crypto isSha512 (List.replicate 64 0) none
              form')) := by
  have hfs : (oneFile "Credentials" credentialFile).ReturnsSlices :=
    oneFile_returnsSlices isSlice_credentialFile
  have hkey := keyGiven_hexLower vectorMasterKey
  exact every_key_tells credentialDigests.hmacEnv linkedTables_isImpacket
    credentialDigests.hmacEnv_isHmac credentialDigests.hmacEnv_returnsSlices _ _ hfs hfs
    (.credman "Credentials" (hexLower vectorMasterKey))
    (.credman "Credentials" (hexLower (List.replicate 64 0))) (.credman rfl) vectorMasterKey _ hkey
    (keyGiven_hexLower _) credentialReport (run_credentialDigests hfs readBytes_oneFile hkey)

end DpapiForensic
