import DpapiForensic.Proof.MasterKeySealing
import DpapiForensic.Proof.Run

/-!
# From a password to a report

The library recovers a master key and the command line takes one in hexadecimal, so an analyst who has a
password goes through both. What is reported in the end is what the artifacts yield under the master key that
the master-key file protects for that password.
-/

namespace DpapiForensic

open MasterKey

variable {env : Env} {digestLen : BlobHash → Nat} {data : Bytes} {pos : Nat}

/-- The data starts with a master-key file whose sub-blob protects the master key for the password. -/
def PasswordYields (env : Env) (digestLen : BlobHash → Nat) (sid password : String) (data : Bytes)
    (masterKey : Vector UInt8 64) : Prop :=
  ∃ (w : WireMasterKeyFile) (rest : Bytes), data = w.bytes ++ rest ∧
    w.masterKey.Protects env.crypto digestLen (prekeyFromPassword env sid password).toList masterKey

/-! ### Reading the file, in either build -/

section File

theorem takeSub_eq_ok_iff (hdata : IsSlice data) (hpos : pos ≤ data.length) {len next : Nat}
    (hlen : len < 2 ^ 64) {bytes : Bytes} :
    takeSub env data pos len = .ok (bytes, next) ↔
      BytesAt data pos bytes ∧ bytes.length = len ∧ next = pos + len := by
  cases hprofile : env.profile with
  | release => exact takeSub_release_eq_ok_iff hprofile hdata hpos hlen
  | debug =>
      by_cases hend : pos + len < 2 ^ 64
      · constructor
        · intro h
          simp only [takeSub, usizeAdd_of_lt hend, Outcome.ok_bind] at h
          obtain ⟨slice, hslice, h⟩ := Outcome.bind_eq_ok_iff.mp h
          obtain ⟨hat, hstop⟩ := getRange_eq_some_iff.mp (Outcome.okOr_eq_ok_iff.mp hslice)
          obtain ⟨rfl, rfl⟩ := Prod.mk.inj (Outcome.ok.inj h)
          exact ⟨hat, by omega, rfl⟩
        · rintro ⟨hat, rfl, rfl⟩
          exact takeSub_of_bytesAt hdata hat rfl
      · rw [takeSub_of_overflow hprofile (not_lt.mp hend)]
        apply iff_of_false Outcome.panic_ne_ok
        rintro ⟨hat, rfl, -⟩
        have hle := hat.le
        unfold IsSlice at hdata
        omega

/-- What a cut hands on to starts at the end of the piece. -/
theorem takeSub_bind_eq_ok_iff (hdata : IsSlice data) (hpos : pos ≤ data.length) {len : Nat}
    (hlen : len < 2 ^ 64) {β : Type} {b : β} {f : Bytes × Nat → Outcome DpapiError β} :
    (takeSub env data pos len >>= f) = .ok b ↔
      ∃ bytes, BytesAt data pos bytes ∧ bytes.length = len ∧ f (bytes, pos + bytes.length) = .ok b := by
  rw [Outcome.bind_eq_ok_iff]
  constructor
  · rintro ⟨⟨bytes, next⟩, hbytes, h⟩
    obtain ⟨hat, rfl, rfl⟩ := (takeSub_eq_ok_iff hdata hpos hlen).mp hbytes
    exact ⟨bytes, hat, rfl, h⟩
  · rintro ⟨bytes, hat, rfl, h⟩
    exact ⟨_, takeSub_of_bytesAt hdata hat rfl, h⟩

theorem parseMasterKey_eq_ok_iff (hdata : IsSlice data) {mk : MasterKey} :
    parseMasterKey env data = .ok mk ↔ data = mk.bytes := by
  constructor
  · intro h
    obtain ⟨_, hlong, -⟩ := Outcome.bind_eq_ok_iff.mp h
    have hlong : 32 ≤ data.length := not_lt.mp (Outcome.failIf_eq_ok_iff.mp hlong)
    obtain ⟨mk', rfl⟩ : ∃ mk' : MasterKey, data = mk'.bytes := by
      obtain ⟨version, h₀⟩ := exists_le32_at data 0 (by omega)
      obtain ⟨salt, h₁⟩ := exists_array_at data 4 16 (by omega)
      obtain ⟨rounds, h₂⟩ := exists_le32_at data 20 (by omega)
      obtain ⟨algIdHash, h₃⟩ := exists_le32_at data 24 (by omega)
      obtain ⟨algIdEncrypt, h₄⟩ := exists_le32_at data 28 (by omega)
      have hroom : 32 + (data.length - 32) ≤ data.length := by omega
      obtain ⟨payload, h₅, hpayload⟩ := exists_bytesAt (data.length - 32) hroom
      let mk' : MasterKey := ⟨version, salt, rounds, algIdHash, algIdEncrypt, payload⟩
      have hat : BytesAt data 0 mk'.bytes := by
        simp only [MasterKey.bytes, bytesAt_append, length_le32, Vector.length_toList]
        exact ⟨h₀, h₁, h₂, h₃, h₄, h₅⟩
      refine ⟨mk', ?_⟩
      obtain ⟨rest, hrest⟩ := bytesAt_zero_iff.mp hat
      have hlen := congrArg List.length hrest
      simp only [MasterKey.bytes, List.length_append, length_le32, Vector.length_toList, mk',
        hpayload] at hlen
      obtain rfl : rest = [] := List.eq_nil_of_length_eq_zero (by omega)
      rw [hrest, List.append_nil]
    rw [parseMasterKey_bytes hdata] at h
    rw [Outcome.ok.inj h]
  · rintro rfl
    exact parseMasterKey_bytes hdata

theorem parseMasterkeyFile_eq_ok_iff (hdata : IsSlice data) {file : MasterKeyFile} :
    parseMasterkeyFile env data = .ok file ↔ ∃ (header : MasterKeyHeader) (lens : DeclaredLengths),
      BytesAt data 0 (header.bytes lens) ∧ Consecutive data headerLen file.subBlobs ∧
      file.subBlobs.map List.length = [lens.masterKey.toNat, lens.backupKey.toNat,
        lens.credHist.toNat, lens.domainKey.toNat] ∧
      file.version = header.version ∧ file.guid = decodeUtf16le header.guid.toList ∧
      file.policy = header.policy ∧ file.flags = header.flags := by
  constructor
  · intro h
    have hlong : headerLen ≤ data.length := by
      by_contra hshort
      rw [parse_of_short (not_le.mp hshort)] at h
      cases h
    obtain ⟨header, lens, hheader⟩ := exists_header hlong
    rw [parse_eq_takeAll hdata hheader] at h
    obtain ⟨masterKey, hat₁, hlen₁, h⟩ :=
      (takeSub_bind_eq_ok_iff hdata hlong lens.masterKey.toNat_lt).mp h
    obtain ⟨backupKey, hat₂, hlen₂, h⟩ :=
      (takeSub_bind_eq_ok_iff hdata hat₁.le lens.backupKey.toNat_lt).mp h
    obtain ⟨credHist, hat₃, hlen₃, h⟩ :=
      (takeSub_bind_eq_ok_iff hdata hat₂.le lens.credHist.toNat_lt).mp h
    obtain ⟨domainKey, hat₄, hlen₄, h⟩ :=
      (takeSub_bind_eq_ok_iff hdata hat₃.le lens.domainKey.toNat_lt).mp h
    obtain rfl := Outcome.ok.inj h
    refine ⟨header, lens, hheader, ⟨hat₁, hat₂, hat₃, hat₄, trivial⟩, ?_, rfl, rfl, rfl, rfl⟩
    simp only [MasterKeyFile.subBlobs, List.map_cons, List.map_nil, hlen₁, hlen₂, hlen₃, hlen₄]
  · obtain ⟨version, guid, policy, flags, masterKey, backupKey, credHist, domainKey⟩ := file
    rintro ⟨header, lens, hheader, ⟨hat₁, hat₂, hat₃, hat₄, -⟩, hlens, rfl, rfl, rfl, rfl⟩
    simp only [MasterKeyFile.subBlobs, List.map_cons, List.map_nil, List.cons.injEq, and_true] at hlens
    obtain ⟨hlen₁, hlen₂, hlen₃, hlen₄⟩ := hlens
    rw [parse_eq_takeAll hdata hheader, takeAll, ← hlen₁, ← hlen₂, ← hlen₃, ← hlen₄]
    apply Outcome.bind_of_ok (takeSub_of_bytesAt hdata hat₁ rfl)
    apply Outcome.bind_of_ok (takeSub_of_bytesAt hdata hat₂ rfl)
    apply Outcome.bind_of_ok (takeSub_of_bytesAt hdata hat₃ rfl)
    exact Outcome.bind_of_ok (takeSub_of_bytesAt hdata hat₄ rfl) rfl

end File

/-! ### Recovering from the file -/

section Recover

variable {sid password : String} {masterKey : Vector UInt8 64}

theorem isSlice_of_bytesAt {piece : Bytes} (hdata : IsSlice data) (h : BytesAt data pos piece) :
    IsSlice piece := by
  have hle := h.le
  unfold IsSlice at hdata ⊢
  omega

/-- Recovery from the file succeeds on files that protect the master key and on no others. -/
theorem recover_eq_ok_iff (himp : env.nomicon.IsImpacket)
    (hrows : env.nomicon.MasterKeyRows digestLen) (hdata : IsSlice data) :
    (∃ file, parseMasterkeyFile env data = .ok file ∧
        deriveMasterKeyFromPassword env file sid password = .ok masterKey) ↔
      PasswordYields env digestLen sid password data masterKey := by
  constructor
  · rintro ⟨file, hfile, hderive⟩
    obtain ⟨header, lens, hheader, hpieces, hlens, -⟩ := (parseMasterkeyFile_eq_ok_iff hdata).mp hfile
    obtain ⟨version, guid, policy, flags, subBlob, backupKey, credHist, domainKey⟩ := file
    obtain ⟨hat₁, hat₂, hat₃, hat₄, -⟩ := hpieces
    obtain ⟨mk, hmk, hderived⟩ := Outcome.bind_eq_ok_iff.mp hderive
    obtain rfl := (parseMasterKey_eq_ok_iff (isSlice_of_bytesAt hdata hat₁)).mp hmk
    simp only [MasterKeyFile.subBlobs, List.map_cons, List.map_nil, List.cons.injEq, and_true] at hlens
    obtain ⟨hlen₁, hlen₂, hlen₃, hlen₄⟩ := hlens
    let w : WireMasterKeyFile := ⟨header, mk, backupKey, credHist, domainKey⟩
    have hlengths : w.lengths = lens := by
      simp only [WireMasterKeyFile.lengths, w, hlen₁, hlen₂, hlen₃, hlen₄, UInt64.ofNat_toNat]
    have hat : BytesAt data 0 w.bytes := by
      simp only [WireMasterKeyFile.bytes, bytesAt_append, MasterKeyHeader.length_bytes, hlengths]
      exact ⟨hheader, hat₁, hat₂, hat₃, hat₄⟩
    obtain ⟨rest, hrest⟩ := bytesAt_zero_iff.mp hat
    exact ⟨w, rest, hrest, (derive_eq_ok_iff_protects himp hrows).mp hderived⟩
  · rintro ⟨w, rest, hrest, hprotects⟩
    have hat := bytesAt_zero_iff.mpr ⟨rest, hrest⟩
    simp only [WireMasterKeyFile.bytes, bytesAt_append, MasterKeyHeader.length_bytes] at hat
    obtain ⟨hheader, hat₁, hat₂, hat₃, hat₄⟩ := hat
    have hword : ∀ {pos : Nat} {piece : Bytes}, BytesAt data pos piece →
        piece.length = (UInt64.ofNat piece.length).toNat := by
      intro pos piece hpiece
      have hslice := isSlice_of_bytesAt hdata hpiece
      unfold IsSlice at hslice
      rw [UInt64.toNat_ofNat', Nat.mod_eq_of_lt (by omega)]
    refine ⟨⟨w.header.version, decodeUtf16le w.header.guid.toList, w.header.policy, w.header.flags,
      w.masterKey.bytes, w.backupKey, w.credHist, w.domainKey⟩,
      (parseMasterkeyFile_eq_ok_iff hdata).mpr ⟨w.header, w.lengths, hheader,
        ⟨hat₁, hat₂, hat₃, hat₄, trivial⟩, ?_, rfl, rfl, rfl, rfl⟩, ?_⟩
    · simp only [MasterKeyFile.subBlobs, List.map_cons, List.map_nil, WireMasterKeyFile.lengths,
        ← hword hat₁, ← hword hat₂, ← hword hat₃, ← hword hat₄]
    · exact Outcome.bind_of_ok (parseMasterKey_bytes (isSlice_of_bytesAt hdata hat₁))
        ((derive_eq_ok_iff_protects himp hrows).mpr hprotects)

/-- A file that protecting a master key makes, whatever follows it, is one of them. -/
theorem passwordYields_file (himp : env.nomicon.IsImpacket) (hrows : env.nomicon.MasterKeyRows digestLen)
    (p : MasterKeyProtection) (rest : Bytes) (hfits : digestLen p.hash ≤ macLen p.hash.masterKeyModule)
    (halign : p.cipher.blockLen ∣ 16 + digestLen p.hash + p.filler.length + 64) :
    PasswordYields env digestLen p.sid p.password (p.file env.crypto digestLen ++ rest) p.masterKey :=
  ⟨⟨p.header, p.subBlob env.crypto digestLen, p.backupKey, p.credHist, p.domainKey⟩, rest, rfl,
    (derive_eq_ok_iff_protects himp hrows).mp (derive_subBlob hrows hfits halign)⟩

end Recover

/-- **From a password to a report.** An analyst who recovers a master key from a file with a password, and
gives it to a command, gets the results that the command's files yield under the master key that the file
protects for that password. Nothing else is ever reported on that way. A vault's record is to be laid out as
one. -/
theorem report_from_password_iff (env : Env) (digestLen : BlobHash → Nat) (himp : env.nomicon.IsImpacket)
    (hrows : env.nomicon.MasterKeyRows digestLen) (hslices : env.ReturnsSlices) (fs : FileSystem)
    (hfs : fs.ReturnsSlices) (data : Slice) (sid password : String) (command : Command)
    (hlaid : RecordLaidOut fs command) (report : CliReport) :
    (∃ file masterKey, parseMasterkeyFile env data.val = .ok file ∧
      deriveMasterKeyFromPassword env file sid password = .ok masterKey ∧
      KeyGiven command.masterKeyHex masterKey.toList ∧ Cli.run env fs command = .ok report) ↔
    ∃ masterKey, PasswordYields env digestLen sid password data.val masterKey ∧
      KeyGiven command.masterKeyHex masterKey.toList ∧
      ArtifactYields LaidOut env fs masterKey.toList command report.results := by
  constructor
  · rintro ⟨file, masterKey, hfile, hderive, hkey, hrun⟩
    obtain ⟨given, hgiven, hyields⟩ := (run_eq_ok_iff_laidOut himp hslices hfs hlaid report).mp hrun
    obtain rfl : given = masterKey.toList := keyGiven_inj hgiven hkey
    exact ⟨masterKey, (recover_eq_ok_iff himp hrows data.property).mp ⟨file, hfile, hderive⟩, hkey,
      hyields⟩
  · rintro ⟨masterKey, hpassword, hkey, hyields⟩
    obtain ⟨file, hfile, hderive⟩ := (recover_eq_ok_iff himp hrows data.property).mpr hpassword
    exact ⟨file, masterKey, hfile, hderive, hkey,
      (run_eq_ok_iff_laidOut himp hslices hfs hlaid report).mpr ⟨_, hkey, hyields⟩⟩

/-! ### A credential opened with a password -/

/-- The master key of the credential, protected for the password of the tests. -/
def credentialKeyFile : MasterKeyProtection :=
  { passwordFile with
    masterKey :=
      beVector 32 0x9828d9873735439e823dbd216205ff88266d28ad685a413970c640d5ee943154 ++
      beVector 32 0xbbade31fada673d542c72d707a163bb3d1bceb0c50465b359ae06998481b0ce3 }

/-- What the primitives give on the way through both files. -/
def workflowAnswers : KnownAnswers where
  sha1 := passwordAnswers.sha1 ++ credentialAnswers.sha1
  hmacSha1 := passwordAnswers.hmacSha1
  hmacSha512 := passwordAnswers.hmacSha512 ++ credentialAnswers.hmacSha512 ++
    [((beBytes 32 0xe6d7beb165de9ec26eb6e9c2c26c9c122ceada1380f026fa1c90db0a747a9e7f ++
        beBytes 32 0x40610f92cc7c3c6b2ba3353447adcd24145362b7f0cd6aeb118b9ae34b05dd82,
        credentialKeyFile.masterKey.toList),
      beVector 32 0xb66bb4623acbc103e2c898dfecd0d52087ffdfea81f6676fd30744dce9d510db ++
      beVector 32 0x6826daaf492bfca5d3587600cecf73b34572fee659608e2df045670b53c44bbe)]
  aes256 := credentialAnswers.aes256.withAnswer
    (beVector 32 0x7617fb0f396f338a18939c7ea7694b7c2828548f8c299bf73a3c7ca59b2dc104)
    (beVector 16 0xe5f5d7ac736f49f305d15b4735ebb67c)
    (credentialKeyFile.hmacSalt.toList ++
      (beBytes 32 0xb66bb4623acbc103e2c898dfecd0d52087ffdfea81f6676fd30744dce9d510db ++
        beBytes 32 0x6826daaf492bfca5d3587600cecf73b34572fee659608e2df045670b53c44bbe ++
        credentialKeyFile.masterKey.toList))
    (beBytes 32 0x579352272a4c260c400be710116f0c111f2ef32a25d63bc10632e7b5cbd9e975 ++
      beBytes 32 0xff77a637317493380d1e453a01f29a50fed2fa7fd042a369309d97183d976e91 ++
      beBytes 32 0xf7575791ff60d7761116493ec2aed3f990dd5305154d762fc929cde76eb4cfbe ++
      beBytes 32 0xc6c0caffeab28002e04db160a51530de023cb0c6dd9162d34aed82ee9f8f187d ++
      beBytes 16 0x2eff9c8888b937744c12b84a03f6b284)
    (by decide +kernel)

theorem credentialBlob_wire_workflow :
    (credentialBlob.wire workflowAnswers.env.crypto).bytes
      = (credentialBlob.wire credentialAnswers.env.crypto).bytes := by
  decide +kernel

theorem credmanYields_workflow :
    CredmanYields workflowAnswers.env vectorMasterKey credentialFile
      [{ store := "credman", label := "Domain:target=TERMSRV/fileserver01"
         secret := "S3cr3t-P@ssw0rd!", account := some "CORP\\jdoe" }] := by
  have hsealed := @isSealed_wire workflowAnswers.env credentialBlob []
  rw [List.append_nil, credentialBlob_wire_workflow] at hsealed
  rw [← vectorCredentialFile_bytes]
  refine ⟨vectorCredentialFile, [], credentialTexts.wire, [0, 0, 0, 0], (List.append_nil _).symm,
    hsealed, ?_⟩
  simp only [CredentialTexts.wire, FieldText.decode_field]
  rfl

theorem isSlice_credentialKeyFile :
    IsSlice (credentialKeyFile.file workflowAnswers.env.crypto linkedDigestLen) := by
  unfold IsSlice
  decide +kernel

theorem report_from_password_credential :
    ∃ file masterKey,
      parseMasterkeyFile workflowAnswers.env
          (credentialKeyFile.file workflowAnswers.env.crypto linkedDigestLen) = .ok file ∧
      deriveMasterKeyFromPassword workflowAnswers.env file credentialKeyFile.sid "Admin456"
        = .ok masterKey ∧
      KeyGiven (hexLower vectorMasterKey) masterKey.toList ∧
      Cli.run workflowAnswers.env (oneFile "Credentials" credentialFile)
          (.credman "Credentials" (hexLower vectorMasterKey))
        = .ok ⟨[{ store := "credman", label := "Domain:target=TERMSRV/fileserver01"
                  secret := "S3cr3t-P@ssw0rd!", account := some "CORP\\jdoe" }]⟩ := by
  have hkey : credentialKeyFile.masterKey.toList = vectorMasterKey := by decide +kernel
  have hpassword := @passwordYields_file workflowAnswers.env linkedDigestLen linkedTables_isImpacket
    linkedTables_masterKeyRows credentialKeyFile [] (by decide) (by decide +kernel)
  rw [List.append_nil] at hpassword
  have hyields := @ArtifactYields.credman LaidOut workflowAnswers.env _ vectorMasterKey "Credentials"
    (hexLower vectorMasterKey) _ _ readBytes_oneFile credmanYields_workflow
  rw [← hkey] at hyields
  exact (report_from_password_iff workflowAnswers.env linkedDigestLen linkedTables_isImpacket
    linkedTables_masterKeyRows workflowAnswers.returnsSlices _
    (oneFile_returnsSlices isSlice_credentialFile) ⟨_, isSlice_credentialKeyFile⟩ credentialKeyFile.sid
    credentialKeyFile.password (.credman "Credentials" (hexLower vectorMasterKey)) trivial ⟨_⟩).mpr
    ⟨credentialKeyFile.masterKey, hpassword, hkey ▸ keyGiven_hexLower _, hyields⟩

end DpapiForensic
