import DpapiForensic.Proof.Process

/-!
# How much a run puts out

Hostile evidence cannot make the tool print without end. Decryption and decoding never lengthen what they
are given, and the attributes of a record are read from ranges that follow one another, so that no byte of
it is reported twice. What is printed is linear in the file the secrets come from.
-/

namespace DpapiForensic

open Cli

/-- Decryption takes off a tag and adds nothing. -/
def Aead.NeverLengthens {keyLen nonceLen tagLen : Nat} (c : Aead keyLen nonceLen tagLen) : Prop :=
  ∀ key nonce ciphertext plain, c.decrypt key nonce ciphertext = some plain →
    plain.length ≤ ciphertext.length

/-! ### One result -/

/-- The characters of a result that its files chose. -/
def StoreResult.textLength (r : StoreResult) : Nat :=
  r.label.length + r.secret.length + (r.account.getD "").length

def textLength (results : List StoreResult) : Nat := (results.map (·.textLength)).sum

theorem length_ofList_le {cs : List Char} {n : Nat} (h : cs.length ≤ n) :
    (String.ofList cs).length ≤ n := by
  rwa [← String.length_toList, String.toList_ofList]

theorem two_mul_length_decodeUtf16le_le (bytes : Bytes) :
    2 * (decodeUtf16le bytes).length ≤ bytes.length := by
  unfold decodeUtf16le
  split
  · simp
  · have hunits := two_mul_length_unitsLe_le bytes
    have hchars := length_fromUtf16Lossy_le (unitsLe bytes)
    have htrim : (trimEndNul (String.ofList (fromUtf16Lossy (unitsLe bytes)))).length
        ≤ (fromUtf16Lossy (unitsLe bytes)).length := by
      apply length_ofList_le
      rw [String.toList_ofList]
      exact (List.rdropWhile_prefix _ _).length_le
    omega

/-! ### What each store reports -/

section Stores

variable {env : Env} {fs : FileSystem} {masterKey : Bytes} {results : List StoreResult}

/-- Bounds on a list of results: its rows and its text, by what it was recovered from, and its stores. -/
structure WithinBytes (size : Nat) (results : List StoreResult) : Prop where
  rows : 29 * results.length ≤ size + 58
  text : textLength results ≤ size + 80
  store : ∀ r ∈ results, r.store.length ≤ 7

theorem textLength_cons (r : StoreResult) (results : List StoreResult) :
    textLength (r :: results) = r.textLength + textLength results := rfl

theorem textLength_nil : textLength [] = 0 := rfl

theorem WithinBytes.singleton {size : Nat} {r : StoreResult} (htext : r.textLength ≤ size + 80)
    (hstore : r.store.length ≤ 7) : WithinBytes size [r] where
  rows := by
    rw [List.length_singleton]
    omega
  text := htext
  store := List.forall_mem_singleton.mpr hstore

theorem credmanYields_within {fileBytes : Bytes} (h : CredmanYields env masterKey fileBytes results) :
    WithinBytes fileBytes.length results := by
  obtain ⟨file, rest, cred, rest', rfl, hsealed, rfl⟩ := h
  have hplain := hsealed.length_le
  have htarget := two_mul_length_decodeUtf16le_le cred.target.val
  have hsecret := two_mul_length_decodeUtf16le_le cred.unknown.val
  have husername := two_mul_length_decodeUtf16le_le cred.username.val
  simp only [WireCredential.bytes, List.length_append, length_lp] at hplain
  refine WithinBytes.singleton ?_ (show "credman".length ≤ 7 by decide)
  simp only [StoreResult.textLength, Option.getD_some, WireCredentialFile.bytes, List.length_append]
  omega

theorem wifiYields_within {profileXml : String} (h : WifiYields env masterKey profileXml results) :
    WithinBytes (strBytes profileXml).length results := by
  obtain ⟨body, blob, plain, psk, ⟨pre, post, hprofile, -, -⟩, hhex, hsealed, hpsk, rfl⟩ := h
  have hplain := hsealed.length_le
  have htext := length_le_strBytes profileXml
  have hkey := length_le_strBytes psk
  have hcut := (List.takeWhile_prefix (p := fun b : UInt8 => decide (b ≠ 0)) (l := plain)).length_le
  have hdigits := congrArg List.length hhex
  have htrim : (trim body).length ≤ body.length :=
    (List.rdropWhile_prefix isWhitespace _).length_le.trans (List.dropWhile_sublist _).length_le
  rw [List.length_map, length_hexLower] at hdigits
  rw [hprofile] at htext
  simp only [List.length_append] at htext
  rw [hpsk] at hcut
  rw [String.length_toList] at hkey
  have hlabel : "PSK".length = 3 := by decide
  have hnone : "".length = 0 := by decide
  refine WithinBytes.singleton ?_ (show "wifi".length ≤ 7 by decide)
  simp only [StoreResult.textLength, Option.getD_none]
  omega

theorem browserYields_within (hgcm : env.crypto.aes256Gcm.NeverLengthens) {localStateJson : String}
    {cookieBlob : Option Bytes} (h : BrowserYields env masterKey localStateJson cookieBlob results) :
    WithinBytes ((cookieBlob.map (·.length)).getD 0) results := by
  obtain ⟨value, text, keyBlob, key, cookie, -, -, -, -, hcookie, rfl⟩ := h
  have hkey : (hexLower key.toList).length = 64 := by
    rw [← String.length_toList, length_hexLower, Vector.length_toList]
  have hlabel : "cookie-key".length = 10 := by decide
  have hlabel' : "cookie".length = 6 := by decide
  have hnone : "".length = 0 := by decide
  cases hcookie with
  | absent =>
      refine WithinBytes.singleton ?_ (show "browser".length ≤ 7 by decide)
      simp only [StoreResult.textLength, Option.getD_none]
      omega
  | opened version nonce ciphertext plain hne hplain =>
      have hsecret : (String.ofList (fromUtf8Lossy plain)).length ≤ ciphertext.length :=
        length_ofList_le ((length_fromUtf8Lossy_le plain).trans (hgcm _ _ _ _ hplain))
      refine ⟨?_, ?_, ?_⟩
      · simp only [List.length_cons, List.length_nil]
        omega
      · simp only [textLength_cons, textLength_nil, StoreResult.textLength, Option.getD_none,
          Option.map_some, Option.getD_some, List.length_append]
        omega
      · intro r hr
        have hstore : r.store = "browser" := by
          rcases List.mem_pair.mp hr with rfl | rfl <;> rfl
        rw [hstore]
        decide

end Stores

/-! ### Records -/

section Records

variable {env : Env} {vcrd key1 : Bytes} {size : Nat}

/-- The ranges of an accepted map follow one another up to the end of the record. -/
theorem sum_ranges_le (offsets : List (UInt32 × Nat)) (h : ∀ r ∈ ranges size offsets, r.Fits size) :
    ((ranges size offsets).map fun r => r.stop - r.start).sum
      + (offsets.head?.map (·.2)).getD size ≤ size := by
  induction offsets with
  | nil => simp [ranges]
  | cons offset offsets ih =>
      obtain ⟨id, start⟩ := offset
      simp only [ranges, List.forall_mem_cons] at h
      obtain ⟨⟨hle, -⟩, hrest⟩ := h
      have hsum := ih hrest
      simp only at hle
      simp only [ranges, List.map_cons, List.sum_cons, List.head?_cons, Option.map_some,
        Option.getD_some]
      omega

/-- A web credential is found in a range long enough for it. -/
theorem textLength_le_of_holdsWeb {r : AttributeRange} {attr : VcrdAttribute} {web : WireWebCredential}
    (hfits : r.Fits vcrd.length) (hattr : r.toAttribute vcrd = some attr)
    (h : HoldsWeb env key1 attr web) :
    (decodeUtf16le web.resource.value.val).length + (decodeUtf16le web.password.value.val).length
        + (decodeUtf16le web.username.value.val).length ≤ r.stop - r.start ∧
      29 ≤ r.stop - r.start := by
  obtain ⟨key, cleartext, -, hwhole, hdata, hweb⟩ := h
  obtain ⟨payload, hpayload, rfl⟩ := Option.map_eq_some_iff.mp hattr
  have hle : payload.2.length ≤ (r.bytes vcrd).length := length_data_le_of_payload? hpayload
  have hlong := (payload?_eq_some_iff.mp hpayload).1
  rw [r.length_bytes hfits] at hle hlong
  have hcipher := congrArg List.length hdata
  rw [env.crypto.aes256.length_encrypt _ _ _ hwhole] at hcipher
  have hcleartext := hweb.length_le
  simp only [WireWebCredential.bytes, List.length_append, WireTriple.length_bytes] at hcleartext
  have hresource := two_mul_length_decodeUtf16le_le web.resource.value.val
  have hpassword := two_mul_length_decodeUtf16le_le web.password.value.val
  have husername := two_mul_length_decodeUtf16le_le web.username.value.val
  simp only at hcipher
  omega

/-- No byte of a record is reported twice: what its attributes yield is counted off their ranges. -/
theorem attributesYield_within (rs : List AttributeRange) (hfits : ∀ r ∈ rs, r.Fits vcrd.length)
    {results : List StoreResult}
    (h : AttributesYield env key1 (rs.filterMap (·.toAttribute vcrd)) results) :
    29 * results.length ≤ (rs.map fun r => r.stop - r.start).sum ∧
      textLength results ≤ (rs.map fun r => r.stop - r.start).sum ∧
      ∀ r ∈ results, r.store = "vault" := by
  induction rs generalizing results with
  | nil =>
      cases h
      simp [textLength_nil]
  | cons r rs ih =>
      obtain ⟨hr, hrs⟩ := List.forall_mem_cons.mp hfits
      cases hattr : r.toAttribute vcrd with
      | none =>
          simp only [List.filterMap_cons, hattr] at h
          obtain ⟨hrows, htext, hstore⟩ := ih hrs h
          rw [List.map_cons, List.sum_cons]
          exact ⟨by omega, by omega, hstore⟩
      | some attr =>
          simp only [List.filterMap_cons, hattr] at h
          cases h with
          | found web hweb h =>
              obtain ⟨hrows, htext, hstore⟩ := ih hrs h
              obtain ⟨hfield, hlong⟩ := textLength_le_of_holdsWeb hr hattr hweb
              rw [List.map_cons, List.sum_cons, List.length_cons, textLength_cons]
              simp only [StoreResult.textLength, Option.getD_some]
              exact ⟨by omega, by omega, List.forall_mem_cons.mpr ⟨rfl, hstore⟩⟩
          | passed hnone h =>
              obtain ⟨hrows, htext, hstore⟩ := ih hrs h
              rw [List.map_cons, List.sum_cons]
              exact ⟨by omega, by omega, hstore⟩

theorem vaultYields_within {masterKey vpolBytes : Bytes} {attrs : List VcrdAttribute}
    {results : List StoreResult} (htaken : TakenAs vcrd attrs)
    (h : VaultYields env masterKey vpolBytes attrs results) : WithinBytes vcrd.length results := by
  obtain ⟨⟨-, -, hfits⟩, rfl⟩ := htaken
  obtain ⟨vpol, rest, keys, rest', -, -, hyield⟩ := h
  obtain ⟨hrows, htext, hstore⟩ := attributesYield_within _ hfits hyield
  have hsum : ((declaredRanges vcrd).map fun r => r.stop - r.start).sum ≤ vcrd.length :=
    (Nat.le_add_right _ _).trans (sum_ranges_le _ hfits)
  refine ⟨by omega, by omega, fun r hr => ?_⟩
  rw [hstore r hr]
  decide

end Records

/-! ### The report -/

section Rendering

variable {size : Nat} {results : List StoreResult}

/-- The frame of a row: brackets, separators, the line's end, and a dash for no account. -/
theorem length_renderRow_le (r : StoreResult) :
    (renderRow r).length ≤ r.store.length + r.textLength + 26 := by
  have hframe :
      "[".length + "] ".length + " | account=".length + " | secret=".length + "\n".length = 25 := by
    decide
  have haccount : (r.account.getD "-").length ≤ (r.account.getD "").length + 1 := by
    cases r.account with
    | none => decide
    | some account => exact Nat.le_succ _
  simp only [renderRow, String.length_append, StoreResult.textLength]
  omega

theorem length_renderText_le (h : WithinBytes size results) :
    (renderText { results }).length ≤ 3 * size + 150 := by
  have hfold : ∀ (results : List StoreResult) (out : String), (∀ r ∈ results, r.store.length ≤ 7) →
      (results.foldl (fun out r => out ++ renderRow r) out).length
        ≤ out.length + textLength results + 33 * results.length := by
    intro results
    induction results with
    | nil =>
        intro out _
        exact Nat.le_add_right _ _
    | cons r results ih =>
        intro out hstore
        obtain ⟨hr, hrest⟩ := List.forall_mem_cons.mp hstore
        have hrow := length_renderRow_le r
        have hout := ih (out ++ renderRow r) hrest
        rw [String.length_append] at hout
        rw [List.foldl_cons, textLength_cons, List.length_cons]
        omega
  have hrows := h.rows
  have htext := h.text
  unfold renderText
  split
  · have hnone : "No secrets recovered.\n".length = 22 := by decide
    omega
  · have hout := hfold results "" h.store
    have hnone : "".length = 0 := by decide
    simp only
    omega

end Rendering

/-! ### The run -/

/-- The bytes of a read, none if it fails. -/
def readSize : Except String Bytes → Nat
  | .ok bytes => bytes.length
  | .error _ => 0

/-- The size of the file a command's secrets are recovered from: the cookie, the credential, the record or
the profile. A policy and a Local State only hold keys. -/
def Command.evidenceSize (fs : FileSystem) : Command → Nat
  | browser _ cookie _ => (cookie.map fun path => readSize (fs.readBytes path)).getD 0
  | credman file _ => readSize (fs.readBytes file)
  | vault _ vcrd _ => readSize (fs.readBytes vcrd)
  | wifi profile _ => readSize ((fs.readToString profile).map strBytes)

section Run

variable {env : Env} {fs : FileSystem} {masterKey : Bytes} {command : Command} {results : List StoreResult}

theorem artifactYields_within (hgcm : env.crypto.aes256Gcm.NeverLengthens)
    (h : ArtifactYields TakenAs env fs masterKey command results) :
    WithinBytes (command.evidenceSize fs) results := by
  cases h with
  | @browser _ _ _ cookie cookieBlob _ hjson hcookie h =>
      have hsize : (cookie.map fun path => readSize (fs.readBytes path)).getD 0
          = (cookieBlob.map (·.length)).getD 0 := by
        cases hcookie with
        | none => rfl
        | some hbytes => simp only [Option.map_some, Option.getD_some, hbytes, readSize]
      rw [Command.evidenceSize, hsize]
      exact browserYields_within hgcm h
  | credman hfile h =>
      rw [Command.evidenceSize, hfile, readSize]
      exact credmanYields_within h
  | vault hvpol hvcrd htaken h =>
      rw [Command.evidenceSize, hvcrd, readSize]
      exact vaultYields_within htaken h
  | wifi hprofile h =>
      rw [Command.evidenceSize, hprofile]
      exact wifiYields_within h

end Run

/-- **Hostile evidence cannot flood the report.** A run reports at most one result for every 29 bytes of the
file its secrets come from, and two more, and it prints at most three characters for every byte of that
file, and 150 more. -/
theorem output_linear (env : Env) (himp : env.nomicon.IsImpacket) (hslices : env.ReturnsSlices)
    (hgcm : env.crypto.aes256Gcm.NeverLengthens) (fs : FileSystem) (hfs : fs.ReturnsSlices)
    (command : Command) :
    (∀ report, Cli.run env fs command = .ok report →
      29 * report.results.length ≤ command.evidenceSize fs + 58) ∧
    ∀ grants toStringPretty exit, Cli.main grants env toStringPretty fs command false = .ok exit →
      exit.stdout.length ≤ 3 * command.evidenceSize fs + 150 := by
  have hwithin : ∀ report, Cli.run env fs command = .ok report →
      WithinBytes (command.evidenceSize fs) report.results := by
    intro report h
    obtain ⟨masterKey, -, hyields⟩ := (run_eq_ok_iff env himp hslices fs hfs command report).mp h
    exact artifactYields_within hgcm hyields
  refine ⟨fun report h => (hwithin report h).rows, fun grants toStringPretty exit hexit => ?_⟩
  have hmemory := runWith_of_main hexit
  cases hrun : Cli.run env fs command with
  | panic => exact absurd (hmemory.trans hrun) (exists_main_eq_ok_iff.mp ⟨exit, hexit⟩)
  | err e =>
      obtain rfl := Outcome.ok.inj ((main_of_err (hmemory.trans hrun)).symm.trans hexit)
      exact Nat.zero_le _
  | ok report =>
      rcases main_of_ok (hmemory.trans hrun) with ⟨out, hout, hmain⟩ | ⟨reason, hout, -⟩
      · obtain rfl := Outcome.ok.inj (hmain.symm.trans hexit)
        obtain rfl := Except.ok.inj hout
        exact length_renderText_le (hwithin report hrun)
      · cases hout

theorem zeroTag_neverLengthens (keyLen nonceLen tagLen : Nat) :
    (Aead.zeroTag keyLen nonceLen tagLen).NeverLengthens := by
  intro key nonce ciphertext plain h
  simp only [Aead.zeroTag] at h
  split at h
  · obtain rfl := Option.some.inj h
    exact List.length_take_le' _ _
  · cases h

/-- The credential of the tests, whose report is one row. -/
theorem output_linear_credential :
    (∀ report, Cli.run credentialAnswers.env (oneFile "Credentials" credentialFile)
        (.credman "Credentials" (hexLower vectorMasterKey)) = .ok report →
      29 * report.results.length
        ≤ (Command.credman "Credentials" (hexLower vectorMasterKey)).evidenceSize
            (oneFile "Credentials" credentialFile) + 58) ∧
    ∀ grants toStringPretty exit, Cli.main grants credentialAnswers.env toStringPretty
        (oneFile "Credentials" credentialFile) (.credman "Credentials" (hexLower vectorMasterKey)) false
          = .ok exit →
      exit.stdout.length
        ≤ 3 * (Command.credman "Credentials" (hexLower vectorMasterKey)).evidenceSize
            (oneFile "Credentials" credentialFile) + 150 :=
  output_linear credentialAnswers.env linkedTables_isImpacket credentialAnswers.returnsSlices
    (zeroTag_neverLengthens 32 12 16) _ (oneFile_returnsSlices isSlice_credentialFile) _

end DpapiForensic
