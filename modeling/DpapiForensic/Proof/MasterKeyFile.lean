import DpapiForensic.KnownAnswers
import DpapiForensic.Layout.MasterKeyFile

/-!
# Reading a master-key file

The header's reads all lie within the 128 bytes that were checked for, so parsing comes down to the
four sub-blobs. Each is cut out at `pos + len`, a sum that nothing bounds: it is the one place where a
hostile file reaches the overflow check.
-/

namespace DpapiForensic

open MasterKey

variable {env : Env} {data : Bytes} {pos : Nat}

/-! ### The readers -/

section Readers

theorem readArray_of_bytesAt (hdata : IsSlice data) {n : Nat} {v : Vector UInt8 n}
    (h : BytesAt data pos v.toList) : readArray env n data pos = .ok (v, pos + n) := by
  have hle := h.le
  rw [Vector.length_toList] at hle
  unfold IsSlice at hdata
  rw [readArray, usizeAdd_of_lt (by omega)]
  simp only [Outcome.ok_bind]
  rw [h.getRange_eq (by simp), Option.bind_some, tryIntoArray_toList, Outcome.okOr_some,
    Outcome.ok_bind, Outcome.pure_eq]

theorem readU32_of_bytesAt (hdata : IsSlice data) {v : UInt32} (h : BytesAt data pos (le32 v)) :
    readU32 env data pos = .ok (v, pos + 4) := by
  have hword : BytesAt data pos (⟨(le32 v).toArray, by simp⟩ : Vector UInt8 4).toList := h
  rw [readU32, readArray_of_bytesAt hdata hword]
  simp

theorem readU64_of_bytesAt (hdata : IsSlice data) {v : UInt64} (h : BytesAt data pos (le64 v)) :
    readU64 env data pos = .ok (v, pos + 8) := by
  have hword : BytesAt data pos (⟨(le64 v).toArray, by simp⟩ : Vector UInt8 8).toList := h
  rw [readU64, readArray_of_bytesAt hdata hword]
  simp

end Readers

/-! ### The header -/

section Header

theorem exists_header (h : 128 ≤ data.length) :
    ∃ header lens, BytesAt data 0 (MasterKeyHeader.bytes header lens) := by
  obtain ⟨version, h₀⟩ := exists_le32_at data 0 (by omega)
  obtain ⟨unk1, h₁⟩ := exists_le32_at data 4 (by omega)
  obtain ⟨unk2, h₂⟩ := exists_le32_at data 8 (by omega)
  obtain ⟨guid, h₃⟩ := exists_array_at data 12 72 (by omega)
  obtain ⟨unknown, h₄⟩ := exists_le32_at data 84 (by omega)
  obtain ⟨policy, h₅⟩ := exists_le32_at data 88 (by omega)
  obtain ⟨flags, h₆⟩ := exists_le32_at data 92 (by omega)
  obtain ⟨masterKey, h₇⟩ := exists_le64_at data 96 (by omega)
  obtain ⟨backupKey, h₈⟩ := exists_le64_at data 104 (by omega)
  obtain ⟨credHist, h₉⟩ := exists_le64_at data 112 (by omega)
  obtain ⟨domainKey, h₁₀⟩ := exists_le64_at data 120 (by omega)
  refine ⟨⟨version, unk1, unk2, guid, unknown, policy, flags⟩,
    ⟨masterKey, backupKey, credHist, domainKey⟩, ?_⟩
  simp only [MasterKeyHeader.bytes, bytesAt_append, length_le32, length_le64, Vector.length_toList]
  exact ⟨h₀, h₁, h₂, h₃, h₄, h₅, h₆, h₇, h₈, h₉, h₁₀⟩

theorem parse_of_short (h : data.length < headerLen) :
    parseMasterkeyFile env data = .err (.tooShort headerLen data.length) := by
  rw [parseMasterkeyFile, Outcome.failIf_of h, Outcome.err_bind]

/-- The four sub-blobs from the end of the header, and the file they make. -/
def takeAll (env : Env) (header : MasterKeyHeader) (lens : DeclaredLengths) (data : Bytes) :
    Outcome DpapiError MasterKeyFile := do
  let (masterKey, pos) ← takeSub env data headerLen lens.masterKey.toNat
  let (backupKey, pos) ← takeSub env data pos lens.backupKey.toNat
  let (credHist, pos) ← takeSub env data pos lens.credHist.toNat
  let (domainKey, _pos) ← takeSub env data pos lens.domainKey.toNat
  pure
    { version := header.version, guid := decodeUtf16le header.guid.toList, policy := header.policy
      flags := header.flags, masterKey, backupKey, credHist, domainKey }

theorem parse_eq_takeAll (hdata : IsSlice data) {header : MasterKeyHeader} {lens : DeclaredLengths}
    (h : BytesAt data 0 (header.bytes lens)) :
    parseMasterkeyFile env data = takeAll env header lens data := by
  have hle := h.le
  rw [MasterKeyHeader.length_bytes] at hle
  simp only [MasterKeyHeader.bytes, bytesAt_append, length_le32, length_le64,
    Vector.length_toList] at h
  obtain ⟨hversion, hunk1, hunk2, hguid, hunknown, hpolicy, hflags, hmasterKey, hbackupKey, hcredHist,
    hdomainKey⟩ := h
  rw [parseMasterkeyFile]
  refine Outcome.bind_of_ok (Outcome.failIf_of_not (by unfold headerLen; omega)) ?_
  refine Outcome.bind_of_ok (readU32_of_bytesAt hdata hversion) ?_
  refine Outcome.bind_of_ok (readU32_of_bytesAt hdata hunk1) ?_
  refine Outcome.bind_of_ok (readU32_of_bytesAt hdata hunk2) ?_
  refine Outcome.bind_of_ok (usizeAdd_of_lt (by omega)) ?_
  refine Outcome.bind_of_ok (hguid.sliceRange_eq (by simp)) ?_
  refine Outcome.bind_of_ok (usizeAdd_of_lt (by omega)) ?_
  refine Outcome.bind_of_ok (readU32_of_bytesAt hdata hunknown) ?_
  refine Outcome.bind_of_ok (readU32_of_bytesAt hdata hpolicy) ?_
  refine Outcome.bind_of_ok (readU32_of_bytesAt hdata hflags) ?_
  refine Outcome.bind_of_ok (readU64_of_bytesAt hdata hmasterKey) ?_
  refine Outcome.bind_of_ok (readU64_of_bytesAt hdata hbackupKey) ?_
  refine Outcome.bind_of_ok (readU64_of_bytesAt hdata hcredHist) ?_
  refine Outcome.bind_of_ok (readU64_of_bytesAt hdata hdomainKey) ?_
  exact Outcome.bind_of_ok (debugAssert_of rfl) rfl

end Header

/-! ### The sub-blobs -/

section Take

variable {len : Nat}

theorem takeSub_of_bytesAt (hdata : IsSlice data) {bytes : Bytes} (h : BytesAt data pos bytes)
    (hlen : len = bytes.length) : takeSub env data pos len = .ok (bytes, pos + len) := by
  have hle := h.le
  unfold IsSlice at hdata
  rw [takeSub, usizeAdd_of_lt (by omega)]
  simp only [Outcome.ok_bind]
  rw [h.getRange_eq (by rw [hlen]), Outcome.okOr_some, Outcome.ok_bind, Outcome.pure_eq]

theorem takeSub_of_gt (hend : pos + len < 2 ^ 64) (h : data.length < pos + len) :
    takeSub env data pos len = .err (.tooShort (pos + len) data.length) := by
  rw [takeSub, usizeAdd_of_lt hend]
  simp only [Outcome.ok_bind]
  rw [getRange_eq_none_iff.mpr (Or.inr h), Outcome.okOr_none, Outcome.err_bind]

theorem takeSub_of_overflow (hprofile : env.profile = .debug) (hend : 2 ^ 64 ≤ pos + len) :
    takeSub env data pos len = .panic := by
  rw [takeSub, hprofile, usizeAdd_debug_eq_panic_iff.mpr hend, Outcome.panic_bind]

end Take

/-! ### Overflow -/

section Overflow

/-- Every end the parser computes is a `usize`: it goes on to the next length only from an end that
lies inside the file. -/
def EndsFit (size : Nat) : Nat → List Nat → Prop
  | _, [] => True
  | pos, len :: lens => pos + len < 2 ^ 64 ∧ (pos + len ≤ size → EndsFit size (pos + len) lens)

/-- The lengths declared at offsets 96 to 128. -/
def declaredLengths (data : Bytes) : List Nat :=
  [96, 104, 112, 120].map fun offset => leValue ((data.drop offset).take 8)

theorem leValue_of_bytesAt {v : UInt64} (h : BytesAt data pos (le64 v)) :
    leValue ((data.drop pos).take 8) = v.toNat := by
  obtain ⟨-, rest, hrest⟩ := bytesAt_iff.mp h
  have hlen : (le64 v).length = 8 := by simp
  rw [hrest, ← hlen, List.take_left, le64, leValue_leBytes]
  exact Nat.mod_eq_of_lt v.toNat_lt

theorem declaredLengths_of_header {header : MasterKeyHeader} {lens : DeclaredLengths}
    (h : BytesAt data 0 (header.bytes lens)) :
    declaredLengths data = [lens.masterKey.toNat, lens.backupKey.toNat, lens.credHist.toNat,
      lens.domainKey.toNat] := by
  simp only [MasterKeyHeader.bytes, bytesAt_append, length_le32, length_le64,
    Vector.length_toList] at h
  obtain ⟨-, -, -, -, -, -, -, hmasterKey, hbackupKey, hcredHist, hdomainKey⟩ := h
  simp only [declaredLengths, List.map_cons, List.map_nil]
  rw [leValue_of_bytesAt hmasterKey, leValue_of_bytesAt hbackupKey, leValue_of_bytesAt hcredHist,
    leValue_of_bytesAt hdomainKey]

/-- One sub-blob: with overflow checks on, what follows panics exactly when it panics, and the end it
computes is a `usize` or that is a panic too. -/
theorem takeSub_bind_ne_panic_iff (hprofile : env.profile = .debug) (hdata : IsSlice data) (len : Nat)
    {β : Type} {f : Bytes × Nat → Outcome DpapiError β} {fits : Prop}
    (hf : ∀ bytes, BytesAt data pos bytes → bytes.length = len →
      (f (bytes, pos + len) ≠ .panic ↔ fits)) :
    (takeSub env data pos len >>= f) ≠ .panic ↔
      pos + len < 2 ^ 64 ∧ (pos + len ≤ data.length → fits) := by
  rcases Nat.lt_or_ge (pos + len) (2 ^ 64) with hend | hend
  · rcases Nat.lt_or_ge data.length (pos + len) with hgt | hle
    · rw [takeSub_of_gt hend hgt, Outcome.err_bind]
      exact iff_of_true (by simp) ⟨hend, fun hle => absurd hle (Nat.not_le.mpr hgt)⟩
    · obtain ⟨bytes, hbytes, hlen⟩ := exists_bytesAt len hle
      rw [takeSub_of_bytesAt hdata hbytes hlen.symm, Outcome.ok_bind, hf bytes hbytes hlen]
      exact ⟨fun h => ⟨hend, fun _ => h⟩, fun h => h.2 hle⟩
  · rw [takeSub_of_overflow hprofile hend]
    exact iff_of_false (fun h => h rfl) fun h => absurd h.1 (Nat.not_lt.mpr hend)

theorem takeAll_ne_panic_iff (hprofile : env.profile = .debug) (hdata : IsSlice data)
    (header : MasterKeyHeader) (lens : DeclaredLengths) :
    takeAll env header lens data ≠ .panic ↔
      EndsFit data.length headerLen [lens.masterKey.toNat, lens.backupKey.toNat, lens.credHist.toNat,
        lens.domainKey.toNat] := by
  refine takeSub_bind_ne_panic_iff hprofile hdata _ fun _ _ _ => ?_
  refine takeSub_bind_ne_panic_iff hprofile hdata _ fun _ _ _ => ?_
  refine takeSub_bind_ne_panic_iff hprofile hdata _ fun _ _ _ => ?_
  refine takeSub_bind_ne_panic_iff hprofile hdata _ fun _ _ _ => ?_
  exact iff_of_true (by simp) trivial

/-- **When parsing a master-key file overflows.** With overflow checks on, it returns exactly when the
file is too short for a header, or every end computed from the declared lengths is a `usize`. -/
theorem parseMasterkeyFile_ne_panic_iff (env : Env) (data : Slice) :
    parseMasterkeyFile { env with profile := .debug } data.val ≠ .panic ↔
      data.val.length < headerLen ∨ EndsFit data.val.length headerLen (declaredLengths data.val) := by
  rcases Nat.lt_or_ge data.val.length headerLen with hshort | hlong
  · rw [parse_of_short hshort]
    simp [hshort]
  · obtain ⟨header, lens, h⟩ := exists_header hlong
    rw [parse_eq_takeAll data.property h, takeAll_ne_panic_iff rfl data.property,
      declaredLengths_of_header h]
    simp [Nat.not_lt.mpr hlong]

/-- A bare header that declares a master key of `2 ^ 64 - 1` bytes. -/
def overflowFile : Bytes := List.replicate 96 0 ++ (List.replicate 8 0xff ++ List.replicate 24 0)

theorem parseMasterkeyFile_overflowFile :
    IsSlice overflowFile ∧
      parseMasterkeyFile { KnownAnswers.env {} with profile := .debug } overflowFile = .panic := by
  refine ⟨by simp [IsSlice, overflowFile], ?_⟩
  decide +kernel

end Overflow

/-! ### Wrapping

Without overflow checks an end past the word comes out below the cursor it started from, and no range
ends before it starts. So wrapping changes the error, never the verdict. -/

section Wrapping

/-- The pieces stand in the data one after the other. -/
def Consecutive (data : Bytes) : Nat → List Bytes → Prop
  | _, [] => True
  | pos, piece :: pieces => BytesAt data pos piece ∧ Consecutive data (pos + piece.length) pieces

def MasterKeyFile.subBlobs (file : MasterKeyFile) : List Bytes :=
  [file.masterKey, file.backupKey, file.credHist, file.domainKey]

theorem takeSub_release_eq_ok_iff (hprofile : env.profile = .release) (hdata : IsSlice data)
    (hpos : pos ≤ data.length) {len next : Nat} (hlen : len < 2 ^ 64) {bytes : Bytes} :
    takeSub env data pos len = .ok (bytes, next) ↔
      BytesAt data pos bytes ∧ bytes.length = len ∧ next = pos + len := by
  unfold IsSlice at hdata
  constructor
  · intro h
    simp only [takeSub, hprofile, usizeAdd_release, Outcome.ok_bind] at h
    obtain ⟨slice, hslice, h⟩ := Outcome.bind_eq_ok_iff.mp h
    obtain ⟨hat, hstop⟩ := getRange_eq_some_iff.mp (Outcome.okOr_eq_ok_iff.mp hslice)
    obtain ⟨rfl, rfl⟩ := Prod.mk.inj (Outcome.ok.inj h)
    have hfits : pos + len < 2 ^ 64 := by
      by_contra hover
      omega
    rw [Nat.mod_eq_of_lt hfits] at hstop ⊢
    exact ⟨hat, by omega, rfl⟩
  · rintro ⟨hat, rfl, rfl⟩
    exact takeSub_of_bytesAt hdata hat rfl

theorem takeSub_release_bind_eq_ok_iff (hprofile : env.profile = .release) (hdata : IsSlice data)
    (hpos : pos ≤ data.length) {len : Nat} (hlen : len < 2 ^ 64) {β : Type} {b : β}
    {f : Bytes × Nat → Outcome DpapiError β} :
    (takeSub env data pos len >>= f) = .ok b ↔
      ∃ bytes, BytesAt data pos bytes ∧ bytes.length = len ∧ f (bytes, pos + bytes.length) = .ok b := by
  rw [Outcome.bind_eq_ok_iff]
  constructor
  · rintro ⟨⟨bytes, next⟩, hbytes, h⟩
    obtain ⟨hat, rfl, rfl⟩ := (takeSub_release_eq_ok_iff hprofile hdata hpos hlen).mp hbytes
    exact ⟨bytes, hat, rfl, h⟩
  · rintro ⟨bytes, hat, rfl, h⟩
    exact ⟨_, takeSub_of_bytesAt hdata hat rfl, h⟩

theorem takeSub_release_ne_panic (hprofile : env.profile = .release) {len : Nat} :
    takeSub env data pos len ≠ .panic := by
  simp only [takeSub, hprofile, usizeAdd_release, Outcome.ok_bind]
  exact Outcome.bind_ne_panic Outcome.okOr_ne_panic fun _ _ => by simp

/-- Pieces of the given lengths stand in the data exactly when it is long enough for all of them. -/
theorem exists_consecutive_iff {lens : List Nat} (hpos : pos ≤ data.length) :
    (∃ pieces, Consecutive data pos pieces ∧ pieces.map List.length = lens) ↔
      pos + lens.sum ≤ data.length := by
  induction lens generalizing pos with
  | nil => exact iff_of_true ⟨[], trivial, rfl⟩ (by simpa using hpos)
  | cons len lens ih =>
      rw [List.sum_cons, ← Nat.add_assoc]
      constructor
      · rintro ⟨pieces, hpieces, hlens⟩
        obtain ⟨piece, pieces, rfl, rfl, rfl⟩ := List.map_eq_cons_iff.mp hlens
        obtain ⟨hpiece, hrest⟩ := hpieces
        exact (ih hpiece.le).mp ⟨pieces, hrest, rfl⟩
      · intro hle
        have hroom : pos + len ≤ data.length := by omega
        obtain ⟨piece, hpiece, rfl⟩ := exists_bytesAt len hroom
        obtain ⟨pieces, hpieces, rfl⟩ := (ih hpiece.le).mpr hle
        exact ⟨piece :: pieces, ⟨hpiece, hpieces⟩, rfl⟩

/-- The four sub-blobs are taken exactly when they stand behind the header one after the other. -/
theorem takeAll_release_eq_ok_iff (hprofile : env.profile = .release) (hdata : IsSlice data)
    (hlong : headerLen ≤ data.length) (header : MasterKeyHeader) (lens : DeclaredLengths)
    (file : MasterKeyFile) :
    takeAll env header lens data = .ok file ↔
      (Consecutive data headerLen file.subBlobs ∧
        file.subBlobs.map List.length = [lens.masterKey.toNat, lens.backupKey.toNat,
          lens.credHist.toNat, lens.domainKey.toNat]) ∧
      file.version = header.version ∧ file.guid = decodeUtf16le header.guid.toList ∧
      file.policy = header.policy ∧ file.flags = header.flags := by
  constructor
  · intro h
    obtain ⟨masterKey, hat₁, hlen₁, h⟩ :=
      (takeSub_release_bind_eq_ok_iff hprofile hdata hlong lens.masterKey.toNat_lt).mp h
    obtain ⟨backupKey, hat₂, hlen₂, h⟩ :=
      (takeSub_release_bind_eq_ok_iff hprofile hdata hat₁.le lens.backupKey.toNat_lt).mp h
    obtain ⟨credHist, hat₃, hlen₃, h⟩ :=
      (takeSub_release_bind_eq_ok_iff hprofile hdata hat₂.le lens.credHist.toNat_lt).mp h
    obtain ⟨domainKey, hat₄, hlen₄, h⟩ :=
      (takeSub_release_bind_eq_ok_iff hprofile hdata hat₃.le lens.domainKey.toNat_lt).mp h
    obtain rfl := Outcome.ok.inj h
    refine ⟨⟨⟨hat₁, hat₂, hat₃, hat₄, trivial⟩, ?_⟩, rfl, rfl, rfl, rfl⟩
    simp only [MasterKeyFile.subBlobs, List.map_cons, List.map_nil, hlen₁, hlen₂, hlen₃, hlen₄]
  · obtain ⟨version, guid, policy, flags, masterKey, backupKey, credHist, domainKey⟩ := file
    rintro ⟨⟨⟨hat₁, hat₂, hat₃, hat₄, -⟩, hlens⟩, rfl, rfl, rfl, rfl⟩
    simp only [MasterKeyFile.subBlobs, List.map_cons, List.map_nil, List.cons.injEq, and_true] at hlens
    obtain ⟨hlen₁, hlen₂, hlen₃, hlen₄⟩ := hlens
    rw [takeAll, ← hlen₁, ← hlen₂, ← hlen₃, ← hlen₄]
    refine Outcome.bind_of_ok (takeSub_of_bytesAt hdata hat₁ rfl) ?_
    refine Outcome.bind_of_ok (takeSub_of_bytesAt hdata hat₂ rfl) ?_
    refine Outcome.bind_of_ok (takeSub_of_bytesAt hdata hat₃ rfl) ?_
    exact Outcome.bind_of_ok (takeSub_of_bytesAt hdata hat₄ rfl) rfl

theorem exists_takeAll_release_iff (hprofile : env.profile = .release) (hdata : IsSlice data)
    (hlong : headerLen ≤ data.length) (header : MasterKeyHeader) (lens : DeclaredLengths) :
    (∃ file, takeAll env header lens data = .ok file) ↔
      headerLen + [lens.masterKey.toNat, lens.backupKey.toNat, lens.credHist.toNat,
        lens.domainKey.toNat].sum ≤ data.length := by
  have hiff := takeAll_release_eq_ok_iff hprofile hdata hlong header lens
  rw [← exists_consecutive_iff hlong]
  constructor
  · rintro ⟨file, hfile⟩
    exact ⟨file.subBlobs, ((hiff file).mp hfile).1⟩
  · rintro ⟨pieces, hpieces, hlens⟩
    obtain ⟨masterKey, pieces, rfl, hlen₁, hlens⟩ := List.map_eq_cons_iff.mp hlens
    obtain ⟨backupKey, pieces, rfl, hlen₂, hlens⟩ := List.map_eq_cons_iff.mp hlens
    obtain ⟨credHist, pieces, rfl, hlen₃, hlens⟩ := List.map_eq_cons_iff.mp hlens
    obtain ⟨domainKey, pieces, rfl, hlen₄, hlens⟩ := List.map_eq_cons_iff.mp hlens
    obtain rfl := List.map_eq_nil_iff.mp hlens
    refine ⟨⟨header.version, decodeUtf16le header.guid.toList, header.policy, header.flags,
      masterKey, backupKey, credHist, domainKey⟩, (hiff _).mpr ⟨⟨hpieces, ?_⟩, rfl, rfl, rfl, rfl⟩⟩
    rw [← hlen₁, ← hlen₂, ← hlen₃, ← hlen₄]
    rfl

theorem takeAll_release_ne_panic (hprofile : env.profile = .release) (header : MasterKeyHeader)
    (lens : DeclaredLengths) : takeAll env header lens data ≠ .panic := by
  refine Outcome.bind_ne_panic (takeSub_release_ne_panic hprofile) fun _ _ => ?_
  refine Outcome.bind_ne_panic (takeSub_release_ne_panic hprofile) fun _ _ => ?_
  refine Outcome.bind_ne_panic (takeSub_release_ne_panic hprofile) fun _ _ => ?_
  refine Outcome.bind_ne_panic (takeSub_release_ne_panic hprofile) fun _ _ => ?_
  simp

/-- The file holds a header and what the header declares. -/
def HoldsDeclared (data : Bytes) : Prop :=
  headerLen ≤ data.length ∧ headerLen + (declaredLengths data).sum ≤ data.length

/-- **Wrapping accepts nothing more.** Without overflow checks, a master-key file is accepted exactly
when it holds what it declares, and is then cut into consecutive pieces of the declared lengths. -/
theorem parseMasterkeyFile_release (env : Env) (data : Slice) :
    ((∃ file, parseMasterkeyFile { env with profile := .release } data.val = .ok file) ↔
      HoldsDeclared data.val) ∧
    ((∃ e, parseMasterkeyFile { env with profile := .release } data.val = .err e) ↔
      ¬HoldsDeclared data.val) ∧
    ∀ file, parseMasterkeyFile { env with profile := .release } data.val = .ok file →
      Consecutive data.val headerLen file.subBlobs ∧
        file.subBlobs.map List.length = declaredLengths data.val := by
  rcases Nat.lt_or_ge data.val.length headerLen with hshort | hlong
  · have hnot : ¬HoldsDeclared data.val := fun h => Nat.not_lt.mpr h.1 hshort
    simp only [parse_of_short hshort, hnot]
    simp
  · obtain ⟨header, lens, h⟩ := exists_header hlong
    have hiff := @takeAll_release_eq_ok_iff { env with profile := .release } data.val rfl
      data.property hlong header lens
    have hlens := declaredLengths_of_header h
    rw [parse_eq_takeAll data.property h]
    have hok : (∃ file, takeAll { env with profile := .release } header lens data.val = .ok file) ↔
        HoldsDeclared data.val := by
      rw [HoldsDeclared, and_iff_right hlong, hlens]
      exact exists_takeAll_release_iff rfl data.property hlong header lens
    refine ⟨hok, ?_, fun file hfile => ?_⟩
    · rw [← hok]
      constructor
      · rintro ⟨e, he⟩ ⟨file, hfile⟩
        rw [he] at hfile
        cases hfile
      · intro hnone
        exact Outcome.exists_err_of_ne (fun file hfile => hnone ⟨file, hfile⟩)
          (takeAll_release_ne_panic rfl header lens)
    · rw [hlens]
      exact ((hiff file).mp hfile).1

/-- A file that declares one byte for the master key and two for the domain key, and holds them. -/
def smallFile : Slice :=
  ⟨List.replicate 96 0 ++ (le64 1 ++ (le64 0 ++ (le64 0 ++ (le64 2 ++ [7, 8, 9])))), by
    simp [IsSlice]⟩

theorem parseMasterkeyFile_release_smallFile :
    ∃ file, parseMasterkeyFile { KnownAnswers.env {} with profile := .release } smallFile.val
        = .ok file ∧
      Consecutive smallFile.val headerLen file.subBlobs ∧
        file.subBlobs.map List.length = [1, 0, 0, 2] := by
  obtain ⟨hok, -, hpieces⟩ := parseMasterkeyFile_release (KnownAnswers.env {}) smallFile
  have hholds : HoldsDeclared smallFile.val := by
    unfold HoldsDeclared
    decide +kernel
  obtain ⟨file, hfile⟩ := hok.mpr hholds
  refine ⟨file, hfile, (hpieces file hfile).1, ?_⟩
  rw [(hpieces file hfile).2]
  decide +kernel

end Wrapping

end DpapiForensic
