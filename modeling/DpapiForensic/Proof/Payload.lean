import DpapiForensic.KnownAnswers
import DpapiForensic.Vault

/-!
# Where an attribute's payload lies

`Size` stands behind a prefix of 16 bytes and two optional parts, both told from the bytes alone, and
counts everything behind itself. The reader keeps to that where there is an IV. Without one it skips an
`IVSize` all the same and does not count it, so its data start and end four bytes too late.
-/

namespace DpapiForensic

open Vault

variable {env : Env} {attr : Bytes}

/-! ### The reader as a function of the bytes -/

/-- Where `Size` stands: behind a pad when there are six zero bytes, and behind `Unknown5` from id 100
on. -/
def sizePos (attr : Bytes) : Nat :=
  16 + (if getRange attr 16 22 = some (List.replicate 6 0) then 6 else 0) +
    (if u32At 0 attr 0 4 ≥ 100 then 4 else 0)

theorem sizePos_le (attr : Bytes) : sizePos attr ≤ 26 := by
  unfold sizePos
  split_ifs <;> omega

def payloadAt (attr : Bytes) (pos : Nat) : Option (Bytes × Bytes) := do
  let sizeBytes ← getRange attr pos (pos + 4)
  let size := (u32FromLe sizeBytes).toNat
  let ivPresent ← attr[pos + 4]?
  let ivSizeBytes ← getRange attr (pos + 5) (pos + 9)
  let ivSize := (u32FromLe ivSizeBytes).toNat
  if ivPresent ≠ 0 then do
    let iv ← getRange attr (pos + 9) (pos + 9 + ivSize)
    let dataLen ← checkedSub size (ivSize + 5)
    let data ← getRange attr (pos + 9 + ivSize) (pos + 9 + ivSize + dataLen)
    pure (iv, data)
  else do
    let dataLen ← checkedSub size 1
    let data ← getRange attr (pos + 9) (pos + 9 + dataLen)
    pure ([], data)

/-- What the reader returns, in any build: none of its sums leaves the word. -/
def payload? (attr : Bytes) : Option (Bytes × Bytes) :=
  if attr.length ≤ 28 then none else payloadAt attr (sizePos attr)

theorem okOr_bind {α β : Type} (x : Option α) (f : α → Option β) :
    (Outcome.okOr (x >>= f) () : Outcome Unit β)
      = (Outcome.okOr x () >>= fun a => Outcome.okOr (f a) ()) := by
  cases x <;> rfl

theorem checkedSub_eq_some_iff {a b n : Nat} : checkedSub a b = some n ↔ a = b + n := by
  unfold checkedSub
  split
  · rw [Option.some.injEq]
    omega
  · simp only [reduceCtorEq, false_iff]
    omega

theorem parseAttributePayload_eq (env : Env) (attr : Bytes) :
    parseAttributePayload env attr = Outcome.okOr (payload? attr) () := by
  by_cases hshort : attr.length ≤ 28
  · rw [parseAttributePayload, Outcome.failIf_of hshort, payload?, if_pos hshort]
    rfl
  obtain ⟨idBytes, hid, -⟩ := exists_getRange (Nat.zero_le 4) (show 4 ≤ attr.length by omega)
  obtain ⟨pad, hpad, -⟩ := exists_getRange (show 16 ≤ 22 by omega) (show 22 ≤ attr.length by omega)
  have hid' : u32FromLe idBytes = u32At 0 attr 0 4 := by
    rw [u32At, hid, Option.map_some, Option.getD_some]
  have hpad' : (pad = List.replicate 6 0) = (getRange attr 16 22 = some (List.replicate 6 0)) := by
    rw [hpad, Option.some.injEq]
  have hpos : ∃ pos, pos ≤ 26 ∧ sizePos attr = pos := ⟨_, sizePos_le attr, rfl⟩
  obtain ⟨pos, hle, hpos⟩ := hpos
  rw [payload?, if_neg hshort, hpos, parseAttributePayload]
  refine Outcome.bind_of_ok (Outcome.failIf_of_not hshort) ?_
  refine Outcome.bind_of_ok (by rw [hid, Outcome.okOr_some]) ?_
  refine Outcome.bind_of_ok (by rw [hpad, Outcome.okOr_some]) ?_
  simp only [hid', hpad']
  refine Outcome.bind_of_ok (a := if getRange attr 16 22 = some (List.replicate 6 0) then 16 + 6 else 16)
    ?_ (Outcome.bind_of_ok (a := pos) ?_ ?_)
  · split_ifs
    · exact usizeAdd_of_lt (by decide)
    · rfl
  · rw [← hpos, sizePos]
    split_ifs
    · exact usizeAdd_of_lt (by decide)
    · exact usizeAdd_of_lt (by decide)
    · rfl
    · rfl
  -- from here on every sum is of a cursor and `u32`s
  have hword : ∀ bytes, (u32FromLe bytes).toNat < 2 ^ 32 := fun bytes => UInt32.toNat_lt _
  rw [payloadAt]
  simp only [okOr_bind]
  refine Outcome.bind_of_ok (usizeAdd_of_lt (by omega)) ?_
  refine bind_congr fun sizeBytes => ?_
  have hsize := hword sizeBytes
  refine Outcome.bind_of_ok (usizeAdd_of_lt (by omega)) ?_
  refine bind_congr fun ivPresent => ?_
  refine Outcome.bind_of_ok (usizeAdd_of_lt (by omega)) ?_
  refine Outcome.bind_of_ok (usizeAdd_of_lt (by omega)) ?_
  refine bind_congr fun ivSizeBytes => ?_
  have hivSize := hword ivSizeBytes
  refine Outcome.bind_of_ok (usizeAdd_of_lt (by omega)) ?_
  by_cases hpresent : ivPresent ≠ 0
  · simp only [if_pos hpresent, okOr_bind, bind_assoc, Outcome.pure_eq, Outcome.ok_bind]
    refine Outcome.bind_of_ok (usizeAdd_of_lt (by omega)) ?_
    refine bind_congr fun iv => ?_
    refine Outcome.bind_of_ok (usizeAdd_of_lt (by omega)) ?_
    refine Outcome.bind_of_ok (usizeAdd_of_lt (by omega)) ?_
    cases hdataLen : checkedSub (u32FromLe sizeBytes).toNat ((u32FromLe ivSizeBytes).toNat + 5) with
    | none => rfl
    | some dataLen =>
        have hsub := checkedSub_eq_some_iff.mp hdataLen
        rw [Outcome.okOr_some, Outcome.ok_bind]
        refine Outcome.bind_of_ok (usizeAdd_of_lt (by omega)) ?_
        rfl
  · simp only [if_neg hpresent, okOr_bind, bind_assoc, Outcome.pure_eq, Outcome.ok_bind]
    cases hdataLen : checkedSub (u32FromLe sizeBytes).toNat 1 with
    | none => rfl
    | some dataLen =>
        have hsub := checkedSub_eq_some_iff.mp hdataLen
        rw [Outcome.okOr_some, Outcome.ok_bind]
        refine Outcome.bind_of_ok (usizeAdd_of_lt (by omega)) ?_
        rfl

/-! ### What it reads -/

section Reads

variable {iv data : Bytes}

/-- With an IV, `Size` counts the presence byte, the IV under its length, and the data. -/
def HoldsWithIv (attr iv data : Bytes) : Prop :=
  ∃ (size : UInt32) (present : UInt8), present ≠ 0 ∧ iv.length < 2 ^ 32 ∧
    size.toNat = iv.length + data.length + 5 ∧
    BytesAt attr (sizePos attr) (le32 size ++ ([present] ++ (lp iv ++ data)))

/-- Without one, a word stands between the presence byte and the data that `Size` does not count. -/
def HoldsWithoutIv (attr data : Bytes) : Prop :=
  ∃ size ivSize : UInt32, size.toNat = data.length + 1 ∧
    BytesAt attr (sizePos attr) (le32 size ++ ([0] ++ (le32 ivSize ++ data)))

theorem payloadAt_eq_some_iff :
    payloadAt attr (sizePos attr) = some (iv, data) ↔
      HoldsWithIv attr iv data ∨ iv = [] ∧ HoldsWithoutIv attr data := by
  simp only [payloadAt, HoldsWithIv, HoldsWithoutIv, Option.bind_eq_bind, Option.bind_eq_some_iff,
    bytesAt_append, length_le32, List.length_singleton, lp]
  constructor
  · rintro ⟨sizeBytes, hsizeBytes, present, hpresent, ivSizeBytes, hivSizeBytes, h⟩
    obtain ⟨size, hsize, hsizeEq⟩ :=
      (exists_getRange_word_iff (P := (· = u32FromLe sizeBytes))).mp ⟨sizeBytes, hsizeBytes, rfl⟩
    obtain ⟨ivSize, hivSize, hivSizeEq⟩ :=
      (exists_getRange_word_iff (P := (· = u32FromLe ivSizeBytes))).mp
        ⟨ivSizeBytes, hivSizeBytes, rfl⟩
    rw [← hsizeEq, ← hivSizeEq] at h
    have hpresentAt := bytesAt_singleton_iff.mpr hpresent
    by_cases hzero : present ≠ 0
    · simp only [if_pos hzero, Option.bind_eq_some_iff, checkedSub_eq_some_iff] at h
      obtain ⟨iv', hiv, dataLen, hdataLen, data', hdata, hpair⟩ := h
      obtain ⟨rfl, rfl⟩ := Prod.mk.inj (Option.some.inj hpair)
      obtain ⟨hivAt, hivStop⟩ := getRange_eq_some_iff.mp hiv
      obtain ⟨hdataAt, hdataStop⟩ := getRange_eq_some_iff.mp hdata
      have hivLen : iv'.length = ivSize.toNat := by omega
      have hlt := ivSize.toNat_lt
      refine Or.inl ⟨size, present, hzero, by omega, by omega, hsize, hpresentAt, ⟨?_, hivAt⟩, ?_⟩
      · rwa [hivLen, UInt32.ofNat_toNat]
      · rwa [List.length_append, length_le32, hivLen, ← Nat.add_assoc]
    · simp only [if_neg hzero, Option.bind_eq_some_iff, checkedSub_eq_some_iff] at h
      obtain ⟨dataLen, hdataLen, data', hdata, hpair⟩ := h
      obtain ⟨rfl, rfl⟩ := Prod.mk.inj (Option.some.inj hpair)
      obtain ⟨hdataAt, hdataStop⟩ := getRange_eq_some_iff.mp hdata
      rw [not_ne_iff.mp hzero] at hpresentAt
      exact Or.inr ⟨rfl, size, ivSize, by omega, hsize, hpresentAt, hivSize, hdataAt⟩
  · rintro (⟨size, present, hzero, hlt, hsum, hsize, hpresent, ⟨hivSize, hiv⟩, hdata⟩ |
      ⟨rfl, size, ivSize, hsum, hsize, hpresent, hivSize, hdata⟩)
    · refine ⟨_, hsize.getRange_eq (by simp), present, bytesAt_singleton_iff.mp hpresent, _,
        hivSize.getRange_eq (by simp), ?_⟩
      simp only [if_pos hzero, u32FromLe_le32, toNat_ofNat_length hlt, Option.bind_eq_some_iff,
        checkedSub_eq_some_iff]
      rw [List.length_append, length_le32, ← Nat.add_assoc] at hdata
      exact ⟨iv, hiv.getRange_eq rfl, data.length, by omega, data, hdata.getRange_eq rfl, rfl⟩
    · refine ⟨_, hsize.getRange_eq (by simp), 0, bytesAt_singleton_iff.mp hpresent, _,
        hivSize.getRange_eq (by simp), ?_⟩
      simp only [ne_eq, not_true_eq_false, if_false, u32FromLe_le32, Option.bind_eq_some_iff,
        checkedSub_eq_some_iff]
      exact ⟨data.length, by omega, data, hdata.getRange_eq rfl, rfl⟩

theorem payload?_eq_some_iff :
    payload? attr = some (iv, data) ↔
      28 < attr.length ∧ (HoldsWithIv attr iv data ∨ iv = [] ∧ HoldsWithoutIv attr data) := by
  rw [payload?, ← payloadAt_eq_some_iff]
  split <;> simp <;> omega

theorem length_data_le_of_payload? (h : payload? attr = some (iv, data)) :
    data.length ≤ attr.length := by
  rcases (payload?_eq_some_iff.mp h).2 with ⟨size, present, -, -, -, hat⟩ | ⟨-, size, ivSize, -, hat⟩
  · have hle := hat.le
    simp only [List.length_append] at hle
    omega
  · have hle := hat.le
    simp only [List.length_append] at hle
    omega

theorem parseAttributePayload_eq_ok_iff :
    parseAttributePayload env attr = .ok (iv, data) ↔
      28 < attr.length ∧ (HoldsWithIv attr iv data ∨ iv = [] ∧ HoldsWithoutIv attr data) := by
  rw [parseAttributePayload_eq, Outcome.okOr_eq_ok_iff, payload?_eq_some_iff]

/-- The lengths fit, as the reader counts them: without an IV, four bytes more than `Size` says. -/
def PayloadFits (attr : Bytes) : Prop :=
  ∃ (size ivSize : UInt32) (present : UInt8),
    BytesAt attr (sizePos attr) (le32 size ++ ([present] ++ le32 ivSize)) ∧
    (present ≠ 0 ∧ ivSize.toNat + 5 ≤ size.toNat ∧ sizePos attr + 4 + size.toNat ≤ attr.length ∨
      present = 0 ∧ 1 ≤ size.toNat ∧ sizePos attr + 8 + size.toNat ≤ attr.length)

theorem exists_payload?_iff : (∃ payload, payload? attr = some payload) ↔
    28 < attr.length ∧ PayloadFits attr := by
  constructor
  · rintro ⟨⟨iv, data⟩, h⟩
    obtain ⟨hlong, h⟩ := payload?_eq_some_iff.mp h
    refine ⟨hlong, ?_⟩
    rcases h with ⟨size, present, hzero, hlt, hsize, hat⟩ | ⟨-, size, ivSize, hsize, hat⟩
    · have hle := hat.le
      simp only [lp, bytesAt_append, List.length_append, length_le32, List.length_singleton] at hat hle
      obtain ⟨hsizeAt, hpresent, ⟨hivSize, -⟩, -⟩ := hat
      refine ⟨size, UInt32.ofNat iv.length, present, ?_, Or.inl ⟨hzero, ?_, by omega⟩⟩
      · exact bytesAt_append.mpr ⟨hsizeAt, bytesAt_append.mpr ⟨hpresent, hivSize⟩⟩
      · rw [toNat_ofNat_length hlt]
        omega
    · have hle := hat.le
      simp only [bytesAt_append, List.length_append, length_le32, List.length_singleton] at hat hle
      obtain ⟨hsizeAt, hpresent, hivSize, -⟩ := hat
      refine ⟨size, ivSize, 0, ?_, Or.inr ⟨rfl, by omega, by omega⟩⟩
      exact bytesAt_append.mpr ⟨hsizeAt, bytesAt_append.mpr ⟨hpresent, hivSize⟩⟩
  · rintro ⟨hlong, size, ivSize, present, hat, h⟩
    simp only [bytesAt_append, length_le32, List.length_singleton] at hat
    obtain ⟨hsizeAt, hpresent, hivSize⟩ := hat
    have hlt := ivSize.toNat_lt
    rcases h with ⟨hzero, hsize, hle⟩ | ⟨rfl, hsize, hle⟩
    · have hroom : sizePos attr + 4 + 1 + 4 + ivSize.toNat ≤ attr.length := by omega
      obtain ⟨iv, hiv, hivLen⟩ := exists_bytesAt ivSize.toNat hroom
      have hroom' : sizePos attr + 4 + 1 + 4 + ivSize.toNat + (size.toNat - (ivSize.toNat + 5))
          ≤ attr.length := by omega
      obtain ⟨data, hdata, hdataLen⟩ := exists_bytesAt _ hroom'
      refine ⟨(iv, data), payload?_eq_some_iff.mpr ⟨hlong, Or.inl ⟨size, present, hzero, by omega,
        by omega, ?_⟩⟩⟩
      simp only [lp, bytesAt_append, List.length_append, length_le32, List.length_singleton, hivLen,
        UInt32.ofNat_toNat, ← Nat.add_assoc]
      exact ⟨hsizeAt, hpresent, ⟨hivSize, hiv⟩, hdata⟩
    · have hroom : sizePos attr + 4 + 1 + 4 + (size.toNat - 1) ≤ attr.length := by omega
      obtain ⟨data, hdata, hdataLen⟩ := exists_bytesAt _ hroom
      refine ⟨([], data), payload?_eq_some_iff.mpr ⟨hlong, Or.inr ⟨rfl, size, ivSize, by omega, ?_⟩⟩⟩
      simp only [bytesAt_append, length_le32, List.length_singleton]
      exact ⟨hsizeAt, hpresent, hivSize, hdata⟩

end Reads

/-! ### What `Size` delimits -/

/-- What follows `Size`, and is counted by it. -/
inductive PayloadBody where
  | withIv (present : UInt8) (present_ne_zero : present ≠ 0) (iv : Field) (data : Bytes)
  | withoutIv (data : Bytes)

namespace PayloadBody

def iv : PayloadBody → Bytes
  | withIv _ _ iv _ => iv.val
  | withoutIv _ => []

def data : PayloadBody → Bytes
  | withIv _ _ _ data => data
  | withoutIv data => data

def bytes : PayloadBody → Bytes
  | withIv present _ iv data => [present] ++ (lp iv.val ++ data)
  | withoutIv data => [0] ++ data

end PayloadBody

/-- The attribute ends in the body, exactly where its `Size` says. -/
def Encodes (attr : Bytes) (body : PayloadBody) : Prop :=
  ∃ size : UInt32, size.toNat = body.bytes.length ∧
    BytesAt attr (sizePos attr) (le32 size ++ body.bytes) ∧
    attr.length = sizePos attr + 4 + size.toNat

/-- The data are the last of the `Size` bytes behind `Size`. -/
def EndsAtSize (attr data : Bytes) : Prop :=
  ∃ (size : UInt32) (front : Bytes), size.toNat = (front ++ data).length ∧
    BytesAt attr (sizePos attr) (le32 size ++ (front ++ data))

/-- `Size` delimits the payload: nothing is returned from behind its end, and every attribute built to
end there is read as it was built. -/
def SizeDelimits (env : Env) (attr : Bytes) : Prop :=
  (∀ iv data, parseAttributePayload env attr = .ok (iv, data) → EndsAtSize attr data) ∧
    ∀ body, Encodes attr body → 28 < attr.length →
      parseAttributePayload env attr = .ok (body.iv, body.data)

/-- An attribute without an IV that ends where its `Size` says, or goes on for the four bytes more that
the reader wants, and then with other bytes. -/
def MisreadWithoutIv (attr : Bytes) : Prop :=
  ∃ size : UInt32, BytesAt attr (sizePos attr) (le32 size ++ [0]) ∧ 0 < size.toNat ∧
    (attr.length = sizePos attr + 4 + size.toNat ∨
      sizePos attr + 8 + size.toNat ≤ attr.length ∧
        getRange attr (sizePos attr + 5) (sizePos attr + 4 + size.toNat)
          ≠ getRange attr (sizePos attr + 9) (sizePos attr + 8 + size.toNat))

/-- The range holds as much as `Size` and the IV's length say. -/
def LengthsFit (attr : Bytes) : Prop :=
  ∃ (size : UInt32) (body : PayloadBody), size.toNat = body.bytes.length ∧
    BytesAt attr (sizePos attr) (le32 size ++ body.bytes)

section Size

variable {size size' : UInt32} {present present' : UInt8} {data rest rest' : Bytes}

/-- `Size` and the presence byte are what they are. -/
theorem size_present_inj (h : BytesAt attr (sizePos attr) (le32 size ++ ([present] ++ rest)))
    (h' : BytesAt attr (sizePos attr) (le32 size' ++ ([present'] ++ rest'))) :
    size = size' ∧ present = present' := by
  simp only [bytesAt_append, length_le32] at h h'
  exact ⟨le32_injective (h.1.inj h'.1 (by simp)),
    (List.cons.inj (h.2.1.inj h'.2.1 rfl)).1⟩

theorem encodes_of_exact (h : BytesAt attr (sizePos attr) (le32 size ++ [0])) (hpos : 0 < size.toNat)
    (hlen : attr.length = sizePos attr + 4 + size.toNat) :
    ∃ data, Encodes attr (.withoutIv data) := by
  have hroom : sizePos attr + 5 + (size.toNat - 1) ≤ attr.length := by omega
  obtain ⟨data, hdata, hdataLen⟩ := exists_bytesAt (size.toNat - 1) hroom
  refine ⟨data, size, ?_, ?_, hlen⟩
  · simp only [PayloadBody.bytes, List.length_append, List.length_singleton]
    omega
  · rw [PayloadBody.bytes, ← List.append_assoc]
    exact bytesAt_append.mpr ⟨h, hdata⟩

/-- What the reader accepts fits, and with room to spare where there is no IV. -/
theorem lengthsFit_of_payload {payload : Bytes × Bytes} (h : payload? attr = some payload) :
    LengthsFit attr := by
  obtain ⟨iv, data⟩ := payload
  rcases (payload?_eq_some_iff.mp h).2 with
    ⟨size, present, hzero, hlt, hsize, hat⟩ | ⟨-, size, ivSize, hsize, hat⟩
  · refine ⟨size, .withIv present hzero ⟨iv, hlt⟩ data, ?_, hat⟩
    simp only [PayloadBody.bytes, List.length_append, List.length_singleton, length_lp]
    omega
  · refine ⟨size, .withoutIv ((le32 ivSize ++ data).take data.length), ?_, ?_⟩
    · simp only [PayloadBody.bytes, List.length_append, List.length_singleton, List.length_take]
      omega
    · rw [← List.take_append_drop data.length (le32 ivSize ++ data), ← List.append_assoc,
        ← List.append_assoc] at hat
      rw [PayloadBody.bytes, ← List.append_assoc]
      exact (bytesAt_append.mp hat).1

/-- What is built without an IV is not read. -/
theorem parse_ne_of_withoutIv (h : Encodes attr (.withoutIv data)) :
    parseAttributePayload env attr ≠ .ok ([], data) := by
  obtain ⟨size, hsize, hat, hlen⟩ := h
  simp only [PayloadBody.bytes, List.length_append, List.length_singleton] at hsize
  intro hparse
  rcases (parseAttributePayload_eq_ok_iff.mp hparse).2 with
    ⟨size', present, hzero, -, -, hat'⟩ | ⟨-, size', ivSize, hsize', hat'⟩
  · exact hzero (size_present_inj hat hat').2.symm
  · have hle := hat'.le
    simp only [List.length_append, length_le32, List.length_singleton] at hle
    omega

theorem not_sizeDelimits_of_misread (hlong : 28 < attr.length) (h : MisreadWithoutIv attr) :
    ¬SizeDelimits env attr := by
  rintro ⟨hends, hbuilt⟩
  obtain ⟨size, hat, hpos, hlen | ⟨hle, hdiffer⟩⟩ := h
  · obtain ⟨data, hencodes⟩ := encodes_of_exact hat hpos hlen
    exact parse_ne_of_withoutIv hencodes (hbuilt _ hencodes hlong)
  · -- the reader returns the bytes four further on
    have hroom : sizePos attr + 9 + (size.toNat - 1) ≤ attr.length := by omega
    obtain ⟨data, hdata, hdataLen⟩ := exists_bytesAt (size.toNat - 1) hroom
    obtain ⟨ivSize, hivSize⟩ := exists_le32_at attr (sizePos attr + 5) (by omega)
    have hholds : HoldsWithoutIv attr data := by
      refine ⟨size, ivSize, by omega, ?_⟩
      rw [← List.append_assoc]
      exact bytesAt_append.mpr ⟨hat, bytesAt_append.mpr ⟨hivSize, hdata⟩⟩
    have hparse : parseAttributePayload env attr = .ok ([], data) :=
      parseAttributePayload_eq_ok_iff.mpr ⟨hlong, Or.inr ⟨rfl, hholds⟩⟩
    obtain ⟨size', front, hsize', hat'⟩ := hends _ _ hparse
    simp only [bytesAt_append, length_le32, List.length_append] at hat hat' hsize'
    obtain rfl := le32_injective (hat.1.inj hat'.1 (by simp))
    have hfront : front.length = 1 := by omega
    have hdata' := hat'.2.2
    rw [hfront] at hdata'
    apply hdiffer
    rw [hdata.getRange_eq (by omega), hdata'.getRange_eq (by omega)]

theorem sizeDelimits_of_not_misread (h : ¬MisreadWithoutIv attr) : SizeDelimits env attr := by
  constructor
  · intro iv data hparse
    rcases (parseAttributePayload_eq_ok_iff.mp hparse).2 with
      ⟨size, present, -, -, hsize, hat⟩ | ⟨-, size, ivSize, hsize, hat⟩
    · refine ⟨size, [present] ++ lp iv, ?_, by simpa using hat⟩
      simp only [List.length_append, List.length_singleton, length_lp]
      omega
    · have hle := hat.le
      simp only [List.length_append, length_le32, List.length_singleton] at hle
      rw [← List.append_assoc] at hat
      obtain ⟨hfront, hrest⟩ := bytesAt_append.mp hat
      obtain ⟨-, hdata⟩ := bytesAt_append.mp hrest
      simp only [List.length_append, length_le32, List.length_singleton] at hdata
      have hsame : getRange attr (sizePos attr + 5) (sizePos attr + 4 + size.toNat)
          = getRange attr (sizePos attr + 9) (sizePos attr + 8 + size.toNat) := by
        by_contra hdiffer
        exact h ⟨size, hfront, by omega, Or.inr ⟨by omega, hdiffer⟩⟩
      rw [hdata.getRange_eq (by omega)] at hsame
      have hdata' := (getRange_eq_some_iff.mp hsame).1
      refine ⟨size, [0], by simp; omega, ?_⟩
      rw [← List.append_assoc]
      exact bytesAt_append.mpr ⟨hfront, hdata'⟩
  · rintro body ⟨size, hsize, hat, hlen⟩ hlong
    cases body with
    | withIv present hzero iv data =>
        simp only [PayloadBody.bytes, List.length_append, List.length_singleton, length_lp] at hsize
        refine parseAttributePayload_eq_ok_iff.mpr ⟨hlong, Or.inl ?_⟩
        exact ⟨size, present, hzero, iv.property, by simp only [PayloadBody.iv, PayloadBody.data]; omega,
          hat⟩
    | withoutIv data =>
        simp only [PayloadBody.bytes, List.length_append, List.length_singleton] at hsize hat
        rw [← List.append_assoc] at hat
        exact absurd ⟨size, (bytesAt_append.mp hat).1, by omega, Or.inl hlen⟩ h

/-- **When `Size` delimits the payload**: always with an IV. Without one, only where there is nothing to
read, or the bytes four further on happen to be the same. -/
theorem sizeDelimits_iff (env : Env) (attr : Bytes) :
    SizeDelimits env attr ↔ attr.length ≤ 28 ∨ ¬MisreadWithoutIv attr := by
  by_cases hlong : 28 < attr.length
  · rw [or_iff_right (by omega)]
    exact ⟨fun h hmisread => not_sizeDelimits_of_misread hlong hmisread h,
      sizeDelimits_of_not_misread⟩
  · refine iff_of_true ⟨fun iv data hparse => ?_, fun _ _ h => absurd h hlong⟩ (Or.inl (by omega))
    exact absurd (parseAttributePayload_eq_ok_iff.mp hparse).1 hlong

/-- Sixteen bytes of data without an IV. -/
def plainAttribute : Bytes :=
  List.replicate 22 0 ++ (le32 17 ++ ([0] ++ List.replicate 16 0xaa))

theorem not_sizeDelimits_plainAttribute :
    ¬SizeDelimits (KnownAnswers.env {}) plainAttribute := by
  have hparse : parseAttributePayload (KnownAnswers.env {}) plainAttribute = .err () := by
    decide +kernel
  have hencodes : Encodes plainAttribute (.withoutIv (List.replicate 16 0xaa)) :=
    ⟨17, rfl, by unfold BytesAt; decide +kernel, by decide +kernel⟩
  intro h
  have hok := h.2 _ hencodes (by decide)
  rw [hparse] at hok
  cases hok

end Size

end DpapiForensic
