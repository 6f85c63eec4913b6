import DpapiForensic.Lib.Outcome

/-!
# Bytes at an offset

Fixed-width little-endian words, `u32`-length-prefixed fields, and the one relation every layout
argument is made of: `BytesAt data pos bytes`, that `bytes` stand in `data` at offset `pos`. It is
stated through `getRange`, so that a successful range-checked read *is* an instance of it, and it
splits over concatenation, so that a serialisation stands at an offset exactly when its parts stand
one after the other.
-/

namespace DpapiForensic

abbrev Bytes := List UInt8

/-- What the language promises of a slice: at most `isize::MAX` bytes. -/
def IsSlice (data : Bytes) : Prop := data.length < 2 ^ 63

abbrev Slice := { data : Bytes // IsSlice data }

/-! ### Little-endian words -/

/-- The `n` low bytes of a number, least significant first. -/
def leBytes : Nat → Nat → Bytes
  | 0, _ => []
  | n + 1, v => UInt8.ofNat v :: leBytes n (v / 256)

def leValue : Bytes → Nat
  | [] => 0
  | b :: bs => b.toNat + 256 * leValue bs

@[simp] theorem length_leBytes (n v : Nat) : (leBytes n v).length = n := by
  induction n generalizing v with
  | zero => rfl
  | succ n ih => simp [leBytes, ih]

theorem leValue_lt (bs : Bytes) : leValue bs < 256 ^ bs.length := by
  induction bs with
  | nil => simp [leValue]
  | cons b bs ih =>
      have hb := b.toNat_lt
      rw [leValue, List.length_cons, Nat.pow_succ]
      omega

theorem leValue_leBytes (n v : Nat) : leValue (leBytes n v) = v % 256 ^ n := by
  induction n generalizing v with
  | zero => simp [leBytes, leValue, Nat.mod_one]
  | succ n ih =>
      rw [leBytes, leValue, ih, Nat.pow_succ, Nat.mul_comm (256 ^ n) 256, Nat.mod_mul]
      simp

theorem leBytes_leValue (bs : Bytes) : leBytes bs.length (leValue bs) = bs := by
  induction bs with
  | nil => rfl
  | cons b bs ih =>
      have hb := b.toNat_lt
      have hdiv : (b.toNat + 256 * leValue bs) / 256 = leValue bs := by omega
      have hbyte : UInt8.ofNat (b.toNat + 256 * leValue bs) = b := by
        apply UInt8.toNat_inj.mp
        rw [UInt8.toNat_ofNat']
        omega
      rw [List.length_cons, leValue, leBytes, hdiv, ih, hbyte]

/-- `u32::to_le_bytes`. -/
def le32 (v : UInt32) : Bytes := leBytes 4 v.toNat

/-- `u64::to_le_bytes`. -/
def le64 (v : UInt64) : Bytes := leBytes 8 v.toNat

/-- The `n` low bytes of a number, most significant first. -/
def beBytes (n v : Nat) : Bytes := (leBytes n v).reverse

def beVector (n v : Nat) : Vector UInt8 n := ⟨(beBytes n v).toArray, by simp [beBytes]⟩

def be32 (v : Nat) : Bytes := beBytes 4 v

/-- `u32::from_le_bytes`. -/
def u32FromLe (bs : Bytes) : UInt32 := UInt32.ofNat (leValue bs)

/-- `u64::from_le_bytes`. -/
def u64FromLe (bs : Bytes) : UInt64 := UInt64.ofNat (leValue bs)

@[simp] theorem length_le32 (v : UInt32) : (le32 v).length = 4 := length_leBytes 4 _

@[simp] theorem length_le64 (v : UInt64) : (le64 v).length = 8 := length_leBytes 8 _

@[simp] theorem u32FromLe_le32 (v : UInt32) : u32FromLe (le32 v) = v := by
  rw [u32FromLe, le32, leValue_leBytes, Nat.mod_eq_of_lt (show v.toNat < 256 ^ 4 from v.toNat_lt),
    UInt32.ofNat_toNat]

@[simp] theorem u64FromLe_le64 (v : UInt64) : u64FromLe (le64 v) = v := by
  rw [u64FromLe, le64, leValue_leBytes, Nat.mod_eq_of_lt (show v.toNat < 256 ^ 8 from v.toNat_lt),
    UInt64.ofNat_toNat]

theorem le32_u32FromLe {bs : Bytes} (h : bs.length = 4) : le32 (u32FromLe bs) = bs := by
  have hlt : leValue bs < 2 ^ 32 := by simpa [h] using leValue_lt bs
  have hval : (u32FromLe bs).toNat = leValue bs := by
    rw [u32FromLe, UInt32.toNat_ofNat', Nat.mod_eq_of_lt hlt]
  rw [le32, hval, ← h, leBytes_leValue]

theorem le64_u64FromLe {bs : Bytes} (h : bs.length = 8) : le64 (u64FromLe bs) = bs := by
  have hlt : leValue bs < 2 ^ 64 := by simpa [h] using leValue_lt bs
  have hval : (u64FromLe bs).toNat = leValue bs := by
    rw [u64FromLe, UInt64.toNat_ofNat', Nat.mod_eq_of_lt hlt]
  rw [le64, hval, ← h, leBytes_leValue]

theorem le32_injective {v w : UInt32} (h : le32 v = le32 w) : v = w := by
  rw [← u32FromLe_le32 v, h, u32FromLe_le32]

theorem le64_injective {v w : UInt64} (h : le64 v = le64 w) : v = w := by
  rw [← u64FromLe_le64 v, h, u64FromLe_le64]

/-! ### Length-prefixed fields -/

/-- A byte string short enough for its length to fit the `u32` that precedes it. -/
abbrev Field := { bytes : Bytes // bytes.length < 2 ^ 32 }

theorem fits_nil : ([] : Bytes).length < 2 ^ 32 := by decide

theorem isSlice_field (field : Field) : IsSlice field.val :=
  field.property.trans (by decide)

def lp (bytes : Bytes) : Bytes := le32 (UInt32.ofNat bytes.length) ++ bytes

@[simp] theorem length_lp (bytes : Bytes) : (lp bytes).length = 4 + bytes.length := by
  simp [lp]

theorem toNat_ofNat_length {bytes : Bytes} (h : bytes.length < 2 ^ 32) :
    (UInt32.ofNat bytes.length).toNat = bytes.length := by
  rw [UInt32.toNat_ofNat', Nat.mod_eq_of_lt h]

theorem lp_append_inj {a b : Field} {rest rest' : Bytes}
    (h : lp a.val ++ rest = lp b.val ++ rest') : a = b ∧ rest = rest' := by
  simp only [lp, List.append_assoc] at h
  obtain ⟨hlen, h⟩ := List.append_inj h (by simp)
  have hlength : a.val.length = b.val.length := by
    rw [← toNat_ofNat_length a.property, ← toNat_ofNat_length b.property, le32_injective hlen]
  obtain ⟨hbytes, hrest⟩ := List.append_inj h hlength
  exact ⟨Subtype.ext hbytes, hrest⟩

/-! ### Bytes at an offset -/

def BytesAt (data : Bytes) (pos : Nat) (bytes : Bytes) : Prop :=
  getRange data pos (pos + bytes.length) = some bytes

section BytesAt

variable {data bytes bytes' rest : Bytes} {pos start stop : Nat}

theorem bytesAt_iff :
    BytesAt data pos bytes ↔ pos + bytes.length ≤ data.length ∧ ∃ rest, data.drop pos = bytes ++ rest := by
  unfold BytesAt getRange
  constructor
  · intro h
    split at h
    · rename_i hle
      refine ⟨hle.2, (data.drop pos).drop bytes.length, ?_⟩
      have htake := Option.some.inj h
      rw [Nat.add_sub_cancel_left] at htake
      conv_lhs => rw [← List.take_append_drop bytes.length (data.drop pos), htake]
    · simp at h
  · rintro ⟨hle, rest, hdrop⟩
    rw [if_pos ⟨by omega, hle⟩, hdrop]
    simp

theorem BytesAt.le (h : BytesAt data pos bytes) : pos + bytes.length ≤ data.length :=
  (bytesAt_iff.mp h).1

theorem BytesAt.getRange_eq (h : BytesAt data pos bytes) (hstop : stop = pos + bytes.length) :
    getRange data pos stop = some bytes := by
  rw [hstop]
  exact h

theorem BytesAt.okOr_getRange {ε : Type} {e : ε} (h : BytesAt data pos bytes)
    (hstop : stop = pos + bytes.length) : Outcome.okOr (getRange data pos stop) e = .ok bytes := by
  rw [h.getRange_eq hstop, Outcome.okOr_some]

theorem BytesAt.sliceRange_eq {ε : Type} (h : BytesAt data pos bytes)
    (hstop : stop = pos + bytes.length) : (sliceRange data pos stop : Outcome ε Bytes) = .ok bytes :=
  sliceRange_eq_ok_iff.mpr (h.getRange_eq hstop)

theorem BytesAt.getElem? {b : UInt8} (h : BytesAt data pos [b]) : data[pos]? = some b := by
  obtain ⟨-, rest, hdrop⟩ := bytesAt_iff.mp h
  have hhead : (data.drop pos)[0]? = some b := by rw [hdrop]; rfl
  rwa [List.getElem?_drop] at hhead

theorem bytesAt_singleton_iff {b : UInt8} : BytesAt data pos [b] ↔ data[pos]? = some b := by
  constructor
  · exact BytesAt.getElem?
  · intro h
    obtain ⟨hlt, rfl⟩ := List.getElem?_eq_some_iff.mp h
    exact bytesAt_iff.mpr ⟨hlt, data.drop (pos + 1), List.drop_eq_getElem_cons hlt⟩

theorem getRange_eq_some_iff :
    getRange data start stop = some bytes ↔ BytesAt data start bytes ∧ stop = start + bytes.length := by
  constructor
  · intro h
    have hstop : stop = start + bytes.length := by
      unfold getRange at h
      split at h
      · have hlen := congrArg List.length (Option.some.inj h)
        simp only [List.length_take, List.length_drop] at hlen
        omega
      · simp at h
    subst hstop
    exact ⟨h, rfl⟩
  · rintro ⟨h, rfl⟩
    exact h

theorem getRange_eq_none_iff :
    getRange data start stop = none ↔ stop < start ∨ data.length < stop := by
  unfold getRange
  split <;> simp <;> omega

theorem exists_getRange (hle : start ≤ stop) (hstop : stop ≤ data.length) :
    ∃ bytes, getRange data start stop = some bytes ∧ bytes.length = stop - start := by
  refine ⟨_, if_pos ⟨hle, hstop⟩, ?_⟩
  simp only [List.length_take, List.length_drop]
  omega

/-- A concatenation stands at an offset exactly when its parts stand there one after the other. -/
theorem bytesAt_append :
    BytesAt data pos (bytes ++ bytes') ↔
      BytesAt data pos bytes ∧ BytesAt data (pos + bytes.length) bytes' := by
  simp only [bytesAt_iff, List.length_append]
  constructor
  · rintro ⟨hle, rest, hdrop⟩
    refine ⟨⟨by omega, bytes' ++ rest, by rw [hdrop, List.append_assoc]⟩, by omega, rest, ?_⟩
    rw [← List.drop_drop, hdrop, List.append_assoc, List.drop_left]
  · rintro ⟨⟨-, rest, hdrop⟩, hle', rest', hdrop'⟩
    refine ⟨by omega, rest', ?_⟩
    rw [← List.drop_drop, hdrop, List.drop_left] at hdrop'
    rw [hdrop, hdrop', List.append_assoc]

theorem bytesAt_zero_iff : BytesAt data 0 bytes ↔ ∃ rest, data = bytes ++ rest := by
  rw [bytesAt_iff]
  simp only [Nat.zero_add, List.drop_zero, and_iff_right_iff_imp, forall_exists_index]
  rintro rest rfl
  simp

theorem bytesAt_zero_iff_starts : BytesAt data 0 bytes ↔ bytes <+: data := by
  rw [bytesAt_zero_iff]
  exact exists_congr fun _ => eq_comm

theorem bytesAt_self : BytesAt data 0 data := bytesAt_zero_iff_starts.mpr (List.prefix_refl data)

theorem BytesAt.inj (h : BytesAt data pos bytes) (h' : BytesAt data pos bytes')
    (hlen : bytes.length = bytes'.length) : bytes = bytes' := by
  unfold BytesAt at h h'
  rw [hlen, h'] at h
  exact (Option.some.inj h).symm

theorem exists_bytesAt (n : Nat) (h : pos + n ≤ data.length) :
    ∃ bytes, BytesAt data pos bytes ∧ bytes.length = n := by
  obtain ⟨bytes, hget, hlen⟩ := exists_getRange (Nat.le_add_right pos n) h
  exact ⟨bytes, (getRange_eq_some_iff.mp hget).1, by omega⟩

end BytesAt

/-! ### Words with a fallback -/

/-- The `u32` at a range, or the fallback when its four bytes are not all there. -/
def u32At (fallback : UInt32) (data : Bytes) (start stop : Nat) : UInt32 :=
  ((getRange data start stop).map u32FromLe).getD fallback

def u64At (fallback : UInt64) (data : Bytes) (start stop : Nat) : UInt64 :=
  ((getRange data start stop).map u64FromLe).getD fallback

section WordAt

variable {data : Bytes} {pos : Nat}

theorem u32At_of_bytesAt {fallback v : UInt32} (h : BytesAt data pos (le32 v)) :
    u32At fallback data pos (pos + 4) = v := by
  rw [u32At, h.getRange_eq (by simp), Option.map_some, Option.getD_some, u32FromLe_le32]

theorem bytesAt_u32At {fallback : UInt32} (h : pos + 4 ≤ data.length) :
    BytesAt data pos (le32 (u32At fallback data pos (pos + 4))) := by
  obtain ⟨word, hword, hlen⟩ := exists_bytesAt 4 h
  rw [u32At, hword.getRange_eq (by rw [hlen]), Option.map_some, Option.getD_some,
    le32_u32FromLe hlen]
  exact hword

theorem exists_getRange_word_iff {P : UInt32 → Prop} :
    (∃ bytes, getRange data pos (pos + 4) = some bytes ∧ P (u32FromLe bytes)) ↔
      ∃ v, BytesAt data pos (le32 v) ∧ P v := by
  constructor
  · rintro ⟨bytes, hbytes, hP⟩
    obtain ⟨hat, hstop⟩ := getRange_eq_some_iff.mp hbytes
    refine ⟨u32FromLe bytes, ?_, hP⟩
    rwa [le32_u32FromLe (by omega)]
  · rintro ⟨v, hv, hP⟩
    exact ⟨le32 v, hv.getRange_eq (by simp), by rwa [u32FromLe_le32]⟩

theorem u64At_of_bytesAt {fallback v : UInt64} (h : BytesAt data pos (le64 v)) :
    u64At fallback data pos (pos + 8) = v := by
  rw [u64At, h.getRange_eq (by simp), Option.map_some, Option.getD_some, u64FromLe_le64]

theorem exists_le32_at (data : Bytes) (pos : Nat) (h : pos + 4 ≤ data.length) :
    ∃ v, BytesAt data pos (le32 v) :=
  ⟨u32At 0 data pos (pos + 4), bytesAt_u32At h⟩

theorem exists_le64_at (data : Bytes) (pos : Nat) (h : pos + 8 ≤ data.length) :
    ∃ v, BytesAt data pos (le64 v) := by
  obtain ⟨bytes, hbytes, hlen⟩ := exists_bytesAt 8 h
  exact ⟨u64FromLe bytes, by rwa [le64_u64FromLe hlen]⟩

theorem exists_array_at (data : Bytes) (pos n : Nat) (h : pos + n ≤ data.length) :
    ∃ v : Vector UInt8 n, BytesAt data pos v.toList := by
  obtain ⟨bytes, hbytes, hlen⟩ := exists_bytesAt n h
  exact ⟨⟨bytes.toArray, by simpa using hlen⟩, hbytes⟩

/-- A length and the bytes it counts stand together once the bytes do: the length lies before them, so
it was read in range. -/
theorem bytesAt_lp_iff (fallback : UInt32) {bytes : Bytes} :
    bytes.length < 2 ^ 32 ∧ BytesAt data pos (lp bytes) ↔
      BytesAt data (pos + 4) bytes ∧
        bytes.length = (u32At fallback data pos (pos + 4)).toNat := by
  rw [lp, bytesAt_append, length_le32]
  constructor
  · rintro ⟨hlt, hword, hbytes⟩
    refine ⟨hbytes, ?_⟩
    rw [u32At_of_bytesAt hword, toNat_ofNat_length hlt]
  · rintro ⟨hbytes, hlen⟩
    have hle := hbytes.le
    refine ⟨hlen ▸ UInt32.toNat_lt _, ?_, hbytes⟩
    rw [hlen, UInt32.ofNat_toNat]
    exact bytesAt_u32At (by omega)

end WordAt

end DpapiForensic
