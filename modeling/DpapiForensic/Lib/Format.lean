import DpapiForensic.Lib.Bytes

/-!
# Formats and the parsers that accept exactly them

A format is a type of components and their serialisation. A reader that reads past the end without
failing may still be exact: what counts is that whenever it succeeds, a whole serialisation stands at
its cursor. Exact readers compose, and a parser made of them refuses every serialisation that was cut
short, because a format that delimits itself leaves no room for a shorter one.
-/

namespace DpapiForensic

variable {ε α β ω φ : Type}

/-- No input starts with two serialisations. -/
def SelfDelimiting (bytes : ω → Bytes) : Prop :=
  ∀ ⦃w w' : ω⦄ ⦃rest rest' : Bytes⦄, bytes w ++ rest = bytes w' ++ rest' → w = w' ∧ rest = rest'

section SelfDelimiting

variable {bytes : ω → Bytes} {w w' : ω} {data cut : Bytes} {pos : Nat}

theorem SelfDelimiting.not_bytesAt_cut (h : SelfDelimiting bytes) (hcut : cut <+: bytes w)
    (hne : cut ≠ bytes w) : ¬BytesAt cut 0 (bytes w') := by
  intro hw'
  obtain ⟨rest', rfl⟩ := bytesAt_zero_iff.mp hw'
  obtain ⟨rest, hrest⟩ := hcut
  have hsplit : bytes w ++ [] = bytes w' ++ (rest' ++ rest) := by
    rw [List.append_nil, ← hrest, List.append_assoc]
  obtain ⟨rfl, hnil⟩ := h hsplit
  obtain ⟨rfl, rfl⟩ := List.append_eq_nil_iff.mp hnil.symm
  exact hne (List.append_nil _)

end SelfDelimiting

/-! ### Readers -/

abbrev Reader (ε α : Type) := Bytes → Nat → Outcome ε (α × Nat)

/-- The reader succeeds exactly on a serialisation that stands at the cursor, and moves past it. -/
structure Reader.Exact (read : Reader ε α) (bytes : ω → Bytes) (value : ω → α) : Prop where
  ok_iff : ∀ {data : Bytes} {pos : Nat}, IsSlice data → pos < 2 ^ 63 → ∀ a next,
    read data pos = .ok (a, next) ↔
      ∃ w, BytesAt data pos (bytes w) ∧ a = value w ∧ next = pos + (bytes w).length
  ne_panic : ∀ {data : Bytes} {pos : Nat}, IsSlice data → pos < 2 ^ 63 → read data pos ≠ .panic

namespace Reader.Exact

variable {read : Reader ε α} {bytes : ω → Bytes} {value : ω → α} {data : Bytes} {pos : Nat}
  {f : α × Nat → Outcome ε β}

theorem of_bytesAt (h : read.Exact bytes value) (hdata : IsSlice data) {w : ω}
    (hw : BytesAt data pos (bytes w)) : read data pos = .ok (value w, pos + (bytes w).length) := by
  have hle := hw.le
  unfold IsSlice at hdata
  exact (h.ok_iff hdata (by omega) _ _).mpr ⟨w, hw, rfl, rfl⟩

theorem bind_eq_ok_iff (h : read.Exact bytes value) (hdata : IsSlice data) (hpos : pos < 2 ^ 63)
    {b : β} :
    (read data pos >>= f) = .ok b ↔
      ∃ w, BytesAt data pos (bytes w) ∧ f (value w, pos + (bytes w).length) = .ok b := by
  rw [Outcome.bind_eq_ok_iff]
  constructor
  · rintro ⟨⟨a, next⟩, hread, hf⟩
    obtain ⟨w, hw, rfl, rfl⟩ := (h.ok_iff hdata hpos a next).mp hread
    exact ⟨w, hw, hf⟩
  · rintro ⟨w, hw, hf⟩
    exact ⟨_, h.of_bytesAt hdata hw, hf⟩

theorem bind_ne_panic (h : read.Exact bytes value) (hdata : IsSlice data) (hpos : pos < 2 ^ 63)
    (hf : ∀ a next, next ≤ data.length → f (a, next) ≠ .panic) : (read data pos >>= f) ≠ .panic := by
  refine Outcome.bind_ne_panic (h.ne_panic hdata hpos) fun ⟨a, next⟩ hread => ?_
  obtain ⟨w, hw, -, rfl⟩ := (h.ok_iff hdata hpos a next).mp hread
  exact hf a _ hw.le

end Reader.Exact

/-! ### Parsers -/

/-- The parser, also given the value that reads past the end fall back to, accepts exactly the inputs
that start with a serialisation, and returns what that holds. -/
structure ParsesExactly (parse : Bytes → Outcome ε α) (parseWith : φ → Bytes → Outcome ε α)
    (bytes : ω → Bytes) (value : ω → α) : Prop where
  /-- Whatever follows the serialisation. -/
  accepts : ∀ (data : Slice) (a : α),
    parse data.val = .ok a ↔ ∃ w rest, data.val = bytes w ++ rest ∧ a = value w
  ignores_fallback : ∀ (data : Slice) (fallback : φ) (a : α),
    parseWith fallback data.val = .ok a ↔ parse data.val = .ok a
  rejects_cut : ∀ (w : ω) (cut : Bytes), cut <+: bytes w → cut ≠ bytes w →
    ∃ e, parse cut = .err e

theorem ParsesExactly.of_iff {parse : Bytes → Outcome ε α} {parseWith : φ → Bytes → Outcome ε α}
    {bytes : ω → Bytes} {value : ω → α} (hbytes : SelfDelimiting bytes)
    (hslice : ∀ w, IsSlice (bytes w)) (fallback : φ) (hparse : parse = parseWith fallback)
    (hok : ∀ fallback data, IsSlice data → ∀ a,
      parseWith fallback data = .ok a ↔ ∃ w, BytesAt data 0 (bytes w) ∧ a = value w)
    (hpanic : ∀ data, IsSlice data → parseWith fallback data ≠ .panic) :
    ParsesExactly parse parseWith bytes value := by
  subst hparse
  refine ⟨fun data a => ?_, fun data fallback' a => ?_, fun w cut hcut hne => ?_⟩
  · simp only [hok fallback data.val data.property, bytesAt_zero_iff, exists_and_right]
  · rw [hok fallback' data.val data.property, hok fallback data.val data.property]
  · have hdata : IsSlice cut := lt_of_le_of_lt hcut.length_le (hslice w)
    refine Outcome.exists_err_of_ne (fun a ha => ?_) (hpanic cut hdata)
    obtain ⟨w', hw', -⟩ := (hok fallback cut hdata a).mp ha
    exact hbytes.not_bytesAt_cut hcut hne hw'

end DpapiForensic
