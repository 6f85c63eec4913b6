import DpapiForensic.Lib.Format

/-!
# Serialisations that were cut short

What a reader can tell of an input that stops in the middle of a serialisation. A read that falls back
past the end moves its cursor all the same, and by the right amount, so the cursor still says where in
the whole serialisation the reader stands. The next checked read fails there, and what it asks for lies
between what the input holds and what the whole would have held.
-/

namespace DpapiForensic

variable {ε α β ω : Type}

/-! ### The cursor in a cut input -/

/-- The data stops before the bytes that begin at the cursor end, at `whole`. The cursor may be past the
end of the data. -/
structure CutAt (data bytes : Bytes) (pos whole : Nat) : Prop where
  starts : data.drop pos <+: bytes
  ends : pos + bytes.length = whole
  short : data.length < whole

section CutAt

variable {data bytes bytes' : Bytes} {pos whole : Nat} {fallback v : UInt32}

theorem cutAt_zero (hcut : data <+: bytes) (hne : data ≠ bytes) : CutAt data bytes 0 bytes.length where
  starts := hcut
  ends := Nat.zero_add _
  short := lt_of_le_of_ne hcut.length_le fun hlen => hne (hcut.eq_of_length hlen)

theorem CutAt.next (h : CutAt data (bytes ++ bytes') pos whole) :
    CutAt data bytes' (pos + bytes.length) whole where
  starts := by
    obtain ⟨rest, hrest⟩ := h.starts
    refine ⟨rest.drop (bytes.length - (data.drop pos).length), ?_⟩
    rw [← List.drop_drop, ← List.drop_append, hrest, List.drop_left]
  ends := by
    have hends := h.ends
    rw [List.length_append] at hends
    omega
  short := h.short

theorem CutAt.bytesAt (h : CutAt data (bytes ++ bytes') pos whole)
    (hle : pos + bytes.length ≤ data.length) : BytesAt data pos bytes := by
  obtain ⟨rest, hrest⟩ := h.starts
  refine bytesAt_iff.mpr ⟨hle, bytes'.take (data.length - pos - bytes.length), ?_⟩
  have htake := List.prefix_iff_eq_take.mp h.starts
  rw [List.length_drop, List.take_append] at htake
  rw [htake, List.take_of_length_le (by omega)]

/-- No serialisation is cut behind its end. -/
theorem CutAt.lt_length (h : CutAt data [] pos whole) : data.length < pos := by
  have hends := h.ends
  rw [List.length_nil, Nat.add_zero] at hends
  exact hends ▸ h.short

theorem CutAt.u32At_eq (h : CutAt data (le32 v ++ bytes') pos whole) (hle : pos + 4 ≤ data.length) :
    u32At fallback data pos (pos + 4) = v :=
  u32At_of_bytesAt (h.bytesAt (by rwa [length_le32]))

theorem u32At_of_lt (h : data.length < pos + 4) : u32At fallback data pos (pos + 4) = fallback := by
  rw [u32At, getRange_eq_none_iff.mpr (Or.inr h), Option.map_none, Option.getD_none]

/-- A length-prefixed field in a cut input: it is there, or the length that is read for it, `0` if its
own four bytes are missing, ends past the data and within the field. -/
theorem CutAt.lp_cases {field : Field} (h : CutAt data (lp field.val ++ bytes') pos whole) :
    BytesAt data pos (lp field.val) ∨
      data.length < pos + 4 + (u32At 0 data pos (pos + 4)).toNat ∧
        pos + 4 + (u32At 0 data pos (pos + 4)).toNat ≤ whole := by
  have hends := h.ends
  rw [List.length_append, length_lp] at hends
  by_cases hthere : pos + (lp field.val).length ≤ data.length
  · exact Or.inl (h.bytesAt hthere)
  · rw [length_lp] at hthere
    apply Or.inr
    by_cases hword : pos + 4 ≤ data.length
    · have hlp := h
      rw [lp, List.append_assoc] at hlp
      rw [hlp.u32At_eq hword, toNat_ofNat_length field.property]
      omega
    · rw [u32At_of_lt (by omega), UInt32.toNat_zero]
      omega

end CutAt

/-! ### Asking for more -/

namespace Outcome

variable {tooShort : Nat → Nat → ε} {x : Outcome ε α} {f : α → Outcome ε β} {len whole : Nat}

/-- The call ends in the error that `len` bytes are too few. It asks for more, and for no more than the
whole. -/
def AsksWithin (tooShort : Nat → Nat → ε) (len whole : Nat) (x : Outcome ε α) : Prop :=
  ∃ needed, x = .err (tooShort needed len) ∧ len < needed ∧ needed ≤ whole

theorem AsksWithin.bind (h : AsksWithin tooShort len whole x) :
    AsksWithin tooShort len whole (x >>= f) := by
  obtain ⟨needed, rfl, hlt, hle⟩ := h
  exact ⟨needed, rfl, hlt, hle⟩

theorem asksWithin_failIf {condition : Prop} [Decidable condition] {needed : Nat} (h : condition)
    (hlt : len < needed) (hle : needed ≤ whole) :
    AsksWithin tooShort len whole (failIf condition (tooShort needed len)) :=
  ⟨needed, failIf_of h, hlt, hle⟩

theorem asksWithin_getRange {data : Bytes} {start stop : Nat} (hlt : data.length < stop)
    (hle : stop ≤ whole) :
    AsksWithin tooShort data.length whole
      (okOr (getRange data start stop) (tooShort stop data.length)) := by
  refine ⟨stop, ?_, hlt, hle⟩
  rw [getRange_eq_none_iff.mpr (Or.inr hlt), okOr_none]

theorem AsksWithin.mapErr {ε' : Type} (g : ε → ε') (h : AsksWithin tooShort len whole x) :
    AsksWithin (fun needed got => g (tooShort needed got)) len whole (Outcome.mapErr g x) := by
  obtain ⟨needed, rfl, hlt, hle⟩ := h
  exact ⟨needed, rfl, hlt, hle⟩

end Outcome

/-! ### Readers and parsers -/

/-- At a serialisation that was cut short the reader moves past what is all there, and asks for more of
what is not. -/
def Reader.ReportsCuts (tooShort : Nat → Nat → ε) (read : Reader ε α) (bytes : ω → Bytes)
    (value : ω → α) : Prop :=
  ∀ {data rest : Bytes} {pos whole : Nat} (w : ω), IsSlice data → whole < 2 ^ 63 →
    CutAt data (bytes w ++ rest) pos whole →
    pos + (bytes w).length ≤ data.length ∧ read data pos = .ok (value w, pos + (bytes w).length) ∨
      (read data pos).AsksWithin tooShort data.length whole

theorem Reader.ReportsCuts.bind {tooShort : Nat → Nat → ε} {read : Reader ε α} {bytes : ω → Bytes}
    {value : ω → α} (h : read.ReportsCuts tooShort bytes value) {data rest : Bytes} {pos whole : Nat}
    {w : ω} {f : α × Nat → Outcome ε β} (hdata : IsSlice data) (hwhole : whole < 2 ^ 63)
    (hcut : CutAt data (bytes w ++ rest) pos whole)
    (hf : pos + (bytes w).length ≤ data.length → CutAt data rest (pos + (bytes w).length) whole →
      (f (value w, pos + (bytes w).length)).AsksWithin tooShort data.length whole) :
    (read data pos >>= f).AsksWithin tooShort data.length whole := by
  rcases h w hdata hwhole hcut with ⟨hle, hread⟩ | hasks
  · rw [hread, Outcome.ok_bind]
    exact hf hle hcut.next
  · exact hasks.bind

/-- The parser says of every serialisation that was cut short how much it would take to read on. -/
def ReportsCuts (tooShort : Nat → Nat → ε) (parse : Bytes → Outcome ε α) (bytes : ω → Bytes) : Prop :=
  ∀ (w : ω) (cut : Bytes), cut <+: bytes w → cut ≠ bytes w →
    (parse cut).AsksWithin tooShort cut.length (bytes w).length

theorem ReportsCuts.of_cutAt {tooShort : Nat → Nat → ε} {parse : Bytes → Outcome ε α}
    {bytes : ω → Bytes} (hslice : ∀ w, IsSlice (bytes w))
    (h : ∀ (w : ω) {cut : Bytes} {whole : Nat}, IsSlice cut → whole < 2 ^ 63 →
      CutAt cut (bytes w) 0 whole → (parse cut).AsksWithin tooShort cut.length whole) :
    ReportsCuts tooShort parse bytes := fun w _ hprefix hne =>
  h w (lt_of_le_of_lt hprefix.length_le (hslice w)) (hslice w) (cutAt_zero hprefix hne)

end DpapiForensic
