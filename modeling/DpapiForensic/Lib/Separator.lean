import Mathlib.Data.List.Infix

/-!
# Text cut at separators

Fields joined by a fixed word come back apart when the word does not occur inside them. Occurrences
that overlap do not get in the way as long as no part at the end of the word is also at its start:
then any two occurrences are disjoint, and two ways of cutting one text are a cut at the same place or
cuts at places that leave the word whole on one side.
-/

namespace DpapiForensic

variable {α : Type} {w : List α}

/-- No part at the end of the word is also at its start, short of the word itself. -/
def Unbordered (w : List α) : Prop := ∀ n < w.length, 0 < n → w.take n ≠ w.drop (w.length - n)

instance [DecidableEq α] (w : List α) : Decidable (Unbordered w) :=
  inferInstanceAs (Decidable (∀ n < w.length, 0 < n → w.take n ≠ w.drop (w.length - n)))

/-! ### One separator -/

section Cuts

variable {a a' s s' : List α}

/-- A word cut in two by another occurrence of it is cut at an end. -/
theorem Unbordered.eq_nil_of_overlap (hw : Unbordered w) {c d : List α} (hcut : w = c ++ d)
    (hover : w ++ s' = d ++ s) (hc : c ≠ []) : d = [] := by
  by_contra hd
  have hlen : w.length = c.length + d.length := by rw [hcut, List.length_append]
  have hcpos := List.length_pos_iff.mpr hc
  have hdpos := List.length_pos_iff.mpr hd
  have hstart : w.take d.length = d := by
    have htake := congrArg (List.take d.length) hover
    rwa [List.take_append_of_le_length (by omega), List.take_left] at htake
  have hend : w.drop (w.length - d.length) = d := by
    rw [hlen, Nat.add_sub_cancel, hcut, List.drop_left]
  exact hw d.length (by omega) hdpos (hstart.trans hend.symm)

/-- The word occurs again inside whichever side is the longer. -/
theorem Unbordered.cut_of_append (hw : Unbordered w) {c : List α} (h : w ++ s = c ++ (w ++ s')) :
    (c = [] ∧ s = s') ∨ ∃ z, c = w ++ z ∧ s = z ++ w ++ s' := by
  rcases List.append_eq_append_iff.mp h with ⟨z, hc, hs⟩ | ⟨d, hcut, hover⟩
  · exact Or.inr ⟨z, hc, by rw [hs, List.append_assoc]⟩
  · rcases List.eq_nil_or_concat c with rfl | ⟨_, _, hne⟩
    · exact Or.inl ⟨rfl, List.append_cancel_left h⟩
    · obtain rfl := hw.eq_nil_of_overlap hcut hover (by rw [hne]; simp)
      rw [List.append_nil] at hcut
      rw [List.nil_append] at hover
      refine Or.inr ⟨[], by rw [hcut, List.append_nil], ?_⟩
      rw [List.nil_append, hover]

/-- **Two cuts of one text.** -/
theorem Unbordered.two_cuts (hw : Unbordered w) (h : a ++ w ++ s = a' ++ w ++ s') :
    (a = a' ∧ s = s') ∨ (∃ z, a' = a ++ w ++ z ∧ s = z ++ w ++ s') ∨
      ∃ z, a = a' ++ w ++ z ∧ s' = z ++ w ++ s := by
  rw [List.append_assoc, List.append_assoc] at h
  rcases List.append_eq_append_iff.mp h with ⟨c, hc, hrest⟩ | ⟨c, hc, hrest⟩
  · rcases hw.cut_of_append hrest with ⟨rfl, hs⟩ | ⟨z, rfl, hs⟩
    · exact Or.inl ⟨by rw [hc, List.append_nil], hs⟩
    · exact Or.inr (Or.inl ⟨z, by rw [hc, List.append_assoc], hs⟩)
  · rcases hw.cut_of_append hrest with ⟨rfl, hs⟩ | ⟨z, rfl, hs⟩
    · exact Or.inl ⟨by rw [hc, List.append_nil], hs.symm⟩
    · exact Or.inr (Or.inr ⟨z, by rw [hc, List.append_assoc], hs⟩)

/-- Two texts cut at the first occurrence of a letter. -/
theorem append_cons_inj {c : α} (ha : c ∉ a) (ha' : c ∉ a') (h : a ++ c :: s = a' ++ c :: s') :
    a = a' ∧ s = s' := by
  have hc : Unbordered [c] := by
    intro n hn hpos
    rw [List.length_singleton] at hn
    omega
  rcases hc.two_cuts (by simpa using h) with hcut | ⟨z, hz, -⟩ | ⟨z, hz, -⟩
  · exact hcut
  · exact absurd (by simp [hz]) ha'
  · exact absurd (by simp [hz]) ha

end Cuts

/-! ### Openings -/

/-- Of words none of which starts another, a text opens with one at most. -/
theorem opening_unique {ι : Type} {opening : ι → List α}
    (hfree : ∀ i j, opening i <+: opening j → i = j) {i j : ι} {s : List α} (hi : opening i <+: s)
    (hj : opening j <+: s) : i = j := by
  rcases List.prefix_or_prefix_of_prefix hi hj with h | h
  · exact hfree i j h
  · exact (hfree j i h).symm

/-! ### Lines -/

section Lines

variable {sep : α} {rows rows' : List (List α)}

/-- The rows in a row, each with its terminator. -/
def terminated (sep : α) (rows : List (List α)) : List α := rows.flatMap (· ++ [sep])

theorem terminated_inj (h : ∀ row ∈ rows, sep ∉ row) (h' : ∀ row ∈ rows', sep ∉ row)
    (heq : terminated sep rows = terminated sep rows') : rows = rows' := by
  have hsep : Unbordered [sep] := by
    intro n hn hpos
    rw [List.length_singleton] at hn
    omega
  induction rows generalizing rows' with
  | nil =>
      cases rows' with
      | nil => rfl
      | cons row' rows' => simp [terminated] at heq
  | cons row rows ih =>
      cases rows' with
      | nil => simp [terminated] at heq
      | cons row' rows' =>
          rw [terminated, terminated, List.flatMap_cons, List.flatMap_cons] at heq
          rcases hsep.two_cuts heq with ⟨hrow, hrest⟩ | ⟨z, hrow, -⟩ | ⟨z, hrow, -⟩
          · have hrows := ih (fun r hr => h r (List.mem_cons_of_mem _ hr))
              (fun r hr => h' r (List.mem_cons_of_mem _ hr)) hrest
            rw [hrow, hrows]
          · exact absurd (by simp [hrow]) (h' row' List.mem_cons_self)
          · exact absurd (by simp [hrow]) (h row List.mem_cons_self)

theorem count_terminated_eq_length_iff [DecidableEq α] :
    (terminated sep rows).count sep = rows.length ↔ ∀ row ∈ rows, sep ∉ row := by
  have hcount : (terminated sep rows).count sep = rows.length + (rows.map (·.count sep)).sum := by
    induction rows with
    | nil => rfl
    | cons row rows ih =>
        rw [terminated, List.flatMap_cons, List.count_append, ← terminated, ih, List.count_append,
          List.count_singleton_self, List.map_cons, List.sum_cons, List.length_cons]
        omega
  rw [hcount, Nat.add_eq_left, List.sum_eq_zero_iff_forall_eq_nat]
  simp only [List.forall_mem_map, List.count_eq_zero]

end Lines

/-! ### Three fields -/

section Fields

variable {w' : List α} {x y z : List α}

/-- The fields are the only ones that, joined by the two words, give their text. -/
def FieldsUnique (w w' x y z : List α) : Prop :=
  ∀ x' y' z', x' ++ w ++ (y' ++ w' ++ z') = x ++ w ++ (y ++ w' ++ z) → x' = x ∧ y' = y ∧ z' = z

theorem fieldsUnique_of_not_infix (hw : Unbordered w) (hw' : Unbordered w') (hx : ¬w <:+: x)
    (hy : ¬w <:+: y) (hy' : ¬w' <:+: y) (hz : ¬w' <:+: z) : FieldsUnique w w' x y z := by
  intro x' y' z' h
  rcases hw.two_cuts h with ⟨hxx, hrest⟩ | ⟨m, hxx, hrest⟩ | ⟨m, hxx, hrest⟩
  · -- the first word is where it should be
    rcases hw'.two_cuts hrest with ⟨hyy, hzz⟩ | ⟨m, hyy, -⟩ | ⟨m, -, hzz⟩
    · exact ⟨hxx, hyy, hzz⟩
    · exact absurd ⟨y', m, hyy.symm⟩ hy'
    · exact absurd ⟨m, z', hzz.symm⟩ hz
  · exact absurd ⟨x', m, hxx.symm⟩ hx
  · -- it is further on: inside the second field, or else the second word is inside the third
    have hrest' : m ++ w ++ y' ++ w' ++ z' = y ++ w' ++ z := by
      rw [hrest]
      simp only [List.append_assoc]
    rcases hw'.two_cuts hrest' with ⟨hyy, -⟩ | ⟨t, hyy, -⟩ | ⟨t, -, hzz⟩
    · exact absurd ⟨m, y', hyy⟩ hy
    · exact absurd ⟨m, y' ++ w' ++ t, by rw [hyy]; simp only [List.append_assoc]⟩ hy
    · exact absurd ⟨t, z', hzz.symm⟩ hz

/-- **When joined fields can be told apart.** -/
theorem fieldsUnique_iff (hw : Unbordered w) (hw' : Unbordered w') (hne : w ≠ []) (hne' : w' ≠ []) :
    FieldsUnique w w' x y z ↔ ¬w <:+: x ∧ ¬w <:+: y ∧ ¬w' <:+: y ∧ ¬w' <:+: z := by
  constructor
  · intro h
    have hlonger : ∀ {v : List α}, v ≠ [] → ∀ l m, l ++ v ++ m ≠ l := by
      intro v hv l m heq
      rw [List.append_assoc, List.append_right_eq_self] at heq
      exact hv (List.append_eq_nil_iff.mp heq).1
    -- a word inside a field is a second place to cut, with less in front of it or more
    refine ⟨?_, ?_, ?_, ?_⟩
    · rintro ⟨front, back, rfl⟩
      obtain ⟨hcut, -, -⟩ := h front (back ++ w ++ y) z (by simp only [List.append_assoc])
      exact hlonger hne front back hcut.symm
    · rintro ⟨front, back, rfl⟩
      obtain ⟨hcut, -, -⟩ := h (x ++ w ++ front) back z (by simp only [List.append_assoc])
      exact hlonger hne x front hcut
    · rintro ⟨front, back, rfl⟩
      obtain ⟨-, hcut, -⟩ := h x front (back ++ w' ++ z) (by simp only [List.append_assoc])
      exact hlonger hne' front back hcut.symm
    · rintro ⟨front, back, rfl⟩
      obtain ⟨-, hcut, -⟩ := h x (y ++ w' ++ front) back (by simp only [List.append_assoc])
      exact hlonger hne' y front hcut
  · rintro ⟨hx, hy, hy', hz⟩
    exact fieldsUnique_of_not_infix hw hw' hx hy hy' hz

end Fields

end DpapiForensic
