import DpapiForensic.Wifi

/-!
# The key material of a profile

What the scan finds is the first `keyMaterial` element. A tag cannot overlap what stands before it,
because `<` occurs in a tag only at its start.
-/

namespace DpapiForensic

open Wifi

/-! ### The first occurrence of a tag -/

section Find

variable {c : Char} {tail pre rest : List Char}

/-- A pattern whose first character does not come back cannot start in front of itself and reach into
itself. -/
theorem not_starts_of_overlap (hc : c ∉ tail) (hpre : pre ≠ []) (hnot : ¬c :: tail <+: pre) :
    ¬c :: tail <+: pre ++ (c :: tail ++ rest) := by
  rintro ⟨after, hafter⟩
  rcases List.append_eq_append_iff.mp hafter with ⟨as, hsplit, -⟩ | ⟨bs, hsplit, hrest⟩
  · exact hnot ⟨as, hsplit.symm⟩
  · cases bs with
    | nil => exact hnot ⟨[], by rw [hsplit, List.append_nil, List.append_nil]⟩
    | cons b bs =>
        obtain ⟨d, pre', rfl⟩ := List.exists_cons_of_ne_nil hpre
        have hb : c = b := (List.cons.inj hrest).1
        have htail : tail = pre' ++ b :: bs := (List.cons.inj hsplit).2
        apply hc
        rw [htail, hb]
        simp

theorem findText_append (hc : c ∉ tail) (hnot : ¬c :: tail <:+: pre) :
    findText (c :: tail) (pre ++ (c :: tail ++ rest)) = some pre.length := by
  induction pre with
  | nil =>
      rw [List.nil_append, List.cons_append, findText, if_pos ⟨rest, rfl⟩]
      rfl
  | cons d pre ih =>
      have hstart : ¬c :: tail <+: d :: pre ++ (c :: tail ++ rest) :=
        not_starts_of_overlap hc (List.cons_ne_nil d pre) fun h => hnot h.isInfix
      have hih := ih fun h => hnot (h.trans (List.suffix_cons d pre).isInfix)
      rw [List.cons_append] at hstart ⊢
      rw [findText, if_neg hstart, hih]
      rfl

/-- What the search finds starts with the pattern, and nothing before it holds one. -/
theorem findText_eq_some_iff (hc : c ∉ tail) {text : List Char} {n : Nat} :
    findText (c :: tail) text = some n ↔
      ∃ pre rest, text = pre ++ (c :: tail ++ rest) ∧ ¬c :: tail <:+: pre ∧ n = pre.length := by
  constructor
  · intro h
    induction text generalizing n with
    | nil => simp [findText] at h
    | cons d text ih =>
        rw [findText] at h
        by_cases hstart : c :: tail <+: d :: text
        · rw [if_pos hstart, Option.some.injEq] at h
          obtain ⟨rest, hrest⟩ := hstart
          exact ⟨[], rest, hrest.symm, by simp, h.symm⟩
        · rw [if_neg hstart, Option.map_eq_some_iff] at h
          obtain ⟨m, hm, rfl⟩ := h
          obtain ⟨pre, rest, rfl, hnot, rfl⟩ := ih hm
          refine ⟨d :: pre, rest, rfl, ?_, rfl⟩
          rw [List.infix_cons_iff, not_or]
          exact ⟨fun h => hstart (h.trans ⟨c :: tail ++ rest, rfl⟩), hnot⟩
  · rintro ⟨pre, rest, rfl, hnot, rfl⟩
    exact findText_append hc hnot

end Find

/-! ### The key material of a profile -/

section Extract

variable {pre ws digits ws' post : List Char}

theorem rdropWhile_append_of_pos {l : List Char} (hws' : ∀ c ∈ ws', isWhitespace c) :
    (l ++ ws').rdropWhile isWhitespace = l.rdropWhile isWhitespace := by
  have hreverse : ∀ c ∈ ws'.reverse, isWhitespace c := fun c hc => hws' c (List.mem_reverse.mp hc)
  rw [List.rdropWhile, List.reverse_append, List.dropWhile_append_of_pos hreverse, List.rdropWhile]

theorem trim_append (hws : ∀ c ∈ ws, isWhitespace c) (hdigits : ∀ c ∈ digits, ¬isWhitespace c)
    (hws' : ∀ c ∈ ws', isWhitespace c) : trim (ws ++ (digits ++ ws')) = digits := by
  rw [trim, List.dropWhile_append_of_pos hws]
  cases digits with
  | nil =>
      rw [List.nil_append, List.dropWhile_eq_nil_iff.mpr hws', List.rdropWhile_nil]
  | cons d digits =>
      have hd : ¬isWhitespace d := hdigits d List.mem_cons_self
      rw [List.cons_append, List.dropWhile_cons_of_neg hd, ← List.cons_append,
        rdropWhile_append_of_pos hws', List.rdropWhile_eq_self_iff]
      intro hne
      exact hdigits _ (List.getLast_mem hne)

/-- The text between the first opening tag and the first closing tag after it. -/
def FirstElement (profile body : List Char) : Prop :=
  ∃ pre post, profile = pre ++ (openTag ++ (body ++ (closeTag ++ post))) ∧
    ¬openTag <:+: pre ∧ ¬closeTag <:+: body

theorem extractKeyMaterial_eq_some_iff {profile keyMaterial : String} :
    extractKeyMaterial profile = some keyMaterial ↔
      ∃ body, FirstElement profile.toList body ∧ keyMaterial = String.ofList (trim body) := by
  have hopen : ∀ {text : List Char} {n : Nat}, findText openTag text = some n ↔
      ∃ pre rest, text = pre ++ (openTag ++ rest) ∧ ¬openTag <:+: pre ∧ n = pre.length :=
    findText_eq_some_iff (by decide)
  have hclose : ∀ {text : List Char} {n : Nat}, findText closeTag text = some n ↔
      ∃ pre rest, text = pre ++ (closeTag ++ rest) ∧ ¬closeTag <:+: pre ∧ n = pre.length :=
    findText_eq_some_iff (by decide)
  have hskip : ∀ pre rest : List Char,
      (pre ++ (openTag ++ rest)).drop (pre.length + openTag.length) = rest := by
    intro pre rest
    rw [← List.append_assoc, ← List.length_append, List.drop_left]
  simp only [extractKeyMaterial, Option.bind_eq_bind, Option.bind_eq_some_iff, Option.pure_def,
    Option.some.injEq]
  constructor
  · rintro ⟨start, hstart, stop, hstop, rfl⟩
    obtain ⟨pre, rest, hprofile, hpre, rfl⟩ := hopen.mp hstart
    rw [hprofile, hskip] at hstop
    obtain ⟨body, post, rfl, hbody, rfl⟩ := hclose.mp hstop
    refine ⟨body, ⟨pre, post, hprofile, hpre, hbody⟩, ?_⟩
    rw [hprofile, hskip, List.take_left]
  · rintro ⟨body, ⟨pre, post, hprofile, hpre, hbody⟩, rfl⟩
    refine ⟨pre.length, hopen.mpr ⟨pre, _, hprofile, hpre, rfl⟩, body.length, ?_, ?_⟩
    · rw [hprofile, hskip]
      exact hclose.mpr ⟨body, post, rfl, hbody, rfl⟩
    · rw [hprofile, hskip, List.take_left]

/-- The position that is summed, in bytes, is where the text behind the tag starts. -/
theorem extractKeyMaterial_of_start (env : Env) {profile : String} (hslice : IsSlice (strBytes profile)) :
    ∃ start, keyMaterialStart env profile = .ok start ∧
      extractKeyMaterial profile = (do
        let start ← start
        let rest ← fromUtf8 ((strBytes profile).drop start)
        let stop ← findText closeTag rest
        pure (String.ofList (trim (rest.take stop)))) := by
  cases hfind : findText openTag profile.toList with
  | none =>
      refine ⟨none, ?_, ?_⟩
      · rw [keyMaterialStart, hfind]
        rfl
      · rw [extractKeyMaterial, hfind]
        rfl
  | some n =>
      have hopen : openTag = '<' :: "keyMaterial>".toList := by decide
      have hsplit := hfind
      rw [hopen, findText_eq_some_iff (by decide), ← hopen] at hsplit
      obtain ⟨pre, rest, hprofile, -, rfl⟩ := hsplit
      have hbytes : strBytes profile = pre.flatMap String.utf8EncodeChar ++
          (openTag.flatMap String.utf8EncodeChar ++ rest.flatMap String.utf8EncodeChar) := by
        rw [strBytes, hprofile, List.flatMap_append, List.flatMap_append]
      have htag : (openTag.flatMap String.utf8EncodeChar).length = openTag.length := by decide
      have hsum : (pre.flatMap String.utf8EncodeChar).length + openTag.length < 2 ^ 64 := by
        rw [IsSlice, hbytes, List.length_append, List.length_append, htag] at hslice
        omega
      have hrest : fromUtf8 ((strBytes profile).drop
          ((pre.flatMap String.utf8EncodeChar).length + openTag.length)) = some rest := by
        rw [hbytes, ← List.append_assoc, ← htag, ← List.length_append, List.drop_left,
          fromUtf8_eq_some_iff, strBytes_ofList]
      refine ⟨some ((pre.flatMap String.utf8EncodeChar).length + openTag.length), ?_, ?_⟩
      · simp only [keyMaterialStart, hfind]
        rw [hprofile, List.take_left, usizeAdd_of_lt hsum]
        rfl
      · have hdrop : profile.toList.drop (pre.length + openTag.length) = rest := by
          rw [hprofile, ← List.append_assoc, ← List.length_append, List.drop_left]
        simp only [extractKeyMaterial, hfind, Option.bind_eq_bind, Option.bind_some, hdrop, hrest]

end Extract

end DpapiForensic
