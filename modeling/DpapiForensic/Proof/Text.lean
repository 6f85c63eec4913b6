import DpapiForensic.Layout.Text
import DpapiForensic.MasterKey

/-!
# Encoding a text and reading it back

The library encodes text in two places, the password and the SID, and decodes it everywhere else. The
SID goes under the MAC with a NUL after it, which the decoder trims off again, so nothing is lost on
the way to the pre-key.
-/

namespace DpapiForensic

theorem encodeUtf16_append (cs cs' : List Char) :
    encodeUtf16 (cs ++ cs') = encodeUtf16 cs ++ encodeUtf16 cs' := by
  simp only [encodeUtf16, List.flatMap_append]

theorem utf16leBytes_append (s s' : String) :
    utf16leBytes (s ++ s') = utf16leBytes s ++ utf16leBytes s' := by
  simp only [utf16leBytes, String.toList_append, encodeUtf16_append, List.flatMap_append]

theorem utf16leBytes_injective : Function.Injective utf16leBytes := by
  intro s s' h
  have hdecode := congrArg (fun bytes => fromUtf16Lossy (unitsLe bytes)) h
  simp only [fromUtf16Lossy_unitsLe_utf16leBytes] at hdecode
  exact String.toList_inj.mp hdecode

theorem trimEndNul_append_nul (s : String) : trimEndNul (s ++ "\x00") = trimEndNul s := by
  have hnul : (s ++ "\x00").toList = s.toList ++ [Char.ofNat 0] := by
    rw [String.toList_append]
    rfl
  rw [trimEndNul, hnul, List.rdropWhile_concat, if_pos (by decide), trimEndNul]

/-- The form under the MAC is the encoding of a text too, of the SID and a NUL. -/
theorem utf16leWithNul_eq (s : String) : utf16leWithNul s = utf16leBytes (s ++ "\x00") := by
  rw [utf16leBytes_append]
  rfl

theorem decodeUtf16le_utf16leWithNul (s : String) :
    decodeUtf16le (utf16leWithNul s) = trimEndNul s := by
  rw [utf16leWithNul_eq, decodeUtf16le_utf16leBytes, trimEndNul_append_nul]

theorem utf16leWithNul_injective : Function.Injective utf16leWithNul := by
  intro s s' h
  exact utf16leBytes_injective (List.append_cancel_right h)

/-- **Decoding undoes encoding**, for every text up to the NULs at its end, and for a text with none
there altogether. The bytes that go under the MAC determine the SID, whatever it ends in. -/
theorem decodeUtf16le_undoes :
    (∀ s, decodeUtf16le (utf16le s) = trimEndNul s) ∧
      (∀ s, decodeUtf16le (utf16leWithNul s) = trimEndNul s) ∧
      (∀ s, NoTrailingNul s →
        decodeUtf16le (utf16le s) = s ∧ decodeUtf16le (utf16leWithNul s) = s) ∧
      (∀ (env : Env) (sid : String) (pwdSha1 : Vector UInt8 20),
        prekeyFromSha1 env sid pwdSha1 = env.crypto.hmacSha1 pwdSha1.toList (utf16leWithNul sid)) ∧
      ∀ sid sid', utf16leWithNul sid = utf16leWithNul sid' → sid = sid' := by
  refine ⟨decodeUtf16le_utf16leBytes, decodeUtf16le_utf16leWithNul, ?_, fun _ _ _ => rfl,
    fun _ _ h => utf16leWithNul_injective h⟩
  intro s hs
  have htrim := trimEndNul_of_noTrailingNul hs
  exact ⟨(decodeUtf16le_utf16leBytes s).trans htrim, (decodeUtf16le_utf16leWithNul s).trans htrim⟩

/-- An embedded NUL, and a character outside the basic plane. -/
theorem decodeUtf16le_undoes_astral :
    NoTrailingNul "a\x00𝄞" ∧ decodeUtf16le (utf16le "a\x00𝄞") = "a\x00𝄞" ∧
      decodeUtf16le (utf16leWithNul "a\x00𝄞") = "a\x00𝄞" := by
  have hend : NoTrailingNul "a\x00𝄞" := by
    unfold NoTrailingNul
    decide
  exact ⟨hend, decodeUtf16le_undoes.2.2.1 _ hend⟩

end DpapiForensic
