import DpapiForensic.Proof.Memory
import DpapiForensic.Proof.Messages

/-!
# What the process leaves behind

The process ends unless it is refused memory. It exits with success and a report on standard output exactly
when the files yield that report under the key that was given; it says that a store is locked, and which
master key would open it, exactly when the files wrap a blob that the key does not open; and whatever it
says on standard error, it says of one error only.
-/

namespace DpapiForensic

open Cli

variable {env : Env} {fs : FileSystem} {toStringPretty : CliReport → Except String String}
  {command : Command} {json : Bool} {grants : Nat → Bool}

/-- A report as it is printed: in a row of lines, or as JSON if the serializer manages. -/
def printed (toStringPretty : CliReport → Except String String) (json : Bool) (report : CliReport) :
    Except String String :=
  if json then (toStringPretty report).map (· ++ "\n") else .ok (renderText report)

/-- The line that reports an error. -/
def errorLine (e : CliError) : String := "dpapi4n6: " ++ e.display ++ "\n"

/-! ### The end of a run -/

section Run

theorem ofCommand_of_run (himp : env.nomicon.IsImpacket) (hslices : env.ReturnsSlices)
    (hfs : fs.ReturnsSlices) {e : CliError} (h : Cli.run env fs command = .err e) : e.OfCommand := by
  rintro s g rfl
  obtain ⟨_, _, _, _, -, hwraps, -⟩ := (run_eq_locked_iff env himp hslices fs hfs command s g).mp h
  exact ⟨command, hwraps.store_eq⟩

end Run

/-! ### The end of the process -/

section Main

theorem main_of_err {e : CliError}
    (h : Cli.runWith (withCapacityFrom grants) env fs command = .err e) :
    Cli.main grants env toStringPretty fs command json
      = .ok { code := .failure, stdout := "", stderr := errorLine e } := by
  rw [Cli.main, h]
  rfl

/-- With a report, the process prints it, or says that it cannot. -/
theorem main_of_ok {report : CliReport}
    (h : Cli.runWith (withCapacityFrom grants) env fs command = .ok report) :
    (∃ out, printed toStringPretty json report = .ok out ∧
      Cli.main grants env toStringPretty fs command json
        = .ok { code := .success, stdout := out, stderr := "" }) ∨
    ∃ reason, printed toStringPretty json report = .error reason ∧
      Cli.main grants env toStringPretty fs command json
        = .ok
            { code := .failure
              stdout := ""
              stderr := "error serializing report: " ++ reason ++ "\n" } := by
  simp only [Cli.main, h, printed]
  cases json with
  | false => exact Or.inl ⟨_, rfl, rfl⟩
  | true =>
      simp only [if_true]
      cases toStringPretty report with
      | ok s => exact Or.inl ⟨_, rfl, rfl⟩
      | error reason => exact Or.inr ⟨_, rfl, rfl⟩

/-- The process ends unless its run panics. -/
theorem exists_main_eq_ok_iff :
    (∃ exit, Cli.main grants env toStringPretty fs command json = .ok exit) ↔
      Cli.runWith (withCapacityFrom grants) env fs command ≠ .panic := by
  cases hend : Cli.runWith (withCapacityFrom grants) env fs command with
  | ok report =>
      refine iff_of_true ?_ Outcome.ok_ne_panic
      rcases main_of_ok hend with ⟨_, -, hexit⟩ | ⟨_, -, hexit⟩
      · exact ⟨_, hexit⟩
      · exact ⟨_, hexit⟩
  | err e => exact iff_of_true ⟨_, main_of_err hend⟩ Outcome.err_ne_panic
  | panic =>
      refine iff_of_false ?_ fun h => h rfl
      rintro ⟨exit, hexit⟩
      simp only [Cli.main, hend] at hexit
      cases hexit

/-- A process that ends has run as if no memory was ever refused. -/
theorem runWith_of_main {exit : Exit} (h : Cli.main grants env toStringPretty fs command json = .ok exit) :
    Cli.runWith (withCapacityFrom grants) env fs command = Cli.run env fs command :=
  (below_runWith env grants fs command).eq_of_ne_panic (exists_main_eq_ok_iff.mp ⟨exit, h⟩)

/-- The two kinds of line open differently. -/
theorem errorLine_ne (e : CliError) (reason : String) :
    "error serializing report: " ++ reason ++ "\n" ≠ errorLine e := by
  intro h
  have hfirst := congrArg (fun s => s.toList.head?) h
  simp [errorLine] at hfirst

theorem errorLine_ne_empty (e : CliError) : errorLine e ≠ "" := by
  intro h
  have hlist := congrArg String.toList h
  simp [errorLine] at hlist

/-- A line that reports an error is left by a run that ends in that error, and by no other. -/
theorem main_stderr_eq_iff (hrun : ∀ e, Cli.run env fs command = .err e → e.OfCommand) {exit : Exit}
    (h : Cli.main grants env toStringPretty fs command json = .ok exit) {e : CliError}
    (he : e.OfCommand) : exit.stderr = errorLine e ↔ Cli.run env fs command = .err e := by
  rw [← runWith_of_main h] at hrun ⊢
  cases hend : Cli.runWith (withCapacityFrom grants) env fs command with
  | panic => exact absurd hend (exists_main_eq_ok_iff.mp ⟨exit, h⟩)
  | ok report =>
      refine iff_of_false ?_ Outcome.ok_ne_err
      rcases main_of_ok hend with ⟨out, -, hexit⟩ | ⟨reason, -, hexit⟩
      · obtain rfl := Outcome.ok.inj (hexit.symm.trans h)
        exact (errorLine_ne_empty e).symm
      · obtain rfl := Outcome.ok.inj (hexit.symm.trans h)
        exact errorLine_ne e reason
  | err e' =>
      obtain rfl := Outcome.ok.inj ((main_of_err hend).symm.trans h)
      rw [Outcome.err.injEq]
      constructor
      · intro hline
        have hdisplay := (String.append_right_inj _).mp ((String.append_left_inj _).mp hline)
        exact CliError.display_injective (hrun e' hend) he hdisplay
      · rintro rfl
        rfl

end Main

/-- The file of the tests, with the blob minted by Windows as its data. -/
def vector1Credential : WireCredentialFile where
  version := 1
  unknown := 0
  data := ⟨vector1Bytes, by decide +kernel⟩

theorem withholds_vector1 :
    (vector1.wire vector1Answers.env.crypto).Withholds zeroKeyAnswers.env.crypto
      (List.replicate 64 0) where
  cipher := ⟨.aes256, rfl⟩
  seals_nothing plain hseals := by
    have hplain := (@decrypt_toBlob_eq_ok_iff zeroKeyAnswers.env _ _ _ _ linkedTables_isImpacket).mpr
      hseals
    have hfail : decryptDpapiBlob zeroKeyAnswers.env (vector1.wire vector1Answers.env.crypto).toBlob
        (List.replicate 64 0) none = .err .decryptionFailed := by
      decide +kernel
    rw [hfail] at hplain
    cases hplain

theorem isSlice_vector1Credential : IsSlice (vector1Credential.bytes ++ []) :=
  (List.append_nil _).symm ▸ vector1Credential.isSlice_bytes

theorem wraps_vector1 (path : String) :
    Wraps zeroKeyAnswers.env (oneFile path (vector1Credential.bytes ++ []))
      ((vector1.wire vector1Answers.env.crypto).bytes ++ [])
      (.credman path (hexLower (List.replicate 64 0))) "credman" :=
  .credman readBytes_oneFile (by rw [vector1_bytes, List.append_nil]; rfl)

theorem run_vector1 (path : String) :
    Cli.run zeroKeyAnswers.env (oneFile path (vector1Credential.bytes ++ []))
        (.credman path (hexLower (List.replicate 64 0)))
      = .err (.locked "credman"
          (canonicalGuid (vector1.wire vector1Answers.env.crypto).masterKeyGuid)) :=
  (run_eq_locked_iff zeroKeyAnswers.env linkedTables_isImpacket zeroKeyAnswers.returnsSlices _
    (oneFile_returnsSlices isSlice_vector1Credential) _ _ _).mpr
    ⟨List.replicate 64 0, _, _, [], keyGiven_hexLower _, wraps_vector1 path, rfl, withholds_vector1, rfl⟩

/-- A serializer for runs that print text. -/
def noJson : CliReport → Except String String := fun _ => .error "no JSON here"

theorem main_vector1 (grants : Nat → Bool) (path : String) (json : Bool) :
    Cli.main grants zeroKeyAnswers.env noJson (oneFile path (vector1Credential.bytes ++ []))
        (.credman path (hexLower (List.replicate 64 0))) json
      = .ok
          { code := .failure
            stdout := ""
            stderr := errorLine (.locked "credman"
              (canonicalGuid (vector1.wire vector1Answers.env.crypto).masterKeyGuid)) } := by
  have hafford : AffordsRecord grants (oneFile path (vector1Credential.bytes ++ []))
      (.credman path (hexLower (List.replicate 64 0))) := trivial
  exact main_of_err ((runWith_of_affords (oneFile_returnsSlices isSlice_vector1Credential) hafford).trans
    (run_vector1 path))

/-- **What a process says on standard error identifies its error.** Two processes that say the same, over
whatever files and commands, ended in the same error or both in none. -/
theorem stderr_tells (env env' : Env) (himp : env.nomicon.IsImpacket) (himp' : env'.nomicon.IsImpacket)
    (hslices : env.ReturnsSlices) (hslices' : env'.ReturnsSlices) (fs fs' : FileSystem)
    (hfs : fs.ReturnsSlices) (hfs' : fs'.ReturnsSlices)
    (toStringPretty toStringPretty' : CliReport → Except String String) (command command' : Command)
    (json json' : Bool) (grants grants' : Nat → Bool) (exit exit' : Exit)
    (h : Cli.main grants env toStringPretty fs command json = .ok exit)
    (h' : Cli.main grants' env' toStringPretty' fs' command' json' = .ok exit')
    (hline : exit.stderr = exit'.stderr) (e : CliError) :
    Cli.run env fs command = .err e ↔ Cli.run env' fs' command' = .err e := by
  have hcommand : ∀ e, Cli.run env fs command = .err e → e.OfCommand := fun e =>
    ofCommand_of_run himp hslices hfs
  have hcommand' : ∀ e, Cli.run env' fs' command' = .err e → e.OfCommand := fun e =>
    ofCommand_of_run himp' hslices' hfs'
  constructor
  · intro hend
    have he := hcommand e hend
    rw [← main_stderr_eq_iff hcommand' h' he, ← hline]
    exact (main_stderr_eq_iff hcommand h he).mpr hend
  · intro hend
    have he := hcommand' e hend
    rw [← main_stderr_eq_iff hcommand h he, hline]
    exact (main_stderr_eq_iff hcommand' h' he).mpr hend

/-- The locked credential and a copy of it, reported as text and as JSON. -/
theorem stderr_tells_vector1 :
    Cli.run zeroKeyAnswers.env (oneFile "Credentials" (vector1Credential.bytes ++ []))
        (.credman "Credentials" (hexLower (List.replicate 64 0)))
      = .err (.locked "credman" (canonicalGuid (vector1.wire vector1Answers.env.crypto).masterKeyGuid)) ↔
    Cli.run zeroKeyAnswers.env (oneFile "Copy" (vector1Credential.bytes ++ []))
        (.credman "Copy" (hexLower (List.replicate 64 0)))
      = .err (.locked "credman" (canonicalGuid (vector1.wire vector1Answers.env.crypto).masterKeyGuid)) :=
  stderr_tells zeroKeyAnswers.env zeroKeyAnswers.env linkedTables_isImpacket linkedTables_isImpacket
    zeroKeyAnswers.returnsSlices zeroKeyAnswers.returnsSlices _ _
    (oneFile_returnsSlices isSlice_vector1Credential) (oneFile_returnsSlices isSlice_vector1Credential)
    noJson noJson _ _ false true (fun _ => false) (fun _ => true) _ _
    (main_vector1 _ "Credentials" false) (main_vector1 _ "Copy" true) rfl _

end DpapiForensic
