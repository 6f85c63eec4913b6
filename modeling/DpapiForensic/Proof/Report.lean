import DpapiForensic.Cli
import DpapiForensic.Lib.Separator

/-!
# What the text report gives away

A report is printed a line per result, with the fields of each joined by fixed words and nothing
escaped. What can be read off the text is therefore up to the recovered strings: a newline in one adds
a line, a joining word in one moves a field's end, and a missing account prints as an account that is a
dash.
-/

namespace DpapiForensic

/-! ### The text -/

section Text

/-- What `render_text` puts between label and account. -/
def accountMark : List Char := " | account=".toList

/-- What it puts between account and secret. -/
def secretMark : List Char := " | secret=".toList

theorem accountMark_unbordered : Unbordered accountMark := by decide

theorem secretMark_unbordered : Unbordered secretMark := by decide

/-- A line of the report without its end. -/
def rowText (r : StoreResult) : List Char :=
  "[".toList ++ r.store.toList ++ "] ".toList ++
    (r.label.toList ++ accountMark ++ ((r.account.getD "-").toList ++ secretMark ++ r.secret.toList))

theorem toList_renderRow (r : StoreResult) : (Cli.renderRow r).toList = rowText r ++ ['\n'] := by
  unfold Cli.renderRow rowText accountMark secretMark
  simp only [String.toList_append, List.append_assoc]
  congr

theorem toList_renderText {report : CliReport} (h : report.results ≠ []) :
    (renderText report).toList = terminated '\n' (report.results.map rowText) := by
  have hfold : ∀ (results : List StoreResult) (out : String),
      (results.foldl (fun out r => out ++ Cli.renderRow r) out).toList
        = out.toList ++ terminated '\n' (results.map rowText) := by
    intro results
    induction results with
    | nil => simp [terminated]
    | cons r results ih =>
        intro out
        rw [List.foldl_cons, ih, String.toList_append, toList_renderRow, List.append_assoc]
        rfl
  rw [renderText, if_neg (by simpa using h), hfold]
  rfl

end Text

/-! ### One line -/

section Row

variable {r r' : StoreResult}

/-- The only result of its store with its line. -/
def RowUnique (r : StoreResult) : Prop := ∀ r', r'.store = r.store → rowText r' = rowText r → r' = r

/-- What keeps a line's fields apart. -/
structure FieldsApart (r : StoreResult) : Prop where
  account : ∃ account, r.account = some account ∧ account ≠ "-" ∧
    ¬accountMark <:+: account.toList ∧ ¬secretMark <:+: account.toList
  label : ¬accountMark <:+: r.label.toList
  secret : ¬secretMark <:+: r.secret.toList

theorem rowText_eq_iff (hstore : r'.store = r.store) :
    rowText r' = rowText r ↔
      r'.label.toList ++ accountMark ++ ((r'.account.getD "-").toList ++ secretMark ++ r'.secret.toList)
        = r.label.toList ++ accountMark ++
          ((r.account.getD "-").toList ++ secretMark ++ r.secret.toList) := by
  rw [rowText, rowText, hstore, List.append_right_inj]

theorem account_eq_of_getD {account : Option String} {shown : String} (hdash : shown ≠ "-")
    (h : account.getD "-" = shown) : account = some shown := by
  cases account with
  | none => exact absurd h.symm hdash
  | some _ => exact congrArg some h

theorem rowUnique_of_fieldsApart (h : FieldsApart r) : RowUnique r := by
  obtain ⟨⟨account, haccount, hdash, hmark, hmark'⟩, hlabel, hsecret⟩ := h
  have hunique := fieldsUnique_of_not_infix accountMark_unbordered secretMark_unbordered hlabel hmark
    hmark' hsecret
  intro r' hstore htext
  rw [rowText_eq_iff hstore, haccount, Option.getD_some] at htext
  obtain ⟨hlabel', haccount', hsecret'⟩ := hunique _ _ _ htext
  have hshown := account_eq_of_getD hdash (String.toList_inj.mp haccount')
  obtain ⟨store, label, secret, account'⟩ := r
  obtain ⟨store', label', secret', account''⟩ := r'
  simp only [String.toList_inj] at *
  subst hstore hlabel' hsecret' hshown haccount
  rfl

theorem exists_account_of_rowUnique (h : RowUnique r) :
    ∃ account, r.account = some account ∧ account ≠ "-" := by
  have hother : ∀ account, account ≠ r.account → account.getD "-" ≠ r.account.getD "-" := by
    intro account hne hshown
    have htext : rowText { r with account } = rowText r := by
      rw [rowText, rowText, hshown]
    exact hne (congrArg StoreResult.account (h { r with account } rfl htext))
  cases haccount : r.account with
  | none =>
      refine absurd ?_ (hother (some "-") (by simp [haccount]))
      rw [haccount]
      rfl
  | some account =>
      refine ⟨account, rfl, ?_⟩
      rintro rfl
      refine absurd ?_ (hother none (by simp [haccount]))
      rw [haccount]
      rfl

theorem fieldsUnique_of_rowUnique (h : RowUnique r) {account : String}
    (haccount : r.account = some account) :
    FieldsUnique accountMark secretMark r.label.toList account.toList r.secret.toList := by
  intro x y z hfields
  obtain ⟨store, label, secret, _⟩ := r
  subst haccount
  have htext : rowText ⟨store, String.ofList x, String.ofList z, some (String.ofList y)⟩
      = rowText ⟨store, label, secret, some account⟩ := by
    simp only [rowText, Option.getD_some, String.toList_ofList]
    rw [hfields]
  have hrow := h ⟨store, String.ofList x, String.ofList z, some (String.ofList y)⟩ rfl htext
  injection hrow with _ hlabel hsecret haccount
  rw [← hlabel, ← hsecret, ← Option.some.inj haccount]
  simp only [String.toList_ofList, and_self]

theorem fieldsApart_of_rowUnique (h : RowUnique r) : FieldsApart r := by
  obtain ⟨account, haccount, hdash⟩ := exists_account_of_rowUnique h
  obtain ⟨hlabel, hmark, hmark', hsecret⟩ := (fieldsUnique_iff accountMark_unbordered
    secretMark_unbordered (by decide) (by decide)).mp (fieldsUnique_of_rowUnique h haccount)
  exact ⟨⟨account, haccount, hdash, hmark, hmark'⟩, hlabel, hsecret⟩

end Row

/-! ### The report -/

section Report

variable {report : CliReport}

/-- A line for each result, and a text that no other report over the same stores has. -/
structure Unforgeable (report : CliReport) : Prop where
  line_per_result : (renderText report).toList.count '\n' = report.results.length
  text_unique : ∀ report' : CliReport,
    report'.results.map (·.store) = report.results.map (·.store) → report' ≠ report →
      renderText report' ≠ renderText report

/-- A result that prints on one line, with its fields apart. -/
structure Plain (r : StoreResult) : Prop extends FieldsApart r where
  one_line : ∀ field ∈ [r.store, r.label, r.account.getD "-", r.secret], '\n' ∉ field.toList

theorem newline_notMem_rowText_iff {r : StoreResult} :
    '\n' ∉ rowText r ↔
      ∀ field ∈ [r.store, r.label, r.account.getD "-", r.secret], '\n' ∉ field.toList := by
  have hopen : '\n' ∉ "[".toList := by decide
  have hclose : '\n' ∉ "] ".toList := by decide
  have haccount : '\n' ∉ accountMark := by decide
  have hsecret : '\n' ∉ secretMark := by decide
  simp only [rowText, List.mem_append, hopen, hclose, haccount, hsecret, false_or, or_false, not_or,
    List.forall_mem_cons, List.not_mem_nil, false_implies, implies_true, and_true]

theorem line_per_result_iff (h : report.results ≠ []) :
    (renderText report).toList.count '\n' = report.results.length ↔
      ∀ r ∈ report.results, '\n' ∉ rowText r := by
  have hcount := @count_terminated_eq_length_iff _ '\n' (report.results.map rowText) _
  rwa [List.length_map, ← toList_renderText h, List.forall_mem_map] at hcount

theorem rowUnique_of_text_unique {before after : List StoreResult} {r : StoreResult}
    (h : Unforgeable ⟨before ++ r :: after⟩) : RowUnique r := by
  intro r' hstore htext
  by_contra hne
  refine h.text_unique ⟨before ++ r' :: after⟩ ?_ ?_ ?_
  · simp only [List.map_append, List.map_cons, hstore]
  · intro heq
    have hresults := congrArg CliReport.results heq
    rw [List.append_cancel_left_eq, List.cons.injEq] at hresults
    exact hne hresults.1
  · apply String.toList_inj.mp
    rw [toList_renderText (by simp), toList_renderText (by simp)]
    simp only [List.map_append, List.map_cons, htext]

theorem results_eq_of_rows {results results' : List StoreResult}
    (hunique : ∀ r ∈ results, RowUnique r) (hstores : results'.map (·.store) = results.map (·.store))
    (hrows : results'.map rowText = results.map rowText) : results' = results := by
  induction results generalizing results' with
  | nil => exact List.map_eq_nil_iff.mp hrows
  | cons r results ih =>
      cases results' with
      | nil => cases hrows
      | cons r' results' =>
          rw [List.map_cons, List.map_cons, List.cons.injEq] at hstores hrows
          have hrow := hunique r List.mem_cons_self r' hstores.1 hrows.1
          have hrest := ih (fun r hr => hunique r (List.mem_cons_of_mem _ hr)) hstores.2 hrows.2
          rw [hrow, hrest]

theorem unforgeable_of_rows (h : report.results ≠ []) (hline : ∀ r ∈ report.results, '\n' ∉ rowText r)
    (hunique : ∀ r ∈ report.results, RowUnique r) : Unforgeable report where
  line_per_result := (line_per_result_iff h).mpr hline
  text_unique report' hstores hne htext := by
    have hlen : report'.results.length = report.results.length := by
      rw [← List.length_map (·.store), hstores, List.length_map]
    have h' : report'.results ≠ [] := by
      intro hnil
      rw [hnil, List.length_nil] at hlen
      exact h (List.length_eq_zero_iff.mp hlen.symm)
    -- as many newlines in the one text as in the other, and as many results
    have hline' : ∀ r ∈ report'.results, '\n' ∉ rowText r := by
      rw [← line_per_result_iff h', htext, hlen]
      exact (line_per_result_iff h).mpr hline
    have hchars := congrArg String.toList htext
    rw [toList_renderText h, toList_renderText h'] at hchars
    have hrows := terminated_inj (List.forall_mem_map.mpr hline') (List.forall_mem_map.mpr hline)
      hchars
    have hresults := results_eq_of_rows hunique hstores hrows
    exact hne (by cases report; cases report'; exact congrArg CliReport.mk hresults)

/-- **When the text report cannot be forged.** -/
theorem unforgeable_iff (h : report.results ≠ []) :
    Unforgeable report ↔ ∀ r ∈ report.results, Plain r := by
  constructor
  · intro hunforgeable r hr
    have hline := (line_per_result_iff h).mp hunforgeable.line_per_result r hr
    obtain ⟨before, after, hsplit⟩ := List.append_of_mem hr
    obtain ⟨results⟩ := report
    subst hsplit
    exact ⟨fieldsApart_of_rowUnique (rowUnique_of_text_unique hunforgeable),
      newline_notMem_rowText_iff.mp hline⟩
  · intro hplain
    refine unforgeable_of_rows h ?_ ?_
    · exact fun r hr => newline_notMem_rowText_iff.mpr (hplain r hr).one_line
    · exact fun r hr => rowUnique_of_fieldsApart (hplain r hr).toFieldsApart

theorem unforgeable_iff_credman :
    Unforgeable ⟨[⟨"credman", "Domain:target=fs1", "hunter2", some "ACME\\alice"⟩]⟩ := by
  refine (unforgeable_iff (by decide)).mpr ?_
  intro r hr
  rw [List.mem_singleton.mp hr]
  refine ⟨⟨⟨_, rfl, ?_, ?_, ?_⟩, ?_, ?_⟩, ?_⟩
  all_goals decide +kernel

/-- A credential whose target is the rest of one line and the start of another. -/
def forgedReport : CliReport :=
  ⟨[⟨"credman", "fs1 | account=root | secret=toor\n[credman] fs2", "hunter2", some "alice"⟩]⟩

/-- It prints as two credentials. -/
theorem not_unforgeable_forgedReport :
    renderText forgedReport =
      renderText ⟨[⟨"credman", "fs1", "toor", some "root"⟩,
        ⟨"credman", "fs2", "hunter2", some "alice"⟩]⟩ ∧
      ¬Unforgeable forgedReport := by
  constructor
  · decide +kernel
  · intro h
    have hlines : (renderText forgedReport).toList.count '\n' ≠ forgedReport.results.length := by
      decide +kernel
    exact hlines h.line_per_result

end Report

end DpapiForensic
