import DocCheck.Proofs.EscapeSequences
import DocCheck.Proofs.NumberRoundTrip
import DocCheck.Proofs.QuietSummaries
import DocCheck.Proofs.RecordHistory
import DocCheck.Proofs.Renderings

/-!
# Reports in colour

The severity and the code of a diagnostic are all that is written in colour.
So a report in colour differs from the plain one by its escape sequences
only, provided that no text in it has an escape character of its own.
-/

namespace DocCheck

/-! ## The texts of a report -/

namespace Value

mutual

/-- The strings in a value and the names of its classes and fields, at
whatever depth. -/
def texts : Value → List String
  | string text => [text]
  | record fields => fieldTexts fields
  | instanceOf className fields => className :: fieldTexts fields
  | _ => []
termination_by structural value => value

/-- The texts of a record. -/
def fieldTexts : Table Value → List String
  | ⟨names, value⟩ =>
      names.toList.attach.flatMap fun name =>
        name.1 :: (value name.1 name.2).texts
termination_by structural fields => fields

end

end Value

/-- The text that a host gave as the reason of a failed call. -/
def CallError.text : CallError → String
  | raised reason => reason
  | panicked message => message

def Diagnostic.texts (diagnostic : Diagnostic) : List String :=
  diagnostic.message :: (diagnostic.location.toList.map Location.text ++
    diagnostic.notes ++ diagnostic.suggestions)

/-- The texts that the line of a verdict is made from.  The kind is not shown
there. -/
def Verdict.texts (verdict : Verdict) : List String :=
  verdict.identity.name ::
    ((match verdict.actual with
      | .ok value => value.texts
      | .error error => [error.text]) ++ verdict.expected.texts)

def Finding.texts : Finding → List String
  | .ran verdict => verdict.texts
  | .rejected identity diagnostic => identity.name :: diagnostic.texts

def Report.texts (report : Report) : List String :=
  report.symbol :: report.findings.flatMap Finding.texts

def Summary.texts (summary : Summary) : List String :=
  summary.reports.flatMap Report.texts

/-! ## Values without escape characters -/

theorem Number.escapeFree_written (number : Number) :
    EscapeFree (String.ofList number.written) := by
  intro member
  rw [String.toList_ofList] at member
  cases number with
  | nan => exact absurd member (by decide)
  | infinite negative =>
      revert member
      cases negative <;> decide
  | finite negative magnitude =>
      rcases mem_written member with digit | point | dash
      · exact absurd (isDigit_iff.mpr digit) (by decide)
      · exact absurd point (by decide)
      · exact absurd dash (by decide)

namespace Value

theorem subset_fieldTexts {fields : Table Value} {name : String}
    {inner : Value} (found : fields.get? name = some inner) :
    name :: inner.texts ⊆ fieldTexts fields := by
  obtain ⟨names, value⟩ := fields
  obtain ⟨member, rfl⟩ := Table.get?_eq_some_iff.mp found
  have listed : name ∈ names.toList := NameSet.mem_toList.mpr member
  intro text inField
  exact List.mem_flatMap.mpr
    ⟨⟨name, member⟩, List.mem_attach _ _, inField⟩

theorem escapeFree_writtenFields {fields : Table Value}
    (free : ∀ name inner, fields.get? name = some inner →
      EscapeFree name ∧ EscapeFree inner.written) :
    EscapeFree (writtenFields fields) := by
  have opening : EscapeFree "\x7b " := by decide
  have separator : EscapeFree ", " := by decide
  have closing : EscapeFree " \x7d" := by decide
  have colon : EscapeFree ": " := by decide
  rw [Table.writtenFields_eq]
  split
  · decide
  · refine (opening.append (separator.intercalate ?_)).append closing
    intro text member
    obtain ⟨⟨name, inner⟩, listed, rfl⟩ := List.mem_map.mp member
    obtain ⟨freeName, freeInner⟩ :=
      free name inner (Table.mem_entries_iff.mp listed)
    exact (freeName.append colon).append freeInner

/-- A value is written from its texts and from nothing else that could have
an escape character. -/
theorem escapeFree_written {value : Value}
    (free : ∀ text ∈ value.texts, EscapeFree text) :
    EscapeFree value.written := by
  induction value using induction with
  | undefined => decide
  | bool truth => cases truth <;> decide
  | number value => exact value.escapeFree_written
  | string text =>
      have quote : EscapeFree "\"" := by decide
      have freeText := free text (List.mem_singleton_self text)
      exact (quote.append freeText).append quote
  | record fields inductionHypothesis =>
      apply escapeFree_writtenFields
      intro name inner found
      have freeField := List.forall_mem_cons.mp fun text inField =>
        free text (subset_fieldTexts found inField)
      exact ⟨freeField.1, inductionHypothesis name inner found freeField.2⟩
  | instanceOf className fields inductionHypothesis =>
      have blank : EscapeFree " " := by decide
      obtain ⟨freeClass, freeFields⟩ := List.forall_mem_cons.mp free
      refine (freeClass.append blank).append (escapeFree_writtenFields ?_)
      intro name inner found
      have freeField := List.forall_mem_cons.mp fun text inField =>
        freeFields text (subset_fieldTexts found inField)
      exact ⟨freeField.1, inductionHypothesis name inner found freeField.2⟩

end Value

/-! ## Diagnostics in colour -/

/-- The colour of a severity is one complete sequence. -/
theorem Severity.exists_parameters (severity : Severity) :
    ∃ parameters, 'm' ∉ parameters ∧
      severity.escape.toList =
        '\x1b' :: '[' :: (parameters ++ ['m']) := by
  cases severity with
  | error => exact ⟨['1', ';', '3', '1'], by decide, by decide⟩
  | warning => exact ⟨['1', ';', '3', '3'], by decide, by decide⟩
  | note => exact ⟨['1', ';', '3', '6'], by decide, by decide⟩

namespace Diagnostic

/-- The severity and the code, which may stand in colour. -/
def head (colors : Bool) (diagnostic : Diagnostic) : String :=
  painted colors diagnostic.severity.escape diagnostic.severity.label ++
    painted colors "\x1b[1m" ("[" ++ diagnostic.code.label ++ "]")

/-- The message and the details. -/
def body (diagnostic : Diagnostic) : String :=
  ": " ++ diagnostic.message ++ "\n" ++
    String.join (diagnostic.details.map fun detail => detail ++ "\n")

theorem emitted_eq (diagnostic : Diagnostic) (colors : Bool) :
    diagnostic.emitted colors =
      diagnostic.head colors ++ diagnostic.body := by
  simp only [emitted, head, body, String.append_assoc]

theorem addsColors_head (diagnostic : Diagnostic) :
    AddsColors (diagnostic.head true) (diagnostic.head false) := by
  obtain ⟨parameters, unended, shape⟩ :=
    diagnostic.severity.exists_parameters
  have freeLabel : EscapeFree diagnostic.severity.label := by
    cases diagnostic.severity <;> decide
  have freeCode : EscapeFree ("[" ++ diagnostic.code.label ++ "]") := by
    cases diagnostic.code <;> decide
  have bold : "\x1b[1m".toList =
      '\x1b' :: '[' :: (['1'] ++ ['m']) := by decide
  exact (AddsColors.painted shape unended freeLabel).append
    (.painted bold (by decide) freeCode)

theorem escapeFree_details {diagnostic : Diagnostic}
    (free : ∀ text ∈ diagnostic.texts, EscapeFree text) :
    ∀ detail ∈ diagnostic.details, EscapeFree detail := by
  have arrow : EscapeFree "  --> " := by decide
  have line : EscapeFree "line " := by decide
  have colon : EscapeFree ": " := by decide
  have note : EscapeFree "  = note: " := by decide
  have help : EscapeFree "  = help: " := by decide
  simp only [texts, List.forall_mem_cons, List.forall_mem_append,
    List.forall_mem_map] at free
  obtain ⟨-, ⟨freeLocation, freeNotes⟩, freeSuggestions⟩ := free
  simp only [details, List.forall_mem_append, List.forall_mem_map]
  refine ⟨⟨?_, ?_⟩, ?_⟩
  · intro location member
    exact arrow.append (((line.append (.toString_nat _)).append colon).append
      (freeLocation location member))
  · intro text member
    exact note.append (freeNotes text member)
  · intro text member
    exact help.append (freeSuggestions text member)

theorem escapeFree_body {diagnostic : Diagnostic}
    (free : ∀ text ∈ diagnostic.texts, EscapeFree text) :
    EscapeFree diagnostic.body := by
  have colon : EscapeFree ": " := by decide
  have newline : EscapeFree "\n" := by decide
  have freeMessage : EscapeFree diagnostic.message :=
    free _ List.mem_cons_self
  refine ((colon.append freeMessage).append newline).append (.join ?_)
  rw [List.forall_mem_map]
  intro detail member
  exact (escapeFree_details free detail member).append newline

end Diagnostic

/-! ## Passages -/

/-- Lines that are the same in every colour mode, or a diagnostic. -/
inductive Passage where
  | lines (text : String)
  | diagnosed (diagnostic : Diagnostic)

namespace Passage

def written (colors : Bool) : Passage → String
  | lines text => text
  | diagnosed diagnostic => diagnostic.emitted colors

def texts : Passage → List String
  | lines text => [text]
  | diagnosed diagnostic => diagnostic.texts

/-- Passages one after the other. -/
def writtenAll (colors : Bool) (passages : List Passage) : String :=
  String.join (passages.map (written colors))

theorem writtenAll_cons (colors : Bool) (passage : Passage)
    (others : List Passage) :
    writtenAll colors (passage :: others) =
      passage.written colors ++ writtenAll colors others := by
  rw [writtenAll, List.map_cons, String.join_cons]
  rfl

theorem writtenAll_singleton (colors : Bool) (passage : Passage) :
    writtenAll colors [passage] = passage.written colors := by
  rw [writtenAll_cons]
  exact String.append_empty

theorem writtenAll_append (colors : Bool) (front back : List Passage) :
    writtenAll colors (front ++ back) =
      writtenAll colors front ++ writtenAll colors back := by
  rw [writtenAll, List.map_append, String.join_append]
  rfl

theorem writtenAll_flatMap {α : Type} (colors : Bool)
    (parts : α → List Passage) (items : List α) :
    writtenAll colors (items.flatMap parts) =
      String.join (items.map fun item => writtenAll colors (parts item)) := by
  induction items with
  | nil => rfl
  | cons item others inductionHypothesis =>
      rw [List.flatMap_cons, writtenAll_append, inductionHypothesis,
        List.map_cons, String.join_cons]

theorem addsColors {passage : Passage}
    (free : ∀ text ∈ passage.texts, EscapeFree text) :
    AddsColors (passage.written true) (passage.written false) := by
  cases passage with
  | lines text => exact .of_escapeFree (free text List.mem_cons_self)
  | diagnosed diagnostic =>
      rw [written, written, diagnostic.emitted_eq, diagnostic.emitted_eq]
      exact diagnostic.addsColors_head.append
        (.of_escapeFree (Diagnostic.escapeFree_body free))

end Passage

/-- A text with colours and one without that say the same passages: they
differ by escape sequences only.  The colours of a diagnostic are reset where
its message begins, and none comes on up to its end. -/
structure DiffersInColor (passages : List Passage)
    (colored plain : String) : Prop where
  withoutSequences : withoutSequences colored.toList = plain.toList
  leavesColors : leavesColors colored.toList = false
  resetAtMessage :
    ∀ front diagnostic back,
      passages = front ++ .diagnosed diagnostic :: back →
      let before := Passage.writtenAll true front ++ diagnostic.head true
      colored =
        before ++ diagnostic.body ++ Passage.writtenAll true back ∧
      DocCheck.leavesColors before.toList = false ∧
      EscapeFree diagnostic.body

theorem Passage.differsInColor {passages : List Passage}
    (free : ∀ passage ∈ passages, ∀ text ∈ passage.texts, EscapeFree text) :
    DiffersInColor passages (writtenAll true passages)
      (writtenAll false passages) := by
  have both {part : List Passage} (within : part ⊆ passages) :
      AddsColors (writtenAll true part) (writtenAll false part) :=
    .join_map fun passage member =>
      addsColors (free passage (within member))
  have whole := both (List.Subset.refl _)
  refine ⟨whole.withoutSequences, whole.leavesColors, ?_⟩
  rintro front diagnostic back rfl
  have freeDiagnostic := free (.diagnosed diagnostic)
    (List.mem_append_right _ List.mem_cons_self)
  have before := (both (List.subset_append_left _ _)).append
    diagnostic.addsColors_head
  refine ⟨?_, before.leavesColors, Diagnostic.escapeFree_body freeDiagnostic⟩
  rw [writtenAll_append, writtenAll_cons, written, diagnostic.emitted_eq]
  simp only [String.append_assoc]

/-! ## The passages of a summary -/

/-- The line of a finding; a rejection has its diagnostic below. -/
def Finding.passages : Finding → List Passage
  | .ran verdict => [.lines ((Finding.ran verdict).written false)]
  | .rejected identity diagnostic =>
      [.lines ("  REJECTED: " ++ identity.name ++ "\n"),
        .diagnosed diagnostic]

def Report.passages (verbose : Bool) (report : Report) : List Passage :=
  if report.isShown verbose then
    .lines ("\n" ++ report.symbol ++ "\n") ::
      (report.shown verbose).flatMap Finding.passages
  else
    []

def Summary.passages (verbose : Bool) (summary : Summary) : List Passage :=
  summary.reports.flatMap (Report.passages verbose) ++
    [.lines summary.footer]

theorem Finding.writtenAll_passages (colors : Bool) (finding : Finding) :
    Passage.writtenAll colors finding.passages = finding.written colors := by
  cases finding with
  | ran verdict => exact Passage.writtenAll_singleton _ _
  | rejected identity diagnostic =>
      rw [passages, Passage.writtenAll_cons, Passage.writtenAll_singleton]
      rfl

theorem Report.writtenAll_passages (verbose colors : Bool)
    (report : Report) :
    Passage.writtenAll colors (report.passages verbose) =
      report.written verbose colors := by
  rw [passages, written]
  split
  · rw [Passage.writtenAll_cons, Passage.writtenAll_flatMap]
    simp only [Finding.writtenAll_passages]
    rfl
  · rfl

theorem Summary.written_eq_writtenAll (verbose : Bool) (mode : ColorChoice)
    (summary : Summary) :
    summary.written verbose mode =
      Passage.writtenAll (mode.usesColors false)
        (summary.passages verbose) := by
  rw [written_eq_footer, passages, Passage.writtenAll_append,
    Passage.writtenAll_flatMap, Passage.writtenAll_singleton]
  simp only [Report.writtenAll_passages]
  rfl

/-! ## Summaries without escape characters -/

theorem CallError.escapeFree_message {error : CallError}
    (free : EscapeFree error.text) : EscapeFree error.message := by
  cases error with
  | raised reason =>
      have opening : EscapeFree "symbol returned an error: " := by decide
      exact opening.append free
  | panicked message =>
      have opening : EscapeFree "symbol panicked: " := by decide
      exact opening.append free

namespace Verdict

theorem escapeFree_explanation {verdict : Verdict}
    (free : ∀ text ∈ verdict.texts, EscapeFree text) {detail : String}
    (explained : verdict.explanation? = some detail) :
    EscapeFree detail := by
  have expected : EscapeFree "expected " := by decide
  have got : EscapeFree ", got " := by decide
  rw [texts, List.forall_mem_cons, List.forall_mem_append] at free
  obtain ⟨-, freeActual, freeExpected⟩ := free
  rw [explanation?] at explained
  split at explained
  · cases explained
  · split at explained
    · next actual returned =>
        cases explained
        rw [returned] at freeActual
        exact ((expected.append (Value.escapeFree_written freeExpected)).append
          got).append (Value.escapeFree_written freeActual)
    · next error raised =>
        cases explained
        rw [raised] at freeActual
        exact CallError.escapeFree_message (freeActual _ List.mem_cons_self)

theorem escapeFree_written {verdict : Verdict}
    (free : ∀ text ∈ verdict.texts, EscapeFree text) :
    EscapeFree ((Finding.ran verdict).written false) := by
  have indent : EscapeFree "  " := by decide
  have colon : EscapeFree ": " := by decide
  have dash : EscapeFree " - " := by decide
  have newline : EscapeFree "\n" := by decide
  have freeOutcome : EscapeFree verdict.outcome.written := by
    cases verdict.outcome <;> decide
  have freeName : EscapeFree verdict.identity.name :=
    free _ List.mem_cons_self
  have heading :=
    ((indent.append freeOutcome).append colon).append freeName
  rw [Finding.written]
  split
  · next detail explained =>
      exact ((heading.append dash).append
        (escapeFree_explanation free explained)).append newline
  · exact heading.append newline

end Verdict

theorem Finding.escapeFree_passages {finding : Finding}
    (free : ∀ text ∈ finding.texts, EscapeFree text) :
    ∀ passage ∈ finding.passages, ∀ text ∈ passage.texts,
      EscapeFree text := by
  cases finding with
  | ran verdict =>
      rw [passages, List.forall_mem_singleton, Passage.texts,
        List.forall_mem_singleton]
      exact Verdict.escapeFree_written free
  | rejected identity diagnostic =>
      have rejected : EscapeFree "  REJECTED: " := by decide
      have newline : EscapeFree "\n" := by decide
      obtain ⟨freeName, freeDiagnostic⟩ := List.forall_mem_cons.mp free
      rw [passages, List.forall_mem_cons, List.forall_mem_singleton,
        Passage.texts, List.forall_mem_singleton]
      exact ⟨(rejected.append freeName).append newline, freeDiagnostic⟩

theorem Report.escapeFree_passages {report : Report}
    (free : ∀ text ∈ report.texts, EscapeFree text) (verbose : Bool) :
    ∀ passage ∈ report.passages verbose, ∀ text ∈ passage.texts,
      EscapeFree text := by
  have newline : EscapeFree "\n" := by decide
  obtain ⟨freeSymbol, freeFindings⟩ := List.forall_mem_cons.mp free
  rw [passages]
  split
  · rw [List.forall_mem_cons, List.forall_mem_flatMap]
    refine ⟨?_, ?_⟩
    · rw [Passage.texts, List.forall_mem_singleton]
      exact (newline.append freeSymbol).append newline
    · intro finding member
      apply Finding.escapeFree_passages
      intro text inFinding
      have listed : finding ∈ report.findings := List.mem_of_mem_filter member
      exact freeFindings text
        (List.mem_flatMap.mpr ⟨finding, listed, inFinding⟩)
  · exact fun _ member => nomatch member

theorem Tally.escapeFree_written (tally : Tally) :
    EscapeFree tally.written := by
  have indent : EscapeFree "  " := by decide
  have passed : EscapeFree " passed, " := by decide
  have failed : EscapeFree " failed, " := by decide
  have errors : EscapeFree " errors, " := by decide
  have rejected : EscapeFree " rejected (" := by decide
  have total : EscapeFree " total)" := by decide
  have counted := EscapeFree.toString_nat
  exact (((((((((indent.append (counted _)).append passed).append
    (counted _)).append failed).append (counted _)).append errors).append
    (counted _)).append rejected).append (counted _)).append total

namespace Summary

theorem escapeFree_footer (summary : Summary) :
    EscapeFree summary.footer := by
  have freeConclusion : EscapeFree summary.conclusion := by
    unfold conclusion
    split_ifs <;> decide
  have title : EscapeFree "\nTest Summary:\n" := by decide
  have gap : EscapeFree "\n\n" := by decide
  have newline : EscapeFree "\n" := by decide
  exact (((title.append summary.tally.escapeFree_written).append gap).append
    freeConclusion).append newline

theorem escapeFree_passages {summary : Summary}
    (free : ∀ text ∈ summary.texts, EscapeFree text) (verbose : Bool) :
    ∀ passage ∈ summary.passages verbose, ∀ text ∈ passage.texts,
      EscapeFree text := by
  rw [passages, List.forall_mem_append, List.forall_mem_flatMap,
    List.forall_mem_singleton, Passage.texts, List.forall_mem_singleton]
  refine ⟨?_, summary.escapeFree_footer⟩
  intro report member
  apply Report.escapeFree_passages
  intro text inReport
  exact free text (List.mem_flatMap.mpr ⟨report, member, inReport⟩)

end Summary

/-- Where no text has an escape character, colours change nothing but the
colour, in a list of diagnostics and in a summary; and a summary has no
colours in the automatic mode. -/
theorem colors_change_nothing_else :
    (∀ (diagnostics : List Diagnostic) (terminal : Bool),
      (∀ diagnostic ∈ diagnostics, ∀ text ∈ diagnostic.texts,
        EscapeFree text) →
      DiffersInColor (diagnostics.map .diagnosed)
        ((Emitter.ofMode .always terminal).emitAll diagnostics).output
        ((Emitter.ofMode .never terminal).emitAll diagnostics).output) ∧
    (∀ (summary : Summary) (verbose : Bool),
      (∀ text ∈ summary.texts, EscapeFree text) →
      DiffersInColor (summary.passages verbose)
        (summary.written verbose .always)
        (summary.written verbose .never)) ∧
    ∀ (summary : Summary) (verbose : Bool),
      summary.written verbose .auto = summary.written verbose .never := by
  refine ⟨?_, ?_, fun _ _ => rfl⟩
  · intro diagnostics terminal free
    have emitted (colors : Bool) :
        (Emitter.emitAll { colors := colors } diagnostics).output =
          Passage.writtenAll colors (diagnostics.map .diagnosed) := by
      rw [Emitter.emitAll_eq_write, Emitter.write, String.empty_append,
        Passage.writtenAll, List.map_map]
      rfl
    rw [Emitter.ofMode, Emitter.ofMode, emitted, emitted]
    exact Passage.differsInColor (List.forall_mem_map.mpr free)
  · intro summary verbose free
    rw [Summary.written_eq_writtenAll, Summary.written_eq_writtenAll]
    exact Passage.differsInColor (Summary.escapeFree_passages free verbose)

/-- A warning and an error, and a summary with a failure above a
rejection. -/
theorem failure_and_rejection_in_color :
    ∃ (diagnostics : List Diagnostic) (summary : Summary),
      ((Emitter.ofMode .always false).emitAll diagnostics).output =
        "\x1b[1;33mwarning\x1b[0m\x1b[1m[E2004]\x1b[0m: unsure\n" ++
        "  --> line 3: @assert - x => 1\n  = help: wait\n" ++
        "\x1b[1;31merror\x1b[0m\x1b[1m[E3001]\x1b[0m: too few\n" ∧
      DiffersInColor (diagnostics.map .diagnosed)
        ((Emitter.ofMode .always false).emitAll diagnostics).output
        ((Emitter.ofMode .never false).emitAll diagnostics).output ∧
      summary.written false .always =
        "\nf\n  FAIL: f#1 - expected \"a\", got true\n" ++
        "  REJECTED: f#2\n" ++
        "\x1b[1;31merror\x1b[0m\x1b[1m[E3001]\x1b[0m: too few\n" ++
        "\nTest Summary:\n" ++
        "  0 passed, 1 failed, 0 errors, 1 rejected (2 total)\n\n" ++
        "FAILED\n" ∧
      DiffersInColor (summary.passages false)
        (summary.written false .always) (summary.written false .never) := by
  let warning : Diagnostic :=
    { code := .rejectedToken
      severity := .warning
      message := "unsure"
      location := some ⟨3, "@assert - x => 1"⟩
      suggestions := ["wait"] }
  let error : Diagnostic := { code := .arityMismatch, message := "too few" }
  let failure : Finding :=
    .ran ⟨⟨"f#1"⟩, none, 2, .fail, .ok (.bool true), .string "a"⟩
  let report : Report :=
    Report.ofFindings "f" [failure, .rejected ⟨"f#2"⟩ error]
  let summary := Summary.ofReports [report]
  obtain ⟨emitted, written, -⟩ := colors_change_nothing_else
  have freeDiagnostics : ∀ diagnostic ∈ [warning, error],
      ∀ text ∈ diagnostic.texts, EscapeFree text := by decide
  have freeSummary : ∀ text ∈ summary.texts, EscapeFree text := by decide
  exact ⟨[warning, error], summary, by decide,
    emitted _ false freeDiagnostics, by decide +kernel,
    written summary false freeSummary⟩

end DocCheck
