import DocCheck.Diagnostic.Terminal

/-!
# Renderings of a diagnostic

An emitter only adds to what it has written before, and what it adds for a
diagnostic is the same each time; so several diagnostics are written one
after the other as each of them is alone.  The text of a diagnostic has a
line end before every line of its details, and an emitter ends every line.
Apart from the blank behind the severity both show the same.
-/

namespace DocCheck

/-! ## What an emitter adds -/

namespace Emitter

variable (emitter : Emitter)

@[simp]
theorem colors_write (text : String) :
    (emitter.write text).colors = emitter.colors :=
  rfl

theorem write_empty : emitter.write "" = emitter := by
  rw [write, String.append_empty]

theorem write_write (front back : String) :
    (emitter.write front).write back = emitter.write (front ++ back) := by
  rw [write, write, write, String.append_assoc]

/-- Lines that are written one by one for some items are one text. -/
theorem foldl_writeLine {α : Type} (line : α → String) (items : List α) :
    items.foldl (fun emitter item => emitter.writeLine (line item)) emitter =
      emitter.write
        (String.join (items.map fun item => line item ++ "\n")) := by
  induction items generalizing emitter with
  | nil => exact emitter.write_empty.symm
  | cons item others inductionHypothesis =>
      rw [List.foldl_cons, inductionHypothesis, writeLine, write_write,
        List.map_cons, String.join_cons]

theorem writeLocation_eq (location : Option Location) :
    emitter.writeLocation location =
      emitter.write (String.join (location.toList.map fun location =>
        "  --> " ++ location.written ++ "\n")) := by
  cases location with
  | none => exact emitter.write_empty.symm
  | some location => simp [writeLocation, writeLine]

end Emitter

theorem Diagnostic.join_details (diagnostic : Diagnostic) :
    String.join (diagnostic.details.map fun detail => detail ++ "\n") =
      String.join (diagnostic.location.toList.map fun location =>
          "  --> " ++ location.written ++ "\n") ++
        String.join (diagnostic.notes.map fun note =>
          "  = note: " ++ note ++ "\n") ++
        String.join (diagnostic.suggestions.map fun suggestion =>
          "  = help: " ++ suggestion ++ "\n") := by
  simp only [details, List.map_append, List.map_map, String.join_append]
  rfl

namespace Emitter

variable (emitter : Emitter)

/-- An emitter adds the lines of a diagnostic to what it has written. -/
theorem emit_eq_write (diagnostic : Diagnostic) :
    emitter.emit diagnostic =
      emitter.write (diagnostic.emitted emitter.colors) := by
  have notes (located : Emitter) :
      diagnostic.notes.foldl writeNote located =
        located.write (String.join (diagnostic.notes.map fun note =>
          "  = note: " ++ note ++ "\n")) :=
    located.foldl_writeLine (fun note => "  = note: " ++ note) _
  have suggestions (noted : Emitter) :
      diagnostic.suggestions.foldl writeSuggestion noted =
        noted.write (String.join (diagnostic.suggestions.map
          fun suggestion => "  = help: " ++ suggestion ++ "\n")) :=
    noted.foldl_writeLine (fun suggestion => "  = help: " ++ suggestion) _
  simp only [emit, writeSeverity, writeCode, colors_write, writeLine,
    writeLocation_eq, notes, suggestions, write_write, Diagnostic.emitted,
    Diagnostic.join_details, String.append_assoc]

theorem emitAll_eq_write (diagnostics : List Diagnostic) :
    emitter.emitAll diagnostics =
      emitter.write
        (String.join (diagnostics.map (Diagnostic.emitted emitter.colors))) := by
  induction diagnostics generalizing emitter with
  | nil => exact emitter.write_empty.symm
  | cons diagnostic others inductionHypothesis =>
      rw [emitAll, List.foldl_cons, ← emitAll, inductionHypothesis,
        emit_eq_write, write_write, List.map_cons, String.join_cons]
      rfl

/-- A new emitter has written nothing before a diagnostic. -/
theorem output_emit_new (colors : Bool) (diagnostic : Diagnostic) :
    (emit { colors := colors } diagnostic).output =
      diagnostic.emitted colors := by
  rw [emit_eq_write, write, String.empty_append]

end Emitter

/-! ## Line ends before and behind -/

/-- Lines with a line end before each of them go over into lines with a line
end behind each, when the first line end stands before them. -/
theorem newline_append_join (lines : List String) :
    "\n" ++ String.join (lines.map fun line => line ++ "\n") =
      String.join (lines.map fun line => "\n" ++ line) ++ "\n" := by
  induction lines with
  | nil => rfl
  | cons line others inductionHypothesis =>
      rw [List.map_cons, String.join_cons, List.map_cons, String.join_cons,
        String.append_assoc, String.append_assoc, ← inductionHypothesis,
        String.append_assoc]

namespace Diagnostic

/-- What follows the severity in both texts of a diagnostic. -/
def afterSeverity (diagnostic : Diagnostic) : String :=
  "[" ++ diagnostic.code.label ++ "]: " ++ diagnostic.message ++
    String.join (diagnostic.details.map fun detail => "\n" ++ detail)

theorem written_eq (diagnostic : Diagnostic) :
    diagnostic.written =
      diagnostic.severity.label ++ " " ++ diagnostic.afterSeverity := by
  have opening : " [" = " " ++ "[" := by decide
  simp only [written, afterSeverity, opening, String.append_assoc]

theorem emitted_false_eq (diagnostic : Diagnostic) :
    diagnostic.emitted false =
      diagnostic.severity.label ++ diagnostic.afterSeverity ++ "\n" := by
  have opening : "]: " = "]" ++ ": " := by decide
  simp only [emitted, painted, afterSeverity, opening, Bool.false_eq_true,
    if_false, String.append_assoc, ← newline_append_join]

end Diagnostic

/-- The text of a diagnostic and what an emitter without colours writes for
it agree but for the blank behind the severity and the line end.  An emitter
writes diagnostics one after the other as each is written alone. -/
theorem plain_renderings_agree :
    (∀ diagnostic : Diagnostic, ∃ rest,
      diagnostic.written =
        diagnostic.severity.label ++ " " ++ rest ∧
      (Emitter.emit { colors := false } diagnostic).output =
        diagnostic.severity.label ++ rest ++ "\n") ∧
    ∀ (emitter : Emitter) (diagnostics : List Diagnostic),
      (emitter.emitAll diagnostics).output =
        emitter.output ++ String.join (diagnostics.map fun diagnostic =>
          (Emitter.emit { colors := emitter.colors } diagnostic).output) := by
  constructor
  · intro diagnostic
    refine ⟨diagnostic.afterSeverity, diagnostic.written_eq, ?_⟩
    rw [Emitter.output_emit_new, diagnostic.emitted_false_eq]
  · intro emitter diagnostics
    simp only [Emitter.emitAll_eq_write, Emitter.write,
      Emitter.output_emit_new]

end DocCheck
