import DocTag.Proofs.CommandLine.Shapes
import DocTag.Proofs.Part.Messages

/-!
# Reports of refused texts

A run that refuses the text of its part says so on one line, which is the last line that it writes
to the error output (`getLast?_lines_linesAt`). Nothing in the text can end that line or be taken
for another text, so whoever reads the line has the text (`Ending.reports`).

With what is known of messages and of parts with their fields named, this says that no quoted text
is ever ambiguous (`quoted_texts_are_unambiguous`).
-/

namespace DocTag

/-- A line feed ends the lines of what is before it. -/
theorem Text.lines_append (s t : Text) :
    lines (s ++ '\n' :: t) = lines (s ++ ['\n']) ++ lines t := by
  induction s using segmentInduction with
  | free s hfree =>
    rw [lines_append_lineFeed t hfree, lines_append_lineFeed [] hfree]
    rfl
  | feed segment rest hfree ih =>
    rw [List.append_assoc, List.append_assoc, List.cons_append, List.cons_append,
      lines_append_lineFeed _ hfree, lines_append_lineFeed _ hfree, ih]
    rfl

namespace CommandLine

/-- What is written on a line after some events is the last line. -/
theorem getLast?_lines_linesAt (timestamp : Text) (events : List Event) {line : Text}
    (h : '\n' ∉ line) :
    (Text.lines (linesAt timestamp events ++ (line ++ ['\n']))).getLast? = some line := by
  induction events with
  | nil =>
    show (Text.lines (line ++ ['\n'])).getLast? = some line
    rw [Text.lines_append_lineFeed [] h]
    rfl
  | cons event later ih =>
    have hevent : linesAt timestamp (event :: later) ++ (line ++ ['\n']) =
        event.line timestamp ++ '\n' :: (linesAt timestamp later ++ (line ++ ['\n'])) := by
      rw [linesAt, List.flatMap_cons]
      simp only [List.append_assoc, List.cons_append, List.nil_append]
      rfl
    rw [hevent, Text.lines_append, List.getLast?_append, ih, Option.some_or]

/-- The line that reports a violation. -/
def reportLine (v : Violation) : Text := "error: ".toList ++ v.message

theorem reportLine_staysOnLine (v : Violation) : (reportLine v).StaysOnLine := by
  have hopen : Text.IsShown "error: ".toList := Text.isShown_of_isAscii (by decide +kernel)
  exact (hopen.append v.isShown_message).staysOnLine

theorem readRaw_reportLine (v : Violation) : Violation.readRaw (reportLine v) = some v.raw :=
  v.readRaw_append (by decide +kernel)

/-- **How a run reports the text that it refuses**, at a time. -/
structure Reports (inv : Invocation) (o : Outcome) (v : Violation) (timestamp : Text) : Prop where
  /-- The violation is one of the kind and of the text that were asked for. -/
  about : ∃ r, parse inv.argv = .ok r ∧ v.kind = r.kind ∧ r.raw? inv.input = some v.raw
  /-- After the log, the report is one line. -/
  written : o.errorOutput timestamp = linesAt timestamp o.log ++ (reportLine v ++ ['\n'])
  /-- Nothing in it could be taken for the end of the line. -/
  onLine : (reportLine v).StaysOnLine
  /-- It is the last line. -/
  last : (Text.lines (o.errorOutput timestamp)).getLast? = some (reportLine v)
  /-- The text is read off the line. -/
  recovered : Violation.readRaw (reportLine v) = some v.raw

theorem Ending.reports {inv : Invocation} {ctx : Context} {v : Violation} {log : List Event}
    (hending : Ending inv ctx (.rejected v log)) (timestamp : Text) :
    Reports inv (.rejected v log) v timestamp := by
  have hwritten : (Outcome.rejected v log).errorOutput timestamp =
      linesAt timestamp log ++ (reportLine v ++ ['\n']) := rfl
  refine ⟨?_, hwritten, reportLine_staysOnLine v, ?_, readRaw_reportLine v⟩
  · cases hending with
    | rejected hparse hsettings hraw hchecks hfound =>
      obtain ⟨hkind, htext⟩ := Violation.of_find? hfound
      exact ⟨_, hparse, hkind, htext ▸ hraw⟩
  · rw [hwritten]
    exact getLast?_lines_linesAt timestamp log (reportLine_staysOnLine v).not_mem_lineFeed

/-- **Quoted texts are unambiguous and stay on one line.** The message for a violation is that of no
other kind, rule or text, and the text is read off it. A part is refused with the message for its
own kind and text, and so is the part of a run, which reports it on a single line. And two parts
with their fields named look the same only if they are the same. -/
theorem quoted_texts_are_unambiguous :
    (∀ v : Violation, v.IsTold) ∧
    (∀ (ctx : Context) (kind : PartKind) (raw : Text) (span : Span) (v : Violation),
      (ctx.construct kind raw span).1.1 = .error (.violation v) → v.kind = kind ∧ v.raw = raw) ∧
    (∀ (inv : Invocation) (ctx : Context) (v : Violation) (log : List Event) (timestamp : Text),
      (run inv ctx).1 = .rejected v log → Reports inv (run inv ctx).1 v timestamp) ∧
    ∀ p q : Part, p.fieldsText = q.fieldsText ↔ p = q := by
  refine ⟨Violation.isTold, ?_, ?_, fun _ _ => ⟨Part.fieldsText_inj, fun h => h ▸ rfl⟩⟩
  · intro ctx kind raw span v hrefused
    exact Violation.of_find? (Context.find?_of_construct hrefused)
  · intro inv ctx v log timestamp hrejected
    have hending := ending inv ctx
    rw [hrejected] at hending ⊢
    exact hending.reports timestamp

/-- A text with a quotation mark, a line feed and what looks like the end of a message. -/
theorem quoted_texts_are_unambiguous_keyword :
    let inv : Invocation := ⟨["kind".toList, "it's\n, got 'x'".toList], [], none⟩
    let o := (run inv (Context.start [] none)).1
    (∃ v log, o = .rejected v log) ∧
      (Text.lines (o.errorOutput [])).getLast? =
        some "error: TagKindPart: must start with '@', got \"it's\\n, got 'x'\"".toList := by
  intro inv o
  have hrejected : o = .rejected ⟨.keyword, .startsWithAt, "it's\n, got 'x'".toList⟩
      [.record (.preconditionFailed .keyword .startsWithAt 14)] := by
    decide +kernel
  have hreports := quoted_texts_are_unambiguous.2.2.1 inv (Context.start [] none) _ _ [] hrejected
  have hline : reportLine ⟨.keyword, .startsWithAt, "it's\n, got 'x'".toList⟩ =
      "error: TagKindPart: must start with '@', got \"it's\\n, got 'x'\"".toList := by
    decide +kernel
  exact ⟨⟨_, _, hrejected⟩, hline ▸ hreports.last⟩

end CommandLine

end DocTag
