import DocTag.Proofs.CommandLine.Endings
import DocTag.Proofs.Json.RoundTrip

/-!
# Descriptions, read back

A run that describes its part writes one line, and whoever reads the line as JSON has everything
there is to say of the part (`described_output_reads_back`). A description names the kind, the raw
text and the span, so it is that of one part only (`Part.describe_inj`), and two runs that were
asked for different parts never write the same line.
-/

namespace DocTag

theorem PartKind.word_inj {a b : PartKind} (h : a.word = b.word) : a = b := by
  have hword : PartKind.ofWord? a.word = some b := PartKind.ofWord?_eq_some_iff.2 h
  rw [PartKind.ofWord?_eq_some_iff.2 rfl] at hword
  exact Option.some.inj hword

theorem Part.spanJson_inj {a b : Span} (h : spanJson a = spanJson b) : a = b := by
  obtain ⟨start, stop⟩ := a
  obtain ⟨start', stop'⟩ := b
  simpa [spanJson] using h

/-- **A description is that of one part only.** -/
theorem Part.describe_inj {a b : Part} (h : a.describe = b.describe) : a = b := by
  have hmembers := Json.object.inj h
  simp only [List.cons_append, List.cons.injEq, Prod.mk.injEq, Json.string.injEq, true_and]
    at hmembers
  obtain ⟨hkind, hraw, -, hspan, -⟩ := hmembers
  exact Part.eq_iff.2 ⟨PartKind.word_inj hkind, hraw, spanJson_inj hspan⟩

namespace CommandLine

/-- Whether a run prints the description of a part: its exit code is zero, and it was not asked for
help. -/
def Outcome.PrintsDescription (o : Outcome) : Prop := o.exitCode = .ok 0 ∧ o ≠ .help

variable {inv : Invocation} {ctx : Context}

/-- A run that prints a description prints that of the part of its request, on a line. -/
theorem Ending.output_of_printsDescription {o : Outcome} (hending : Ending inv ctx o)
    (h : o.PrintsDescription) :
    ∃ r raw, parse inv.argv = .ok r ∧ r.raw? inv.input = some raw ∧
      o.output = (r.part raw).describe.print ++ ['\n'] := by
  obtain ⟨hcode, hhelp⟩ := h
  cases hending with
  | help hparse => exact absurd rfl hhelp
  | refused hparse => simp [Outcome.exitCode] at hcode
  | invalidSettings hparse hsettings => simp [Outcome.exitCode] at hcode
  | textless hparse hsettings hraw => simp [Outcome.exitCode] at hcode
  | rejected hparse hsettings hraw hchecks hfound => simp [Outcome.exitCode] at hcode
  | described hparse hsettings hraw hkeeps hwritable => exact ⟨_, _, hparse, hraw, rfl⟩
  | unwritable hparse hsettings hraw hkeeps hwritable => simp [Outcome.exitCode] at hcode

/-- The line that a description stands on is read as the description. -/
theorem read_describe_line (part : Part) :
    Json.read (part.describe.print ++ ['\n']) = some part.describe := by
  apply Json.read_print
  intro c hc
  rw [List.mem_singleton.1 hc]
  rfl

/-- **A description is read back from what is printed.** A run that prints a description prints one
line, with no control character before its end, that is read as the description of the part made of
the kind, the raw text and the offset that the run was asked for. No run that was asked for another
kind, raw text or offset prints the same. -/
theorem described_output_reads_back (h : (run inv ctx).1.PrintsDescription) :
    ∃ r raw part, parse inv.argv = .ok r ∧ r.raw? inv.input = some raw ∧
      Part.build false r.kind raw (Span.covering raw r.start) = (.ok part, []) ∧
      (∃ line, (run inv ctx).1.output = line ++ ['\n'] ∧ Json.Visible line) ∧
      Json.read (run inv ctx).1.output = some part.describe ∧
      ∀ {inv' ctx' r'}, (run inv' ctx').1.PrintsDescription → parse inv'.argv = .ok r' →
        (run inv' ctx').1.output = (run inv ctx).1.output →
          r'.kind = r.kind ∧ r'.raw? inv'.input = some raw ∧ r'.start = r.start := by
  obtain ⟨r, raw, hparse, hraw, houtput⟩ := (ending inv ctx).output_of_printsDescription h
  have hread : Json.read (run inv ctx).1.output = some (r.part raw).describe := by
    rw [houtput, read_describe_line]
  refine ⟨r, raw, r.part raw, hparse, hraw, rfl, ⟨_, houtput, Json.visible_print _⟩, hread, ?_⟩
  intro inv' ctx' r' h' hparse' hsame
  obtain ⟨found, raw', hfound, hraw', houtput'⟩ :=
    (ending inv' ctx').output_of_printsDescription h'
  obtain rfl : r' = found := Except.ok.inj (hparse'.symm.trans hfound)
  -- Both outputs are read as the description of their own part.
  have hdescriptions : (r'.part raw').describe = (r.part raw).describe := by
    rw [← hsame, houtput', read_describe_line] at hread
    exact Option.some.inj hread
  have hpart := Part.describe_inj hdescriptions
  have hsameRaw : raw' = raw := congrArg Part.raw hpart
  refine ⟨congrArg Part.kind hpart, hsameRaw ▸ hraw', ?_⟩
  exact Int.ofNat.inj (congrArg (fun part => part.span.start) hpart)

/-- The description of an optional name with a default is read back from what is printed. -/
theorem described_output_reads_back_name :
    (run ⟨["name".toList, "[a=1]".toList, "--start".toList, "7".toList], [], none⟩
        (Context.start [] none)).1.PrintsDescription ∧
      Json.read (run ⟨["name".toList, "[a=1]".toList, "--start".toList, "7".toList], [], none⟩
        (Context.start [] none)).1.output =
          some (Part.describe (.of .name "[a=1]".toList ⟨7, 12⟩)) := by
  have hparse : parse ["name".toList, "[a=1]".toList, "--start".toList, "7".toList] =
      .ok ⟨.name, .text "[a=1]".toList, 7, false⟩ := by
    decide +kernel
  have hrun : (run ⟨["name".toList, "[a=1]".toList, "--start".toList, "7".toList], [], none⟩
      (Context.start [] none)).1 = .described (.of .name "[a=1]".toList ⟨7, 12⟩) [] := by
    decide +kernel
  have hprints : (run ⟨["name".toList, "[a=1]".toList, "--start".toList, "7".toList], [], none⟩
      (Context.start [] none)).1.PrintsDescription := by
    rw [hrun]
    exact ⟨rfl, Outcome.noConfusion⟩
  obtain ⟨r, raw, part, hrequest, hraw, hbuilt, -, hread, -⟩ := described_output_reads_back hprints
  obtain rfl : ⟨.name, .text "[a=1]".toList, 7, false⟩ = r :=
    Except.ok.inj (hparse.symm.trans hrequest)
  obtain rfl : "[a=1]".toList = raw := Option.some.inj hraw
  obtain rfl : .of .name "[a=1]".toList ⟨7, 12⟩ = part :=
    Except.ok.inj (congrArg Prod.fst hbuilt)
  exact ⟨hprints, hread⟩

end CommandLine

end DocTag
