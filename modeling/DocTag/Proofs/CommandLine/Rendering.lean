import DocTag.Proofs.CommandLine.Description
import DocTag.Proofs.CommandLine.Placement
import DocTag.Proofs.CommandLine.Unchecked
import DocTag.Proofs.Text.Numeral

/-!
# Offsets that can be written

The offset that a command line gives has no more digits than are read (`start_lt_of_parse`), so the
start of a span can always be written. Its end is computed from the start and the length of the raw
text, and may have one digit more. A part that can be made is described exactly when the end of its
span can be written (`run_describes_iff_end_writable`), and otherwise the run breaks off, as it does
for a text of one byte at the last offset (`last_offset_breaks_off`).

A run also breaks off where there is no text to make a part of. That is so behind a second
terminator, whatever flags are given (`second_terminator_breaks_off`).
-/

namespace DocTag.CommandLine

open Numeral (maxDigits)

/-! ## The offset of a request -/

namespace Draft

theorem start_of_giveOperand {d next : Draft} {beside : Bool} {t : Text}
    (h : d.giveOperand beside t = .ok next) : next.start = d.start := by
  unfold giveOperand at h
  split at h
  · split at h
    · exact Except.ok.inj h ▸ rfl
    · cases h
  · exact Except.ok.inj h ▸ rfl
  · exact Except.ok.inj h ▸ rfl

theorem start_lt_of_giveStart {d next : Draft} {t : Text} (h : d.giveStart t = .ok next) :
    next.start < Nat.pow 10 maxDigits := by
  unfold giveStart at h
  split at h
  · next start hread =>
    rw [← Except.ok.inj h]
    exact Numeral.natAbs_lt_of_read (Offset.read_eq_ok_iff.1 hread)
  · cases h
  · cases h

/-- **Taking words keeps the offset within the digits that are read.** -/
theorem start_lt_of_take {d last : Draft} {beside : Bool} {words : List Word}
    (h : d.take beside words = .ok last) (hd : d.start < Nat.pow 10 maxDigits) :
    last.start < Nat.pow 10 maxDigits := by
  -- Only an offset changes the offset, and what ends the command line gives no draft.
  fun_induction Draft.take d beside words with
  | case1 d beside => exact Except.ok.inj h ▸ hd
  | case2 d beside t rest next hgive ih => exact ih h (start_of_giveOperand hgive ▸ hd)
  | case3 d beside t rest stop hgive => cases h
  | case4 d beside rest hbelongs ih => exact ih h hd
  | case5 d beside rest hleft ih => exact ih h hd
  | case6 d beside t rest ih => exact ih h hd
  | case7 d beside rest => cases h
  | case8 d beside rest ih => exact ih h hd
  | case9 d beside value rest next hgive ih => exact ih h (start_lt_of_giveStart hgive)
  | case10 d beside value rest stop hgive => cases h
  | case11 d beside value rest next hgive ih => exact ih h (start_lt_of_giveStart hgive)
  | case12 d beside value rest stop hgive => cases h
  | case13 d beside rest hmissing => cases h
  | case14 d beside flag value rest hflag => cases h

end Draft

theorem pow_maxDigits_pos : 0 < Nat.pow 10 maxDigits := by
  rw [Nat.pow_eq]
  exact Nat.pow_pos (by decide)

/-- **The offset of a request has no more digits than are read.** -/
theorem start_lt_of_parse {argv : List Text} {r : Request} (h : parse argv = .ok r) :
    r.start < Nat.pow 10 maxDigits := by
  have hzero : Draft.blank.start < Nat.pow 10 maxDigits := pow_maxDigits_pos
  unfold parse at h
  split at h
  · cases h
  · next words _ =>
    split at h
    · cases h
    · next d htake =>
      have hstart := Draft.start_lt_of_take htake hzero
      rw [Draft.finish_eq_ok_iff.1 h] at hstart
      exact hstart

/-! ## Spans that can be written -/

/-- The span of a part can be written exactly when its end can. -/
theorem isWritable_covering_iff (t : Text) (start : Nat) :
    (Span.covering t start).isWritable = true ↔ start + t.byteLength < Nat.pow 10 maxDigits := by
  have hstop : (Span.covering t start).stop.natAbs = start + t.byteLength := rfl
  have hstart : (Span.covering t start).start.natAbs = start := rfl
  rw [Span.isWritable, hstop, hstart, Bool.and_eq_true, decide_eq_true_eq, decide_eq_true_eq]
  exact and_iff_right_of_imp (Nat.lt_of_le_of_lt (Nat.le_add_right _ _))

/-- What is read of a description holds the two ends of the span. -/
theorem span_mem_describe (part : Part) : ∃ members, part.describe = .object members ∧
    ("span".toList, .array [.int part.span.start, .int part.span.stop]) ∈ members := by
  refine ⟨_, rfl, List.mem_append_left _ ?_⟩
  exact .tail _ (.tail _ (.tail _ (.head _)))

/-! ## Runs -/

section Runs

variable {inv : Invocation} {ctx : Context} {r : Request} {s : Settings} {raw : Text} {part : Part}

/-- A part that can be made, as the settings and the request say, is described if its span can be
written, and otherwise the run breaks off. -/
theorem run_of_build (hparse : parse inv.argv = .ok r) (hsettings : (settingsFor inv ctx).1 = .ok s)
    (hraw : r.raw? inv.input = some raw)
    (hmade : Part.build (r.checks s) r.kind raw (Span.covering raw r.start) = (.ok part, [])) :
    (part.span.isWritable = true ∧ ∃ log, (run inv ctx).1 = .described part log) ∨
      (part.span.isWritable = false ∧
        (run inv ctx).1 = .brokenOff .unwritable (warningsFor inv ctx)) := by
  have hattempt : r.attempt inv.input s = (.ok part, []) := by
    rw [r.attempt_of_raw s hraw, Context.attempt, hmade]
  rw [run_fst_of_ok hparse hsettings, hattempt]
  cases hwritable : part.span.isWritable with
  | true =>
    rw [conclude_of_writable _ hwritable]
    exact .inl ⟨rfl, _, rfl⟩
  | false =>
    rw [conclude_of_unwritable _ hwritable]
    exact .inr ⟨rfl, congrArg (Outcome.brokenOff .unwritable) (List.append_nil _)⟩

/-- **What becomes of a part that can be made**, as far as the offset has a say in it. -/
structure RendersSpan (inv : Invocation) (ctx : Context) (r : Request) (raw : Text) (part : Part) :
    Prop where
  /-- The offset itself can be written. -/
  start : r.start < Nat.pow 10 maxDigits
  /-- The span begins at the offset and covers the raw text. -/
  span : part.span = ⟨r.start, r.start + raw.byteLength⟩
  /-- The run ends with an exit code exactly when the end of the span can be written. -/
  ends : (run inv ctx).1.exitCode = .ok 0 ↔
    r.start + raw.byteLength < Nat.pow 10 maxDigits
  /-- Then both ends of the span can be read from the line that is printed. -/
  prints : r.start + raw.byteLength < Nat.pow 10 maxDigits →
    (run inv ctx).1.output = part.describe.print ++ ['\n'] ∧
      ∃ members, Json.read (run inv ctx).1.output = some (.object members) ∧
        ("span".toList, .array [.int r.start, .int (r.start + raw.byteLength)]) ∈
          members
  /-- Otherwise the run breaks off with nothing but its warnings shown. -/
  breaksOff : Nat.pow 10 maxDigits ≤ r.start + raw.byteLength →
    (run inv ctx).1 = .brokenOff .unwritable (warningsFor inv ctx)

/-- A part that can be made is described exactly when the end of its span can be written. -/
theorem rendersSpan_of_build (hparse : parse inv.argv = .ok r)
    (hsettings : (settingsFor inv ctx).1 = .ok s) (hraw : r.raw? inv.input = some raw)
    (hmade : Part.build (s.strictParts && !r.noStrict) r.kind raw (Span.covering raw r.start) =
      (.ok part, [])) : RendersSpan inv ctx r raw part := by
  have hspan : part.span = Span.covering raw r.start :=
    congrArg Part.span (Part.build_eq_ok hmade).1
  have hwritable := isWritable_covering_iff raw r.start
  rw [← hspan] at hwritable
  have hstart := start_lt_of_parse hparse
  rcases run_of_build hparse hsettings hraw hmade with ⟨hcan, log, hrun⟩ | ⟨hcannot, hrun⟩
  · have hend := hwritable.1 hcan
    constructor
    case start => exact hstart
    case span => exact hspan
    case ends => exact iff_of_true (congrArg Outcome.exitCode hrun) hend
    case prints =>
      intro _
      obtain ⟨members, hdescribe, hmem⟩ := span_mem_describe part
      have houtput : (run inv ctx).1.output = part.describe.print ++ ['\n'] :=
        congrArg Outcome.output hrun
      rw [hspan] at hmem
      refine ⟨houtput, members, ?_, hmem⟩
      rw [houtput, read_describe_line, hdescribe]
    case breaksOff => exact fun hlarge => absurd hend (Nat.not_lt.2 hlarge)
  · have hend : ¬ r.start + raw.byteLength < Nat.pow 10 maxDigits := fun h =>
      Bool.false_ne_true (hcannot.symm.trans (hwritable.2 h))
    constructor
    case start => exact hstart
    case span => exact hspan
    case ends =>
      refine iff_of_false (fun hcode => ?_) hend
      rw [hrun] at hcode
      cases hcode
    case prints => exact fun h => absurd h hend
    case breaksOff => exact fun _ => hrun

/-- **A run describes its part exactly when there is a text to make it of and the end of its span
can be written**, whatever the command line, the input, the settings and the context are, as far as
the part can be made. -/
theorem run_describes_iff_end_writable (hparse : parse inv.argv = .ok r)
    (hsettings : (settingsFor inv ctx).1 = .ok s) :
    (r.raw? inv.input = none →
      (run inv ctx).1 = .brokenOff .noText (warningsFor inv ctx)) ∧
    ∀ {raw part}, r.raw? inv.input = some raw →
      Part.build (s.strictParts && !r.noStrict) r.kind raw (Span.covering raw r.start) =
        (.ok part, []) →
      RendersSpan inv ctx r raw part :=
  ⟨run_of_textless hparse hsettings, rendersSpan_of_build hparse hsettings⟩

/-- A comment of two bytes, well below the last offset. -/
theorem run_describes_iff_end_writable_comment :
    parse ["comment".toList, "é".toList, "--start=7".toList] =
        .ok ⟨.comment, .text "é".toList, 7, false⟩ ∧
      (settingsFor ⟨["comment".toList, "é".toList, "--start=7".toList], [], none⟩
        (Context.start [] none)).1 = .ok Settings.default ∧
      Part.build true .comment "é".toList ⟨7, 9⟩ = (.ok (.of .comment "é".toList ⟨7, 9⟩), []) ∧
      RendersSpan ⟨["comment".toList, "é".toList, "--start=7".toList], [], none⟩
        (Context.start [] none) ⟨.comment, .text "é".toList, 7, false⟩ "é".toList
        (.of .comment "é".toList ⟨7, 9⟩) := by
  have hparse : parse ["comment".toList, "é".toList, "--start=7".toList] =
      .ok ⟨.comment, .text "é".toList, 7, false⟩ := by
    decide +kernel
  exact ⟨hparse, rfl, rfl, (run_describes_iff_end_writable hparse rfl).2 rfl rfl⟩

end Runs

/-! ## A second terminator -/

/-- **A second terminator behind the word for a kind leaves no text**, whatever groups of flags
stand in front, and the run breaks off. -/
theorem second_terminator_breaks_off {groups : List Group} {kind : PartKind} {d : Draft}
    {input : Text} {settings : Option Settings} {ctx : Context} {s : Settings}
    (hgroups : Group.applyAll groups .blank = .ok d)
    (hsettings : (settingsFor ⟨groups.flatMap Group.arguments ++
      [kind.word, Word.terminatorText, Word.terminatorText], input, settings⟩ ctx).1 = .ok s) :
    (run ⟨groups.flatMap Group.arguments ++
        [kind.word, Word.terminatorText, Word.terminatorText], input, settings⟩ ctx).1 =
      .brokenOff .noText (warningsFor ⟨groups.flatMap Group.arguments ++
        [kind.word, Word.terminatorText, Word.terminatorText], input, settings⟩ ctx) := by
  have hparse := parse_terminated groups kind Word.terminatorText
  rw [hgroups] at hparse
  exact run_of_textless hparse hsettings rfl

/-! ## The last offset -/

/-- A command line for a comment of one byte, at an offset. -/
def byteComment (offset : Nat) : Invocation :=
  ⟨["comment".toList, "x".toList, "--start=".toList ++ Text.ofNat offset], [], none⟩

theorem parse_byteComment {offset : Nat} (h : offset < Nat.pow 10 maxDigits) :
    parse (byteComment offset).argv = .ok ⟨.comment, .text "x".toList, offset, false⟩ :=
  parse_canonicalArguments .comment (some ⟨Text.ofNat offset, offset, Offset.read_ofNat h⟩) false
    (by decide)

/-- The last offset that is read is accepted, and a comment can be made there; but the end of its
span has one digit too many, and the run breaks off. -/
theorem last_offset_breaks_off :
    Offset.read (Text.ofNat (Nat.pow 10 maxDigits - 1)) = .ok (Nat.pow 10 maxDigits - 1) ∧
      (∃ part, Part.build true .comment "x".toList
        (Span.covering "x".toList (Nat.pow 10 maxDigits - 1 : Nat)) = (.ok part, [])) ∧
      (run (byteComment (Nat.pow 10 maxDigits - 1)) (Context.start [] none)).1 =
        .brokenOff .unwritable [] := by
  have hlast := Nat.sub_add_cancel pow_maxDigits_pos
  generalize Nat.pow 10 maxDigits - 1 = offset at hlast
  have hfits : offset < Nat.pow 10 maxDigits := Nat.lt_of_lt_of_eq (Nat.lt_succ_self offset) hlast
  refine ⟨Offset.read_ofNat hfits, ⟨_, rfl⟩, ?_⟩
  have hsettings : (settingsFor (byteComment offset) (Context.start [] none)).1 =
      .ok Settings.default := rfl
  rcases run_of_build (parse_byteComment hfits) hsettings rfl rfl with ⟨hcan, -⟩ | ⟨-, hrun⟩
  · exact absurd ((not_isWritable_of_last hlast).symm.trans hcan) Bool.false_ne_true
  · exact hrun

end DocTag.CommandLine
