import DocTag.Proofs.Part.Construction
import DocTag.Proofs.Text.Quotation
import DocTag.Proofs.Text.Splitting

/-!
# What messages and parts say

The message for a violation opens with the kind and the rule, up to the first comma, and ends in the
quoted text (`Violation.message_eq`), so it is that of one violation only (`Violation.message_inj`),
and the text is read off it without knowing which rule was broken (`Violation.readRaw_message`).

A part with its fields named is told apart from every other one in the same way: by its label, its
quoted text and the numbers of its span (`Part.fieldsText_inj`). The flags of a name add nothing,
since its text decides them.
-/

namespace DocTag

/-! ## Messages -/

/-- A text is cut at its first mark in one way only. -/
theorem Text.append_mark_inj {mark : Char} {s t after after' : Text} (hs : mark ∉ s)
    (ht : mark ∉ t) (h : s ++ mark :: after = t ++ mark :: after') : s = t ∧ after = after' := by
  have hcut := cut_append after hs
  rw [h, cut_append after' ht, Prod.mk.injEq, Option.some.injEq] at hcut
  exact ⟨hcut.1.symm, hcut.2.symm⟩

theorem PartKind.label_inj {a b : PartKind} (h : a.label = b.label) : a = b := by
  revert h
  cases a <;> cases b <;> decide +kernel

/-- A label is made of letters. -/
theorem PartKind.not_mem_label (kind : PartKind) {mark : Char} (h : mark.isAlpha = false) :
    mark ∉ kind.label := by
  have hletters : kind.label.all Char.isAlpha = true := by cases kind <;> decide +kernel
  intro hmem
  exact Bool.false_ne_true (h.symm.trans (List.all_eq_true.1 hletters mark hmem))

theorem PartKind.isShown_label (kind : PartKind) : kind.label.IsShown := by
  apply Text.isShown_of_isAscii
  cases kind <;> decide +kernel

theorem Rule.text_inj {a b : Rule} (h : a.text = b.text) : a = b := by
  revert h
  cases a <;> cases b <;> decide +kernel

theorem Rule.isShown_text (rule : Rule) : rule.text.IsShown := by
  apply Text.isShown_of_isAscii
  cases rule <;> decide +kernel

namespace Violation

/-- What a message says before it quotes the text. -/
def heading (v : Violation) : Text := v.kind.label ++ ':' :: ' ' :: v.rule.text

theorem message_eq (v : Violation) :
    v.message = v.heading ++ ',' :: (" got ".toList ++ Text.quote v.raw) := by
  have hcolon : ": ".toList = [':', ' '] := by decide +kernel
  have hgot : ", got ".toList = ',' :: " got ".toList := by decide +kernel
  rw [message, heading, hcolon, hgot]
  simp only [List.append_assoc, List.cons_append, List.nil_append]

/-- A heading has no comma, so the first comma of a message ends it. -/
theorem comma_not_mem_heading (v : Violation) : ',' ∉ v.heading := by
  have hlabel : ',' ∉ v.kind.label := v.kind.not_mem_label (by decide)
  have hrule : ',' ∉ v.rule.text := by cases v.rule <;> decide +kernel
  simp [heading, hlabel, hrule]

/-- A label has no colon, so the first colon of a heading ends it. -/
theorem heading_inj {v w : Violation} (h : v.heading = w.heading) :
    v.kind = w.kind ∧ v.rule = w.rule := by
  have hfree : ∀ kind : PartKind, ':' ∉ kind.label := fun kind => kind.not_mem_label (by decide)
  obtain ⟨hlabel, hrest⟩ := Text.append_mark_inj (hfree v.kind) (hfree w.kind) h
  exact ⟨PartKind.label_inj hlabel, Rule.text_inj (List.cons.inj hrest).2⟩

/-- Reads the text off a message: what is quoted after the first comma. -/
def readRaw (message : Text) : Option Text :=
  (Text.cut ',' message).2.bind fun rest =>
    (Text.readQuoted (rest.drop " got ".toList.length)).map Prod.fst

/-- The text is read off a message that has been put after something without a comma. -/
theorem readRaw_append {front : Text} (v : Violation) (h : ',' ∉ front) :
    readRaw (front ++ v.message) = some v.raw := by
  have hfree : ',' ∉ front ++ v.heading := by simp [h, v.comma_not_mem_heading]
  have hread := Text.readQuoted_quote v.raw []
  rw [List.append_nil] at hread
  rw [readRaw, message_eq, ← List.append_assoc, Text.cut_append _ hfree]
  show (Text.readQuoted _).map _ = _
  rw [List.drop_left, hread]
  rfl

/-- **The text is read off the message.** -/
theorem readRaw_message (v : Violation) : readRaw v.message = some v.raw :=
  v.readRaw_append List.not_mem_nil

/-- **A message is that of one violation only.** -/
theorem message_inj {v w : Violation} (h : v.message = w.message) : v = w := by
  have hraw : v.raw = w.raw := by
    have hread := v.readRaw_message
    rw [h, readRaw_message, Option.some.injEq] at hread
    exact hread.symm
  rw [message_eq, message_eq] at h
  obtain ⟨hheading, -⟩ :=
    Text.append_mark_inj v.comma_not_mem_heading w.comma_not_mem_heading h
  obtain ⟨hkind, hrule⟩ := heading_inj hheading
  obtain ⟨kind, rule, raw⟩ := v
  obtain ⟨kind', rule', raw'⟩ := w
  obtain rfl : kind = kind' := hkind
  obtain rfl : rule = rule' := hrule
  obtain rfl : raw = raw' := hraw
  rfl

/-- **All of a message is shown as it is.** -/
theorem isShown_message (v : Violation) : v.message.IsShown := by
  have hcolon : Text.IsShown ": ".toList := Text.isShown_of_isAscii (by decide +kernel)
  have hgot : Text.IsShown ", got ".toList := Text.isShown_of_isAscii (by decide +kernel)
  exact (((v.kind.isShown_label.append hcolon).append v.rule.isShown_text).append hgot).append
    (Text.isShown_quote v.raw)

/-- **What is told by the message for a violation.** -/
structure IsTold (v : Violation) : Prop where
  /-- No other violation has the message. -/
  alone : ∀ w : Violation, w.message = v.message ↔ w = v
  /-- The message stays on one line. -/
  onLine : v.message.StaysOnLine
  /-- The text is read off the message. -/
  recovered : readRaw v.message = some v.raw

theorem isTold (v : Violation) : v.IsTold where
  alone := fun _ => ⟨message_inj, fun h => h ▸ rfl⟩
  onLine := v.isShown_message.staysOnLine
  recovered := v.readRaw_message

/-- A violation that is found is about the text that was searched. -/
theorem of_find? {kind : PartKind} {raw : Text} {v : Violation}
    (h : Violation.find? kind raw = some v) : v.kind = kind ∧ v.raw = raw := by
  obtain ⟨rule, -, rfl⟩ := find?_eq_some_iff.1 h
  exact ⟨rfl, rfl⟩

end Violation

/-- A part that is refused for a violation is refused for the one that is found in its text. -/
theorem Context.find?_of_construct {ctx : Context} {kind : PartKind} {raw : Text} {span : Span}
    {v : Violation} (h : (ctx.construct kind raw span).1.1 = .error (.violation v)) :
    Violation.find? kind raw = some v := by
  by_cases hkind : kind = .comment
  · subst hkind
    cases h
  · exact ((construct_eq_violation_iff hkind).1 h).2

/-! ## Parts with their fields named -/

/-- A number is written before something that is no more of it in one way only. -/
theorem Text.ofInt_append_inj {a b : Int} {after after' : Text} (ha : Json.EndsNumber after)
    (hb : Json.EndsNumber after') (h : ofInt a ++ after = ofInt b ++ after') :
    a = b ∧ after = after' := by
  have hread := Json.readInt_ofInt a ha
  rw [h, Json.readInt_ofInt b hb, Option.some.injEq, Prod.mk.injEq] at hread
  exact ⟨hread.1.symm, hread.2.symm⟩

/-- A span with its fields named is told by its two numbers. -/
theorem Span.fieldsText_inj {s t : Span} (h : s.fieldsText = t.fieldsText) : s = t := by
  have hbetween : ∀ rest, Json.EndsNumber (", end=".toList ++ rest) := by
    have hmark : ", end=".toList = ',' :: " end=".toList := rfl
    intro rest
    rw [hmark]
    exact Json.endsNumber_mark _ (by decide)
  have hclose : Json.EndsNumber [')'] := by
    refine ⟨?_, rfl⟩
    intro c hc
    rw [← Option.some.inj hc]
    rfl
  unfold fieldsText at h
  simp only [List.append_assoc] at h
  obtain ⟨hstart, hrest⟩ :=
    Text.ofInt_append_inj (hbetween _) (hbetween _) (List.append_cancel_left h)
  have hstop := Text.ofInt_append_inj hclose hclose (List.append_cancel_left hrest)
  obtain ⟨start, stop⟩ := s
  obtain ⟨start', stop'⟩ := t
  obtain rfl : start = start' := hstart
  obtain rfl : stop = stop' := hstop.1
  rfl

namespace Part

/-- How a part with its fields named ends: with the flags of a name. -/
def ending (part : Part) : Text :=
  (if part.kind = .name then
    ", optional=".toList ++ truthText part.isOptional ++
      ", default=".toList ++ truthText part.hasDefault
  else []) ++ [')']

/-- Parts of one kind and text have the same flags. -/
theorem ending_congr {p q : Part} (hkind : p.kind = q.kind) (hraw : p.raw = q.raw) :
    p.ending = q.ending := by
  rw [ending, ending, p.default_eq, q.default_eq, p.optional_eq, q.optional_eq, hkind, hraw]

theorem fieldsText_eq (part : Part) :
    part.fieldsText = part.kind.label ++ '(' :: ("raw=".toList ++ (Text.quote part.raw ++
      (", span=".toList ++ (part.span.fieldsText ++ part.ending)))) := by
  have hopen : "(raw=".toList = '(' :: "raw=".toList := by decide +kernel
  rw [fieldsText, hopen, ending]
  simp only [List.append_assoc, List.cons_append]

/-- **A part with its fields named is one part only.** -/
theorem fieldsText_inj {p q : Part} (h : p.fieldsText = q.fieldsText) : p = q := by
  have hfree : ∀ kind : PartKind, '(' ∉ kind.label := fun kind => kind.not_mem_label (by decide)
  rw [fieldsText_eq, fieldsText_eq] at h
  -- The bracket ends the label, the closing quotation mark ends the text.
  obtain ⟨hlabel, hfields⟩ := Text.append_mark_inj (hfree p.kind) (hfree q.kind) h
  have hkind := PartKind.label_inj hlabel
  obtain ⟨hraw, hrest⟩ := Text.quote_append_inj (List.append_cancel_left hfields)
  have hspans := List.append_cancel_left hrest
  rw [ending_congr hkind hraw] at hspans
  exact eq_iff.2 ⟨hkind, hraw, Span.fieldsText_inj (List.append_cancel_right hspans)⟩

end Part

end DocTag
