import DocTag.Proofs.Part.Construction
import DocTag.Proofs.Text.Splitting

/-!
# How names are written

A name stands on its own, or in brackets, which make it optional, and in brackets it may be followed
by an equals sign and a default value (`NameForm.Writes`). The two flags of a name tell these three
forms apart.

Each way to write a name in one of the forms is accepted and read back, whatever blank characters
stand around the name in its brackets and whatever the default value looks like
(`NameForm.Writes.reads`). And each text that is accepted as a name is written in one of the forms
(`exists_writes`), which its flags tell, so in no other (`names_have_one_form`).
-/

namespace DocTag

namespace Part

variable {part : Part}

/-- A part is optional when it is a name that opens and closes with a bracket. -/
theorem isOptional_iff :
    part.isOptional = true ↔
      part.kind = .name ∧ (∃ rest, part.raw = '[' :: rest) ∧
        ∃ front, part.raw = front ++ [']'] := by
  rw [part.optional_eq, standsInBrackets, Bool.and_eq_true, Bool.and_eq_true, beq_iff_eq,
    beq_iff_eq, beq_iff_eq, List.head?_eq_some_iff, List.getLast?_eq_some_iff, and_assoc]

/-- An optional name has a default when its raw text has an equals sign. -/
theorem hasDefault_iff :
    part.hasDefault = true ↔ part.isOptional = true ∧ '=' ∈ part.raw := by
  rw [part.default_eq, Bool.and_eq_true, List.contains_iff_mem]

theorem inner_enclosed (first last : Char) (inside : Text) :
    inner (first :: inside ++ [last]) = inside := by
  rw [inner, List.cons_append, List.drop_one, List.tail_cons, List.dropLast_concat]

/-- The two brackets of an optional name are not the same character. -/
theorem isOptional_iff_enclosed {raw : Text} {span : Span} :
    (Part.of .name raw span).isOptional = true ↔ ∃ inside, raw = '[' :: inside ++ [']'] := by
  rw [isOptional_iff]
  constructor
  · rintro ⟨-, ⟨rest, hrest⟩, front, hfront⟩
    have hends : '[' :: rest = front ++ [']'] := hrest.symm.trans hfront
    cases front with
    | nil => exact absurd (List.cons.inj hends).1 (by decide)
    | cons c inside =>
      obtain ⟨rfl, -⟩ := List.cons.inj hends
      exact ⟨inside, hfront⟩
  · rintro ⟨inside, rfl⟩
    exact ⟨rfl, ⟨inside ++ [']'], rfl⟩, '[' :: inside, rfl⟩

theorem isOptional_enclosed (inside : Text) (span : Span) :
    (Part.of .name ('[' :: inside ++ [']']) span).isOptional = true :=
  isOptional_iff_enclosed.2 ⟨inside, rfl⟩

theorem parsed_enclosed (inside : Text) (span : Span) :
    (Part.of .name ('[' :: inside ++ [']']) span).parsed =
      Text.trim (Text.cut '=' (Text.trim inside)).1 := by
  simp only [parsed, of_kind, of_raw]
  rw [if_pos (isOptional_enclosed inside span), inner_enclosed]

/-- Without an equals sign, all that stands in the brackets is the name. -/
theorem parsed_of_free {inside : Text} (span : Span) (h : '=' ∉ inside) :
    (Part.of .name ('[' :: inside ++ [']']) span).parsed = Text.trim inside := by
  have hfree : '=' ∉ Text.trim inside := fun hmem => h (Text.mem_of_mem_trim hmem)
  rw [parsed_enclosed, Text.cut_of_not_mem hfree, Text.isTrimmed_eq.1 (Text.isTrimmed_trim inside)]

/-- The first equals sign ends the name, so the text is cut there whatever is trimmed behind it. -/
theorem parsed_of_equals {front : Text} (value : Text) (span : Span) (h : '=' ∉ front) :
    (Part.of .name ('[' :: (front ++ '=' :: value) ++ [']']) span).parsed = Text.trim front := by
  have hfree : '=' ∉ Text.trimLeft front := fun hmem => h (List.dropWhile_subset _ hmem)
  rw [parsed_enclosed, Text.trim_append_cons front value (by decide), Text.cut_append _ hfree,
    Text.trim_trimLeft]

end Part

/-! ## Forms -/

/-- The forms in which a name is written. -/
inductive NameForm
  /-- On its own. -/
  | bare
  /-- In brackets. -/
  | bracketed
  /-- In brackets, with a default value. -/
  | defaulted

namespace NameForm

def isOptional : NameForm → Bool
  | bare => false
  | bracketed => true
  | defaulted => true

def hasDefault : NameForm → Bool
  | bare => false
  | bracketed => false
  | defaulted => true

theorem eq_of_flags {form other : NameForm} (hoptional : form.isOptional = other.isOptional)
    (hdefault : form.hasDefault = other.hasDefault) : form = other := by
  cases form <;> cases other <;> simp_all [isOptional, hasDefault]

/-- **What is written for a name** in each form. A name on its own does not look like one in
brackets, and a name in brackets has no equals sign. The default value can be anything at all. -/
inductive Writes : NameForm → Text → Text → Prop
  | bare {name : Text} (trimmed : Text.isTrimmed name = true)
      (unenclosed : ∀ inside, name ≠ '[' :: inside ++ [']']) : Writes .bare name name
  | bracketed {before name after : Text} (hbefore : Text.blank before = true)
      (hafter : Text.blank after = true) (trimmed : Text.isTrimmed name = true)
      (free : '=' ∉ name) : Writes .bracketed name ('[' :: (before ++ name ++ after) ++ [']'])
  | defaulted {before name after : Text} (value : Text) (hbefore : Text.blank before = true)
      (hafter : Text.blank after = true) (trimmed : Text.isTrimmed name = true)
      (free : '=' ∉ name) :
      Writes .defaulted name ('[' :: (before ++ name ++ after ++ '=' :: value) ++ [']'])

variable {form : NameForm} {name raw : Text}

/-- No blank character is an equals sign. -/
theorem not_mem_padded {before after : Text} (hbefore : Text.blank before = true)
    (hafter : Text.blank after = true) (h : '=' ∉ name) : '=' ∉ before ++ name ++ after := by
  have hequals : isBlank '=' = false := by decide
  simp [h, Text.not_mem_of_blank hbefore hequals, Text.not_mem_of_blank hafter hequals]

theorem Writes.isTrimmed (h : form.Writes name raw) : Text.isTrimmed raw = true := by
  have henclosed : ∀ inside, Text.isTrimmed ('[' :: inside ++ [']']) = true := fun inside =>
    Text.isTrimmed_enclosed inside (by decide) (by decide)
  cases h with
  | bare trimmed => exact trimmed
  | bracketed => exact henclosed _
  | defaulted => exact henclosed _

/-- **What is written in a form is read back**, and its flags tell the form. -/
theorem Writes.reads (h : form.Writes name raw) (span : Span) :
    (Part.of .name raw span).parsed = name ∧
      (Part.of .name raw span).isOptional = form.isOptional ∧
      (Part.of .name raw span).hasDefault = form.hasDefault := by
  cases h with
  | bare trimmed unenclosed =>
    have hbare : (Part.of .name name span).isOptional = false := by
      rw [← Bool.not_eq_true, Part.isOptional_iff_enclosed]
      rintro ⟨inside, hinside⟩
      exact unenclosed inside hinside
    refine ⟨?_, hbare, ?_⟩
    · simp only [Part.parsed, Part.of_kind, Part.of_raw]
      rw [hbare, if_neg Bool.false_ne_true]
    · rw [Part.default_eq, hbare]
      rfl
  | @bracketed before _ after hbefore hafter trimmed free =>
    have hfree := not_mem_padded hbefore hafter free
    refine ⟨?_, Part.isOptional_enclosed _ span, ?_⟩
    · rw [Part.parsed_of_free span hfree, Text.trim_padded hbefore hafter trimmed]
    · have hraw : '=' ∉ '[' :: (before ++ name ++ after) ++ [']'] := by
        simpa using hfree
      show _ = false
      rw [← Bool.not_eq_true, Part.hasDefault_iff]
      exact fun hdefault => hraw hdefault.2
  | @defaulted before _ after value hbefore hafter trimmed free =>
    refine ⟨?_, Part.isOptional_enclosed _ span, ?_⟩
    · rw [Part.parsed_of_equals value span (not_mem_padded hbefore hafter free),
        Text.trim_padded hbefore hafter trimmed]
    · have hraw : '=' ∈ '[' :: (before ++ name ++ after ++ '=' :: value) ++ [']'] := by simp
      exact Part.hasDefault_iff.2 ⟨Part.isOptional_enclosed _ span, hraw⟩

/-- **Each trimmed text is written in a form**, for the name that it says. -/
theorem exists_writes (h : Text.isTrimmed raw = true) (span : Span) :
    ∃ form, Writes form (Part.of .name raw span).parsed raw := by
  by_cases henclosed : ∃ inside, raw = '[' :: inside ++ [']']
  · obtain ⟨inside, rfl⟩ := henclosed
    by_cases hequals : '=' ∈ inside
    · obtain ⟨front, value, rfl, hfree⟩ := List.eq_append_cons_of_mem hequals
      obtain ⟨before, after, hfront, hbefore, hafter⟩ := Text.exists_padding front
      have hwrites := Writes.defaulted value hbefore hafter (Text.isTrimmed_trim front)
        fun hmem => hfree (Text.mem_of_mem_trim hmem)
      rw [← hfront] at hwrites
      rw [Part.parsed_of_equals value span hfree]
      exact ⟨.defaulted, hwrites⟩
    · obtain ⟨before, after, hinside, hbefore, hafter⟩ := Text.exists_padding inside
      have hwrites := Writes.bracketed hbefore hafter (Text.isTrimmed_trim inside)
        fun hmem => hequals (Text.mem_of_mem_trim hmem)
      rw [← hinside] at hwrites
      rw [Part.parsed_of_free span hequals]
      exact ⟨.bracketed, hwrites⟩
  · have hwrites : Writes .bare raw raw := .bare h fun inside hinside => henclosed ⟨inside, hinside⟩
    rw [(hwrites.reads span).1]
    exact ⟨.bare, hwrites⟩

end NameForm

/-- **Names have one form.** Where parts are checked, each way to write a name is accepted and read
back, with the flags of its form; and each text that is accepted as a name is written in one form
only, for the name that it says. -/
theorem names_have_one_form {ctx : Context} (hstrict : ctx.isStrict.1 = .ok true) (raw : Text)
    (span : Span) :
    (∀ form name, NameForm.Writes form name raw → ∃ part,
      (ctx.construct .name raw span).1.1 = .ok part ∧ part.parsed = name ∧
        part.isOptional = form.isOptional ∧ part.hasDefault = form.hasDefault) ∧
    ∀ part, (ctx.construct .name raw span).1.1 = .ok part →
      ∃ form, NameForm.Writes form part.parsed raw ∧
        part.isOptional = form.isOptional ∧ part.hasDefault = form.hasDefault ∧
        ∀ other name, NameForm.Writes other name raw → other = form ∧ name = part.parsed := by
  have haccepted : ∀ part, (ctx.construct .name raw span).1.1 = .ok part ↔
      part = .of .name raw span ∧ ∀ rule ∈ PartKind.name.rules, rule.holds raw = true :=
    fun _ => Context.construct_checked_iff hstrict
  constructor
  · intro form name hwrites
    have hrules : ∀ rule ∈ PartKind.name.rules, rule.holds raw = true :=
      List.forall_mem_singleton.2 hwrites.isTrimmed
    exact ⟨_, (haccepted _).2 ⟨rfl, hrules⟩, hwrites.reads span⟩
  · intro part hpart
    obtain ⟨rfl, hrules⟩ := (haccepted part).1 hpart
    have htrimmed : Text.isTrimmed raw = true := hrules .isTrimmed List.mem_cons_self
    obtain ⟨form, hwrites⟩ := NameForm.exists_writes htrimmed span
    obtain ⟨-, hoptional, hdefault⟩ := hwrites.reads span
    refine ⟨form, hwrites, hoptional, hdefault, ?_⟩
    intro other name hother
    obtain ⟨hname, hoptional', hdefault'⟩ := hother.reads span
    exact ⟨NameForm.eq_of_flags (hoptional'.symm.trans hoptional)
      (hdefault'.symm.trans hdefault), hname.symm⟩

/-- A default value that has brackets and an equals sign of its own. -/
theorem names_have_one_form_defaulted :
    let ctx : Context := (Context.start [] none).under (some true)
    let raw : Text := "[ n = [1=2] ]".toList
    ctx.isStrict.1 = .ok true ∧ NameForm.Writes .defaulted "n".toList raw ∧
      ∃ part, (ctx.construct .name raw (Span.empty 0)).1.1 = .ok part ∧
        part.parsed = "n".toList ∧ part.isOptional = true ∧ part.hasDefault = true := by
  intro ctx raw
  have hstrict : ctx.isStrict.1 = .ok true := rfl
  have hwrites : NameForm.Writes .defaulted "n".toList raw :=
    @NameForm.Writes.defaulted [' '] ['n'] [' '] " [1=2] ".toList rfl rfl (by decide) (by decide)
  exact ⟨hstrict, hwrites, (names_have_one_form hstrict raw (Span.empty 0)).1 _ _ hwrites⟩

end DocTag
