import DocTag.Proofs.Comment.Reparsing
import DocTag.Proofs.Part.Names

/-!
# What parts of each kind look like and say

A keyword that is accepted is an at sign and what it says, and a type that is accepted is what it
says in braces, with any blank characters around it. Each kind of part checks its text and reads it
in two different places; here the two come together: a text is accepted and says `t` exactly when it
is written so (`formats_read_back`).

What a part says has no blank characters around it, with one exception: blank characters behind the
at sign of a keyword belong to what it says.
-/

namespace DocTag

/-! ## Comments -/

/-- Trimmed texts with line feeds between them are a trimmed text, if none of them is empty. -/
theorem Text.isTrimmed_joinLines {texts : List Text} (hne : ∀ t ∈ texts, t ≠ [])
    (h : ∀ t ∈ texts, isTrimmed t = true) : isTrimmed (joinLines texts) = true := by
  induction texts with
  | nil => rfl
  | cons t rest ih =>
    obtain ⟨ht, hrest⟩ := List.forall_mem_cons.1 h
    obtain ⟨htne, hrestne⟩ := List.forall_mem_cons.1 hne
    by_cases hnil : rest = []
    · rw [hnil, joinLines_singleton]
      exact ht
    · have hjoined : joinLines rest ≠ [] := mt (joinLines_eq_nil_iff hrestne).1 hnil
      rw [joinLines_cons t hnil, isTrimmed_iff, List.head?_append_of_ne_nil t htne,
        List.getLast?_append_cons, List.getLast?_cons_of_ne_nil hjoined]
      exact ⟨(isTrimmed_iff.1 ht).1, (isTrimmed_iff.1 (ih hrestne hrest)).2⟩

theorem Comment.isTrimmed_parsed (raw : Text) : Text.isTrimmed (Comment.parsed raw) = true := by
  have htidy := Comment.isTidy_parsed raw
  rw [← htidy.joined]
  exact Text.isTrimmed_joinLines htidy.ne_nil htidy.trimmed

/-! ## Parts that are checked -/

/-- In a context, a text is accepted as a part of a kind, and is read as `t`. -/
def Context.Reads (ctx : Context) (kind : PartKind) (raw : Text) (span : Span) (t : Text) : Prop :=
  ∃ part, (ctx.construct kind raw span).1.1 = .ok part ∧ part.parsed = t

namespace Context

variable {ctx : Context} {kind : PartKind} {raw t : Text} {span : Span}

theorem reads_iff (h : ctx.isStrict.1 = .ok true) :
    ctx.Reads kind raw span t ↔
      (∀ rule ∈ kind.rules, rule.holds raw = true) ∧ (Part.of kind raw span).parsed = t := by
  constructor
  · rintro ⟨part, hpart, rfl⟩
    obtain ⟨rfl, hrules⟩ := (construct_checked_iff h).1 hpart
    exact ⟨hrules, rfl⟩
  · rintro ⟨hrules, ht⟩
    exact ⟨_, (construct_checked_iff h).2 ⟨rfl, hrules⟩, ht⟩

/-- A keyword that opens with an at sign is trimmed if it does not end in a blank character behind
it. -/
theorem reads_keyword_iff (h : ctx.isStrict.1 = .ok true) :
    ctx.Reads .keyword raw span t ↔ raw = '@' :: t ∧ ∀ c ∈ t.getLast?, isBlank c = false := by
  have hat : isBlank '@' = false := by decide
  have htrimmed : Text.isTrimmed ('@' :: t) = true ↔ ∀ c ∈ t.getLast?, isBlank c = false := by
    rw [Text.isTrimmed_eq, Text.trim_cons t hat, List.cons_inj_right, Text.trimRight_eq_self_iff]
  rw [reads_iff h]
  constructor
  · rintro ⟨hrules, hreads⟩
    obtain ⟨rest, rfl⟩ := Rule.holds_startsWithAt_iff.1 (hrules .startsWithAt (by decide))
    obtain rfl : rest = t := hreads
    exact ⟨rfl, htrimmed.1 (hrules .isTrimmed (by decide))⟩
  · rintro ⟨rfl, hlast⟩
    refine ⟨?_, rfl⟩
    exact List.forall_mem_cons.2 ⟨rfl, List.forall_mem_singleton.2 (htrimmed.2 hlast)⟩

theorem reads_type_iff (h : ctx.isStrict.1 = .ok true) :
    ctx.Reads .type raw span t ↔
      ∃ inside, raw = '\x7b' :: inside ++ ['\x7d'] ∧ t = Text.trim inside := by
  have hparsed : ∀ inside, (Part.of .type ('\x7b' :: inside ++ ['\x7d']) span).parsed =
      Text.trim inside := by
    intro inside
    simp only [Part.parsed, Part.of_kind, Part.of_raw]
    rw [Part.inner_enclosed]
  rw [reads_iff h]
  constructor
  · rintro ⟨hrules, hreads⟩
    obtain ⟨inside, rfl⟩ := Rule.holds_inBraces_iff.1 (hrules .inBraces (by decide))
    exact ⟨inside, rfl, hreads.symm.trans (hparsed inside)⟩
  · rintro ⟨inside, rfl, rfl⟩
    exact ⟨List.forall_mem_singleton.2 (Rule.holds_inBraces_iff.2 ⟨inside, rfl⟩), hparsed inside⟩

/-- Only what stands behind the at sign of a keyword is not trimmed. -/
theorem isTrimmed_of_reads (h : ctx.isStrict.1 = .ok true) (hkind : kind ≠ .keyword)
    (hreads : ctx.Reads kind raw span t) : Text.isTrimmed t = true := by
  obtain ⟨hrules, rfl⟩ := (reads_iff h).1 hreads
  cases kind with
  | comment => exact Comment.isTrimmed_parsed raw
  | keyword => exact absurd rfl hkind
  | name =>
    simp only [Part.parsed, Part.of_kind, Part.of_raw]
    split
    · exact Text.isTrimmed_trim _
    · exact hrules .isTrimmed List.mem_cons_self
  | type => exact Text.isTrimmed_trim _

end Context

/-! ## Formats -/

/-- **What is accepted and what it says**, in a context where parts are checked. -/
structure PartsReadBack (ctx : Context) (span : Span) : Prop where
  /-- A keyword is an at sign and what it says, which does not end in a blank character. -/
  keyword : ∀ raw t, ctx.Reads .keyword raw span t ↔
    raw = '@' :: t ∧ ∀ c ∈ t.getLast?, isBlank c = false
  /-- A type is anything at all in braces, and says what is left of that when it is trimmed. -/
  type : ∀ raw t, ctx.Reads .type raw span t ↔
    ∃ inside, raw = '\x7b' :: inside ++ ['\x7d'] ∧ t = Text.trim inside
  /-- So it is what it says, in blank characters, in braces. -/
  paddedType : ∀ raw t, ctx.Reads .type raw span t ↔ Text.isTrimmed t = true ∧
    ∃ before after, Text.blank before = true ∧ Text.blank after = true ∧
      raw = '\x7b' :: (before ++ t ++ after) ++ ['\x7d']
  /-- What any other part than a keyword says is trimmed. -/
  trimmed : ∀ kind raw t, kind ≠ .keyword → ctx.Reads kind raw span t → Text.isTrimmed t = true
  /-- What a keyword says is trimmed where no blank character follows its at sign. -/
  trimmedKeyword : ∀ raw t, ctx.Reads .keyword raw span t →
    (Text.isTrimmed t = true ↔ ∀ c rest, raw = '@' :: c :: rest → isBlank c = false)

/-- **Checked parts are read back as they are written.** -/
theorem formats_read_back {ctx : Context} (hstrict : ctx.isStrict.1 = .ok true) (span : Span) :
    PartsReadBack ctx span := by
  constructor
  case keyword => exact fun _ _ => Context.reads_keyword_iff hstrict
  case type => exact fun _ _ => Context.reads_type_iff hstrict
  case paddedType =>
    intro raw t
    rw [Context.reads_type_iff hstrict]
    constructor
    · rintro ⟨inside, rfl, rfl⟩
      obtain ⟨before, after, hinside, hbefore, hafter⟩ := Text.exists_padding inside
      exact ⟨Text.isTrimmed_trim inside, before, after, hbefore, hafter, by rw [← hinside]⟩
    · rintro ⟨htrimmed, before, after, hbefore, hafter, rfl⟩
      exact ⟨_, rfl, (Text.trim_padded hbefore hafter htrimmed).symm⟩
  case trimmed => exact fun _ _ _ => Context.isTrimmed_of_reads hstrict
  case trimmedKeyword =>
    intro raw t hreads
    obtain ⟨rfl, hlast⟩ := (Context.reads_keyword_iff hstrict).1 hreads
    rw [Text.isTrimmed_iff]
    constructor
    · rintro ⟨hhead, -⟩ c rest hraw
      obtain rfl := (List.cons.inj hraw).2
      exact hhead c rfl
    · intro hhead
      refine ⟨?_, hlast⟩
      rintro c hc
      obtain ⟨rest, rfl⟩ := List.head?_eq_some_iff.1 hc
      exact hhead c rest rfl

/-- A keyword whose at sign a blank character follows, and a type whose braces do not match. -/
theorem formats_read_back_odd :
    let ctx : Context := (Context.start [] none).under (some true)
    ctx.isStrict.1 = .ok true ∧
      ctx.Reads .keyword "@ x".toList (Span.empty 0) " x".toList ∧
      ctx.Reads .type "\x7b\x7d a\x7b \x7d".toList (Span.empty 0) "\x7d a\x7b".toList := by
  intro ctx
  have hstrict : ctx.isStrict.1 = .ok true := rfl
  have hformats := formats_read_back hstrict (Span.empty 0)
  have hlast : ∀ c ∈ (" x".toList).getLast?, isBlank c = false := by
    rintro c ⟨⟩
    decide
  have htype : "\x7b\x7d a\x7b \x7d".toList = '\x7b' :: "\x7d a\x7b ".toList ++ ['\x7d'] := rfl
  exact ⟨hstrict, (hformats.keyword _ _).2 ⟨rfl, hlast⟩,
    (hformats.type _ _).2 ⟨_, htype, by decide⟩⟩

end DocTag
