import DocTag.Proofs.Settings.Ranks
import Mathlib.Data.List.Nodup

/-!
# Settings from several sources

Settings are the values that decide their fields, each read by its rule. If one of them cannot be
read, or a name is left over that nothing is read from, there is one failure instead, with just that
to say (`Sources.Wrong`). Values of a lower rank are never read, nor are the variables of the
environment that are no field's, nor what is said of one field for the other
(`resolve_follows_sources`).

The names of the file are all looked at, and a plain name beside that of the variable is left over
even where its source comes first. So the sources are not asked in turn (`Sources.AskedInTurn`).
-/

namespace DocTag

/-! ## Reading what decides -/

/-- What a rule makes of a value, or the default where there is none. -/
def Field.readBy {α : Type} (rule : Json → Except Problem α) (default : α) :
    Option Json → Except Problem α
  | none => .ok default
  | some value => rule value

theorem Field.readBy_eq_error {α : Type} {rule : Json → Except Problem α} {default : α}
    {value? : Option Json} {problem : Problem} (h : readBy rule default value? = .error problem) :
    ∃ value, rule value = .error problem := by
  cases value? with
  | none => cases h
  | some value => exact ⟨value, h⟩

theorem Field.readWith_eq {α : Type} (f : Field) (s : Sources) (rule : Json → Except Problem α)
    (default : α) :
    f.readWith s rule default =
      (readBy rule default (f.value? s)).mapError fun problem => ⟨f.location s, problem⟩ := by
  rw [readWith, deciding_eq]
  cases f.value? s with
  | none => rfl
  | some value =>
    rw [readBy]
    cases h : rule value <;> simp [h, Except.mapError]

theorem Json.readTruth_error {value : Json} {problem : Problem}
    (h : value.readTruth = .error problem) : problem = .noTruthValue ∨ problem = .notTruthLike := by
  unfold readTruth at h
  grind

theorem Json.readText_error {value : Json} {problem : Problem}
    (h : value.readText = .error problem) : problem = .notText := by
  cases value <;> cases h <;> rfl

namespace Sources

def strictReading (s : Sources) : Except Problem Bool :=
  Field.readBy Json.readTruth true (Field.strictParts.value? s)

def levelReading (s : Sources) : Except Problem Text :=
  Field.readBy Json.readText "info".toList (Field.logLevel.value? s)

theorem strictParts_eq (s : Sources) :
    s.strictParts = s.strictReading.mapError fun problem =>
      ⟨Field.strictParts.location s, problem⟩ :=
  Field.readWith_eq Field.strictParts s Json.readTruth true

theorem logLevel_eq (s : Sources) :
    s.logLevel = s.levelReading.mapError fun problem => ⟨Field.logLevel.location s, problem⟩ :=
  Field.readWith_eq Field.logLevel s Json.readText "info".toList

theorem problem_of_strictReading {s : Sources} {problem : Problem}
    (h : s.strictReading = .error problem) : problem = .noTruthValue ∨ problem = .notTruthLike := by
  obtain ⟨value, hvalue⟩ := Field.readBy_eq_error h
  exact Json.readTruth_error hvalue

theorem problem_of_levelReading {s : Sources} {problem : Problem}
    (h : s.levelReading = .error problem) : problem = .notText := by
  obtain ⟨value, hvalue⟩ := Field.readBy_eq_error h
  exact Json.readText_error hvalue

/-! ## What is wrong with sources -/

/-- A name that nothing is read from. -/
inductive Leaves (s : Sources) (name : Text) : Prop
  /-- An argument that is no field's. -/
  | argument : name ∈ s.arguments.map Prod.fst → (∀ f : Field, f.isNamedBy name = false) →
    Leaves s name
  /-- A variable of the file, in small letters, that is no field's and not empty. -/
  | inFile (other value : Text) : Text.lower other = name → s.inFile? other = some value →
    value ≠ [] → (∀ f : Field, f.isNamedBy name = false) → Leaves s name
  /-- The plain name of a field that is read under the name of its variable. -/
  | field (f : Field) : name = f.name → f.LeavesName s → Leaves s name

/-- What is wrong with the sources. -/
inductive Wrong (s : Sources) : Issue → Prop
  /-- The value that decides whether parts are checked cannot be read. -/
  | strictParts {problem : Problem} : s.strictReading = .error problem →
    Wrong s ⟨Field.strictParts.location s, problem⟩
  /-- The value that decides the level of the log cannot be read. -/
  | logLevel {problem : Problem} : s.levelReading = .error problem →
    Wrong s ⟨Field.logLevel.location s, problem⟩
  /-- A name is left over. -/
  | name {name : Text} : s.Leaves name → Wrong s ⟨name, .extraName⟩

theorem mem_leftover {s : Sources} {name : Text} : name ∈ s.leftover ↔ s.Leaves name := by
  rw [leftover, List.mem_eraseDups, List.mem_append, List.mem_append, mem_unknownArguments,
    mem_unknownVariables, List.mem_flatMap]
  constructor
  · rintro ((⟨hmem, hnone⟩ | ⟨hnone, other, value, hlower, hvalue, hne⟩) | ⟨f, -, hunread⟩)
    · exact .argument hmem hnone
    · exact .inFile other value hlower hvalue hne hnone
    · rw [Field.deciding_eq, Field.mem_unread] at hunread
      exact .field f hunread.1 hunread.2
  · rintro (⟨hmem, hnone⟩ | ⟨other, value, hlower, hvalue, hne, hnone⟩ | ⟨f, hname, hleaves⟩)
    · exact .inl (.inl ⟨hmem, hnone⟩)
    · exact .inl (.inr ⟨hnone, other, value, hlower, hvalue, hne⟩)
    · refine .inr ⟨f, by cases f <;> decide, ?_⟩
      rw [Field.deciding_eq, Field.mem_unread]
      exact ⟨hname, hleaves⟩

/-- The issue with a value that cannot be read. -/
def issueAt {α : Type} (location : Text) : Except Problem α → List Issue
  | .ok _ => []
  | .error problem => [⟨location, problem⟩]

theorem mem_issueAt {α : Type} {location : Text} {reading : Except Problem α} {issue : Issue} :
    issue ∈ issueAt location reading ↔
      ∃ problem, reading = .error problem ∧ issue = ⟨location, problem⟩ := by
  cases reading <;> simp [issueAt]

theorem nodup_issueAt {α : Type} (location : Text) (reading : Except Problem α) :
    (issueAt location reading).Nodup := by
  cases reading
  · exact List.nodup_singleton _
  · exact List.nodup_nil

theorem issues_eq (s : Sources) :
    s.issues = issueAt (Field.strictParts.location s) s.strictReading ++
      (issueAt (Field.logLevel.location s) s.levelReading ++
        s.leftover.map fun name => ⟨name, .extraName⟩) := by
  rw [issues, strictParts_eq, logLevel_eq, List.append_assoc]
  cases s.strictReading <;> cases s.levelReading <;> rfl

theorem mem_issues {s : Sources} {issue : Issue} : issue ∈ s.issues ↔ s.Wrong issue := by
  rw [issues_eq, List.mem_append, List.mem_append, mem_issueAt, mem_issueAt, List.mem_map]
  constructor
  · rintro (⟨problem, hreading, rfl⟩ | ⟨problem, hreading, rfl⟩ | ⟨name, hname, rfl⟩)
    · exact .strictParts hreading
    · exact .logLevel hreading
    · exact .name (mem_leftover.1 hname)
  · rintro (hreading | hreading | hname)
    · exact .inl ⟨_, hreading, rfl⟩
    · exact .inr (.inl ⟨_, hreading, rfl⟩)
    · exact .inr (.inr ⟨_, mem_leftover.2 hname, rfl⟩)

/-- No issue comes up twice: the problem tells the two fields and the names apart. -/
theorem nodup_issues (s : Sources) : s.issues.Nodup := by
  have hnames : (s.leftover.map fun name => (⟨name, .extraName⟩ : Issue)).Nodup :=
    List.Nodup.map (fun _ _ h => congrArg Issue.location h) (nodup_eraseDups _)
  rw [issues_eq, List.nodup_append, List.nodup_append]
  refine ⟨nodup_issueAt _ _, ⟨nodup_issueAt _ _, hnames, ?_⟩, ?_⟩
  · intro issue hlevel other hname
    obtain ⟨problem, hreading, rfl⟩ := mem_issueAt.1 hlevel
    obtain ⟨name, -, rfl⟩ := List.mem_map.1 hname
    rw [problem_of_levelReading hreading]
    intro h
    cases congrArg Issue.problem h
  · intro issue hstrict other hrest
    obtain ⟨problem, hreading, rfl⟩ := mem_issueAt.1 hstrict
    have hother : other.problem = .notText ∨ other.problem = .extraName := by
      rcases List.mem_append.1 hrest with hlevel | hname
      · obtain ⟨problem, hreading, rfl⟩ := mem_issueAt.1 hlevel
        exact .inl (problem_of_levelReading hreading)
      · obtain ⟨name, -, rfl⟩ := List.mem_map.1 hname
        exact .inr rfl
    rintro rfl
    rcases problem_of_strictReading hreading with rfl | rfl <;>
      rcases hother with hother | hother <;> cases hother

theorem resolve_eq_ok {s : Sources} {settings : Settings} :
    Settings.resolve s = .ok settings ↔ s.strictReading = .ok settings.strictParts ∧
      s.levelReading = .ok settings.logLevel ∧ ∀ name, ¬s.Leaves name := by
  have hleaves : (∀ name, ¬s.Leaves name) ↔ s.leftover = [] := by
    simp only [← mem_leftover, List.eq_nil_iff_forall_not_mem]
  obtain ⟨strict, level⟩ := settings
  rw [hleaves, Settings.resolve, strictParts_eq, logLevel_eq]
  cases s.strictReading <;> cases s.levelReading <;> cases s.leftover <;>
    simp [Except.mapError]

theorem resolve_eq_error {s : Sources} {issues : List Issue}
    (h : Settings.resolve s = .error issues) : issues = s.issues ∧ issues ≠ [] := by
  have hissues : issues = s.issues := by
    unfold Settings.resolve at h
    split at h
    · cases h
    · exact (Except.error.inj h).symm
  refine ⟨hissues, ?_⟩
  rintro rfl
  obtain ⟨settings, hok⟩ := Settings.resolve_eq_ok_iff.2 hissues.symm
  rw [hok] at h
  cases h

/-! ## What changes nothing -/

theorem resolve_congr {s t : Sources} (hdeciding : ∀ f : Field, f.deciding s = f.deciding t)
    (harguments : s.unknownArguments = t.unknownArguments)
    (hvariables : s.unknownVariables = t.unknownVariables) :
    Settings.resolve s = Settings.resolve t := by
  have hstrict : s.strictParts = t.strictParts := by
    rw [strictParts, Field.readWith, hdeciding]
    rfl
  have hlevel : s.logLevel = t.logLevel := by
    rw [logLevel, Field.readWith, hdeciding]
    rfl
  have hleftover : s.leftover = t.leftover := by
    rw [leftover, leftover, harguments, hvariables]
    simp only [hdeciding]
  rw [Settings.resolve, Settings.resolve, issues, issues, hstrict, hlevel, hleftover]

theorem isSome_argument? (arguments : Bindings Json) (name : Text) :
    (Field.argument? arguments name).isSome =
      (arguments.map Prod.fst).any fun other => Text.lower other == Text.lower name := by
  rw [Field.argument?, Option.isSome_map, List.isSome_find?, List.any_map]
  rfl

theorem spelledKey?_eq (f : Field) (arguments : Bindings Json) :
    f.spelledKey? arguments =
      f.keys.find? fun key => (arguments.map Prod.fst).any fun other => other == key := by
  unfold Field.spelledKey?
  congr 1
  funext key
  rw [Bindings.get?_eq_find?, Option.isSome_map, List.isSome_find?, List.any_map]
  rfl

/-- Sources that have the same names in the same places, with whatever values: only in the file it
matters which names have a value, and of a name that is no field's, whether it is empty. -/
structure SameNames (s t : Sources) : Prop where
  arguments : s.arguments.map Prod.fst = t.arguments.map Prod.fst
  environment : s.environment.map Prod.fst = t.environment.map Prod.fst
  file : Bindings.mapValues (fun name => outline (Text.lower name)) s.assignments =
    Bindings.mapValues (fun name => outline (Text.lower name)) t.assignments

theorem SameNames.outline_fileVariables {s t : Sources} (h : SameNames s t) :
    Bindings.mapValues outline s.fileVariables = Bindings.mapValues outline t.fileVariables := by
  rw [mapValues_outline_fileVariables, mapValues_outline_fileVariables, h.file]

theorem SameNames.sameNames {s t : Sources} (h : SameNames s t) (f : Field) : f.SameNames s t where
  spelled := by rw [spelledKey?_eq, spelledKey?_eq, h.arguments]
  arguments _ _ := by rw [isSome_argument?, isSome_argument?, h.arguments]
  environment _ _ := by rw [isSome_inEnvironment?, isSome_inEnvironment?, h.environment]
  file _ _ := by rw [isSome_inFile?, isSome_inFile?, h.outline_fileVariables]

/-- Under the same names only the values that decide count. -/
theorem resolve_of_sameNames {s t : Sources} (h : SameNames s t)
    (hvalue : ∀ f : Field, f.value? s = f.value? t) :
    Settings.resolve s = Settings.resolve t := by
  refine resolve_congr (fun f => (h.sameNames f).deciding_eq (hvalue f)) ?_ ?_
  · rw [unknownArguments, unknownArguments, h.arguments]
  · rw [unknownVariables_eq, unknownVariables_eq, h.outline_fileVariables]

theorem filter_isNamedBy (f : Field) (environment : Bindings Text) :
    (environment.filter fun entry => f.isNamedBy entry.1) =
      (environment.filter fun entry => Field.all.any fun f => f.isNamedBy entry.1).filter
        fun entry => f.isNamedBy entry.1 := by
  rw [List.filter_filter]
  apply List.filter_congr
  intro entry _
  cases h : f.isNamedBy entry.1 with
  | false => rfl
  | true =>
    have hall : f ∈ Field.all := by cases f <;> decide
    have hany : (Field.all.any fun f => f.isNamedBy entry.1) = true :=
      List.any_eq_true.2 ⟨f, hall, h⟩
    rw [hany]
    rfl

/-- The variables of the environment that are no field's count for nothing. -/
theorem resolve_of_environment {s : Sources} {environment : Bindings Text}
    (h : (environment.filter fun entry => Field.all.any fun f => f.isNamedBy entry.1) =
      s.environment.filter fun entry => Field.all.any fun f => f.isNamedBy entry.1) :
    Settings.resolve { s with environment := environment } = Settings.resolve s := by
  have hsame : ∀ f : Field, f.SameIn { s with environment := environment } s :=
    fun f => ⟨rfl, by rw [filter_isNamedBy, h, ← filter_isNamedBy], rfl⟩
  exact resolve_congr (fun f => (hsame f).sameNames.deciding_eq (hsame f).value?_eq) rfl rfl

end Sources

/-! ## What sources lead to -/

open Sources in
/-- **What some sources lead to.** -/
structure FollowsSources (s : Sources) : Prop where
  /-- Settings are the values that decide, each read by its rule, where no name is left over. -/
  accepts : ∀ settings, Settings.resolve s = .ok settings ↔
    s.strictReading = .ok settings.strictParts ∧ s.levelReading = .ok settings.logLevel ∧
      ∀ name, ¬s.Leaves name
  /-- Otherwise everything that is wrong is an issue, once, and there is no other. -/
  rejects : ∀ issues, Settings.resolve s = .error issues →
    issues ≠ [] ∧ issues.Nodup ∧ ∀ issue, issue ∈ issues ↔ s.Wrong issue
  /-- No value counts but those that decide. -/
  shadowed : ∀ t, s.SameNames t → (∀ f : Field, f.value? s = f.value? t) →
    Settings.resolve s = Settings.resolve t
  /-- No variable of the environment counts that is no field's. -/
  unknown : ∀ environment : Bindings Text,
    ((environment.filter fun entry => Field.all.any fun f => f.isNamedBy entry.1) =
      s.environment.filter fun entry => Field.all.any fun f => f.isNamedBy entry.1) →
    Settings.resolve { s with environment := environment } = Settings.resolve s
  /-- Nothing counts for a field but what stands under its own names. -/
  independent : ∀ (f : Field) (t : Sources), f.SameIn s t →
    f.value? s = f.value? t ∧ f.location s = f.location t ∧ (f.LeavesName s ↔ f.LeavesName t)

/-- **Settings follow their sources**, whatever these hold. -/
theorem resolve_follows_sources (s : Sources) : FollowsSources s := by
  constructor
  case accepts =>
    intro settings
    exact Sources.resolve_eq_ok
  case rejects =>
    intro issues h
    obtain ⟨rfl, hne⟩ := Sources.resolve_eq_error h
    refine ⟨hne, s.nodup_issues, ?_⟩
    intro issue
    exact Sources.mem_issues
  case shadowed =>
    intro t hnames hvalue
    exact Sources.resolve_of_sameNames hnames hvalue
  case unknown =>
    intro environment h
    exact Sources.resolve_of_environment h
  case independent =>
    intro f t h
    refine ⟨h.value?_eq, h.sameNames.location_eq, ?_⟩
    rw [Field.leavesName_iff, Field.leavesName_iff, h.sameNames.unread_eq]

example : Settings.resolve
    ⟨[], [("STRICT_PARTS".toList, "1".toList)], some "JSDOC_STRICT_PARTS=x\n".toList⟩ = .error
      [⟨"JSDOC_STRICT_PARTS".toList, .noTruthValue⟩, ⟨"strict_parts".toList, .extraName⟩] := by
  decide +kernel

/-! ## Asking in turn -/

/-- The value that the file assigns to a name last, whatever the case of its letters. -/
def Sources.inFileLast? (s : Sources) (name : Text) : Option Text :=
  (s.assignments.reverse.find? fun entry => Text.lower entry.1 == Text.lower name).bind Prod.snd

/-- The value of a field in the first source that has any, under whichever of its names. -/
def Field.inTurn? (f : Field) (s : Sources) : Option Json :=
  [argument? s.arguments f.variableName, argument? s.arguments f.name,
    (s.inEnvironment? f.variableName).map .string, (s.inEnvironment? f.name).map .string,
    (s.inFileLast? f.variableName).map .string, (s.inFileLast? f.name).map .string].findSome? id

/-- The rule that asks the sources in turn, and leaves over just the arguments and the names of the
file that are no field's. -/
def Sources.AskedInTurn (s : Sources) : Prop :=
  ∀ settings, Settings.resolve s = .ok settings ↔
    Field.readBy Json.readTruth true (Field.strictParts.inTurn? s) = .ok settings.strictParts ∧
      Field.readBy Json.readText "info".toList (Field.logLevel.inTurn? s) =
        .ok settings.logLevel ∧
      s.unknownArguments = [] ∧
      ∀ entry ∈ s.assignments, (Field.all.any fun f => f.isNamedBy entry.1) = true

/-- **Sources are not asked in turn.** The name of the variable decides even where a source before
it has the plain name, which is then left over; an empty variable of the file is never left over;
and of spellings that differ in case the one counts that comes up last, not the last assignment. -/
theorem sources_not_asked_in_turn :
    ¬Sources.AskedInTurn
        ⟨[], [("STRICT_PARTS".toList, "1".toList)], some "JSDOC_STRICT_PARTS=0\n".toList⟩ ∧
      ¬Sources.AskedInTurn ⟨[], [], some "FOO= # bar\n".toList⟩ ∧
      ¬Sources.AskedInTurn ⟨[], [], some "LOG_LEVEL=a\nlog_level=b\nLOG_LEVEL=c\n".toList⟩ := by
  refine ⟨?_, ?_, ?_⟩
  · intro h
    have hok := (h ⟨true, "info".toList⟩).2 (by decide +kernel)
    revert hok
    decide +kernel
  · intro h
    have hnamed := (h ⟨true, "info".toList⟩).1 (by decide +kernel)
    revert hnamed
    decide +kernel
  · intro h
    have hlast := (h ⟨true, "b".toList⟩).1 (by decide +kernel)
    revert hlast
    decide +kernel

end DocTag
