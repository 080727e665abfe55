import DocTag.Proofs.Bindings
import DocTag.Settings.Resolve

/-!
# What each source says

The environment and the environment file, read by themselves: what stands under a name, whatever
the case of its letters, in the entries as they come (`Sources.inEnvironment?`, `Sources.inFile?`).
Settings are resolved through tables of names in small letters, which hold just this
(`Sources.value?_environmentVariables`, `Sources.value?_fileVariables`).

In an environment file the last assignment to a name counts. Where a file has a name in several
cases, the spelling counts that comes up last: assigning again to one that came up before does not
bring it forward.
-/

namespace DocTag.Sources

/-- The value of a variable of the environment, the last one where it is there in several cases. -/
def inEnvironment? (s : Sources) (name : Text) : Option Text :=
  (s.environment.reverse.find? fun entry => Text.lower entry.1 == Text.lower name).map Prod.snd

/-- What the file assigns, one after the other. -/
def assignments (s : Sources) : List (Text × Option Text) :=
  match s.file with
  | some file => (DotEnv.lines file).filterMap DotEnv.Line.binding?
  | none => []

/-- The spelling of a name that comes up last in the file. -/
def spelling? (s : Sources) (name : Text) : Option Text :=
  (s.assignments.map Prod.fst).eraseDups.reverse.find? fun other =>
    Text.lower other == Text.lower name

/-- The value that the file assigns to a name last, in the spelling that comes up last. -/
def inFile? (s : Sources) (name : Text) : Option Text :=
  (s.spelling? name).bind fun spelling => (Bindings.get? s.assignments.reverse spelling).join

/-! ## Names in small letters -/

theorem get?_ofBindings (b : Bindings (Option Text)) (name : Text) :
    (Variables.ofBindings b).get? name =
      (b.reverse.find? fun entry => Text.lower entry.1 == name).map Prod.snd := by
  rw [Variables.ofBindings, Bindings.get?_setAll, Bindings.get?, Option.or_none, ← List.map_reverse,
    Bindings.get?_eq_find?, List.find?_map, Option.map_map]
  rfl

/-- **The table of the environment** has the last value of every name. -/
theorem value?_environmentVariables (s : Sources) (name : Text) :
    s.environmentVariables.value? name = s.inEnvironment? name := by
  rw [Variables.value?, environmentVariables, get?_ofBindings, ← List.map_reverse, List.find?_map,
    inEnvironment?]
  have hsame : ((fun entry : Text × Option Text => Text.lower entry.1 == Text.lower name) ∘
      fun entry : Text × Text => (entry.1, some entry.2)) =
      fun entry => Text.lower entry.1 == Text.lower name := rfl
  rw [hsame]
  cases s.environment.reverse.find? fun entry => Text.lower entry.1 == Text.lower name <;> rfl

theorem fileVariables_eq (s : Sources) :
    s.fileVariables = Variables.ofBindings (Bindings.setAll [] s.assignments) := by
  unfold fileVariables assignments
  cases s.file <;> rfl

/-- In the file as it is read, each spelling stands where it came up first, with its last value. -/
theorem inFile?_eq (s : Sources) (name : Text) :
    s.inFile? name = ((Bindings.setAll [] s.assignments).reverse.find? fun entry =>
      Text.lower entry.1 == Text.lower name).bind Prod.snd := by
  have hspelling : s.spelling? name = ((Bindings.setAll [] s.assignments).reverse.find? fun entry =>
      Text.lower entry.1 == Text.lower name).map Prod.fst := by
    rw [spelling?, ← Bindings.names_setAll, ← List.map_reverse, List.find?_map]
    rfl
  rw [inFile?, hspelling]
  cases hfound : (Bindings.setAll [] s.assignments).reverse.find? fun entry =>
      Text.lower entry.1 == Text.lower name with
  | none => rfl
  | some entry =>
    have hmem : (entry.1, entry.2) ∈ Bindings.setAll [] s.assignments :=
      List.mem_reverse.1 (List.mem_of_find?_eq_some hfound)
    have hget := Bindings.mem_setAll.1 hmem
    rw [Option.map_some, Option.bind_some, hget]
    rfl

/-- **The table of the file** has the value of every name that is assigned to it last. -/
theorem value?_fileVariables (s : Sources) (name : Text) :
    s.fileVariables.value? name = s.inFile? name := by
  rw [fileVariables_eq, Variables.value?, get?_ofBindings, inFile?_eq]
  cases (Bindings.setAll [] s.assignments).reverse.find? fun entry =>
    Text.lower entry.1 == Text.lower name <;> rfl

/-! ## Names that are no field's -/

theorem any_isNamedBy_eq_false {name : Text} :
    (Field.all.any fun f => f.isNamedBy name) = false ↔ ∀ f : Field, f.isNamedBy name = false := by
  rw [Field.all, List.any_cons, List.any_cons, List.any_nil, Bool.or_false, Bool.or_eq_false_iff]
  constructor
  · rintro ⟨hstrict, hlevel⟩ f
    cases f <;> assumption
  · exact fun h => ⟨h .strictParts, h .logLevel⟩

theorem mem_unknownArguments {s : Sources} {name : Text} :
    name ∈ s.unknownArguments ↔
      name ∈ s.arguments.map Prod.fst ∧ ∀ f : Field, f.isNamedBy name = false := by
  rw [unknownArguments, List.mem_filter, Bool.not_eq_true', any_isNamedBy_eq_false]

/-- The table of the file has the names in small letters, each of them once. -/
theorem mem_fileVariables {s : Sources} {name : Text} {value : Option Text} :
    (name, value) ∈ s.fileVariables ↔ s.fileVariables.get? name = some value := by
  rw [fileVariables_eq, Variables.ofBindings, Bindings.mem_setAll, Bindings.get?_setAll,
    Bindings.get?, Option.or_none]

theorem exists_of_mem_fileVariables {s : Sources} {name : Text} {value : Option Text}
    (h : (name, value) ∈ s.fileVariables) : ∃ other, Text.lower other = name := by
  have hname : name ∈ s.fileVariables.map Prod.fst := List.mem_map_of_mem h
  rw [fileVariables_eq, Variables.ofBindings, Bindings.names_setAll, List.mem_eraseDups,
    List.map_map] at hname
  obtain ⟨entry, -, hlower⟩ := List.mem_map.1 hname
  exact ⟨entry.1, hlower⟩

/-- **Unknown variables of the file** are the names, in small letters, that no field has and that
are assigned anything but the empty text. -/
theorem mem_unknownVariables {s : Sources} {name : Text} :
    name ∈ s.unknownVariables ↔ (∀ f : Field, f.isNamedBy name = false) ∧
      ∃ other value, Text.lower other = name ∧ s.inFile? other = some value ∧ value ≠ [] := by
  have hfile : ∀ other, s.inFile? other = (s.fileVariables.get? (Text.lower other)).join :=
    fun other => (value?_fileVariables s other).symm
  rw [unknownVariables, List.mem_filterMap]
  constructor
  · rintro ⟨⟨found, value⟩, hmem, hkept⟩
    obtain ⟨hknown, hname⟩ := Option.ite_none_left_eq_some.1 hkept
    obtain rfl : found = name := Option.some.inj hname
    rw [Bool.not_eq_true, Bool.or_eq_false_iff, any_isNamedBy_eq_false] at hknown
    obtain ⟨other, rfl⟩ := exists_of_mem_fileVariables hmem
    refine ⟨hknown.2, other, ?_⟩
    rw [hfile, mem_fileVariables.1 hmem]
    cases value with
    | none => exact absurd hknown.1 (by decide)
    | some value => exact ⟨value, rfl, rfl, by simpa using hknown.1⟩
  · rintro ⟨hnone, other, value, rfl, hvalue, hne⟩
    rw [hfile, Option.join_eq_some_iff] at hvalue
    refine ⟨(Text.lower other, some value), mem_fileVariables.2 hvalue,
      Option.ite_none_left_eq_some.2 ⟨?_, rfl⟩⟩
    rw [any_isNamedBy_eq_false.2 hnone]
    simpa using hne

/-! ## Entries that matter -/

/-- Only the entries of the environment under a name decide what is found under it. -/
theorem inEnvironment?_congr {s t : Sources} {keep : Text → Bool} {name : Text}
    (hkeep : ∀ other, (Text.lower other == Text.lower name) = true → keep other = true)
    (h : (s.environment.filter fun entry => keep entry.1) =
      t.environment.filter fun entry => keep entry.1) :
    s.inEnvironment? name = t.inEnvironment? name := by
  have hfilter (entries : List (Text × Text)) :=
    Bindings.find?_reverse_filter_of_imp (Text.lower · == Text.lower name) entries hkeep
  rw [inEnvironment?, inEnvironment?, ← hfilter, h, hfilter]

/-- Only the assignments to a name decide what is found under it in the file. -/
theorem inFile?_congr {s t : Sources} {keep : Text → Bool} {name : Text}
    (hkeep : ∀ other, (Text.lower other == Text.lower name) = true → keep other = true)
    (h : (s.assignments.filter fun entry => keep entry.1) =
      t.assignments.filter fun entry => keep entry.1) :
    s.inFile? name = t.inFile? name := by
  have hfilter (entries : List (Text × Option Text)) :=
    Bindings.find?_reverse_filter_of_imp (Text.lower · == Text.lower name) entries hkeep
  rw [inFile?_eq, inFile?_eq, ← hfilter, Bindings.filter_setAll, h, ← Bindings.filter_setAll,
    hfilter]

/-! ## Other values under the same names -/

/-- What matters of an assignment that decides nothing: whether there is a value, and under a name
that is no field's whether it is empty. -/
def outline (name : Text) (value : Option Text) : Option Bool :=
  value.map fun text => !(Field.all.any fun f => f.isNamedBy name) && text.isEmpty

theorem isSome_inEnvironment? (s : Sources) (name : Text) :
    (s.inEnvironment? name).isSome =
      (s.environment.map Prod.fst).any fun other => Text.lower other == Text.lower name := by
  rw [inEnvironment?, Option.isSome_map, List.isSome_find?, List.any_reverse, List.any_map]
  rfl

theorem mapValues_outline_fileVariables (s : Sources) :
    Bindings.mapValues outline s.fileVariables =
      Bindings.setAll [] ((Bindings.setAll []
        (Bindings.mapValues (fun name => outline (Text.lower name)) s.assignments)).map fun entry =>
          (Text.lower entry.1, entry.2)) := by
  rw [fileVariables_eq, Variables.ofBindings, Bindings.mapValues_setAll]
  have hinner := Bindings.mapValues_setAll (fun name => outline (Text.lower name)) [] s.assignments
  rw [show Bindings.mapValues (fun name => outline (Text.lower name)) [] = [] from rfl] at hinner
  rw [← hinner]
  simp only [Bindings.mapValues, List.map_map]
  rfl

theorem isSome_inFile? (s : Sources) (name : Text) :
    (s.inFile? name).isSome =
      ((Bindings.mapValues outline s.fileVariables).get? (Text.lower name)).join.isSome := by
  rw [← value?_fileVariables, Variables.value?, Bindings.get?_mapValues]
  rcases s.fileVariables.get? (Text.lower name) with _ | _ | value <;> rfl

theorem unknownVariables_eq (s : Sources) :
    s.unknownVariables = (Bindings.mapValues outline s.fileVariables).filterMap fun entry =>
      if entry.2.getD true || Field.all.any fun f => f.isNamedBy entry.1 then none
      else some entry.1 := by
  rw [unknownVariables, Bindings.mapValues, List.filterMap_map]
  congr 1
  funext entry
  obtain ⟨name, value⟩ := entry
  have hempty : ∀ known : Bool,
      ((value.map fun text => !known && text.isEmpty).getD true || known) =
        ((value.getD []).isEmpty || known) := by
    intro known
    cases value <;> cases known <;> simp
  simp only [Function.comp, outline, hempty]

end DocTag.Sources
