import DocTag.Proofs.Settings.Sources
import Mathlib.Data.List.Find

/-!
# Ranks of values

Which value decides a field is a matter of rank (`Field.ranked`). Arguments come first, under either
name of the field. After them the name matters more than the source: the environment and the file
under the name of the variable come before the two of them under the plain name.

The sources are put together name by name, and this is what comes of it (`Field.deciding_eq`): the
value of the first rank decides, and the plain name of the field is left over where it is left
unread beside the name of the variable (`Field.LeavesName`).
-/

namespace DocTag.Field

/-! ## What decides a field -/

/-- The values that the sources have for a field, in the order in which they count. -/
def ranked (f : Field) (s : Sources) : List (Option Json) :=
  [argument? s.arguments f.variableName, argument? s.arguments f.name,
    (s.inEnvironment? f.variableName).map .string, (s.inFile? f.variableName).map .string,
    (s.inEnvironment? f.name).map .string, (s.inFile? f.name).map .string]

/-- The value that decides a field, if any source has one. -/
def value? (f : Field) (s : Sources) : Option Json := (f.ranked s).findSome? id

/-- Whether a value stands under the name of the variable of a field, as that of every argument does
that is not spelled as the field is. -/
def isUnderVariable (f : Field) (s : Sources) : Bool :=
  ((f.ranked s).take 4).any Option.isSome

/-- The name that the value of a field is found under. -/
def location (f : Field) (s : Sources) : Text :=
  (f.spelledKey? s.arguments).getD (if f.isUnderVariable s then f.variableName else f.name)

/-- Whether variables have a field under its plain name, and not under that of its variable. -/
def isNamedOnly (f : Field) (lookup : Text → Option Text) : Bool :=
  (lookup f.variableName).isNone && (lookup f.name).isSome

/-- The plain name of a field is left unread: a value stands under the name of its variable, the
environment or the file has it under its plain name only, and no argument is spelled as the field
is, which would take the place of both. -/
structure LeavesName (f : Field) (s : Sources) : Prop where
  notSpelled : f.spelledKey? s.arguments = none
  underVariable : f.isUnderVariable s = true
  underName : f.isNamedOnly s.inEnvironment? = true ∨ f.isNamedOnly s.inFile? = true

/-- The plain name of a field where variables have it under that name only. -/
def nameOnly (f : Field) (lookup : Text → Option Text) : List Text :=
  if f.isNamedOnly lookup then [f.name] else []

/-- The plain name of a field, once for each source that has it left unread. -/
def unread (f : Field) (s : Sources) : List Text :=
  if (f.spelledKey? s.arguments).isSome || !f.isUnderVariable s then []
  else f.nameOnly s.inEnvironment? ++ f.nameOnly s.inFile?

theorem mem_unread {f : Field} {s : Sources} {name : Text} :
    name ∈ f.unread s ↔ name = f.name ∧ f.LeavesName s := by
  rw [unread, List.mem_ite_nil_left, List.mem_append, nameOnly, nameOnly, List.mem_ite_nil_right,
    List.mem_ite_nil_right, List.mem_singleton, Bool.or_eq_true, not_or, Bool.not_eq_true,
    Option.isSome_eq_false_iff, Option.isNone_iff_eq_none, Bool.not_eq_true, Bool.not_eq_false']
  constructor
  · rintro ⟨⟨hspelled, hvariable⟩, ⟨hname, rfl⟩ | ⟨hname, rfl⟩⟩
    · exact ⟨rfl, hspelled, hvariable, .inl hname⟩
    · exact ⟨rfl, hspelled, hvariable, .inr hname⟩
  · rintro ⟨rfl, hspelled, hvariable, hname⟩
    exact ⟨⟨hspelled, hvariable⟩, hname.imp (⟨·, rfl⟩) (⟨·, rfl⟩)⟩

theorem leavesName_iff {f : Field} {s : Sources} : f.LeavesName s ↔ f.name ∈ f.unread s := by
  rw [mem_unread]
  exact (and_iff_right rfl).symm

theorem findSome?_id_cons {α : Type} (a : Option α) (rest : List (Option α)) :
    (a :: rest).findSome? id = a.or (rest.findSome? id) := by
  cases a <;> rfl

theorem value?_eq (f : Field) (s : Sources) :
    f.value? s = ((argument? s.arguments f.variableName).or (argument? s.arguments f.name)).or
      (((s.inEnvironment? f.variableName).map .string).or
        (((s.inFile? f.variableName).map .string).or
          (((s.inEnvironment? f.name).map .string).or ((s.inFile? f.name).map .string)))) := by
  simp only [value?, ranked, findSome?_id_cons, List.findSome?_nil, Option.or_none, Option.or_assoc]

theorem isUnderVariable_eq (f : Field) (s : Sources) :
    f.isUnderVariable s =
      (((argument? s.arguments f.variableName).or (argument? s.arguments f.name)).isSome ||
        (s.inEnvironment? f.variableName).isSome || (s.inFile? f.variableName).isSome) := by
  simp only [isUnderVariable, ranked, List.take_succ_cons, List.take_zero, List.any_cons,
    List.any_nil, Option.isSome_map, Option.isSome_or, Bool.or_false, Bool.or_assoc]

/-! ## Findings -/

theorem name_ne_variableName (f : Field) : f.name ≠ f.variableName := by
  cases f <;> decide

theorem inArguments?_eq (f : Field) (arguments : Bindings Json) :
    f.inArguments? arguments =
      ((argument? arguments f.variableName).or (argument? arguments f.name)).map fun value =>
        ⟨(f.spelledKey? arguments).getD f.variableName, value⟩ := by
  unfold inArguments? keys
  rw [List.findSome?_cons, List.findSome?_cons]
  cases argument? arguments f.variableName <;> cases argument? arguments f.name <;> rfl

/-- What variables say of a field. -/
def found (f : Field) (lookup : Text → Option Text) : Option Finding :=
  ((lookup f.variableName).map fun text => ⟨f.variableName, .string text⟩).or
    ((lookup f.name).map fun text => ⟨f.name, .string text⟩)

theorem inVariables?_eq (f : Field) (v : Variables) : f.inVariables? v = f.found v.value? := by
  unfold inVariables? keys found
  rw [List.findSome?_cons, List.findSome?_cons]
  cases v.value? f.variableName <;> cases v.value? f.name <;> rfl

theorem filter_found_key (f : Field) (lookup : Text → Option Text) :
    ((f.found lookup).toList.filter fun finding => finding.key == f.variableName) =
      ((lookup f.variableName).map fun text => ⟨f.variableName, .string text⟩).toList := by
  unfold found
  cases lookup f.variableName <;> cases lookup f.name <;> simp [f.name_ne_variableName]

theorem filter_found_not_key (f : Field) (lookup : Text → Option Text) :
    ((f.found lookup).toList.filter fun finding => !finding.key == f.variableName) =
      if f.isNamedOnly lookup then
        ((lookup f.name).map fun text => ⟨f.name, .string text⟩).toList
      else [] := by
  unfold found isNamedOnly
  cases lookup f.variableName <;> cases lookup f.name <;> simp [f.name_ne_variableName]

theorem map_key_found (f : Field) (lookup : Text → Option Text) :
    ((f.found lookup).toList.filter fun finding => !finding.key == f.variableName).map
      Finding.key = f.nameOnly lookup := by
  rw [filter_found_not_key]
  unfold nameOnly isNamedOnly
  cases lookup f.variableName <;> cases lookup f.name <;> rfl

theorem findings_eq (f : Field) (s : Sources) :
    f.findings s = (f.inArguments? s.arguments).toList ++ (f.found s.inEnvironment?).toList ++
      (f.found s.inFile?).toList := by
  have henvironment : s.environmentVariables.value? = s.inEnvironment? :=
    funext s.value?_environmentVariables
  have hfile : s.fileVariables.value? = s.inFile? := funext s.value?_fileVariables
  rw [findings, inVariables?_eq, inVariables?_eq, henvironment, hfile]
  cases f.inArguments? s.arguments <;> cases f.found s.inEnvironment? <;>
    cases f.found s.inFile? <;> rfl

/-! ## Which finding decides -/

/-- An argument that is spelled as the field is has a value for it. -/
theorem isSome_argument?_of_spelled {f : Field} {arguments : Bindings Json} {key : Text}
    (h : f.spelledKey? arguments = some key) :
    ((argument? arguments f.variableName).or (argument? arguments f.name)).isSome = true := by
  have hargument : (argument? arguments key).isSome = true := by
    have hget : (arguments.get? key).isSome = true :=
      List.find?_some (p := fun key => (arguments.get? key).isSome) h
    rw [Bindings.get?_eq_find?, Option.isSome_map, List.isSome_find?, List.any_eq_true] at hget
    obtain ⟨entry, hentry, hname⟩ := hget
    rw [argument?, Option.isSome_map, List.isSome_find?, List.any_eq_true]
    exact ⟨entry, hentry, by rw [beq_iff_eq.1 hname, beq_self_eq_true]⟩
  have hkey : key ∈ f.keys := List.mem_of_find?_eq_some h
  rw [keys, List.mem_cons, List.mem_singleton] at hkey
  rw [Option.isSome_or, Bool.or_eq_true]
  rcases hkey with rfl | rfl
  · exact .inl hargument
  · exact .inr hargument

theorem deciding_of_spelled {f : Field} {s : Sources} {key : Text}
    (h : f.spelledKey? s.arguments = some key) :
    f.deciding s = ((f.value? s).map fun value => ⟨f.location s, value⟩, f.unread s) := by
  obtain ⟨value, hvalue⟩ := Option.isSome_iff_exists.1 (isSome_argument?_of_spelled h)
  rw [deciding, h, inArguments?_eq, value?_eq, location, unread, h, hvalue]
  rfl

theorem deciding_of_not_spelled {f : Field} {s : Sources}
    (h : f.spelledKey? s.arguments = none) :
    f.deciding s = ((f.value? s).map fun value => ⟨f.location s, value⟩, f.unread s) := by
  rw [deciding, h, findings_eq, inArguments?_eq, h, List.partition_eq_filter_filter, value?_eq,
    location, unread, h, isUnderVariable_eq]
  simp only [List.filter_append, Function.comp_def, filter_found_key]
  generalize (argument? s.arguments f.variableName).or (argument? s.arguments f.name) = argument
  -- The first finding under the name of the variable decides; without any, the first one of all.
  rcases argument with _ | value
  · rcases hvariable : s.inEnvironment? f.variableName with _ | value
    · rcases hfile : s.inFile? f.variableName with _ | value
      · simp only [filter_found_not_key, isNamedOnly, hvariable, hfile]
        cases s.inEnvironment? f.name <;> cases s.inFile? f.name <;> simp
      · simp [map_key_found]
    · simp [map_key_found]
  · simp [map_key_found]

/-- **What decides a field** is its value of the first rank, and what it leaves over is its plain
name where that is left unread. -/
theorem deciding_eq (f : Field) (s : Sources) :
    f.deciding s = ((f.value? s).map fun value => ⟨f.location s, value⟩, f.unread s) := by
  cases h : f.spelledKey? s.arguments with
  | none => exact deciding_of_not_spelled h
  | some key => exact deciding_of_spelled h

/-! ## What a field depends on -/

theorem variableName_mem_keys (f : Field) : f.variableName ∈ f.keys := List.mem_cons_self

theorem name_mem_keys (f : Field) : f.name ∈ f.keys := List.mem_cons_of_mem _ List.mem_cons_self

/-- Sources that have values for a field under the same of its names, be they the same or not. -/
structure SameNames (f : Field) (s t : Sources) : Prop where
  spelled : f.spelledKey? s.arguments = f.spelledKey? t.arguments
  arguments : ∀ key ∈ f.keys,
    (argument? s.arguments key).isSome = (argument? t.arguments key).isSome
  environment : ∀ key ∈ f.keys, (s.inEnvironment? key).isSome = (t.inEnvironment? key).isSome
  file : ∀ key ∈ f.keys, (s.inFile? key).isSome = (t.inFile? key).isSome

theorem nameOnly_congr {f : Field} {lookup other : Text → Option Text}
    (h : ∀ key ∈ f.keys, (lookup key).isSome = (other key).isSome) :
    f.nameOnly lookup = f.nameOnly other := by
  rw [nameOnly, nameOnly, isNamedOnly, isNamedOnly, ← Option.not_isSome, ← Option.not_isSome,
    h _ f.variableName_mem_keys, h _ f.name_mem_keys]

namespace SameNames

variable {f : Field} {s t : Sources}

theorem isUnderVariable_eq (h : f.SameNames s t) : f.isUnderVariable s = f.isUnderVariable t := by
  rw [Field.isUnderVariable_eq, Field.isUnderVariable_eq, Option.isSome_or, Option.isSome_or,
    h.arguments _ f.variableName_mem_keys, h.arguments _ f.name_mem_keys,
    h.environment _ f.variableName_mem_keys, h.file _ f.variableName_mem_keys]

theorem location_eq (h : f.SameNames s t) : f.location s = f.location t := by
  rw [location, location, h.spelled, h.isUnderVariable_eq]

theorem unread_eq (h : f.SameNames s t) : f.unread s = f.unread t := by
  rw [unread, unread, h.spelled, h.isUnderVariable_eq, nameOnly_congr h.environment,
    nameOnly_congr h.file]

/-- Apart from the value that decides, only the names matter. -/
theorem deciding_eq (h : f.SameNames s t) (hvalue : f.value? s = f.value? t) :
    f.deciding s = f.deciding t := by
  rw [Field.deciding_eq, Field.deciding_eq, h.location_eq, h.unread_eq, hvalue]

end SameNames

/-- Sources that have the same entries under the names of a field. -/
structure SameIn (f : Field) (s t : Sources) : Prop where
  arguments : (s.arguments.filter fun entry => f.isNamedBy entry.1) =
    t.arguments.filter fun entry => f.isNamedBy entry.1
  environment : (s.environment.filter fun entry => f.isNamedBy entry.1) =
    t.environment.filter fun entry => f.isNamedBy entry.1
  file : (s.assignments.filter fun entry => f.isNamedBy entry.1) =
    t.assignments.filter fun entry => f.isNamedBy entry.1

theorem isNamedBy_of_lower {f : Field} {key : Text} (hkey : key ∈ f.keys) {other : Text}
    (h : (Text.lower other == Text.lower key) = true) : f.isNamedBy other = true := by
  rw [isNamedBy, beq_iff_eq.1 h, List.contains_iff_mem]
  exact List.mem_map_of_mem hkey

namespace SameIn

variable {f : Field} {s t : Sources} {key : Text}

theorem argument?_eq (h : f.SameIn s t) (hkey : key ∈ f.keys) :
    argument? s.arguments key = argument? t.arguments key := by
  have hfilter : ∀ arguments : Bindings Json, argument? arguments key =
      argument? (arguments.filter fun entry => f.isNamedBy entry.1) key := by
    intro arguments
    rw [argument?, argument?, Bindings.find?_filter_of_imp
      (fun other => Text.lower other == Text.lower key) _ fun _ => isNamedBy_of_lower hkey]
  rw [hfilter, h.arguments, ← hfilter]

theorem spelledKey?_eq (h : f.SameIn s t) :
    f.spelledKey? s.arguments = f.spelledKey? t.arguments := by
  have hfilter : ∀ arguments : Bindings Json, ∀ key ∈ f.keys, arguments.get? key =
      Bindings.get? (arguments.filter fun entry => f.isNamedBy entry.1) key := by
    intro arguments key hkey
    have hnamed : ∀ other : Text, (other == key) = true → f.isNamedBy other = true := by
      intro other hother
      exact isNamedBy_of_lower hkey (by rw [beq_iff_eq.1 hother, beq_self_eq_true])
    rw [Bindings.get?_eq_find?, Bindings.get?_eq_find?,
      Bindings.find?_filter_of_imp (· == key) _ hnamed]
  unfold spelledKey?
  apply List.find?_congr
  intro key hkey
  rw [hfilter _ key hkey, h.arguments, ← hfilter _ key hkey]

theorem inEnvironment?_eq (h : f.SameIn s t) (hkey : key ∈ f.keys) :
    s.inEnvironment? key = t.inEnvironment? key :=
  Sources.inEnvironment?_congr (fun _ => isNamedBy_of_lower hkey) h.environment

theorem inFile?_eq (h : f.SameIn s t) (hkey : key ∈ f.keys) : s.inFile? key = t.inFile? key :=
  Sources.inFile?_congr (fun _ => isNamedBy_of_lower hkey) h.file

theorem sameNames (h : f.SameIn s t) : f.SameNames s t where
  spelled := h.spelledKey?_eq
  arguments _ hkey := congrArg Option.isSome (h.argument?_eq hkey)
  environment _ hkey := congrArg Option.isSome (h.inEnvironment?_eq hkey)
  file _ hkey := congrArg Option.isSome (h.inFile?_eq hkey)

/-- **Only the entries under the names of a field decide it.** -/
theorem value?_eq (h : f.SameIn s t) : f.value? s = f.value? t := by
  rw [Field.value?_eq, Field.value?_eq, h.argument?_eq f.variableName_mem_keys,
    h.argument?_eq f.name_mem_keys, h.inEnvironment?_eq f.variableName_mem_keys,
    h.inEnvironment?_eq f.name_mem_keys, h.inFile?_eq f.variableName_mem_keys,
    h.inFile?_eq f.name_mem_keys]

end SameIn

end DocTag.Field
