import DocTag.Text.Basic

/-!
# Bindings

Names with their values, in the order in which the names were first bound. A name is bound at most
once when the bindings are made with `set` alone, so setting a name again keeps its place.

The main statement says that the last of several values that a name is set to stays (`get?_setAll`).
-/

namespace DocTag

/-- Values by name, in the order of the names. -/
abbrev Bindings (α : Type) := List (Text × α)

namespace Bindings

variable {α : Type}

def get? : Bindings α → Text → Option α
  | [], _ => none
  | (other, value) :: rest, name => if other = name then some value else get? rest name

/-- Binds a name, in its old place if it has one and at the end otherwise. -/
def set : Bindings α → Text → α → Bindings α
  | [], name, value => [(name, value)]
  | (other, old) :: rest, name, value =>
    if other = name then (name, value) :: rest else (other, old) :: set rest name value

/-- Leaves out every binding of a name. -/
def erase (b : Bindings α) (name : Text) : Bindings α := b.filter fun entry => entry.1 != name

def setAll (b : Bindings α) (entries : List (Text × α)) : Bindings α :=
  entries.foldl (fun made entry => made.set entry.1 entry.2) b

@[simp] theorem get?_set_self (b : Bindings α) (name : Text) (value : α) :
    (b.set name value).get? name = some value := by
  induction b with
  | nil => simp [set, get?]
  | cons entry rest ih =>
    obtain ⟨other, old⟩ := entry
    by_cases h : other = name <;> simp [set, get?, h, ih]

@[simp] theorem get?_set_of_ne (b : Bindings α) {name other : Text} (value : α)
    (h : other ≠ name) : (b.set name value).get? other = b.get? other := by
  induction b with
  | nil => simp [set, get?, Ne.symm h]
  | cons entry rest ih =>
    obtain ⟨first, old⟩ := entry
    by_cases hf : first = name
    · subst hf; simp [set, get?, Ne.symm h]
    · by_cases ho : first = other
      · subst ho; simp [set, get?, hf]
      · simp [set, get?, hf, ho, ih]

theorem get?_append (b c : Bindings α) (name : Text) :
    get? (b ++ c) name = (b.get? name).or (c.get? name) := by
  induction b with
  | nil => rfl
  | cons entry rest ih =>
    obtain ⟨first, old⟩ := entry
    by_cases h : first = name <;> simp [get?, h, ih]

theorem setAll_append (b : Bindings α) (entries others : List (Text × α)) :
    b.setAll (entries ++ others) = (b.setAll entries).setAll others :=
  List.foldl_append

/-- Of several values that a name is set to, the last one stays. -/
theorem get?_setAll (b : Bindings α) (entries : List (Text × α)) (name : Text) :
    (b.setAll entries).get? name = (get? entries.reverse name).or (b.get? name) := by
  induction entries generalizing b with
  | nil => rfl
  | cons entry rest ih =>
    obtain ⟨first, value⟩ := entry
    have hset : (b.set first value).get? name = (get? [(first, value)] name).or (b.get? name) := by
      by_cases h : first = name
      · subst h
        simp [get?]
      · simp [get?, h, get?_set_of_ne b value (Ne.symm h)]
    rw [List.reverse_cons, get?_append, Option.or_assoc, ← hset]
    exact ih (b.set first value)

end Bindings

end DocTag
