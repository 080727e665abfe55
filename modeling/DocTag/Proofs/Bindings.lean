import DocTag.Bindings
import Mathlib.Data.List.Induction

/-!
# Bindings made one name after the other

What `setAll` makes from nothing has every name once, in its first place (`Bindings.names_setAll`),
so that a binding is in it exactly when it is found under its name (`Bindings.mem_setAll`). Leaving
out names (`Bindings.filter_setAll`) and working on values (`Bindings.mapValues_setAll`) can be done
before or after.
-/

namespace DocTag

theorem nodup_eraseDups {α : Type} [BEq α] [LawfulBEq α] (l : List α) :
    l.eraseDups.Nodup := by
  match l with
  | [] => exact List.nodup_nil
  | a :: rest =>
    have hshorter : (rest.filter fun b => !b == a).length < rest.length + 1 :=
      Nat.lt_succ_of_le (List.length_filter_le _ _)
    rw [List.eraseDups_cons, List.nodup_cons]
    refine ⟨?_, nodup_eraseDups _⟩
    rw [List.mem_eraseDups, List.mem_filter]
    simp
termination_by l.length

namespace Bindings

variable {α β : Type}

theorem get?_eq_find? (b : Bindings α) (name : Text) :
    b.get? name = (b.find? fun entry => entry.1 == name).map Prod.snd := by
  induction b with
  | nil => rfl
  | cons entry rest ih =>
    by_cases h : entry.1 = name <;> simp [get?, h, ih]

/-! ## Names -/

theorem names_set (b : Bindings α) (name : Text) (value : α) :
    (b.set name value).map Prod.fst =
      if name ∈ b.map Prod.fst then b.map Prod.fst else b.map Prod.fst ++ [name] := by
  induction b with
  | nil => rfl
  | cons entry rest ih =>
    obtain ⟨other, old⟩ := entry
    by_cases h : other = name
    · subst h
      simp [set]
    · simp only [set, if_neg h, List.map_cons, ih, List.mem_cons, Ne.symm h, false_or]
      split <;> rfl

/-- Each name stands where it came up first. -/
theorem names_setAll (entries : List (Text × α)) :
    (setAll [] entries).map Prod.fst = (entries.map Prod.fst).eraseDups := by
  induction entries using List.reverseRecOn with
  | nil => rfl
  | append_singleton entries entry ih =>
    have hset : setAll [] (entries ++ [entry]) = (setAll [] entries).set entry.1 entry.2 :=
      setAll_append [] entries [entry]
    rw [hset, names_set, ih, List.map_append, List.eraseDups_append]
    by_cases h : entry.1 ∈ entries.map Prod.fst
    · simp [h, List.removeAll]
    · simp [h, List.removeAll, List.eraseDups_cons]

theorem nodup_names_setAll (entries : List (Text × α)) :
    ((setAll [] entries).map Prod.fst).Nodup := by
  rw [names_setAll]
  exact nodup_eraseDups (entries.map Prod.fst)

theorem get?_eq_some_iff_mem {b : Bindings α} (h : (b.map Prod.fst).Nodup) {name : Text}
    {value : α} : b.get? name = some value ↔ (name, value) ∈ b := by
  induction b with
  | nil => simp [get?]
  | cons entry rest ih =>
    obtain ⟨other, first⟩ := entry
    rw [List.map_cons, List.nodup_cons] at h
    by_cases hname : other = name
    · subst hname
      have hrest : (other, value) ∉ rest := fun hmem => h.1 (List.mem_map.2 ⟨_, hmem, rfl⟩)
      simp [get?, hrest, eq_comm]
    · simp [get?, hname, Ne.symm hname, ih h.2]

theorem mem_setAll {entries : List (Text × α)} {name : Text} {value : α} :
    (name, value) ∈ setAll [] entries ↔ get? entries.reverse name = some value := by
  rw [← get?_eq_some_iff_mem (nodup_names_setAll entries), get?_setAll, get?, Option.or_none]

/-! ## Leaving out names and working on values -/

/-- Names that a test does not accept are passed over whether they are there or not. -/
theorem find?_filter_of_imp {keep : Text → Bool} (test : Text → Bool) (entries : List (Text × α))
    (h : ∀ name, test name = true → keep name = true) :
    (entries.filter fun entry => keep entry.1).find? (fun entry => test entry.1) =
      entries.find? fun entry => test entry.1 := by
  rw [List.find?_filter]
  congr 1
  funext entry
  cases htest : test entry.1 with
  | false => simp
  | true => simp [h _ htest]

theorem find?_reverse_filter_of_imp {keep : Text → Bool} (test : Text → Bool)
    (entries : List (Text × α)) (h : ∀ name, test name = true → keep name = true) :
    (entries.filter fun entry => keep entry.1).reverse.find? (fun entry => test entry.1) =
      entries.reverse.find? fun entry => test entry.1 := by
  rw [← List.filter_reverse]
  exact find?_filter_of_imp test entries.reverse h

theorem filter_set (b : Bindings α) (name : Text) (value : α) (keep : Text → Bool) :
    (b.set name value).filter (fun entry => keep entry.1) =
      if keep name then set (b.filter fun entry => keep entry.1) name value
      else b.filter fun entry => keep entry.1 := by
  induction b with
  | nil => cases h : keep name <;> simp [set, h]
  | cons entry rest ih =>
    obtain ⟨other, old⟩ := entry
    by_cases h : other = name
    · subst h
      cases hkeep : keep other <;> simp [set, hkeep]
    · cases hkeep : keep other <;> cases hname : keep name <;>
        simp [set, h, hkeep, hname, ih]

theorem filter_setAll (b : Bindings α) (entries : List (Text × α)) (keep : Text → Bool) :
    (b.setAll entries).filter (fun entry => keep entry.1) =
      setAll (b.filter fun entry => keep entry.1) (entries.filter fun entry => keep entry.1) := by
  induction entries generalizing b with
  | nil => rfl
  | cons entry rest ih =>
    have hset : b.setAll (entry :: rest) = (b.set entry.1 entry.2).setAll rest := rfl
    rw [hset, ih, filter_set]
    cases h : keep entry.1 <;> simp [h, setAll]

/-- The same names with other values. -/
def mapValues (g : Text → α → β) (b : Bindings α) : Bindings β :=
  b.map fun entry => (entry.1, g entry.1 entry.2)

theorem mapValues_set (g : Text → α → β) (b : Bindings α) (name : Text) (value : α) :
    mapValues g (b.set name value) = (mapValues g b).set name (g name value) := by
  induction b with
  | nil => rfl
  | cons entry rest ih =>
    obtain ⟨other, old⟩ := entry
    by_cases h : other = name
    · subst h
      simp [mapValues, set]
    · simpa [mapValues, set, h] using ih

theorem mapValues_setAll (g : Text → α → β) (b : Bindings α) (entries : List (Text × α)) :
    mapValues g (b.setAll entries) = (mapValues g b).setAll (mapValues g entries) := by
  induction entries generalizing b with
  | nil => rfl
  | cons entry rest ih =>
    have hset : b.setAll (entry :: rest) = (b.set entry.1 entry.2).setAll rest := rfl
    rw [hset, ih, mapValues_set]
    rfl

theorem get?_mapValues (g : Text → α → β) (b : Bindings α) (name : Text) :
    get? (mapValues g b) name = (b.get? name).map (g name) := by
  induction b with
  | nil => rfl
  | cons entry rest ih =>
    obtain ⟨other, old⟩ := entry
    by_cases h : other = name
    · subst h
      simp [mapValues, get?]
    · simpa [mapValues, get?, h] using ih

end Bindings

end DocTag
