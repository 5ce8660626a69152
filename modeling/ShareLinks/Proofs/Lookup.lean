import Mathlib.Data.List.Basic

/-!
# Looking up names

The value of a name among named values is that of its first occurrence.
-/

namespace ShareLinks

variable {α β : Type} {name other : String}

theorem lookup_cons_of_ne (h : name ≠ other) (value : α) (pairs : List (String × α)) :
    ((other, value) :: pairs).lookup name = pairs.lookup name := by
  have different : (name == other) = false := beq_eq_false_iff_ne.mpr h
  simp only [List.lookup_cons, different]

theorem lookup_singleton (key : String) (value : α) :
    [(key, value)].lookup name = if name = key then some value else none := by
  by_cases same : name = key
  · simp [same]
  · rw [if_neg same]
    exact lookup_cons_of_ne same _ _

theorem lookup_eq_none_of_not_mem {pairs : List (String × α)} (h : name ∉ pairs.map (·.1)) :
    pairs.lookup name = none := by
  apply List.lookup_eq_none_iff.mpr
  intro pair hpair
  apply bne_iff_ne.mpr
  rintro rfl
  exact h (List.mem_map_of_mem hpair)

theorem exists_lookup_of_mem {pairs : List (String × α)} (h : name ∈ pairs.map (·.1)) :
    ∃ value, pairs.lookup name = some value := by
  cases found : pairs.lookup name with
  | some value => exact ⟨value, rfl⟩
  | none =>
    obtain ⟨pair, hpair, rfl⟩ := List.mem_map.mp h
    exact absurd rfl (bne_iff_ne.mp (List.lookup_eq_none_iff.mp found pair hpair))

/-- Among values of different names, what stands under a name is what is found there. -/
theorem mem_iff_lookup_eq_some {pairs : List (String × α)} (nodup : (pairs.map (·.1)).Nodup)
    {value : α} : (name, value) ∈ pairs ↔ pairs.lookup name = some value := by
  induction pairs with
  | nil => simp
  | cons pair pairs ih =>
    obtain ⟨other, first⟩ := pair
    obtain ⟨fresh, nodup⟩ := List.nodup_cons.mp nodup
    rw [List.mem_cons, ih nodup]
    by_cases same : name = other
    · subst same
      simp [lookup_eq_none_of_not_mem fresh, eq_comm]
    · simp [lookup_cons_of_ne same, same]

theorem lookup_eq_none_of_sublist {pairs : List (String × α)} {names : List String}
    (known : (pairs.map (·.1)).Sublist names) (other : name ∉ names) : pairs.lookup name = none :=
  lookup_eq_none_of_not_mem fun h => other (known.subset h)

/-- Values that are changed by their names. -/
theorem lookup_map_named (f : String → α → β) (pairs : List (String × α)) :
    (pairs.map fun (other, value) => (other, f other value)).lookup name =
      (pairs.lookup name).map (f name) := by
  induction pairs with
  | nil => rfl
  | cons pair pairs ih =>
    obtain ⟨other, value⟩ := pair
    by_cases same : name = other
    · simp [same]
    · rw [lookup_cons_of_ne same, List.map_cons, lookup_cons_of_ne same, ih]

theorem lookup_map_value (f : α → β) (pairs : List (String × α)) :
    (pairs.map fun (other, value) => (other, f value)).lookup name = (pairs.lookup name).map f :=
  lookup_map_named (fun _ => f) pairs

/-- Values that are kept or left out by their names. -/
theorem lookup_filter_name (keep : String → Bool) (pairs : List (String × α)) :
    (pairs.filter fun (other, _) => keep other).lookup name =
      if keep name then pairs.lookup name else none := by
  induction pairs with
  | nil => simp
  | cons pair pairs ih =>
    obtain ⟨other, value⟩ := pair
    by_cases same : name = other
    · subst same
      by_cases kept : keep name = true
      · simp [kept]
      · simpa [kept] using ih
    · rw [lookup_cons_of_ne same, ← ih]
      by_cases kept : keep other = true
      · rw [List.filter_cons, if_pos kept, lookup_cons_of_ne same]
      · rw [List.filter_cons, if_neg kept]

theorem lookup_optional (key : String) (value : Option α) (f : α → β) :
    (value.toList.map fun v => (key, f v)).lookup name =
      if name = key then value.map f else none := by
  cases value with
  | none => simp
  | some v => exact lookup_singleton key (f v)

/-- Among values of different names the order does not matter. -/
theorem lookup_reverse {pairs : List (String × α)} (nodup : (pairs.map (·.1)).Nodup) :
    pairs.reverse.lookup name = pairs.lookup name := by
  induction pairs with
  | nil => rfl
  | cons pair pairs ih =>
    obtain ⟨other, value⟩ := pair
    obtain ⟨fresh, nodup⟩ := List.nodup_cons.mp nodup
    rw [List.reverse_cons, List.lookup_append, ih nodup]
    by_cases same : name = other
    · subst same
      rw [lookup_eq_none_of_not_mem fresh]
      simp
    · rw [lookup_cons_of_ne same, lookup_cons_of_ne same]
      simp

end ShareLinks
