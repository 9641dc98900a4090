import TunnelChain.Table

/-!
# Tables as functions

A table is determined by what it holds under each key. Every operation is described through `get?`,
so that nothing later looks at the list of entries.
-/

namespace TunnelChain

theorem lookup_cons_ite {κ α : Type} [BEq κ] [LawfulBEq κ] [DecidableEq κ] (key other : κ)
    (value : α) (entries : List (κ × α)) :
    ((other, value) :: entries).lookup key =
      if key = other then some value else entries.lookup key := by
  by_cases heq : key = other
  · simp [heq]
  · simp [List.lookup_cons, beq_false_of_ne heq, heq]

theorem lookup_map_snd {κ α β : Type} [BEq κ] [LawfulBEq κ] [DecidableEq κ] (f : α → β)
    (entries : List (κ × α)) (key : κ) :
    (entries.map fun entry => (entry.1, f entry.2)).lookup key = (entries.lookup key).map f := by
  induction entries with
  | nil => rfl
  | cons entry rest ih =>
    rw [List.map_cons, lookup_cons_ite, ih]
    obtain ⟨other, old⟩ := entry
    rw [lookup_cons_ite]
    split <;> rfl

namespace Table

variable {κ α : Type} [LE κ] [LT κ] [DecidableLT κ] [Std.IsLinearOrder κ] [Std.LawfulOrderLT κ]
  [DecidableEq κ]

omit [LE κ] [DecidableLT κ] [Std.IsLinearOrder κ] [Std.LawfulOrderLT κ] in
@[simp]
theorem get?_empty (key : κ) : (empty : Table κ α).get? key = none := rfl

theorem lookup_insertEntry (key other : κ) (value : α) (entries : List (κ × α)) :
    (insertEntry key value entries).lookup other =
      if other = key then some value else entries.lookup other := by
  induction entries with
  | nil => simp [insertEntry, lookup_cons_ite]
  | cons first rest ih =>
    obtain ⟨here, held⟩ := first
    unfold insertEntry
    split
    · simp only [lookup_cons_ite]
    · split
      · rename_i hlt
        have hne : here ≠ key := by
          rintro rfl
          exact Std.lt_irrefl hlt
        simp only [lookup_cons_ite, ih]
        by_cases hother : other = here
        · simp [hother, hne]
        · simp [hother]
      · rename_i hnot hnot'
        have heq : key = here := eq_of_not_lt hnot hnot'
        subst heq
        simp only [lookup_cons_ite]
        by_cases hother : other = key <;> simp [hother]

theorem get?_insert (table : Table κ α) (key other : κ) (value : α) :
    (table.insert key value).get? other = if other = key then some value else table.get? other :=
  lookup_insertEntry key other value table.entries

omit [LE κ] [LT κ] [DecidableLT κ] [Std.IsLinearOrder κ] [Std.LawfulOrderLT κ] in
theorem lookup_filter_ne (key other : κ) (entries : List (κ × α)) :
    (entries.filter (·.1 ≠ key)).lookup other =
      if other = key then none else entries.lookup other := by
  induction entries with
  | nil => simp
  | cons first rest ih =>
    obtain ⟨here, held⟩ := first
    by_cases hhere : here = key
    · subst hhere
      rw [List.filter_cons_of_neg (by simp), ih, lookup_cons_ite]
      by_cases hother : other = here <;> simp [hother]
    · rw [List.filter_cons_of_pos (by simpa using hhere), lookup_cons_ite, lookup_cons_ite, ih]
      by_cases hother : other = here
      · simp [hother, hhere]
      · simp [hother]

omit [LE κ] [DecidableLT κ] [Std.IsLinearOrder κ] [Std.LawfulOrderLT κ] in
theorem get?_erase (table : Table κ α) (key other : κ) :
    (table.erase key).get? other = if other = key then none else table.get? other :=
  lookup_filter_ne key other table.entries

omit [LE κ] [DecidableLT κ] [Std.IsLinearOrder κ] [Std.LawfulOrderLT κ] in
theorem erase_of_get?_eq_none {table : Table κ α} {key : κ} (h : table.get? key = none) :
    table.erase key = table := by
  refine Table.ext (List.filter_eq_self.mpr fun entry hentry => ?_)
  have hother : (key != entry.1) = true := List.lookup_eq_none_iff.mp h entry hentry
  exact decide_eq_true fun hsame => bne_iff_ne.mp hother hsame.symm

omit [LE κ] [LT κ] [DecidableLT κ] [Std.IsLinearOrder κ] [Std.LawfulOrderLT κ] in
theorem lookup_map_modifyEntry (key other : κ) (f : α → α) (entries : List (κ × α)) :
    (entries.map (modifyEntry key f)).lookup other =
      if other = key then (entries.lookup other).map f else entries.lookup other := by
  induction entries with
  | nil => simp
  | cons first rest ih =>
    obtain ⟨here, held⟩ := first
    have hkey : modifyEntry key f (here, held) = (here, if here = key then f held else held) := by
      by_cases hhere : here = key <;> simp [modifyEntry, hhere]
    rw [List.map_cons, hkey, lookup_cons_ite, lookup_cons_ite, ih]
    by_cases hother : other = here
    · subst hother
      by_cases hhere : other = key <;> simp [hhere]
    · simp [hother]

omit [LE κ] [DecidableLT κ] [Std.IsLinearOrder κ] [Std.LawfulOrderLT κ] in
theorem get?_modify (table : Table κ α) (key other : κ) (f : α → α) :
    (table.modify key f).get? other =
      if other = key then (table.get? other).map f else table.get? other :=
  lookup_map_modifyEntry key other f table.entries

omit [LE κ] [DecidableLT κ] [Std.IsLinearOrder κ] [Std.LawfulOrderLT κ] in
theorem get?_mapValues (table : Table κ α) (f : α → α) (key : κ) :
    (table.mapValues f).get? key = (table.get? key).map f :=
  lookup_map_snd f table.entries key

omit [LE κ] [LT κ] [DecidableLT κ] [Std.IsLinearOrder κ] [Std.LawfulOrderLT κ] in
theorem mem_map_fst_iff (key : κ) (entries : List (κ × α)) :
    key ∈ entries.map (·.1) ↔ ∃ value, entries.lookup key = some value := by
  induction entries with
  | nil => simp
  | cons first rest ih =>
    obtain ⟨here, held⟩ := first
    rw [List.map_cons, List.mem_cons, lookup_cons_ite, ih]
    by_cases hhere : key = here <;> simp [hhere]

omit [LE κ] [DecidableLT κ] [Std.IsLinearOrder κ] [Std.LawfulOrderLT κ] in
theorem mem_keys {table : Table κ α} {key : κ} :
    key ∈ table.keys ↔ ∃ value, table.get? key = some value :=
  mem_map_fst_iff key table.entries

omit [LE κ] [DecidableLT κ] [Std.IsLinearOrder κ] [Std.LawfulOrderLT κ] in
theorem contains_iff {table : Table κ α} {key : κ} :
    table.contains key = true ↔ ∃ value, table.get? key = some value := by
  rw [contains, Option.isSome_iff_exists]

omit [LE κ] [DecidableLT κ] [Std.IsLinearOrder κ] [Std.LawfulOrderLT κ] in
theorem eq_empty_of_get? {table : Table κ α} (h : ∀ key, table.get? key = none) :
    table = empty := by
  obtain ⟨entries, ascending⟩ := table
  cases entries with
  | nil => rfl
  | cons first rest =>
    have hfirst : (first :: rest).lookup first.1 = none := h first.1
    rw [List.lookup_cons_self] at hfirst
    cases hfirst

end Table

end TunnelChain
