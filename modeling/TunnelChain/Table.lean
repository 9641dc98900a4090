/-!
Finite maps as lists of entries in ascending order of their keys, each key once, so that equal maps
are equal lists.
-/
namespace TunnelChain

structure Table (κ α : Type) [LT κ] where
  entries : List (κ × α)
  ascending : entries.Pairwise (·.1 < ·.1)

namespace Table

variable {κ α : Type}

def insertEntry [LT κ] [DecidableLT κ] (key : κ) (value : α) : List (κ × α) → List (κ × α)
  | [] => [(key, value)]
  | (other, held) :: rest =>
    if key < other then (key, value) :: (other, held) :: rest
    else if other < key then (other, held) :: insertEntry key value rest
    else (key, value) :: rest

theorem mem_insertEntry [LT κ] [DecidableLT κ] {key : κ} {value : α} {entry : κ × α}
    {entries : List (κ × α)}
    (h : entry ∈ insertEntry key value entries) : entry = (key, value) ∨ entry ∈ entries := by
  induction entries with
  | nil => simpa [insertEntry] using h
  | cons first rest ih =>
    obtain ⟨other, held⟩ := first
    unfold insertEntry at h
    split at h
    · simpa using h
    · split at h
      · rcases List.mem_cons.mp h with h | h
        · exact Or.inr (by simp [h])
        · rcases ih h with h | h
          · exact Or.inl h
          · exact Or.inr (List.mem_cons_of_mem _ h)
      · rcases List.mem_cons.mp h with h | h
        · exact Or.inl h
        · exact Or.inr (List.mem_cons_of_mem _ h)

variable [LE κ] [LT κ] [DecidableLT κ] [Std.IsLinearOrder κ] [Std.LawfulOrderLT κ]

omit [DecidableLT κ] in
theorem eq_of_not_lt {a b : κ} (hab : ¬a < b) (hba : ¬b < a) : a = b :=
  Std.le_antisymm (Std.not_lt.mp hba) (Std.not_lt.mp hab)

theorem ascending_insertEntry (key : κ) (value : α) {entries : List (κ × α)}
    (h : entries.Pairwise (·.1 < ·.1)) : (insertEntry key value entries).Pairwise (·.1 < ·.1) := by
  induction entries with
  | nil => simp [insertEntry]
  | cons first rest ih =>
    obtain ⟨other, held⟩ := first
    obtain ⟨hfirst, hrest⟩ := List.pairwise_cons.mp h
    unfold insertEntry
    split
    · rename_i hlt
      refine List.pairwise_cons.mpr ⟨fun entry hentry => ?_, h⟩
      rcases List.mem_cons.mp hentry with hentry | hentry
      · simpa [hentry] using hlt
      · exact Std.lt_trans hlt (hfirst entry hentry)
    · split
      · rename_i hlt
        refine List.pairwise_cons.mpr ⟨fun entry hentry => ?_, ih hrest⟩
        rcases mem_insertEntry hentry with hentry | hentry
        · simpa [hentry] using hlt
        · exact hfirst entry hentry
      · rename_i hnot hnot'
        cases eq_of_not_lt hnot hnot'
        exact List.pairwise_cons.mpr ⟨hfirst, hrest⟩

omit [LE κ] [DecidableLT κ] [Std.IsLinearOrder κ] [Std.LawfulOrderLT κ] in
@[ext]
theorem ext {a b : Table κ α} (h : a.entries = b.entries) : a = b := by
  cases a
  cases b
  cases h
  rfl

def empty : Table κ α :=
  ⟨[], List.Pairwise.nil⟩

def insert (table : Table κ α) (key : κ) (value : α) : Table κ α :=
  ⟨insertEntry key value table.entries, ascending_insertEntry key value table.ascending⟩

variable [DecidableEq κ]

def get? (table : Table κ α) (key : κ) : Option α :=
  table.entries.lookup key

def contains (table : Table κ α) (key : κ) : Bool :=
  (table.get? key).isSome

def erase (table : Table κ α) (key : κ) : Table κ α :=
  ⟨table.entries.filter (·.1 ≠ key), table.ascending.filter _⟩

def modifyEntry (key : κ) (f : α → α) (entry : κ × α) : κ × α :=
  if entry.1 = key then (entry.1, f entry.2) else entry

def modify (table : Table κ α) (key : κ) (f : α → α) : Table κ α :=
  ⟨table.entries.map (modifyEntry key f), by
    refine List.pairwise_map.mpr (table.ascending.imp fun {a b} h => ?_)
    have hkey (entry : κ × α) : (modifyEntry key f entry).1 = entry.1 := by
      unfold modifyEntry
      split <;> rfl
    simpa [hkey] using h⟩

def mapValues (table : Table κ α) (f : α → α) : Table κ α :=
  ⟨table.entries.map fun entry => (entry.1, f entry.2), List.pairwise_map.mpr table.ascending⟩

def keys (table : Table κ α) : List κ :=
  table.entries.map (·.1)

def size (table : Table κ α) : Nat :=
  table.entries.length

def isEmpty (table : Table κ α) : Bool :=
  table.entries.isEmpty

def ofList (entries : List (κ × α)) : Table κ α :=
  entries.foldl (fun table entry => table.insert entry.1 entry.2) empty

end Table

end TunnelChain
