/-!
# Table — finite tables keyed by text, in insertion order

A table is its list of entries.  Writing an existing key keeps the key's place, a new key goes to
the end, so the order that readers see is the order of first insertion.
-/

namespace SchemaForms

/-- A table keyed by text: its entries, in the order in which their keys were first written. -/
abbrev Table (α : Type) := List (String × α)

namespace Table

variable {α β : Type}

/-- The value stored under `key`. -/
def get? : List (String × α) → String → Option α
  | [], _ => none
  | (k, v) :: rest, key => if k = key then some v else get? rest key

/-- Whether `key` has an entry. -/
def contains (table : List (String × α)) (key : String) : Bool := (get? table key).isSome

/-- Writes `value` under `key`: in place when the key is known, at the end otherwise. -/
def insert : List (String × α) → String → α → List (String × α)
  | [], key, value => [(key, value)]
  | (k, v) :: rest, key, value =>
    if k = key then (k, value) :: rest else (k, v) :: insert rest key value

/-- Removes the entry of `key`; the other entries keep their order. -/
def erase : List (String × α) → String → List (String × α)
  | [], _ => []
  | (k, v) :: rest, key => if k = key then rest else (k, v) :: erase rest key

/-- Replaces the value under `key` by its image; nothing happens to an unknown key. -/
def modify : List (String × α) → String → (α → α) → List (String × α)
  | [], _, _ => []
  | (k, v) :: rest, key, f => if k = key then (k, f v) :: rest else (k, v) :: modify rest key f

/-- The keys in order. -/
def keys (table : List (String × α)) : List String := table.map (·.1)

/-- The table that a list of writes builds, later writes winning. -/
def ofWrites (writes : List (String × α)) : List (String × α) :=
  writes.foldl (fun table entry => insert table entry.1 entry.2) []

/-- Drops every entry whose key satisfies `doomed`. -/
def dropKeys (table : List (String × α)) (doomed : String → Bool) : List (String × α) :=
  table.filter fun entry => !doomed entry.1

theorem get?_insert (table : List (String × α)) (key other : String) (value : α) :
    get? (insert table key value) other = if key = other then some value else get? table other := by
  induction table with
  | nil => simp [insert, get?]
  | cons entry rest ih =>
    obtain ⟨k, v⟩ := entry
    by_cases h : k = key
    · subst h; by_cases h' : k = other <;> simp [insert, get?, h']
    · by_cases h' : k = other
      · subst h'; simp [insert, get?, h, Ne.symm h]
      · simp [insert, get?, h, h', ih]

/-- Of two values written under a key the second counts. -/
theorem insert_insert (table : List (String × α)) (key : String) (first second : α) :
    insert (insert table key first) key second = insert table key second := by
  induction table with
  | nil => simp [insert]
  | cons entry rest ih =>
    obtain ⟨k, v⟩ := entry
    by_cases h : k = key <;> simp [insert, h, ih]

/-- Writing the value that a key has changes nothing. -/
theorem insert_of_get? {table : List (String × α)} {key : String} {value : α}
    (h : get? table key = some value) : insert table key value = table := by
  induction table with
  | nil => exact absurd h nofun
  | cons entry rest ih =>
    obtain ⟨k, v⟩ := entry
    by_cases hk : k = key
    · simp_all [insert, get?]
    · simp only [get?, hk, if_false] at h
      simp [insert, hk, ih h]

/-- What is found under a key is an entry. -/
theorem mem_of_get? {table : List (String × α)} {key : String} {value : α}
    (h : get? table key = some value) : (key, value) ∈ table := by
  induction table with
  | nil => exact absurd h nofun
  | cons entry rest ih =>
    obtain ⟨k, v⟩ := entry
    rw [get?] at h
    split at h
    · rename_i hk
      obtain rfl := Option.some.inj h
      exact hk ▸ List.mem_cons_self
    · exact List.mem_cons_of_mem _ (ih h)

theorem get?_dropKeys (table : List (String × α)) (doomed : String → Bool) (key : String) :
    get? (dropKeys table doomed) key = if doomed key then none else get? table key := by
  induction table with
  | nil => simp [dropKeys, get?]
  | cons entry rest ih =>
    obtain ⟨k, v⟩ := entry
    simp only [dropKeys] at ih
    by_cases hd : doomed k
    · by_cases hk : k = key
      · subst hk; simp [dropKeys, hd, ih]
      · simp [dropKeys, hd, get?, hk, ih]
    · by_cases hk : k = key
      · subst hk; simp [dropKeys, hd, get?]
      · simp [dropKeys, hd, get?, hk, ih]

theorem dropKeys_dropKeys (table : List (String × α)) (first second : String → Bool) :
    dropKeys (dropKeys table first) second = dropKeys table fun key => first key || second key := by
  simp only [dropKeys, List.filter_filter, Bool.not_or, Bool.and_comm]

/-- What is dropped depends on the keys of the table only. -/
theorem dropKeys_congr {table : List (String × α)} {doomed other : String → Bool}
    (h : ∀ key ∈ keys table, doomed key = other key) :
    dropKeys table doomed = dropKeys table other := by
  refine List.filter_congr fun entry hentry => ?_
  rw [h entry.1 (List.mem_map_of_mem hentry)]

/-! ## Tables without repetition

Every operation works on the first entry of a key.  In a table that no key enters twice, which all
operations preserve, an erased key is gone. -/

/-- No key has two entries. -/
def Distinct (table : List (String × α)) : Prop := (keys table).Nodup

theorem distinct_nil : Distinct ([] : List (String × α)) := List.nodup_nil

theorem get?_eq_none {table : List (String × α)} {key : String} :
    get? table key = none ↔ key ∉ keys table := by
  induction table with
  | nil => simp [get?, keys]
  | cons entry rest ih =>
    obtain ⟨k, v⟩ := entry
    by_cases h : k = key
    · simp [get?, keys, h]
    · simpa [get?, keys, h, Ne.symm h] using ih

theorem contains_eq_true_iff {table : List (String × α)} {key : String} :
    contains table key = true ↔ key ∈ keys table := by
  rw [contains, ← Decidable.not_iff_not, ← get?_eq_none]
  simp

theorem get?_erase_of_ne (table : List (String × α)) {key other : String} (h : other ≠ key) :
    get? (erase table key) other = get? table other := by
  induction table with
  | nil => rfl
  | cons entry rest ih =>
    obtain ⟨k, v⟩ := entry
    by_cases hk : k = key
    · subst hk; simp [erase, get?, Ne.symm h]
    · simp [erase, get?, hk, ih]

theorem get?_erase_self {table : List (String × α)} (h : Distinct table) (key : String) :
    get? (erase table key) key = none := by
  induction table with
  | nil => rfl
  | cons entry rest ih =>
    obtain ⟨k, v⟩ := entry
    obtain ⟨hk, hrest⟩ := List.nodup_cons.mp h
    by_cases hkey : k = key
    · subst hkey
      simpa [erase] using get?_eq_none.mpr hk
    · simp [erase, get?, hkey, ih hrest]

theorem get?_erase {table : List (String × α)} (h : Distinct table) (key other : String) :
    get? (erase table key) other = if other = key then none else get? table other := by
  by_cases hkey : other = key
  · rw [if_pos hkey, hkey, get?_erase_self h]
  · rw [if_neg hkey, get?_erase_of_ne table hkey]

/-- In a table without repetition every entry is found. -/
theorem Distinct.get?_eq {table : List (String × α)} (h : Distinct table) {key : String} {value : α}
    (hmem : (key, value) ∈ table) : get? table key = some value := by
  induction table with
  | nil => exact absurd hmem List.not_mem_nil
  | cons entry rest ih =>
    obtain ⟨k, v⟩ := entry
    obtain ⟨hk, hrest⟩ := List.nodup_cons.mp h
    rcases List.mem_cons.mp hmem with heq | hmem
    · obtain ⟨rfl, rfl⟩ := Prod.mk.inj heq
      exact if_pos rfl
    · have hne : k ≠ key := by
        rintro rfl
        exact hk (List.mem_map.mpr ⟨_, hmem, rfl⟩)
      rw [get?, if_neg hne]
      exact ih hrest hmem

theorem mem_keys_insert {table : List (String × α)} {key other : String} {value : α} :
    other ∈ keys (insert table key value) ↔ other = key ∨ other ∈ keys table := by
  induction table with
  | nil => simp [insert, keys]
  | cons entry rest ih =>
    obtain ⟨k, v⟩ := entry
    simp only [keys] at ih
    by_cases h : k = key
    · simp [insert, keys, h]
    · simp only [insert, keys, h, if_false, List.map_cons, List.mem_cons, ih]
      exact or_left_comm

theorem keys_insert_subset (table : List (String × α)) (key : String) (value : α) :
    keys (insert table key value) ⊆ key :: keys table := fun _ hkey =>
  List.mem_cons.mpr (mem_keys_insert.mp hkey)

theorem keys_subset {table part : List (String × α)} (h : part.Sublist table) :
    keys part ⊆ keys table := (h.map _).subset

/-- **Writing under a key keeps the order of the keys**: a new one comes last. -/
theorem keys_insert (table : List (String × α)) (key : String) (value : α) :
    keys (insert table key value)
      = if key ∈ keys table then keys table else keys table ++ [key] := by
  induction table with
  | nil => simp [insert, keys]
  | cons entry rest ih =>
    obtain ⟨k, v⟩ := entry
    simp only [keys] at ih
    by_cases hk : k = key
    · simp [insert, keys, hk]
    · by_cases hmem : key ∈ rest.map (·.1) <;> simp_all [insert, keys, Ne.symm hk]

theorem mem_insert {table : List (String × α)} {key : String} {value : α} {entry : String × α}
    (h : entry ∈ insert table key value) : entry = (key, value) ∨ entry ∈ table := by
  induction table with
  | nil => exact .inl (List.mem_singleton.mp h)
  | cons first rest ih =>
    obtain ⟨k, v⟩ := first
    rw [insert] at h
    split at h
    · rename_i hk
      rcases List.mem_cons.mp h with rfl | hmem
      · exact .inl (hk ▸ rfl)
      · exact .inr (List.mem_cons_of_mem _ hmem)
    · rcases List.mem_cons.mp h with rfl | hmem
      · exact .inr List.mem_cons_self
      · exact (ih hmem).imp id (List.mem_cons_of_mem _)

theorem Distinct.insert {table : List (String × α)} (h : Distinct table) (key : String)
    (value : α) : Distinct (Table.insert table key value) := by
  induction table with
  | nil => simp [Table.insert, Distinct, keys]
  | cons entry rest ih =>
    obtain ⟨k, v⟩ := entry
    obtain ⟨hk, hrest⟩ := List.nodup_cons.mp h
    by_cases hkey : k = key
    · simpa [Table.insert, hkey, Distinct, keys] using h
    · rw [Table.insert, if_neg hkey]
      refine List.nodup_cons.mpr ⟨fun hmem => ?_, ih hrest⟩
      rcases mem_keys_insert.mp hmem with h' | h'
      · exact hkey h'
      · exact hk h'

theorem Distinct.sublist {table other : List (String × α)} (h : Distinct table)
    (hsub : other.Sublist table) : Distinct other :=
  List.Nodup.sublist (hsub.map _) h

theorem erase_sublist (table : List (String × α)) (key : String) :
    (erase table key).Sublist table := by
  induction table with
  | nil => exact List.Sublist.slnil
  | cons entry rest ih =>
    obtain ⟨k, v⟩ := entry
    by_cases h : k = key
    · simp [erase, h]
    · simpa [erase, h] using ih

/-- A new key goes to the end. -/
theorem insert_of_not_mem {table : List (String × α)} {key : String} (h : key ∉ keys table)
    (value : α) : insert table key value = table ++ [(key, value)] := by
  induction table with
  | nil => rfl
  | cons entry rest ih =>
    obtain ⟨hk, hrest⟩ := not_or.mp (mt List.mem_cons.mpr h)
    rw [insert, if_neg (Ne.symm hk), ih hrest, List.cons_append]

/-- Writes of new keys follow a table in their order. -/
theorem foldl_insert {table writes : List (String × α)} (h : Distinct (table ++ writes)) :
    writes.foldl (fun table entry => insert table entry.1 entry.2) table = table ++ writes := by
  induction writes generalizing table with
  | nil => exact (List.append_nil table).symm
  | cons entry writes ih =>
    obtain ⟨key, value⟩ := entry
    have hnew : key ∉ keys table := by
      rw [Distinct, keys, List.map_append, List.nodup_append] at h
      exact fun hmem => h.2.2 key hmem key (by simp) rfl
    rw [List.append_cons] at h
    rw [List.foldl_cons, insert_of_not_mem hnew, ih h, ← List.append_cons]

/-- **Writes without repetition build themselves.** -/
theorem Distinct.ofWrites_eq {writes : List (String × α)} (h : Distinct writes) :
    ofWrites writes = writes :=
  foldl_insert (show Distinct ([] ++ writes) from h)

end Table

end SchemaForms
