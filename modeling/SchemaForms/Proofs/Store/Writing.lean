import SchemaForms.Store.Document

/-!
# Proofs/Store/Writing — what a write changes

A write is one step on the way, done again below (`member?_write_key`, `item?_write_index`); everything
else is by induction on the path.  What was written is read back, and putting back what was there undoes
the write (`write_write`, `write_of_read?`).  A reader that takes another step than the write meets what
was there, a slot that was filled, or nothing in a container of the other kind (`read?_write_aside`).

At a path that neither leads to the written one nor through it, a write changes the value in two
cases only: it fills the slot there with null (`Pads`), or it replaces a container of the other kind
that the path leads through (`Replaces`).  `read?_write_eq_iff` says that there is no third.
-/

namespace SchemaForms

/-- Whether a step leads into a sequence. -/
def Segment.isIndex : Segment → Bool
  | .index _ => true
  | .key _ => false

/-- Whether a step leads to an element behind the one that another leads to. -/
def Segment.isBehind : Segment → Segment → Bool
  | .index i, .index j => decide (j < i)
  | _, _ => false

namespace Document

variable {node value : Value} {path other rest : Path} {step wanted : Segment}

/-! ## One step -/

@[simp] theorem read?_nil (node : Value) : read? node [] = some node := rfl

@[simp] theorem read?_key (node : Value) (key : String) (rest : Path) :
    read? node (.key key :: rest) = (node.member? key).bind fun child => read? child rest := rfl

@[simp] theorem read?_index (node : Value) (i : Nat) (rest : Path) :
    read? node (.index i :: rest) = (node.item? i).bind fun child => read? child rest := rfl

/-- Nothing is below null. -/
@[simp] theorem read?_null {segment : Segment} : read? .null (segment :: rest) = none := by
  cases segment <;> rfl

@[simp] theorem write_nil (node value : Value) : write node [] value = value := by
  cases node <;> rfl

/-- The elements are filled up to the index, and left alone behind it. -/
theorem getElem?_padTo (items : List Value) (i j : Nat) :
    (padTo items i)[j]? = if j ≤ i then some (items[j]?.getD .null) else items[j]? := by
  simp only [padTo, List.getElem?_append, List.getElem?_replicate]
  grind

theorem lt_length_padTo (items : List Value) (i : Nat) : i < (padTo items i).length := by
  simp only [padTo, List.length_append, List.length_replicate]
  omega

/-- Elements that reach up to the index need no filling. -/
theorem padTo_of_lt {items : List Value} {i : Nat} (h : i < items.length) :
    padTo items i = items := by
  have hnone : i + 1 - items.length = 0 := by omega
  simp [padTo, hnone]

theorem member?_eq_get? (node : Value) (key : String) :
    node.member? key = Table.get? (node.asMembers?.getD []) key := by
  cases node <;> rfl

theorem item?_eq_getElem? (node : Value) (i : Nat) : node.item? i = (node.asItems?.getD [])[i]? := by
  cases node <;> rfl

/-- The slot that a sequence is filled up to holds what it held before, or null. -/
theorem getD_getElem?_padTo (node : Value) (i : Nat) :
    (padTo (node.asItems?.getD []) i)[i]?.getD .null = (node.item? i).getD .null := by
  rw [getElem?_padTo, item?_eq_getElem?, if_pos (Nat.le_refl i), Option.getD_some]

/-- **A write through a key** replaces a member of an object. -/
theorem write_key (node value : Value) (key : String) (rest : Path) :
    write node (.key key :: rest) value = .obj (Table.insert (node.asMembers?.getD []) key
      (write ((node.member? key).getD .null) rest value)) := by
  rw [member?_eq_get?]
  rfl

/-- **A write through an index** replaces an element of a sequence that reaches up to it. -/
theorem write_index (node value : Value) (i : Nat) (rest : Path) :
    write node (.index i :: rest) value = .arr ((padTo (node.asItems?.getD []) i).set i
      (write ((node.item? i).getD .null) rest value)) := by
  rw [← getD_getElem?_padTo]
  rfl

theorem member?_write_key (node value : Value) (key other : String) (rest : Path) :
    (write node (.key key :: rest) value).member? other
      = if key = other then some (write ((node.member? key).getD .null) rest value)
        else node.member? other := by
  rw [write_key, member?_eq_get? node other]
  exact Table.get?_insert _ _ _ _

theorem item?_write_index (node value : Value) (i j : Nat) (rest : Path) :
    (write node (.index i :: rest) value).item? j
      = if i = j then some (write ((node.item? i).getD .null) rest value)
        else if j < i then some ((node.item? j).getD .null) else node.item? j := by
  have hreaches := lt_length_padTo (node.asItems?.getD []) i
  rw [write_index, item?_eq_getElem? node j]
  change ((padTo _ i).set i _)[j]? = _
  rw [List.getElem?_set, getElem?_padTo]
  grind

/-! ## Reading on the way, and below -/

theorem read?_append (node : Value) (path rest : Path) :
    read? node (path ++ rest) = (read? node path).bind fun found => read? found rest := by
  induction path generalizing node with
  | nil => rfl
  | cons segment path ih =>
    cases segment with
    | key key => cases h : node.member? key <;> simp [h, ih]
    | index i => cases h : node.item? i <;> simp [h, ih]

/-- Below a value that is missing there is nothing, as below null. -/
theorem read?_getD_null (found : Option Value) (segment : Segment) (rest : Path) :
    read? (found.getD .null) (segment :: rest)
      = found.bind fun child => read? child (segment :: rest) := by
  cases found <;> simp [read?_null]

/-- What is missing below a missing value is missing below null. -/
theorem getD_read?_getD (found : Option Value) (path : Path) :
    (read? (found.getD .null) path).getD .null
      = (found.bind fun child => read? child path).getD .null := by
  cases found with
  | some child => simp
  | none => cases path <;> simp

/-- **What was written is read back.** -/
theorem read?_write_self (node value : Value) (path : Path) :
    read? (write node path value) path = some value := by
  induction path generalizing node with
  | nil => rw [write_nil, read?_nil]
  | cons segment path ih =>
    cases segment with
    | key key => simp [member?_write_key, ih]
    | index i => simp [item?_write_index, ih]

/-- Below the written path, the written value is read. -/
theorem read?_write_append (node value : Value) (path rest : Path) :
    read? (write node path value) (path ++ rest) = read? value rest := by
  rw [read?_append, read?_write_self, Option.bind_some]

/-! ## Writing again -/

/-- **Of two writes at a path the second counts.** -/
theorem write_write (node value last : Value) (path : Path) :
    write (write node path value) path last = write node path last := by
  induction path generalizing node with
  | nil => simp
  | cons segment path ih =>
    cases segment with
    | key key =>
      rw [write_key, member?_write_key, if_pos rfl, Option.getD_some, ih, write_key node,
        write_key node]
      exact congrArg Value.obj (Table.insert_insert _ _ _ _)
    | index i =>
      rw [write_index, item?_write_index, if_pos rfl, Option.getD_some, ih, write_index node,
        write_index node]
      have hreaches := lt_length_padTo (node.asItems?.getD []) i
      change Value.arr ((padTo ((padTo (node.asItems?.getD []) i).set i _) i).set i _) = _
      rw [padTo_of_lt (by simpa using hreaches), List.set_set]

/-- **Writing what is there changes nothing.** -/
theorem write_of_read? (h : read? node path = some value) : write node path value = node := by
  induction path generalizing node with
  | nil => simpa using h.symm
  | cons segment path ih =>
    cases segment with
    | key key =>
      obtain ⟨child, hchild, hrest⟩ := Option.bind_eq_some_iff.mp h
      rw [write_key, hchild, Option.getD_some, ih hrest]
      cases node with
      | obj members => exact congrArg Value.obj (Table.insert_of_get? hchild)
      | _ => exact absurd hchild nofun
    | index i =>
      obtain ⟨child, hchild, hrest⟩ := Option.bind_eq_some_iff.mp h
      rw [write_index, hchild, Option.getD_some, ih hrest]
      cases node with
      | arr items =>
        obtain ⟨hi, rfl⟩ := List.getElem?_eq_some_iff.mp hchild
        change Value.arr ((padTo items i).set i _) = _
        rw [padTo_of_lt hi, List.set_getElem_self]
      | _ => exact absurd hchild nofun

/-! ## Beside the written path -/

/-- **A write fills a slot with null**: there is nothing at the slot, and the written path leads
through a later element of its sequence. -/
def Pads (document : Value) (path slot : Path) : Prop :=
  ∃ array i j rest, path = array ++ .index i :: rest ∧ slot = array ++ [.index j] ∧ j < i ∧
    read? document slot = none

/-- **A write replaces a container that a value is in**: where the ways part, one goes on by a key
and the other by an index. -/
def Replaces (document : Value) (path other : Path) : Prop :=
  ∃ container s t rest below, path = container ++ s :: rest ∧ other = container ++ t :: below ∧
    s.isIndex ≠ t.isIndex ∧ (read? document other).isSome

/-- What a write finds, or makes, one step down. -/
def childAt (node : Value) (step : Segment) : Value := (read? node [step]).getD .null

theorem read?_childAt (node : Value) (step : Segment) (h : rest ≠ []) :
    read? (childAt node step) rest = read? node (step :: rest) := by
  obtain ⟨next, rest, rfl⟩ := List.exists_cons_of_ne_nil h
  rw [childAt, read?_getD_null, ← read?_append]
  rfl

theorem pads_cons : Pads node (step :: path) (wanted :: other) ↔
    (step = wanted ∧ Pads (childAt node step) path other) ∨
      ∃ i j, step = .index i ∧ wanted = .index j ∧ other = [] ∧ j < i ∧
        read? node [wanted] = none := by
  constructor
  · rintro ⟨array, i, j, rest, hpath, hslot, hlt, hnone⟩
    cases array with
    | nil =>
      obtain ⟨rfl, rfl⟩ := List.cons_eq_cons.mp hpath
      obtain ⟨rfl, rfl⟩ := List.cons_eq_cons.mp hslot
      exact .inr ⟨i, j, rfl, rfl, rfl, hlt, hnone⟩
    | cons first array =>
      obtain ⟨rfl, rfl⟩ := List.cons_eq_cons.mp hpath
      obtain ⟨rfl, rfl⟩ := List.cons_eq_cons.mp hslot
      refine .inl ⟨rfl, array, i, j, rest, rfl, rfl, hlt, ?_⟩
      rwa [read?_childAt _ _ (by simp)]
  · rintro (⟨rfl, array, i, j, rest, rfl, rfl, hlt, hnone⟩ | ⟨i, j, rfl, rfl, rfl, hlt, hnone⟩)
    · refine ⟨step :: array, i, j, rest, rfl, rfl, hlt, ?_⟩
      rwa [read?_childAt _ _ (by simp)] at hnone
    · exact ⟨[], i, j, path, rfl, rfl, hlt, hnone⟩

theorem replaces_cons : Replaces node (step :: path) (wanted :: other) ↔
    (step = wanted ∧ Replaces (childAt node step) path other) ∨
      (step.isIndex ≠ wanted.isIndex ∧ (read? node (wanted :: other)).isSome) := by
  constructor
  · rintro ⟨container, s, t, rest, below, hpath, hother, hkind, hsome⟩
    cases container with
    | nil =>
      obtain ⟨rfl, rfl⟩ := List.cons_eq_cons.mp hpath
      obtain ⟨rfl, rfl⟩ := List.cons_eq_cons.mp hother
      exact .inr ⟨hkind, hsome⟩
    | cons first container =>
      obtain ⟨rfl, rfl⟩ := List.cons_eq_cons.mp hpath
      obtain ⟨rfl, rfl⟩ := List.cons_eq_cons.mp hother
      refine .inl ⟨rfl, container, s, t, rest, below, rfl, rfl, hkind, ?_⟩
      rwa [read?_childAt _ _ (by simp)]
  · rintro (⟨rfl, container, s, t, rest, below, rfl, rfl, hkind, hsome⟩ | ⟨hkind, hsome⟩)
    · refine ⟨step :: container, s, t, rest, below, rfl, rfl, hkind, ?_⟩
      rwa [read?_childAt _ _ (by simp)] at hsome
    · exact ⟨[], step, wanted, path, other, rfl, rfl, hkind, hsome⟩

/-- A reader that takes the first step of a write meets it again one step down. -/
theorem read?_write_same (node value : Value) (step : Segment) (path other : Path) :
    read? (write node (step :: path) value) (step :: other)
      = read? (write (childAt node step) path value) other := by
  cases step with
  | key key => simp [member?_write_key, childAt]
  | index i => simp [item?_write_index, childAt]

/-- A write makes the container that its first step needs, in which a step of the other kind leads
nowhere. -/
theorem read?_write_of_isIndex_ne (h : step.isIndex ≠ wanted.isIndex) :
    read? (write node (step :: path) value) (wanted :: other) = none := by
  cases step <;> cases wanted
  · exact absurd rfl h
  · rfl
  · rfl
  · exact absurd rfl h

/-- **Beside its first step, a write** leaves alone what a step of the same kind leads to, unless it
fills the slot there; a step of the other kind leads nowhere any more. -/
theorem read?_write_aside (h : step ≠ wanted) :
    read? (write node (step :: path) value) (wanted :: other)
      = if step.isIndex ≠ wanted.isIndex then none
        else if step.isBehind wanted ∧ other = [] ∧ read? node [wanted] = none then some .null
        else read? node (wanted :: other) := by
  by_cases hkind : step.isIndex ≠ wanted.isIndex
  · rw [if_pos hkind, read?_write_of_isIndex_ne hkind]
  rw [if_neg hkind]
  match step, wanted with
  | .key key, .key text =>
    have hne : key ≠ text := fun heq => h (congrArg Segment.key heq)
    simp [Segment.isBehind, member?_write_key, hne]
  | .key key, .index j => exact absurd Bool.false_ne_true hkind
  | .index i, .key text => exact absurd nofun hkind
  | .index i, .index j =>
    have hne : i ≠ j := fun heq => h (congrArg Segment.index heq)
    by_cases hlt : j < i
    · cases hitem : node.item? j with
      | some item => simp [Segment.isBehind, item?_write_index, hne, hlt, hitem]
      | none => cases other <;> simp [Segment.isBehind, item?_write_index, hne, hlt, hitem]
    · simp [Segment.isBehind, item?_write_index, hne, hlt]

theorem isBehind_iff : step.isBehind wanted = true ↔
    ∃ i j, step = .index i ∧ wanted = .index j ∧ j < i := by
  cases step <;> cases wanted <;> simp [Segment.isBehind]

/-- A reader that takes another first step meets what was there, unless it enters a container that
is replaced or stops at a slot that is filled. -/
theorem read?_write_apart_iff (h : step ≠ wanted) :
    read? (write node (step :: path) value) (wanted :: other) = read? node (wanted :: other) ↔
      (¬ ∃ i j, step = .index i ∧ wanted = .index j ∧ other = [] ∧ j < i ∧
        read? node [wanted] = none) ∧
      ¬ (step.isIndex ≠ wanted.isIndex ∧ (read? node (wanted :: other)).isSome) := by
  rw [read?_write_aside h]
  have hfilled : (∃ i j, step = .index i ∧ wanted = .index j ∧ other = [] ∧ j < i ∧
      read? node [wanted] = none) ↔
        step.isBehind wanted = true ∧ other = [] ∧ read? node [wanted] = none := by
    rw [isBehind_iff]
    grind
  rw [hfilled]
  by_cases hkind : step.isIndex ≠ wanted.isIndex
  · have hbehind : ¬ step.isBehind wanted = true := fun hbehind => by
      obtain ⟨i, j, rfl, rfl, -⟩ := isBehind_iff.mp hbehind
      exact hkind rfl
    simp [hkind, hbehind, @eq_comm (Option Value) none]
  · rw [if_neg hkind]
    split
    · rename_i hslot
      obtain ⟨hbehind, rfl, hnone⟩ := hslot
      simp [hbehind, hnone]
    · rename_i hslot
      simp [hkind, hslot]

/-- Paths that part both go on behind the point where they do. -/
theorem ne_nil_of_not_isRelated (h : Path.isRelated path other = false) :
    path ≠ [] ∧ other ≠ [] := by
  constructor <;> rintro rfl <;> simp [Path.isRelated, Path.startsWith] at h

theorem isRelated_cons_self : Path.isRelated (step :: path) (step :: other)
    = Path.isRelated path other := by
  simp [Path.isRelated, Path.startsWith]

/-- **What a write changes beside its path**: the slots that it fills, and what was in a container
that it replaces. -/
theorem read?_write_eq_iff (h : Path.isRelated path other = false) (value : Value) :
    read? (write node path value) other = read? node other
      ↔ ¬ Pads node path other ∧ ¬ Replaces node path other := by
  induction path generalizing node other with
  | nil => exact absurd rfl (ne_nil_of_not_isRelated h).1
  | cons step path ih =>
    obtain ⟨wanted, other, rfl⟩ := List.exists_cons_of_ne_nil (ne_nil_of_not_isRelated h).2
    rw [pads_cons, replaces_cons]
    by_cases hsame : step = wanted
    · subst hsame
      rw [isRelated_cons_self] at h
      rw [read?_write_same, ← read?_childAt _ _ (ne_nil_of_not_isRelated h).2, ih h]
      have hlate : ∀ i j, step = .index i → step = .index j → ¬ j < i := by
        rintro i j rfl heq
        obtain rfl := Segment.index.inj heq
        exact Nat.lt_irrefl i
      grind
    · rw [read?_write_apart_iff hsame]
      simp [hsame]

/-- What is both an object and a sequence is neither. -/
theorem isIndex_eq_of_isSome {s t : Segment} {below : Path} (hs : (read? node (s :: rest)).isSome)
    (ht : (read? node (t :: below)).isSome) : s.isIndex = t.isIndex := by
  cases s <;> cases t <;> cases node <;> simp_all [Segment.isIndex, Value.member?, Value.item?]

/-- **A write to a place that exists fills nothing.** -/
theorem not_pads_of_isSome (h : (read? node path).isSome) : ¬ Pads node path other := by
  rintro ⟨array, i, j, rest, rfl, rfl, hlt, hnone⟩
  rw [read?_append] at h hnone
  cases harray : read? node array with
  | none => simp [harray] at h
  | some found =>
    have hi : (found.item? i).isSome := by
      rw [harray, Option.bind_some, read?_index] at h
      exact Option.isSome_of_isSome_bind h
    have hj : found.item? j = none := by simpa [harray] using hnone
    rw [item?_eq_getElem?] at hi hj
    have hshort := List.getElem?_eq_none_iff.mp hj
    have hlong : i < (found.asItems?.getD []).length := by simpa using hi
    omega

/-- **A write to a place that exists replaces nothing.** -/
theorem not_replaces_of_isSome (h : (read? node path).isSome) : ¬ Replaces node path other := by
  rintro ⟨container, s, t, rest, below, rfl, rfl, hkind, hsome⟩
  rw [read?_append] at h hsome
  cases hcontainer : read? node container with
  | none => simp [hcontainer] at h
  | some found =>
    rw [hcontainer] at h hsome
    exact hkind (isIndex_eq_of_isSome h hsome)

/-- **A write to a place that exists leaves every path alone that parts from it.** -/
theorem read?_write_of_isSome (h : (read? node path).isSome)
    (hother : Path.isRelated path other = false) (value : Value) :
    read? (write node path value) other = read? node other :=
  (read?_write_eq_iff hother value).mpr ⟨not_pads_of_isSome h, not_replaces_of_isSome h⟩

end Document

end SchemaForms
