import SchemaForms.Proofs.Store.Edits

/-!
# Proofs/Store/Frame — what every path reads after a write

A path that is read after a write goes through the written one, leads to it, or parts from it
(`exists_parting`).  Down to the point where they part, the write is the same write done lower down
(`read?_write_above`); behind that point it is a single step that the reader does not take
(`read?_write_aside`).

The main statement `reads_after_set` puts the three together: below the path the written value is
read, above it stand the containers that its steps need, with their keys in order, and beside it
nothing changes but for the slots that are filled with null and what a container of the other kind
held.
-/

namespace SchemaForms

/-- Whether a value is the container that a step needs: an object for a key, a sequence for an
index. -/
def Segment.leadsInto : Segment → Value → Bool
  | .key _, .obj _ | .index _, .arr _ => true
  | _, _ => false

namespace Path

/-- The steps that two paths have in common from the top. -/
def shared : Path → Path → Path
  | a :: as, b :: bs => if a = b then a :: shared as bs else []
  | _, _ => []

/-- **Two paths that are not related part** behind what they share. -/
theorem exists_parting {path other : Path} (h : isRelated path other = false) :
    ∃ step turn rest below, path = shared path other ++ step :: rest ∧
      other = shared path other ++ turn :: below ∧ step ≠ turn := by
  induction path generalizing other with
  | nil => exact absurd rfl (Document.ne_nil_of_not_isRelated h).1
  | cons step path ih =>
    obtain ⟨turn, other, rfl⟩ :=
      List.exists_cons_of_ne_nil (Document.ne_nil_of_not_isRelated h).2
    by_cases hsame : step = turn
    · subst hsame
      rw [Document.isRelated_cons_self] at h
      obtain ⟨step', turn, rest, below, hpath, hother, hne⟩ := ih h
      refine ⟨step', turn, rest, below, ?_, ?_, hne⟩
      · rw [shared, if_pos rfl, List.cons_append, ← hpath]
      · rw [shared, if_pos rfl, List.cons_append, ← hother]
    · exact ⟨step, turn, path, other, by simp [shared, hsame], by simp [shared, hsame], hsame⟩

end Path

namespace Document

variable {node value : Value} {above rest below : Path} {step turn : Segment}

/-- **Above its path, a write is the rest of the write done on what was there.** -/
theorem read?_write_above (node value : Value) (above rest : Path) :
    read? (write node (above ++ rest) value) above
      = some (write ((read? node above).getD .null) rest value) := by
  induction above generalizing node with
  | nil => simp
  | cons segment above ih =>
    cases segment with
    | key key => simp [member?_write_key, ih, getD_read?_getD]
    | index i => simp [item?_write_index, ih, getD_read?_getD]

/-- **A write goes down in two parts**: the rest of it is a write of its own where the first part
ends. -/
theorem write_append (node value : Value) (above rest : Path) :
    write node (above ++ rest) value
      = write node above (write ((read? node above).getD .null) rest value) := by
  induction above generalizing node with
  | nil => simp
  | cons segment above ih =>
    cases segment with
    | key key =>
      rw [List.cons_append, write_key, write_key, ih, getD_read?_getD, read?_key]
    | index i =>
      rw [List.cons_append, write_index, write_index, ih, getD_read?_getD, read?_index]

/-- A write makes of the value that it enters the container that its first step needs. -/
theorem leadsInto_write (node value : Value) (step : Segment) (rest : Path) :
    step.leadsInto (write node (step :: rest) value) = true := by
  cases step <;> rfl

/-- **Where two paths part**, a write along the one changes for the other what it does one step
behind that point. -/
theorem read?_write_parted (common : Path) (h : step ≠ turn) :
    read? (write node (common ++ step :: rest) value) (common ++ turn :: below)
      = if step.isIndex ≠ turn.isIndex then none
        else if step.isBehind turn ∧ below = [] ∧ read? node (common ++ turn :: below) = none
          then some .null
        else read? node (common ++ turn :: below) := by
  have hbelow : ∀ below, read? ((read? node common).getD .null) (turn :: below)
      = read? node (common ++ turn :: below) := fun below => by
    rw [read?_getD_null, read?_append]
  rw [read?_append, read?_write_above, Option.bind_some, read?_write_aside h, hbelow, hbelow]
  by_cases hnil : below = []
  · subst hnil
    rfl
  · simp [hnil]

/-- **An object on the way keeps its keys in order.** -/
theorem keys_write_above {members : List (String × Value)} {key : String}
    (h : read? node above = some (.obj members)) :
    ∃ written, read? (write node (above ++ .key key :: rest) value) above = some (.obj written) ∧
      Table.keys written = if key ∈ Table.keys members then Table.keys members
        else Table.keys members ++ [key] := by
  rw [read?_write_above, h, Option.getD_some, write_key]
  exact ⟨_, rfl, Table.keys_insert _ _ _⟩

/-- What is not there is no key of the object above it. -/
theorem not_mem_keys_of_read? {key : String} (hmissing : read? node (above.child key) = none) :
    key ∉ Table.keys (((read? node above).bind Value.asMembers?).getD []) := by
  rw [← Table.get?_eq_none, ← hmissing, Path.child, read?_append]
  cases read? node above with
  | none => rfl
  | some found => simp [member?_eq_get?]

/-- **A member that is new comes last**; where there is no object, one is made of it. -/
theorem read?_write_child {key : String} (hmissing : read? node (above.child key) = none)
    (value : Value) : read? (write node (above.child key) value) above
      = some (.obj (((read? node above).bind Value.asMembers?).getD [] ++ [(key, value)])) := by
  rw [Path.child, read?_write_above, write_key, write_nil,
    ← Table.insert_of_not_mem (not_mem_keys_of_read? hmissing)]
  cases read? node above <;> rfl

end Document

namespace Store

/-- **What every path reads after a write.**  Through the written path the written value is read.
Above it stands, at each step, the container that the step needs; an object there keeps its keys in
order.  For a path that parts from it: a step of the other kind leads nowhere, and for a step of the
same kind nothing changes, except that a missing slot before the written element is null now. -/
theorem reads_after_set {store next : Store} {path : Path} {value : Value}
    {options : WriteOptions} (h : store.set path value options = .ok next) :
    (∀ rest, next.get? (path ++ rest) = Document.read? value rest) ∧
    (∀ above step rest, path = above ++ step :: rest →
      ∃ container, next.get? above = some container ∧ step.leadsInto container = true) ∧
    (∀ other, Path.isRelated path other = false →
      ∃ step turn rest below, path = Path.shared path other ++ step :: rest ∧
        other = Path.shared path other ++ turn :: below ∧ step ≠ turn ∧
        next.get? other =
          if step.isIndex ≠ turn.isIndex then none
          else if step.isBehind turn ∧ below = [] ∧ store.get? other = none then some .null
          else store.get? other) ∧
    (∀ above key rest members, path = above ++ .key key :: rest →
      store.get? above = some (.obj members) →
      ∃ written, next.get? above = some (.obj written) ∧
        Table.keys written = if key ∈ Table.keys members then Table.keys members
          else Table.keys members ++ [key]) := by
  obtain ⟨_, rfl⟩ := set_eq_ok.mp h
  refine ⟨fun rest => Document.read?_write_append _ _ _ _, ?_, ?_, ?_⟩
  · rintro above step rest rfl
    exact ⟨_, Document.read?_write_above _ _ _ _, Document.leadsInto_write _ _ _ _⟩
  · intro other hapart
    obtain ⟨step, turn, rest, below, hpath, hother, hne⟩ := Path.exists_parting hapart
    refine ⟨step, turn, rest, below, hpath, hother, hne, ?_⟩
    generalize Path.shared path other = common at hpath hother
    subst hpath hother
    exact Document.read?_write_parted common hne
  · rintro above key rest members rfl hmembers
    exact Document.keys_write_above hmembers

/-- A write that makes an object behind the end of a list: what is read in it, of the list, of the
slot that it fills, and of a key in the list's place. -/
theorem reads_after_set_behind_the_end :
    let list := Path.root.child "list"
    let path := (list.item 2).child "name"
    let store := Store.ofDocument (.obj [("root", .obj [("list", .arr [.str "a"]),
      ("name", .bool true)])])
    ∃ next, store.set path (.obj [("b", .null)]) .interactive = .ok next ∧
      next.get? (path.child "b") = some .null ∧
      (∃ items, next.get? list = some (.arr items)) ∧
      next.get? (list.item 1) = some .null ∧
      next.get? (list.child "name") = none ∧
      ∃ written, next.get? Path.root = some (.obj written) ∧
        Table.keys written = ["list", "name"] := by
  intro list path store
  have hset : store.set path (.obj [("b", .null)]) .interactive = .ok _ := rfl
  obtain ⟨hbelow, habove, hbeside, hkeys⟩ := reads_after_set hset
  refine ⟨_, hset, hbelow [.key "b"], ?_, ?_, ?_, hkeys Path.root "list" _ _ rfl rfl⟩
  · obtain ⟨container, hread, hleads⟩ := habove list (.index 2) [.key "name"] rfl
    cases container with
    | arr items => exact ⟨items, hread⟩
    | _ => exact absurd hleads nofun
  · obtain ⟨step, turn, rest, below, hpath, hother, -, hread⟩ := hbeside (list.item 1) (by decide)
    obtain ⟨rfl, -⟩ := List.cons.inj (@List.append_cancel_left _ list _ _ hpath)
    obtain ⟨rfl, rfl⟩ := List.cons.inj (@List.append_cancel_left _ list _ _ hother)
    exact hread.trans (by decide)
  · obtain ⟨step, turn, rest, below, hpath, hother, -, hread⟩ :=
      hbeside (list.child "name") (by decide)
    obtain ⟨rfl, -⟩ := List.cons.inj (@List.append_cancel_left _ list _ _ hpath)
    obtain ⟨rfl, rfl⟩ := List.cons.inj (@List.append_cancel_left _ list _ _ hother)
    exact hread.trans (by decide)

end Store

end SchemaForms
