import Mathlib.Data.List.InsertIdx
import SchemaForms.Proofs.Store.Frame
import SchemaForms.Proofs.Store.Refusals

/-!
# Proofs/Store/Moving — moving an element is a rotation, and can be undone

An element is moved by taking it out and putting it in again.  Taken out of its new place it leaves
what was left when it was taken out of its old one; so the elements in between shift by one, the
others stay, and moving it back restores the sequence (`rotates_moveItem`, `moveItem_moveItem`).

The main statement `moves_are_reversible` says this of the document: only the sequence changes, and
the move back restores all of it.
-/

namespace SchemaForms

namespace Document

variable {items moved : List Value} {source target : Nat}

/-- `moved` is `items` with one element taken from `source` to `target`, and the rest in order. -/
structure Rotates (items moved : List Value) (source target : Nat) : Prop where
  arrived : moved[target]? = items[source]?
  /-- Without the element that is moved the two are the same. -/
  others : moved.eraseIdx target = items.eraseIdx source
  outside : ∀ i, i < min source target ∨ max source target < i → moved[i]? = items[i]?
  down : ∀ i, source < i → i ≤ target → moved[i - 1]? = items[i]?
  up : ∀ i, target ≤ i → i < source → moved[i + 1]? = items[i]?
  perm : moved.Perm items

theorem moveItem_eq_insertIdx (hsource : source < items.length) (target : Nat) :
    moveItem items source target = (items.eraseIdx source).insertIdx target items[source] := by
  rw [InPlace.moveItem_of_lt hsource, List.getElem?_eq_getElem hsource, Option.getD_some]

/-- There is a place for the element among the others. -/
theorem le_length_eraseIdx (hsource : source < items.length) (htarget : target < items.length) :
    target ≤ (items.eraseIdx source).length := by
  rw [List.length_eraseIdx_of_lt hsource]
  exact Nat.le_sub_one_of_lt htarget

/-- Where each element of the new sequence comes from: an element is found among the others, where the
one that is moved stood at `source` before and stands at `target` now. -/
theorem getElem?_moveItem (hsource : source < items.length) (htarget : target < items.length)
    (i : Nat) : (moveItem items source target)[i]?
      = if i = target then items[source]?
        else if i < target then (if i < source then items[i]? else items[i + 1]?)
        else if i ≤ source then items[i - 1]? else items[i]? := by
  have hplace := le_length_eraseIdx hsource htarget
  rw [moveItem_eq_insertIdx hsource, List.getElem?_insertIdx, List.getElem?_eraseIdx,
    List.getElem?_eraseIdx]
  grind

/-- **A move rotates the elements between its two places.** -/
theorem rotates_moveItem (hsource : source < items.length) (htarget : target < items.length) :
    Rotates items (moveItem items source target) source target where
  arrived := by rw [getElem?_moveItem hsource htarget, if_pos rfl]
  others := by rw [moveItem_eq_insertIdx hsource, List.eraseIdx_insertIdx_self]
  outside i hi := by
    rw [getElem?_moveItem hsource htarget]
    grind
  down i hlt hle := by
    rw [getElem?_moveItem hsource htarget]
    grind
  up i hle hlt := by
    rw [getElem?_moveItem hsource htarget]
    grind
  perm := by
    have hthere := List.perm_insertIdx items[source] _ (le_length_eraseIdx hsource htarget)
    have hback := List.perm_insertIdx items[source] _ (le_length_eraseIdx hsource hsource)
    rw [List.insertIdx_eraseIdx_getElem hsource] at hback
    rw [moveItem_eq_insertIdx hsource]
    exact hthere.trans hback.symm

theorem Rotates.length_eq (h : Rotates items moved source target) : moved.length = items.length :=
  h.perm.length_eq

/-- **The move back undoes a move.** -/
theorem moveItem_moveItem (hsource : source < items.length) (htarget : target < items.length) :
    moveItem (moveItem items source target) target source = items := by
  have hrotates := rotates_moveItem hsource htarget
  have hthere : target < (moveItem items source target).length := by rwa [hrotates.length_eq]
  have harrived : (moveItem items source target)[target] = items[source] := by
    have hread := hrotates.arrived
    rw [List.getElem?_eq_getElem hthere, List.getElem?_eq_getElem hsource] at hread
    exact Option.some.inj hread
  rw [moveItem_eq_insertIdx hthere, hrotates.others, harrived,
    List.insertIdx_eraseIdx_getElem hsource]

/-! ## The rest of the document -/

variable {document value : Value} {path other above rest : Path}

/-- **A sequence in place of one that is as long** changes nothing for a path that does not lead to it
and goes through none of its elements. -/
theorem read?_write_items (hitems : read? document path = some (.arr items))
    (hlength : moved.length = items.length) (habove : ¬ other <+: path)
    (hinside : ∀ i rest, other = path ++ .index i :: rest → items.length ≤ i) :
    read? (write document path (.arr moved)) other = read? document other := by
  by_cases hbelow : path <+: other
  · obtain ⟨rest, rfl⟩ := hbelow
    rw [read?_write_append, read?_append, hitems, Option.bind_some]
    rcases rest with _ | ⟨key | i, rest⟩
    · exact absurd ⟨[], by simp⟩ habove
    · rfl
    · have hend := hinside i rest rfl
      have hnone : moved[i]? = items[i]? := by
        rw [List.getElem?_eq_none hend, List.getElem?_eq_none (hlength ▸ hend)]
      simp [Value.item?, hnone]
  · exact read?_write_of_isSome (Option.isSome_of_eq_some hitems)
      (Path.isRelated_eq_false_iff.mpr ⟨hbelow, habove⟩) _

/-- **Above a place that exists**, a write is the rest of the write done on what is there. -/
theorem read?_write_above_of_read? (h : read? document (above ++ rest) = some value)
    (written : Value) : read? (write document (above ++ rest) written) above
      = (read? document above).map fun container => write container rest written := by
  rw [read?_append] at h
  obtain ⟨container, hcontainer, -⟩ := Option.bind_eq_some_iff.mp h
  rw [read?_write_above, hcontainer, Option.getD_some, Option.map_some]

end Document

open Document (Rotates moveItem)

variable {store : Store} {path : Path} {items : List Value} {source target : Nat}

/-- A move within a sequence goes through. -/
theorem Store.move_of_lt (hitems : store.get? path = some (.arr items))
    (hsource : source < items.length) (htarget : target < items.length) :
    store.move path source target = .ok (store.commit
      (Document.write store.document path (.arr (moveItem items source target))) path
      .interactive) := by
  rw [Store.move, Store.items_eq_ok.mpr hitems]
  simp only [bind, Except.bind, if_neg (Nat.not_le.mpr hsource), if_neg (Nat.not_le.mpr htarget)]

namespace InPlace

theorem run_move_of_lt (hitems : store.get? path = some (.arr items))
    (hsource : source < items.length) (htarget : target < items.length) :
    (move path source target).run store = .ok () (store.commit
      (Document.write store.document path (.arr (moveItem items source target))) path
      .interactive) := by
  rw [run_move, Store.move_of_lt hitems hsource htarget]
  rfl

/-- **A move is a rotation of the sequence, and of nothing else, and the move back undoes it.**  The
element arrives, those in between shift by one and keep their order, and none is lost or doubled.  A
path that neither leads to the sequence nor into an element of it reads as before, and one that leads
to it reads as before but for the sequence. -/
theorem moves_are_reversible (hitems : store.get? path = some (.arr items))
    (hsource : source < items.length) (htarget : target < items.length) :
    ∃ moved next, (move path source target).run store = .ok () next ∧
      store.move path source target = .ok next ∧
      next.get? path = some (.arr moved) ∧ Rotates items moved source target ∧
      (∀ other, ¬ other <+: path →
        (∀ i rest, other = path ++ .index i :: rest → items.length ≤ i) →
        next.get? other = store.get? other) ∧
      (∀ above rest, path = above ++ rest → next.get? above
        = (store.get? above).map fun container => Document.write container rest (.arr moved)) ∧
      ∃ restored, (move path target source).run next = .ok () restored ∧
        restored.document = store.document := by
  have hrotates := Document.rotates_moveItem hsource htarget
  have hmoved : Store.get? (store.commit (Document.write store.document path
      (.arr (moveItem items source target))) path .interactive) path
        = some (.arr (moveItem items source target)) := Document.read?_write_self _ _ _
  refine ⟨moveItem items source target, _, run_move_of_lt hitems hsource htarget,
    Store.move_of_lt hitems hsource htarget, hmoved, hrotates,
    fun other => Document.read?_write_items hitems hrotates.length_eq, ?_, ?_⟩
  · rintro above rest rfl
    exact Document.read?_write_above_of_read? hitems _
  · have hthere : target < (moveItem items source target).length := by rwa [hrotates.length_eq]
    have hback : source < (moveItem items source target).length := by rwa [hrotates.length_eq]
    refine ⟨_, run_move_of_lt hmoved hthere hback, ?_⟩
    rw [Document.moveItem_moveItem hsource htarget]
    change Document.write (Document.write store.document path _) path _ = _
    rw [Document.write_write, Document.write_of_read? hitems]

/-- A move to a later place, beside a member that is not touched. -/
theorem moves_are_reversible_later :
    let list := Path.root.child "list"
    let name := Path.root.child "name"
    let items : List Value := [.str "a", .str "b", .str "a", .str "c"]
    let store := Store.ofDocument (.obj [("root", .obj [("list", .arr items),
      ("name", .bool true)])])
    store.get? list = some (.arr items) ∧ 0 < items.length ∧ 2 < items.length ∧
      ∃ moved next, (move list 0 2).run store = .ok () next ∧ next.get? list = some (.arr moved) ∧
        moved[2]? = some (.str "a") ∧ moved.eraseIdx 2 = items.tail ∧
        next.get? name = some (.bool true) ∧
        ∃ restored, (move list 2 0).run next = .ok () restored ∧
          restored.document = store.document := by
  intro list name items store
  have hitems : store.get? list = some (.arr items) := rfl
  obtain ⟨moved, next, hrun, -, hmoved, hrotates, hbeside, -, hback⟩ :=
    moves_are_reversible hitems (show 0 < items.length by decide) (show 2 < items.length by decide)
  refine ⟨hitems, by decide, by decide, moved, next, hrun, hmoved, hrotates.arrived,
    hrotates.others, ?_, hback⟩
  refine hbeside name (by decide) fun i rest hpath => ?_
  simp [name, list, Path.root, Path.child] at hpath

end InPlace

end SchemaForms
