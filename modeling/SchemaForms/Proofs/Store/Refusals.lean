import SchemaForms.Proofs.Store.Edits
import SchemaForms.Store.InPlace

/-!
# Proofs/Store/Refusals — a write that is refused leaves no trace

A write in place makes containers on its way before it can see whether the slot at the end will do.
What the walk changes it changes for a slot that was not there, and then the slot is null, which an
append accepts; a slot that was there is reached without a change (`reach_of_read?`).  So each write
in place comes to what the write in one piece comes to, and where that is refused the store is as it
was (`refused_writes_leave_no_trace`).
-/

namespace SchemaForms

namespace Document

variable {node value : Value} {path : Path}

/-! ## The walk to a slot -/

/-- **The walk writes back what it finds**, which is null where there was nothing. -/
theorem reach_eq_write (node : Value) (path : Path) :
    reach node path = write node path ((read? node path).getD .null) := by
  induction path generalizing node with
  | nil => simp [reach]
  | cons segment path ih =>
    -- below a child that is missing the walk finds null, as the reader of the whole path does
    cases segment with
    | key key =>
      rw [reach, ← member?_eq_get?, ih, getD_read?_getD, ← read?_key, ← write_key]
    | index i =>
      rw [reach, getD_getElem?_padTo, ih, getD_read?_getD, ← read?_index, ← write_index]

/-- The slot at the end of the walk holds what it held before, or null. -/
theorem read?_reach (node : Value) (path : Path) :
    read? (reach node path) path = some ((read? node path).getD .null) := by
  rw [reach_eq_write, read?_write_self]

/-- **The walk to a slot that is there changes nothing.** -/
theorem reach_of_read? (h : read? node path = some value) : reach node path = node := by
  rw [reach_eq_write, h, Option.getD_some, write_of_read? h]

/-- What the walk made is written over. -/
theorem write_reach (node value : Value) (path : Path) :
    write (reach node path) path value = write node path value := by
  rw [reach_eq_write, write_write]

end Document

namespace InPlace

variable {α : Type} {store after : Store} {path : Path} {refusal : StoreError}

/-- What a write in one piece comes to: it goes through, or the store is as it was. -/
def outcome (store : Store) : Except StoreError (α × Store) → EStateM.Result StoreError Store α
  | .ok (answer, next) => .ok answer next
  | .error refusal => .error refusal store

theorem outcome_eq_error {result : Except StoreError (α × Store)} :
    outcome store result = .error refusal after ↔ after = store ∧ result = .error refusal := by
  cases result with
  | ok next => simp [outcome]
  | error cause => simp [outcome, and_comm, @eq_comm _ after]

/-! ## Step by step and in one piece -/

theorem run_checkPadding (store : Store) (path : Path) :
    (checkPadding path).run store
      = outcome store ((store.checkPadding path).map fun answer => (answer, store)) := by
  simp only [checkPadding, EStateM.run_bind, EStateM.run_get]
  cases store.checkPadding path <;> rfl

theorem run_set (store : Store) (path : Path) (value : Value) (options : WriteOptions) :
    (set path value options).run store
      = outcome store ((store.set path value options).map fun next => ((), next)) := by
  simp only [set, EStateM.run_bind, run_checkPadding, Store.set]
  cases store.checkPadding path with
  | error refusal => rfl
  | ok _ =>
    change EStateM.Result.ok () _ = EStateM.Result.ok () _
    simp only [Document.write_reach]
    rfl

theorem run_slot? (store : Store) (path : Path) :
    (slot? path).run store = .ok (store.get? path) store := rfl

theorem run_push_arr {items : List Value} (h : store.get? path = some (.arr items)) (item : Value) :
    (push path item).run store = .ok items.length (store.commit
      (Document.write store.document path (.arr (items ++ [item]))) path .interactive) := by
  rw [push, EStateM.run_bind, run_slot?, h]
  rfl

theorem run_push_of_ne (h : ∀ items, store.get? path ≠ some (.arr items)) (item : Value) :
    (push path item).run store = .error (.notASequence path) store := by
  rw [push, EStateM.run_bind, run_slot?]
  cases hslot : store.get? path with
  | none => rfl
  | some found =>
    cases found with
    | arr items => exact absurd hslot (h items)
    | _ => rfl

theorem run_makeSequence (store : Store) (path : Path) :
    (makeSequence path).run store = .ok () (if store.get? path = some .null then
      { store with document := Document.write store.document path (.arr []) } else store) := by
  rw [makeSequence, EStateM.run_bind, run_slot?]
  cases store.get? path with
  | none => rfl
  | some found => cases found <;> rfl

/-- The store after the walk to a slot. -/
theorem run_reach (store : Store) (path : Path) :
    (reach path).run store
      = .ok () { store with document := Document.reach store.document path } := rfl

/-- Where there is nothing or null, the walk makes the slot that the append needs. -/
theorem run_append_null (hnear : store.checkPadding path = .ok ())
    (hnull : (store.get? path).getD .null = .null) (item : Value) :
    (append path item).run store = .ok 0 (store.commit
      (Document.write store.document path (.arr [item])) path .interactive) := by
  have hslot : Document.read? (Document.reach store.document path) path = some .null := by
    rw [Document.read?_reach]
    exact congrArg some hnull
  simp only [append, EStateM.run_bind, run_checkPadding, hnear, Except.map, outcome, run_reach,
    run_makeSequence, Store.get?, hslot, if_true, Document.write_reach]
  have hopened : Store.get? ⟨Document.write store.document path (.arr []), store.flags, store.feeds⟩
      path = some (.arr []) := Document.read?_write_self _ _ _
  rw [run_push_arr hopened]
  simp only [Document.write_write]
  rfl

/-- **To a slot that is there the walk changes nothing**, and what is in it decides. -/
theorem run_append_of_ne {found : Value} (hnear : store.checkPadding path = .ok ())
    (hfound : store.get? path = some found) (hne : found ≠ .null) (item : Value) :
    (append path item).run store = (push path item).run store := by
  have hreach : Document.reach store.document path = store.document := Document.reach_of_read? hfound
  have hslot : store.get? path ≠ some .null := fun h => hne (Option.some.inj (hfound.symm.trans h))
  simp only [append, EStateM.run_bind, run_checkPadding, hnear, Except.map, outcome, run_reach,
    hreach, run_makeSequence, if_neg hslot]

/-- **An append in place comes to what an append in one piece does.** -/
theorem run_append (store : Store) (path : Path) (item : Value) :
    (append path item).run store = outcome store (store.append path item) := by
  unfold Store.append
  cases hnear : store.checkPadding path with
  | error refusal => simp only [append, EStateM.run_bind, run_checkPadding, hnear]; rfl
  | ok _ =>
    cases hfound : store.get? path with
    | none => exact run_append_null hnear (by simp [hfound]) item
    | some found =>
      cases found with
      | null => exact run_append_null hnear (by simp [hfound]) item
      | arr items => exact (run_append_of_ne hnear hfound nofun item).trans (run_push_arr hfound item)
      | _ => exact (run_append_of_ne hnear hfound nofun item).trans (run_push_of_ne (by simp [hfound]) item)

theorem run_remove (store : Store) (path : Path) (index : Nat) :
    (remove path index).run store = outcome store (store.remove path index) := by
  rw [remove, EStateM.run_bind, run_slot?, Store.remove, Store.items]
  cases store.get? path with
  | none => rfl
  | some found =>
    cases found with
    | arr items => cases hremoved : items[index]? <;> simp only [hremoved, bind, Except.bind] <;> rfl
    | _ => rfl

/-- An element that is there is moved by taking it out and putting it in again. -/
theorem moveItem_of_lt {items : List Value} {source : Nat} (h : source < items.length)
    (target : Nat) : Document.moveItem items source target
      = (items.eraseIdx source).insertIdx target (items[source]?.getD .null) := by
  simp [Document.moveItem, List.getElem?_eq_getElem h]

theorem run_move (store : Store) (path : Path) (source target : Nat) :
    (move path source target).run store
      = outcome store ((store.move path source target).map fun next => ((), next)) := by
  rw [move, EStateM.run_bind, run_slot?, Store.move, Store.items]
  cases store.get? path with
  | none => rfl
  | some found =>
    cases found with
    | arr items =>
      by_cases hsource : items.length ≤ source
      · simp only [List.find?, hsource, decide_true, bind, Except.bind, if_true]
        rfl
      by_cases htarget : items.length ≤ target
      · simp only [List.find?, hsource, htarget, decide_true, decide_false, bind, Except.bind,
          if_true, if_false]
        rfl
      simp only [List.find?, hsource, htarget, decide_false, bind, Except.bind, if_false,
        moveItem_of_lt (Nat.lt_of_not_le hsource)]
      change EStateM.Result.ok () _ = EStateM.Result.ok () _
      simp only [Document.write_write]
      rfl
    | _ => rfl

/-! ## Refusals -/

theorem map_eq_error {ε α β : Type} {f : α → β} {result : Except ε α} {e : ε} :
    result.map f = .error e ↔ result = .error e := by
  cases result <;> simp [Except.map]

/-- **A write that is refused leaves no trace**: not in the document, nor in the marks, nor in what
those who watch are shown, wherever on its way it is refused; and it is refused for the reason for
which the write in one piece is. -/
theorem refused_writes_leave_no_trace (store after : Store) (path : Path) (refusal : StoreError) :
    (∀ value options, (set path value options).run store = .error refusal after →
      after = store ∧ store.set path value options = .error refusal) ∧
    (∀ item, (append path item).run store = .error refusal after →
      after = store ∧ store.append path item = .error refusal) ∧
    (∀ index, (remove path index).run store = .error refusal after →
      after = store ∧ store.remove path index = .error refusal) ∧
    (∀ source target, (move path source target).run store = .error refusal after →
      after = store ∧ store.move path source target = .error refusal) := by
  refine ⟨fun value options h => ?_, fun item h => ?_, fun index h => ?_, fun source target h => ?_⟩
  · rw [run_set, outcome_eq_error, map_eq_error] at h
    exact h
  · rw [run_append] at h
    exact outcome_eq_error.mp h
  · rw [run_remove] at h
    exact outcome_eq_error.mp h
  · rw [run_move, outcome_eq_error, map_eq_error] at h
    exact h

/-- Each kind of refusal, in a store with a marked field that is watched. -/
theorem refused_writes_leave_no_trace_marked :
    let name := Path.root.child "name"
    let list := Path.root.child "list"
    let store := ((Store.ofDocument (.obj [("root", .obj [("name", .str "a"),
      ("list", .arr [.null])])])).commit
        (.obj [("root", .obj [("name", .str "b"), ("list", .arr [.null])])]) name .interactive)
    let watched := (store.watch name).2
    (∃ after, (set (list.item 2000) .null .silent).run watched
        = .error (.tooFar (list.item 2000) 2000 1) after ∧ after = watched) ∧
      (∃ after, (append name .null).run watched = .error (.notASequence name) after ∧
        after = watched) ∧
      (∃ after, (remove list 1).run watched = .error (.outOfBounds list 1 1) after ∧
        after = watched) ∧
      (∃ after, (move list 0 1).run watched = .error (.outOfBounds list 1 1) after ∧
        after = watched) := by
  intro name list store watched
  have hset : (set (list.item 2000) .null .silent).run watched = .error _ _ := rfl
  have happend : (append name .null).run watched = .error _ _ := rfl
  have hremove : (remove list 1).run watched = .error _ _ := rfl
  have hmove : (move list 0 1).run watched = .error _ _ := rfl
  exact ⟨⟨_, hset, ((refused_writes_leave_no_trace _ _ _ _).1 _ _ hset).1⟩,
    ⟨_, happend, ((refused_writes_leave_no_trace _ _ _ _).2.1 _ happend).1⟩,
    ⟨_, hremove, ((refused_writes_leave_no_trace _ _ _ _).2.2.1 _ hremove).1⟩,
    ⟨_, hmove, ((refused_writes_leave_no_trace _ _ _ _).2.2.2 _ _ hmove).1⟩⟩

end InPlace

end SchemaForms
