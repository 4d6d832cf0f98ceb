import SchemaForms.Proofs.Store.Refusals

/-!
# Proofs/Store/Appending — an append is a write of the longer sequence

On its way an append makes what is missing, and at the end a sequence of null, before it puts its
element there.  All the same it comes to what one write of the longer sequence comes to, and it goes
through wherever that write does and no value of another kind is in the slot
(`appends_write_the_longer_sequence`).
-/

namespace SchemaForms

open Document (itemsAt)

namespace Store

variable {store next : Store} {path : Path} {items : List Value} {item : Value} {i : Nat}

/-- What an append finds is the sequence at its path, or nothing of which it makes an empty one. -/
theorem Holds.eq_itemsAt (h : store.Holds path items) : items = itemsAt store.document path := by
  rw [itemsAt, ← get?]
  rcases h with h | ⟨rfl, h | h⟩ <;> rw [h] <;> rfl

/-- There is something to append to if there is a sequence, null or nothing. -/
theorem exists_holds_iff : (∃ items, store.Holds path items) ↔
    store.get? path = none ∨ store.get? path = some .null ∨
      ∃ items, store.get? path = some (.arr items) := by
  constructor
  · rintro ⟨items, hitems | ⟨-, hnone | hnull⟩⟩
    · exact .inr (.inr ⟨items, hitems⟩)
    · exact .inl hnone
    · exact .inr (.inl hnull)
  · rintro (hnone | hnull | ⟨items, hitems⟩)
    · exact ⟨[], .inr ⟨rfl, .inl hnone⟩⟩
    · exact ⟨[], .inr ⟨rfl, .inr hnull⟩⟩
    · exact ⟨items, .inl hitems⟩

/-- **An append goes through if it finds a sequence, null or nothing**, and its path is near. -/
theorem append_of_holds (hnear : store.checkPadding path = .ok ()) (h : store.Holds path items)
    (item : Value) : store.append path item = .ok (items.length, store.commit
      (Document.write store.document path (.arr (items ++ [item]))) path .interactive) := by
  unfold append
  rcases h with h | ⟨rfl, h | h⟩ <;> simp only [hnear, h] <;> rfl

theorem append_eq_ok_iff : store.append path item = .ok (i, next) ↔
    store.checkPadding path = .ok () ∧ ∃ items, store.Holds path items ∧ i = items.length ∧
      next = store.commit
        (Document.write store.document path (.arr (items ++ [item]))) path .interactive := by
  constructor
  · intro h
    rw [checkPadding_eq_ok]
    exact append_eq_ok h
  · rintro ⟨hnear, items, hholds, rfl, rfl⟩
    exact append_of_holds hnear hholds item

end Store

namespace InPlace

variable {store next : Store} {path : Path} {items : List Value} {item : Value} {i : Nat}

theorem run_append_eq_ok : (append path item).run store = .ok i next ↔
    store.append path item = .ok (i, next) := by
  rw [run_append]
  cases store.append path item <;> simp [outcome, Prod.ext_iff]

theorem run_remove_eq_ok : (remove path i).run store = .ok item next ↔
    store.remove path i = .ok (item, next) := by
  rw [run_remove]
  cases store.remove path i <;> simp [outcome, Prod.ext_iff]

theorem run_set_of_near (hnear : store.checkPadding path = .ok ()) (value : Value)
    (options : WriteOptions) : (set path value options).run store
      = .ok () (store.commit (Document.write store.document path value) path options) := by
  rw [run_set, Store.set_eq_ok.mpr ⟨Store.checkPadding_eq_ok.mp hnear, rfl⟩]
  rfl

theorem run_remove_of_getElem? (hitems : store.get? path = some (.arr items))
    (hremoved : items[i]? = some item) : (remove path i).run store
      = .ok item (store.commit
        (Document.write store.document path (.arr (items.eraseIdx i))) path .interactive) := by
  rw [run_remove, Store.remove, Store.items_eq_ok.mpr hitems]
  simp only [bind, Except.bind, hremoved]
  rfl

/-- **What was appended to a sequence can be taken back**, and then the document is the old one. -/
theorem run_remove_appended (hitems : store.get? path = some (.arr items)) (item : Value) :
    ∃ restored, (remove path items.length).run (store.commit
        (Document.write store.document path (.arr (items ++ [item]))) path .interactive)
      = .ok item restored ∧ restored.document = store.document := by
  have hlonger : Store.get? (store.commit (Document.write store.document path
      (.arr (items ++ [item]))) path .interactive) path = some (.arr (items ++ [item])) :=
    Document.read?_write_self _ _ _
  refine ⟨_, run_remove_of_getElem? hlonger List.getElem?_concat_length, ?_⟩
  rw [List.eraseIdx_append_of_length_le (Nat.le_refl _), Nat.sub_self]
  change Document.write (Document.write store.document path _) path (.arr (items ++ [])) = _
  rw [List.append_nil, Document.write_write, Document.write_of_read? hitems]

/-- **An append is a write of the longer sequence.**  It goes through exactly if its path is near and
nothing but a sequence, null or nothing is there.  Then it answers with the length of the sequence,
and comes to what a write of that sequence followed by the element comes to; and if there was a
sequence, removing the element restores the document. -/
theorem appends_write_the_longer_sequence (store : Store) (path : Path) (item : Value) :
    ((∃ index next, (append path item).run store = .ok index next) ↔
      store.checkPadding path = .ok () ∧ (store.get? path = none ∨ store.get? path = some .null ∨
        ∃ items, store.get? path = some (.arr items))) ∧
    ∀ index next, (append path item).run store = .ok index next →
      store.append path item = .ok (index, next) ∧
      index = (itemsAt store.document path).length ∧
      (∀ options, ∃ after,
        (set path (.arr (itemsAt store.document path ++ [item])) options).run store
          = .ok () after ∧
        after.document = next.document ∧ (options = .interactive → after = next)) ∧
      ∀ items, store.get? path = some (.arr items) →
        ∃ restored, (remove path index).run next = .ok item restored ∧
          restored.document = store.document := by
  constructor
  · rw [← Store.exists_holds_iff]
    constructor
    · rintro ⟨index, next, hrun⟩
      obtain ⟨hnear, items, hholds, -, -⟩ := Store.append_eq_ok_iff.mp (run_append_eq_ok.mp hrun)
      exact ⟨hnear, items, hholds⟩
    · rintro ⟨hnear, items, hholds⟩
      exact ⟨_, _, run_append_eq_ok.mpr (Store.append_of_holds hnear hholds item)⟩
  · intro index next hrun
    have happend := run_append_eq_ok.mp hrun
    obtain ⟨hnear, items, hholds, rfl, rfl⟩ := Store.append_eq_ok_iff.mp happend
    obtain rfl := hholds.eq_itemsAt
    refine ⟨happend, rfl, fun options => ⟨_, run_set_of_near hnear _ options, rfl, ?_⟩, ?_⟩
    · rintro rfl
      rfl
    · intro items hitems
      rw [← Store.Holds.eq_itemsAt (.inl hitems)]
      exact run_remove_appended hitems item

/-- An append through a value of another kind, and one to a sequence that is there. -/
theorem appends_write_the_longer_sequence_made :
    let name := Path.root.child "name"
    let list := Path.root.child "list"
    let made := (name.item 2).child "items"
    let store := Store.ofDocument (.obj [("root", .obj [("name", .str "a"),
      ("list", .arr [.str "b"])])])
    (∃ next, (append made .null).run store = .ok 0 next ∧ ∃ after,
      (set made (.arr [.null]) .silent).run store = .ok () after ∧
        after.document = next.document) ∧
    ∃ next, (append list (.str "c")).run store = .ok 1 next ∧ ∃ restored,
      (remove list 1).run next = .ok (.str "c") restored ∧ restored.document = store.document := by
  intro name list made store
  have hmade : (append made .null).run store = .ok 0 _ := rfl
  have happended : (append list (.str "c")).run store = .ok 1 _ := rfl
  obtain ⟨-, -, hset, -⟩ := (appends_write_the_longer_sequence store made .null).2 _ _ hmade
  obtain ⟨-, -, -, hback⟩ := (appends_write_the_longer_sequence store list (.str "c")).2 _ _ happended
  obtain ⟨after, hrun, hdocument, -⟩ := hset .silent
  exact ⟨⟨_, hmade, after, hrun, hdocument⟩, _, happended, hback _ rfl⟩

end InPlace

end SchemaForms
