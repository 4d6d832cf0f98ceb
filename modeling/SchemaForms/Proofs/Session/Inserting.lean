import SchemaForms.Proofs.Session.Shifting
import SchemaForms.Proofs.Store.Appending

/-!
# Proofs/Session/Inserting — a new block starts fresh and can be taken back

Where a block is put, something may have been before: a block that a text edit took away, a load that
is still under way, an editor that nobody closed.  An insertion drops all that is filed at or below
the path of the new block, and nothing else; and what it appends to a sequence can be removed again,
which restores the document.  It changes the session step by step, but where it is refused the session
is as it was (`inserted_blocks_start_fresh`).
-/

namespace SchemaForms

/-! ## What is filed below a path -/

namespace Registry

/-- **Exactly what is filed at or below a path is gone.** -/
structure DropsUnder (before after : Registry) (path : Path) : Prop where
  gone : ∀ {other : Path}, (∀ segment ∈ other, Path.Fits segment) → path <+: other →
    after.filedAt other = .nothing
  kept : ∀ {other : Path}, (∀ segment ∈ other, Path.Fits segment) → ¬ path <+: other →
    after.filedAt other = before.filedAt other

theorem dropsUnder_dropUnder (registry : Registry) {above path : Path}
    (habove : Path.Rooted above) (hpath : above <+: path) :
    DropsUnder registry (registry.dropUnder path) path where
  gone hfits hbelow := by
    rw [dropUnder, filedAt_dropWhere, if_pos]
    exact Path.startsWith_iff.mpr ((habove.below_parse_key_iff hpath hfits).mpr hbelow)
  kept hfits haside := by
    rw [dropUnder, filedAt_dropWhere, if_neg]
    intro hdoomed
    exact haside ((habove.below_parse_key_iff hpath hfits).mp (Path.startsWith_iff.mp hdoomed))

end Registry

namespace Session

variable {session next : Session} {insertion : Insertion} {found : Value} {path : Path}

/-! ## Step by step and in one piece -/

namespace Stepwise

theorem run_append (session : Session) (path : Path) (item : Value) :
    (inStore (.append path item)).run session = outcome session (session.append path item) := by
  rw [run_inStore, InPlace.run_append, append]
  cases session.store.append path item <;> rfl

theorem run_set (session : Session) (path : Path) (value : Value) :
    (inStore (.set path value .interactive)).run session
      = match session.write path value with
        | .ok next => .ok () next
        | .error refusal => .error (.store refusal) session := by
  rw [run_inStore, InPlace.run_set, write]
  cases session.store.set path value .interactive <;> rfl

theorem run_place (session : Session) (insertion : Insertion) (found : Value) :
    (place insertion found).run session = outcome session (session.place insertion found) := by
  unfold place Session.place
  split
  · rw [EStateM.run_bind, run_append]
    cases session.append insertion.target found <;> rfl
  · rw [EStateM.run_bind, run_set]
    cases session.write insertion.target found <;> rfl

/-- **An insertion in place comes to what an insertion in one piece does.** -/
theorem run_insertBlock (session : Session) (insertion : Insertion)
    (definition : Catalog.Definition) : (insertBlock insertion definition).run session
      = outcome session (session.insertBlock insertion definition) := by
  unfold insertBlock Session.insertBlock
  rw [EStateM.run_bind, run_place]
  cases session.place insertion (definition.newInstance insertion.category) <;> rfl

end Stepwise

/-! ## Where a block is put -/

/-- **Where an instance is put**, and what the store is then. -/
inductive Placed (session : Session) (insertion : Insertion) (found : Value) : Path → Store → Prop
  where
  | element {items : List Value} (hisArray : insertion.isArray = true)
      (hholds : session.store.Holds insertion.target items) :
      Placed session insertion found (insertion.target.item items.length)
        (session.store.commit (Document.write session.store.document insertion.target
          (.arr (items ++ [found]))) insertion.target .interactive)
  | slot (hisArray : insertion.isArray = false) :
      Placed session insertion found insertion.target
        (session.store.commit (Document.write session.store.document insertion.target found)
          insertion.target .interactive)

theorem placed_place (h : session.place insertion found = .ok (path, next)) :
    Placed session insertion found path next.store := by
  obtain ⟨index, hisArray, rfl, happend⟩ | ⟨hisArray, rfl, hwrite⟩ := place_eq_ok h
  · obtain ⟨store, hstore, rfl⟩ := append_eq_ok.mp happend
    obtain ⟨-, items, hholds, rfl, rfl⟩ := Store.append_eq_ok hstore
    exact .element hisArray hholds
  · obtain ⟨-, rfl⟩ := write_eq_ok.mp hwrite
    exact .slot hisArray

/-- An instance of any kind can be put where its path is near, and one that is to be appended where
there is something to append to. -/
theorem exists_place_iff : (∃ path next, session.place insertion found = .ok (path, next)) ↔
    session.store.checkPadding insertion.target = .ok () ∧
      (insertion.isArray = true → ∃ items, session.store.Holds insertion.target items) := by
  constructor
  · rintro ⟨path, next, hplace⟩
    obtain ⟨index, -, -, happend⟩ | ⟨hisArray, -, hwrite⟩ := place_eq_ok hplace
    · obtain ⟨store, hstore, -⟩ := append_eq_ok.mp happend
      obtain ⟨hnear, items, hholds, -⟩ := Store.append_eq_ok_iff.mp hstore
      exact ⟨hnear, fun _ => ⟨items, hholds⟩⟩
    · exact ⟨(write_eq_ok.mp hwrite).1, fun h => absurd (h.symm.trans hisArray) nofun⟩
  · rintro ⟨hnear, hholds⟩
    unfold place
    split
    · rename_i hisArray
      obtain ⟨items, hitems⟩ := hholds hisArray
      rw [append_eq_ok.mpr ⟨_, Store.append_of_holds hnear hitems found, rfl⟩]
      exact ⟨_, _, rfl⟩
    · rw [write_eq_ok.mpr ⟨hnear, rfl⟩]
      exact ⟨_, _, rfl⟩

theorem exists_insertBlock_iff {definition : Catalog.Definition} :
    (∃ path next, session.insertBlock insertion definition = .ok (path, next)) ↔
      ∃ path next, session.place insertion (definition.newInstance insertion.category)
        = .ok (path, next) := by
  constructor
  · rintro ⟨path, next, hinsert⟩
    obtain ⟨placed, hplace, -⟩ := insertBlock_eq_ok hinsert
    exact ⟨path, placed, hplace⟩
  · rintro ⟨path, placed, hplace⟩
    rw [insertBlock, hplace]
    exact ⟨_, _, rfl⟩

namespace Placed

variable {store : Store}

theorem below_target (h : Placed session insertion found path store) :
    insertion.target <+: path := by
  cases h with
  | element => exact List.prefix_append _ _
  | slot => exact List.prefix_refl _

/-- **The instance is at its path.** -/
theorem get? (h : Placed session insertion found path store) :
    store.get? path = some found := by
  cases h with
  | element =>
    refine (Document.read?_write_append _ _ insertion.target _).trans ?_
    simp [Document.item?_eq_getElem?, Value.asItems?]
  | slot => exact Document.read?_write_self _ _ _

/-- **What was put at the end of a sequence can be taken back.** -/
theorem remove (h : Placed session insertion found path next.store)
    (hisArray : insertion.isArray = true) {items : List Value}
    (hitems : session.value? insertion.target = some (.arr items)) :
    ∃ restored, next.remove path = .ok (found, restored) ∧
      restored.store.document = session.store.document := by
  generalize hstore : next.store = store at h
  cases h with
  | slot hslot => exact absurd (hisArray.symm.trans hslot) nofun
  | @element held _ hholds =>
    obtain rfl : items = held :=
      (Store.Holds.eq_itemsAt (.inl hitems)).trans hholds.eq_itemsAt.symm
    obtain ⟨restored, hrun, hdocument⟩ := InPlace.run_remove_appended hitems found
    rw [← hstore, InPlace.run_remove_eq_ok] at hrun
    rw [remove_item]
    exact ⟨_, removeItem_eq_ok_iff.mpr ⟨restored, hrun, rfl⟩, hdocument⟩

end Placed

/-- **A new block starts fresh and can be taken back.**  Its instance names the block under the tag
of its kind, without the suffix of the kind, and has the label as `alias`, which is the name where
there is no other.  An insertion goes through exactly if its target is near and, where it appends,
nothing but a sequence, null or nothing is there.  Then the instance is at the path that it answers
with, what was filed at or below this path is gone, and all else that is filed stays; and if it was
appended to a sequence, a removal at this path gives the instance back and restores the document.  If
it is refused, the session is as it was. -/
theorem inserted_blocks_start_fresh (session : Session) {insertion : Insertion}
    (htarget : Path.Rooted insertion.target) (definition : Catalog.Definition) :
    let block := Value.obj
      [(insertion.category.tag, .str (Catalog.baseName definition.name insertion.category)),
        ("alias", .str (definition.label.getD definition.name))]
    let insert := Stepwise.insertBlock insertion definition
    definition.newInstance insertion.category = block ∧
    ((∃ path next, insert.run session = .ok path next) ↔
      session.store.checkPadding insertion.target = .ok () ∧ (insertion.isArray = true →
        session.value? insertion.target = none ∨ session.value? insertion.target = some .null ∨
          ∃ items, session.value? insertion.target = some (.arr items))) ∧
    (∀ path next, insert.run session = .ok path next →
      session.insertBlock insertion definition = .ok (path, next) ∧
      next.value? path = some block ∧
      Registry.DropsUnder session.registry next.registry path ∧
      ∀ items, insertion.isArray = true → session.value? insertion.target = some (.arr items) →
        ∃ restored, next.remove path = .ok (block, restored) ∧
          restored.store.document = session.store.document) ∧
    ∀ refusal after, insert.run session = .error refusal after →
      session.insertBlock insertion definition = .error refusal ∧ after = session := by
  intro block insert
  refine ⟨rfl, ?_, fun path next hrun => ?_, fun refusal after hrun => ?_⟩
  · simp only [insert, Stepwise.run_insertBlock, Stepwise.outcome_eq_ok]
    rw [exists_insertBlock_iff, exists_place_iff, Store.exists_holds_iff]
    exact Iff.rfl
  · rw [Stepwise.run_insertBlock] at hrun
    have hinsert := Stepwise.outcome_eq_ok.mp hrun
    obtain ⟨placed, hplace, hnext⟩ := insertBlock_eq_ok hinsert
    have hstore : next.store = placed.store := by rw [hnext]
    have hplaced : Placed session insertion block path next.store := by
      rw [hstore]
      exact placed_place hplace
    refine ⟨hinsert, hplaced.get?, ?_, fun items hisArray => hplaced.remove hisArray⟩
    rw [(edited_insertBlock hinsert).registry]
    exact Registry.dropsUnder_dropUnder session.registry htarget hplaced.below_target
  · rw [Stepwise.run_insertBlock] at hrun
    exact Stepwise.outcome_eq_error.mp hrun

/-- A block is appended where a schema, a load and an editor were left over; the editor of the block
before it stays, and the new block is taken back.  To a text nothing can be appended. -/
theorem inserted_blocks_start_fresh_left_over :
    let list := Path.root.child "actions"
    let name := Path.root.child "name"
    let place := list.item 1
    let document := Value.obj [("root", .obj [("actions", .arr [.str "a"]), ("name", .str "b")])]
    let cache := ((Cache.empty .reuse).set place .null).launch (place.child "action").key
    let session := (((ofDocument .default document).setCache cache).setEditor (place.item 0)
      .initial).setEditor (list.item 0) .initial
    let definition := { Catalog.Definition.named "delayAction" with label := some "Wait" }
    let block := Value.obj [("action", .str "delay"), ("alias", .str "Wait")]
    (∃ next, (Stepwise.insertBlock ⟨.action, list, true⟩ definition).run session = .ok place next ∧
      next.value? place = some block ∧
      (∀ other ∈ [place, place.child "action", place.item 0],
        next.registry.filedAt other = .nothing) ∧
      next.registry.filedAt (list.item 0) = session.registry.filedAt (list.item 0) ∧
      ∃ restored, next.remove place = .ok (block, restored) ∧ restored.store.document = document) ∧
    ∃ after, (Stepwise.insertBlock ⟨.action, name, true⟩ definition).run session
      = .error (.store (.notASequence name)) after ∧ after = session := by
  intro list name place document cache session definition block
  have hlist : Path.Rooted list := by decide
  have hname : Path.Rooted name := by decide
  obtain ⟨hinstance, -, hinserted, -⟩ :=
    @inserted_blocks_start_fresh session ⟨.action, list, true⟩ hlist definition
  obtain ⟨-, -, -, hrefused⟩ :=
    @inserted_blocks_start_fresh session ⟨.action, name, true⟩ hname definition
  have hrun : (Stepwise.insertBlock ⟨.action, list, true⟩ definition).run session
    = .ok place _ := rfl
  have herror : (Stepwise.insertBlock ⟨.action, name, true⟩ definition).run session
    = .error (.store (.notASequence name)) _ := rfl
  have hblock : definition.newInstance .action = block := by decide +kernel
  have hsame := hinstance.symm.trans hblock
  obtain ⟨-, hvalue, hdrops, hback⟩ := hinserted _ _ hrun
  refine ⟨⟨_, hrun, hvalue.trans (congrArg some hsame), fun other hother => ?_, ?_, hsame ▸ hback _ rfl rfl⟩, _, herror,
    (hrefused _ _ herror).2⟩
  · have hbelow : ∀ other ∈ [place, place.child "action", place.item 0],
        (∀ segment ∈ other, Path.Fits segment) ∧ place <+: other := by decide
    exact hdrops.gone (hbelow other hother).1 (hbelow other hother).2
  · exact hdrops.kept (by decide) (by decide)

end Session

end SchemaForms
