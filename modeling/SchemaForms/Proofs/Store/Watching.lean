import SchemaForms.Proofs.Store.Edits
import SchemaForms.Rehearsal.Watching

/-!
# Proofs/Store/Watching — what a watch shows

A watch is told of a write only if the written path is related to its own.  So it shows what is in
the store as long as no write reaches it from beside: as long as none fills the slot that is watched
or replaces a container on the way to it (`watch_shows_the_store`).  A write that does is not
announced, and the watch goes on showing what is no longer there (`unspared_write_goes_unnoticed`).
-/

namespace SchemaForms

/-- A feed to which a store publishes. -/
def Feed.told (feed : Feed) (store : Store) : Feed :=
  { feed with value := store.get? feed.path, version := feed.version + 1 }

/-- The later state of a feed: what is published again is counted. -/
structure Feed.Follows (later earlier : Feed) : Prop where
  version : earlier.version ≤ later.version
  value : later.version = earlier.version → later.value = earlier.value

theorem Feed.Follows.refl (feed : Feed) : Feed.Follows feed feed := ⟨Nat.le_refl _, fun _ => rfl⟩

theorem Feed.Follows.trans {first second third : Feed} (h : Feed.Follows third second)
    (h' : Feed.Follows second first) : Feed.Follows third first where
  version := Nat.le_trans h'.version h.version
  value heq := by
    have hle := h.version
    have hle' := h'.version
    rw [h.value (by omega), h'.value (by omega)]

namespace Watching

open Store (Edit Lands)

/-- A watch, with its store and the feed that it reads. -/
structure Standing where
  store : Store
  watch : Watch
  feed : Feed

variable {watching : Watching} {id : String} {path : Path} {now : Standing} {act : Act}
  {acts : List Act}

/-! ## A watch that stands -/

/-- A name under which a path of a store is watched. -/
structure Stands (watching : Watching) (id : String) (path : Path) (now : Standing) : Prop where
  store_eq : watching.store = some now.store
  feeds_eq : watching.feeds = now.store.feeds
  find_eq : watching.find? id = some now.watch
  feed_eq : now.store.feeds[now.watch.feed]? = some now.feed
  path_eq : now.feed.path = path
  /-- What was seen was published before. -/
  seen_le : now.watch.seen ≤ now.feed.version
  isOpen : now.feed.closed = false

theorem Stands.shown (h : Stands watching id path now) : watching.shown id = now.feed.value := by
  simp [Watching.shown, Watching.current, Watch.current, Watch.feed?, h.find_eq, h.feeds_eq,
    h.feed_eq]

theorem Stands.announces (h : Stands watching id path now) :
    watching.announces id = (now.feed.version != now.watch.seen) := by
  simp [Watching.announces, Watching.hasChanged, Watch.hasChanged, Watch.feed?, h.find_eq,
    h.feeds_eq, h.feed_eq, h.isOpen]

/-! ## One act -/

/-- Whether an act spares a path; what is no write does. -/
def Act.Spares (watching : Watching) (path : Path) : Act → Prop
  | .edit write => ∀ store, watching.store = some store → write.Spares store path
  | .watch .. | .mark _ => True

/-- What becomes of a watch by an act that leaves its name alone. -/
structure Later (watching : Watching) (id : String) (path : Path) (act : Act)
    (before now : Standing) : Prop where
  stands : Stands (watching.act act) id path now
  follows : Feed.Follows now.feed before.feed
  watch_eq : act ≠ .mark id → now.watch = before.watch
  value_eq : act.Spares watching path → before.feed.value = before.store.get? path →
    now.feed.value = now.store.get? path

/-- The watch stands as it stood. -/
theorem Later.same (h : Stands (watching.act act) id path now) :
    Later watching id path act now now :=
  ⟨h, .refl _, fun _ => rfl, fun _ hvalue => hvalue⟩

theorem later_edit (h : Stands watching id path now) (edit : Edit) :
    ∃ next, Later watching id path (.edit edit) now next := by
  have hact : watching.act (.edit edit) = watching.withStore (now.store.edit edit) := by
    simp [Watching.act, h.store_eq]
  obtain hsame | ⟨written, hlands⟩ := Store.edit_cases now.store edit
  · refine ⟨now, .same ?_⟩
    rw [hact, hsame]
    exact ⟨rfl, rfl, h.find_eq, h.feed_eq, h.path_eq, h.seen_le, h.isOpen⟩
  · have hfeed : (now.store.edit edit).feeds[now.watch.feed]? = some
        (if Path.isRelated now.feed.path written then now.feed.told (now.store.edit edit)
        else now.feed) := by
      rw [hlands.feeds, Feed.publish, List.getElem?_map, h.feed_eq]
      rfl
    by_cases hrelated : Path.isRelated now.feed.path written = true
    · rw [if_pos hrelated] at hfeed
      have hseen := Nat.le_succ_of_le h.seen_le
      refine ⟨⟨now.store.edit edit, now.watch, now.feed.told (now.store.edit edit)⟩, ?_,
        ⟨?_, ?_⟩, fun _ => rfl, ?_⟩
      · rw [hact]
        exact ⟨rfl, rfl, h.find_eq, hfeed, h.path_eq, hseen, h.isOpen⟩
      · exact Nat.le_succ _
      · exact fun heq => absurd heq (Nat.succ_ne_self _)
      · exact fun _ _ => congrArg _ h.path_eq
    · rw [if_neg hrelated] at hfeed
      refine ⟨⟨now.store.edit edit, now.watch, now.feed⟩, ?_, .refl _, fun _ => rfl, ?_⟩
      · rw [hact]
        exact ⟨rfl, rfl, h.find_eq, hfeed, h.path_eq, h.seen_le, h.isOpen⟩
      · intro hspares hvalue
        have hapart : Path.isRelated written path = false := by
          rw [← h.path_eq]
          simpa [Path.isRelated, Bool.or_comm] using hrelated
        rw [hvalue, hlands.apart hapart (hspares now.store h.store_eq)]

theorem later_watch (h : Stands watching id path now) {other : String} (hother : other ≠ id)
    (wanted : Path) : ∃ next, Later watching id path (.watch other wanted) now next := by
  refine ⟨{ now with store := (now.store.watch wanted).2 }, ?_, .refl _, fun _ => rfl,
    fun _ hvalue => hvalue⟩
  have hact : watching.act (.watch other wanted)
      = (watching.withStore (now.store.watch wanted).2).keep other (now.store.watch wanted).1 := by
    simp only [Watching.act, h.store_eq]
    rfl
  rw [hact]
  refine ⟨rfl, rfl, ?_, ?_, h.path_eq, h.seen_le, h.isOpen⟩
  · exact (Table.get?_insert _ _ _ _).trans ((if_neg hother).trans h.find_eq)
  · obtain ⟨hlt, -⟩ := List.getElem?_eq_some_iff.mp h.feed_eq
    exact (List.getElem?_append_left hlt).trans h.feed_eq

theorem later_mark (h : Stands watching id path now) (other : String) :
    ∃ next, Later watching id path (.mark other) now next := by
  cases hfind : watching.find? other with
  | none =>
    have hact : watching.act (.mark other) = watching := by simp [Watching.act, hfind]
    refine ⟨now, .same ?_⟩
    rwa [hact]
  | some found =>
    have hact : watching.act (.mark other) = watching.keep other (found.markSeen watching.feeds) := by
      simp [Watching.act, hfind, Watching.mark]
    by_cases hother : other = id
    · subst hother
      obtain rfl : now.watch = found := Option.some.inj (h.find_eq.symm.trans hfind)
      refine ⟨{ now with watch := now.watch.markSeen watching.feeds }, ?_, .refl _,
        fun hne => absurd rfl hne, fun _ hvalue => hvalue⟩
      rw [hact]
      refine ⟨h.store_eq, h.feeds_eq, ?_, h.feed_eq, h.path_eq, ?_, h.isOpen⟩
      · exact (Table.get?_insert _ _ _ _).trans (if_pos rfl)
      · simp [Watch.markSeen, Watch.feed?, h.feeds_eq, h.feed_eq]
    · refine ⟨now, .same ?_⟩
      rw [hact]
      refine ⟨h.store_eq, h.feeds_eq, ?_, h.feed_eq, h.path_eq, h.seen_le, h.isOpen⟩
      exact (Table.get?_insert _ _ _ _).trans ((if_neg hother).trans h.find_eq)

/-- **One act**: a watch whose name is not given away goes on. -/
theorem later_act (h : Stands watching id path now) (hkept : ∀ wanted, act ≠ .watch id wanted) :
    ∃ next, Later watching id path act now next := by
  cases act with
  | edit edit => exact later_edit h edit
  | watch other wanted =>
    have hother : other ≠ id := by
      rintro rfl
      exact hkept wanted rfl
    exact later_watch h hother wanted
  | mark other => exact later_mark h other

/-! ## A run -/

theorem run_append (watching : Watching) (front back : List Act) :
    watching.run (front ++ back) = (watching.run front).run back := List.foldl_append

/-- **A run of acts**: a watch whose name is not given away goes on, remembers what it has seen until
it looks again, and shows the store for as long as it is spared. -/
theorem stands_run (h : Stands watching id path now) (hkept : ∀ wanted, .watch id wanted ∉ acts) :
    ∃ next, Stands (watching.run acts) id path next ∧
      (.mark id ∉ acts → next.watch = now.watch ∧ Feed.Follows next.feed now.feed) ∧
      ((∀ early act late, acts = early ++ act :: late → act.Spares (watching.run early) path) →
        now.feed.value = now.store.get? path → next.feed.value = next.store.get? path) := by
  induction acts generalizing watching now with
  | nil => exact ⟨now, h, fun _ => ⟨rfl, .refl _⟩, fun _ hvalue => hvalue⟩
  | cons act acts ih =>
    have hhere : ∀ wanted, act ≠ .watch id wanted := by
      rintro wanted rfl
      exact hkept wanted List.mem_cons_self
    obtain ⟨middle, hlater⟩ := later_act h hhere
    obtain ⟨next, hstands, hseen, hvalue⟩ :=
      ih hlater.stands fun wanted hmem => hkept wanted (List.mem_cons_of_mem _ hmem)
    refine ⟨next, hstands, fun hmark => ?_, fun hspared hnow => ?_⟩
    · obtain ⟨hhead, htail⟩ := not_or.mp (mt List.mem_cons.mpr hmark)
      obtain ⟨hwatch, hfollows⟩ := hseen htail
      exact ⟨hwatch.trans (hlater.watch_eq (Ne.symm hhead)), hfollows.trans hlater.follows⟩
    · refine hvalue ?_ (hlater.value_eq (hspared [] act acts rfl) hnow)
      intro early later late hacts
      exact hspared (act :: early) later late (by rw [hacts]; rfl)

/-- A store does not go by itself. -/
theorem isSome_store_act (h : watching.store.isSome) : (watching.act act).store.isSome := by
  obtain ⟨store, hstore⟩ := Option.isSome_iff_exists.mp h
  cases act with
  | edit edit => simp [Watching.act, hstore, withStore]
  | watch id path => simp [Watching.act, hstore, Watching.watch, withStore, keep]
  | mark id =>
    simp only [Watching.act]
    split
    · exact h
    · exact h

theorem isSome_store_run (h : watching.store.isSome) (acts : List Act) :
    (watching.run acts).store.isSome := by
  induction acts generalizing watching with
  | nil => exact h
  | cons act acts ih => exact ih (isSome_store_act h)

/-- A new watch shows the store, and has seen what it shows. -/
theorem stands_watch (h : watching.store.isSome) (id : String) (path : Path) :
    ∃ now, Stands (watching.act (.watch id path)) id path now ∧
      now.feed.value = now.store.get? path := by
  obtain ⟨store, hstore⟩ := Option.isSome_iff_exists.mp h
  have hact : watching.act (.watch id path) = watching.watch store id path := by
    simp [Watching.act, hstore]
  rw [hact]
  refine ⟨⟨(store.watch path).2, (store.watch path).1, ⟨path, store.get? path, 0, false⟩⟩,
    ⟨rfl, rfl, ?_, ?_, rfl, Nat.le_refl 0, rfl⟩, rfl⟩
  · exact (Table.get?_insert _ _ _ _).trans (if_pos rfl)
  · simp [Store.watch]

/-- **A watch that shows another value than before announces it**, unless it looked meanwhile. -/
theorem Stands.announces_of_ne (h : Stands watching id path now)
    (hkept : ∀ wanted, .watch id wanted ∉ acts) (hmark : .mark id ∉ acts)
    (hne : (watching.run acts).shown id ≠ watching.shown id) :
    (watching.run acts).announces id = true := by
  obtain ⟨next, hnext, hseen, -⟩ := stands_run h hkept
  obtain ⟨hwatch, hfollows⟩ := hseen hmark
  rw [hnext.shown, h.shown] at hne
  rw [hnext.announces, bne_iff_ne, hwatch]
  -- a version that was seen then is the last one, so nothing was published since
  intro hquiet
  have hle := hfollows.version
  have hseen := h.seen_le
  exact hne (hfollows.value (by omega))

/-- The store over a document, and what was done to it and by its watchers. -/
def reached (document : Value) (acts : List Act) : Watching :=
  (start (.ofDocument document)).run acts

theorem reached_append (document : Value) (front back : List Act) :
    reached document (front ++ back) = (reached document front).run back := run_append _ front back

/-- A name goes on standing for a watch. -/
theorem stands_reached (document : Value) (before : List Act) (id : String) (path : Path)
    (hkept : ∀ wanted, .watch id wanted ∉ acts) :
    ∃ now, Stands (reached document (before ++ .watch id path :: acts)) id path now ∧
      ((∀ early act late, acts = early ++ act :: late →
          act.Spares (reached document (before ++ .watch id path :: early)) path) →
        now.feed.value = now.store.get? path) := by
  have hrun : ∀ acts, reached document (before ++ .watch id path :: acts)
      = ((reached document before).act (.watch id path)).run acts := fun acts =>
    reached_append document before (.watch id path :: acts)
  have hstart : (reached document before).store.isSome := isSome_store_run rfl before
  obtain ⟨began, hbegan, hvalue⟩ := stands_watch hstart id path
  obtain ⟨now, hnow, -, hshown⟩ := stands_run hbegan hkept
  refine ⟨now, ?_, fun hspared => hshown ?_ hvalue⟩
  · rwa [hrun]
  · intro early act late hacts
    rw [← hrun]
    exact hspared early act late hacts

/-- **A watch shows what is in the store**, whatever is written and whoever else watches, as long as
each write since it began spares its path; and it announces a change whenever it shows another value
than at some time since it last looked. -/
theorem watch_shows_the_store (document : Value) (before after : List Act) (id : String)
    (path : Path) (hkept : ∀ other, .watch id other ∉ after)
    (hspared : ∀ early act late, after = early ++ act :: late →
      act.Spares (reached document (before ++ .watch id path :: early)) path) :
    let now := reached document (before ++ .watch id path :: after)
    (∃ store, now.store = some store ∧ now.shown id = store.get? path) ∧
      ∀ early late, after = early ++ late → .mark id ∉ late →
        now.shown id ≠ (reached document (before ++ .watch id path :: early)).shown id →
          now.announces id = true := by
  constructor
  · obtain ⟨now, hnow, hvalue⟩ := stands_reached document before id path hkept
    exact ⟨now.store, hnow.store_eq, hnow.shown.trans (hvalue hspared)⟩
  · rintro early late rfl hmark hne
    have hearly : ∀ wanted, .watch id wanted ∉ early := fun wanted hmem =>
      hkept wanted (List.mem_append_left late hmem)
    have hlate : ∀ wanted, .watch id wanted ∉ late := fun wanted hmem =>
      hkept wanted (List.mem_append_right early hmem)
    obtain ⟨middle, hmiddle, -⟩ := stands_reached document before id path hearly
    have hnow : reached document (before ++ .watch id path :: (early ++ late))
        = (reached document (before ++ .watch id path :: early)).run late := by
      rw [← reached_append, List.append_assoc, List.cons_append]
    rw [hnow] at hne ⊢
    exact hmiddle.announces_of_ne hlate hmark hne

/-- Someone watches a list to which an element is appended, looks at it, and is told when the first
element is removed. -/
theorem watch_shows_the_store_shortened :
    let list := Path.root.child "list"
    let document := Value.obj [("root", .obj [("list", .arr [.str "a"])])]
    let acts := [Act.watch "list" list, .edit (.append list (.str "b")), .mark "list",
      .edit (.remove list 0)]
    (∃ store, (reached document acts).store = some store ∧
      (reached document acts).shown "list" = store.get? list) ∧
        (reached document acts).announces "list" = true := by
  intro list document acts
  have hkept : ∀ wanted, Act.watch "list" wanted ∉ acts.tail := by simp [acts]
  have hspared : ∀ early act late, acts.tail = early ++ act :: late →
      act.Spares (reached document ([] ++ .watch "list" list :: early)) list := by
    intro early act late hacts
    rcases early with _ | ⟨first, _ | ⟨second, _ | ⟨third, rest⟩⟩⟩
    · obtain ⟨rfl, -⟩ := List.cons_eq_cons.mp hacts
      rintro store hstore -
      obtain rfl := Option.some.inj hstore
      have hsome : (Document.read? document list).isSome := by decide
      exact ⟨Document.not_pads_of_isSome hsome, Document.not_replaces_of_isSome hsome⟩
    · obtain ⟨-, hacts⟩ := List.cons_eq_cons.mp hacts
      obtain ⟨rfl, -⟩ := List.cons_eq_cons.mp hacts
      trivial
    · obtain ⟨-, hacts⟩ := List.cons_eq_cons.mp hacts
      obtain ⟨-, hacts⟩ := List.cons_eq_cons.mp hacts
      obtain ⟨rfl, -⟩ := List.cons_eq_cons.mp hacts
      exact fun _ _ => trivial
    · simp [acts] at hacts
  obtain ⟨hshown, hannounced⟩ := watch_shows_the_store document [] acts.tail "list" list hkept hspared
  refine ⟨hshown, hannounced (acts.tail.take 2) (acts.tail.drop 2) rfl (by simp [acts]) ?_⟩
  decide

/-- **A write that does not spare a path goes unnoticed** by those who watch the path: what they are
shown is not in the store any more, and nothing more is announced than before. -/
theorem unspared_write_goes_unnoticed (h : Stands watching id path now)
    (hvalue : now.feed.value = now.store.get? path) {written : Path} {value : Value}
    {options : WriteOptions} (hapart : Path.isRelated written path = false)
    (hnear : Document.tooFar? (some now.store.document) written = none)
    (hunspared : Document.Pads now.store.document written path ∨
      Document.Replaces now.store.document written path) :
    let next := watching.act (.edit (.set written value options))
    (∃ store, next.store = some store ∧ next.shown id ≠ store.get? path) ∧
      next.announces id = watching.announces id := by
  intro next
  have hset : now.store.set written value options = .ok (now.store.commit
      (Document.write now.store.document written value) written options) :=
    Store.set_eq_ok.mpr ⟨hnear, rfl⟩
  have hnext : next = watching.withStore (now.store.edit (.set written value options)) := by
    simp [next, Watching.act, h.store_eq]
  have hfeed : (now.store.edit (.set written value options)).feeds[now.watch.feed]?
      = some now.feed := by
    have hunrelated : Path.isRelated now.feed.path written = false := by
      rw [h.path_eq]
      simpa [Path.isRelated, Bool.or_comm] using hapart
    simp [Store.edit, hset, Store.orSelf, Store.commit, Feed.publish, h.feed_eq, hunrelated]
  have hstands : Stands next id path
      ⟨now.store.edit (.set written value options), now.watch, now.feed⟩ := by
    rw [hnext]
    exact ⟨rfl, rfl, h.find_eq, hfeed, h.path_eq, h.seen_le, h.isOpen⟩
  refine ⟨⟨_, hstands.store_eq, ?_⟩, hstands.announces.trans h.announces.symm⟩
  rw [hstands.shown]
  intro hsame
  have hread : Document.read? (Document.write now.store.document written value) path
      = Document.read? now.store.document path := by
    rw [hvalue] at hsame
    simpa [Store.edit, hset, Store.orSelf, Store.commit, Store.get?] using hsame.symm
  obtain ⟨hpads, hreplaces⟩ := (Document.read?_write_eq_iff hapart value).mp hread
  exact hunspared.elim hpads hreplaces

/-- **Writes beside a path that is watched**: one that fills the slot with null, and one that turns
the list it is in into an object. -/
theorem writes_beside_go_unnoticed :
    let list := Path.root.child "list"
    let document (items : List Value) := Value.obj [("root", .obj [("list", .arr items)])]
    let filled := reached (document [])
      [.watch "slot" (list.item 0), .edit (.set (list.item 1) (.str "a") .silent)]
    let replaced := reached (document [.str "a"])
      [.watch "slot" (list.item 0), .edit (.set (list.child "key") (.str "b") .silent)]
    (filled.store.map (·.get? (list.item 0)) = some (some .null) ∧
      filled.shown "slot" = none ∧ filled.announces "slot" = false) ∧
    (replaced.store.map (·.get? (list.item 0)) = some none ∧
      replaced.shown "slot" = some (.str "a") ∧ replaced.announces "slot" = false) := by
  decide

end Watching

end SchemaForms
