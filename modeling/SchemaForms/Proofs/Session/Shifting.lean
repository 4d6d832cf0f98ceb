import SchemaForms.Proofs.Path.RoundTrip
import SchemaForms.Proofs.Session.Actions
import SchemaForms.Proofs.Store.Refusals
import SchemaForms.Session.InPlace

/-!
# Proofs/Session/Shifting — removing and moving elements of a sequence

An element that is removed or moved shifts others, and what is filed about a shifted element does
not describe what now has its index.  So the document, the schemas, the loads in flight and the
editors are changed together: the sequence in the document and nothing else, and exactly what is
filed at or below the elements that change their index.  They are changed one after the other, the
document first, and an edit that is refused leaves all of them as they were (`shifts_keep_in_step`).
-/

namespace SchemaForms

/-! ## What is filed -/

/-- What is filed under the written form of a path. -/
structure Filed where
  schema : Option Value
  load : Option Flight
  editor : Option EditorState

/-- Nothing is filed. -/
def Filed.nothing : Filed := ⟨none, none, none⟩

namespace Registry

/-- What is filed for a path. -/
def filedAt (registry : Registry) (path : Path) : Filed :=
  ⟨registry.cache.peek? path, Table.get? registry.cache.inFlight path.key, registry.editor? path⟩

/-- Schemas, loads and editors that are dropped under the same keys are dropped together. -/
theorem filedAt_of_dropped {registry dropped : Registry} (doomed : String → Bool)
    (hentries : dropped.cache.entries = Table.dropKeys registry.cache.entries doomed)
    (hinFlight : dropped.cache.inFlight = Table.dropKeys registry.cache.inFlight doomed)
    (heditors : dropped.editors = Table.dropKeys registry.editors doomed) (path : Path) :
    dropped.filedAt path = if doomed path.key then .nothing else registry.filedAt path := by
  unfold filedAt editor? Cache.peek?
  rw [hentries, hinFlight, heditors, Table.get?_dropKeys, Table.get?_dropKeys, Table.get?_dropKeys]
  split <;> rfl

theorem filedAt_dropWhere (registry : Registry) (doomed : Path → Bool) (path : Path) :
    (registry.dropWhere doomed).filedAt path
      = if doomed (Path.parse path.key) then .nothing else registry.filedAt path :=
  filedAt_of_dropped (fun key => doomed (Path.parse key)) rfl rfl rfl path

/-- **Exactly what is filed at or below some elements of a sequence is gone.** -/
structure DropsItems (before after : Registry) (array : Path) (chosen : Nat → Prop) : Prop where
  gone : ∀ {path : Path} {i : Nat}, (∀ segment ∈ path, Path.Fits segment) → chosen i →
    array.item i <+: path → after.filedAt path = .nothing
  kept : ∀ {path : Path}, (∀ segment ∈ path, Path.Fits segment) →
    (∀ i, chosen i → ¬ array.item i <+: path) → after.filedAt path = before.filedAt path

/-- Dropping nothing drops the elements that are not chosen. -/
theorem dropsItems_refl (registry : Registry) (array : Path) {chosen : Nat → Prop}
    (hnone : ∀ i, ¬ chosen i) : DropsItems registry registry array chosen where
  gone _ hi _ := absurd hi (hnone _)
  kept _ _ := rfl

/-- Where the same is filed, the same is dropped. -/
theorem DropsItems.of_filedAt {before after other : Registry} {array : Path} {chosen : Nat → Prop}
    (h : DropsItems before after array chosen)
    (hsame : ∀ path, other.filedAt path = after.filedAt path) :
    DropsItems before other array chosen where
  gone hfits hi hbelow := (hsame _).trans (h.gone hfits hi hbelow)
  kept hfits hspared := (hsame _).trans (h.kept hfits hspared)

/-- **The written form of a path tells which elements it leads through.** -/
theorem dropsItems_dropWhere (registry : Registry) {array : Path} (harray : Path.Rooted array)
    (chosen : Nat → Prop) [DecidablePred chosen] :
    DropsItems registry
      (registry.dropWhere (Cache.throughItem array fun i => decide (chosen i))) array chosen where
  gone {path i} hfits hi hbelow := by
    rw [filedAt_dropWhere, if_pos]
    have hread := (harray.below_parse_key_iff (List.prefix_append array _) hfits).mpr hbelow
    exact Cache.throughItem_iff.mpr ⟨i, hread, decide_eq_true hi⟩
  kept {path} hfits hspared := by
    rw [filedAt_dropWhere, if_neg]
    intro hthrough
    obtain ⟨i, hread, hi⟩ := Cache.throughItem_iff.mp hthrough
    have hbelow := (harray.below_parse_key_iff (List.prefix_append array _) hfits).mp hread
    exact hspared i (of_decide_eq_true hi) hbelow

/-- Between two places every element changes its index; from a place to itself none does. -/
theorem dropsItems_between (registry : Registry) {array : Path} (harray : Path.Rooted array)
    (source target : Nat) :
    DropsItems registry (if source = target then registry
      else registry.dropWhere (Cache.throughItem array fun i =>
        decide (min source target ≤ i ∧ i ≤ max source target))) array
      fun i => source ≠ target ∧ min source target ≤ i ∧ i ≤ max source target := by
  by_cases hsame : source = target
  · rw [if_pos hsame]
    exact dropsItems_refl _ _ fun _ hchosen => hchosen.1 hsame
  · rw [if_neg hsame]
    have hbetween := dropsItems_dropWhere registry harray
      fun i => min source target ≤ i ∧ i ≤ max source target
    exact ⟨fun hfits hchosen => hbetween.gone hfits hchosen.2,
      fun hfits hspared => hbetween.kept hfits fun i hi => hspared i ⟨hsame, hi⟩⟩

end Registry

/-! ## One eviction after the other -/

/-- **Evictions one after the other** drop the schemas and the loads that any of them covers. -/
theorem Cache.foldl_evict (covered : List Path) (cache : Cache) :
    let swept := covered.foldl evict cache
    let doomed := fun key => covered.any fun path => Path.startsWith (Path.parse key) path
    swept.entries = Table.dropKeys cache.entries doomed ∧
      swept.inFlight = Table.dropKeys cache.inFlight doomed := by
  induction covered generalizing cache with
  | nil =>
    exact ⟨(List.filter_eq_self.mpr fun _ _ => rfl).symm,
      (List.filter_eq_self.mpr fun _ _ => rfl).symm⟩
  | cons path covered ih =>
    obtain ⟨hentries, hinFlight⟩ := ih (cache.evict path)
    let first := fun key => Path.startsWith (Path.parse key) path
    exact ⟨hentries.trans (Table.dropKeys_dropKeys cache.entries first _),
      hinFlight.trans (Table.dropKeys_dropKeys cache.inFlight first _)⟩

/-- What is below one of some elements of a sequence leads through one of them. -/
theorem Cache.any_startsWith_item (array path : Path) (indices : List Nat) :
    ((indices.map array.item).any fun item => Path.startsWith path item)
      = throughItem array (indices.contains ·) path := by
  rw [Bool.eq_iff_iff, throughItem_iff, List.any_eq_true]
  simp only [List.mem_map, List.contains_iff_mem, Path.startsWith_iff]
  constructor
  · rintro ⟨item, ⟨i, hi, rfl⟩, hbelow⟩
    exact ⟨i, hbelow, hi⟩
  · rintro ⟨i, hbelow, hi⟩
    exact ⟨array.item i, ⟨i, hi, rfl⟩, hbelow⟩

/-! ## What is written -/

/-- **Two documents that differ in the value at one path**, and in nothing else. -/
structure Document.Differs (before after : Value) (path : Path) (old new : Value) : Prop where
  was : Document.read? before path = some old
  becomes : Document.read? after path = some new
  /-- With the old value put back, the document is the old one. -/
  rest : Document.write after path old = before
  /-- What the path does not lead to or through is the same. -/
  apart : ∀ {other : Path}, Path.isRelated path other = false →
    Document.read? after other = Document.read? before other

theorem Document.differs_write {document old : Value} {path : Path}
    (h : Document.read? document path = some old) (new : Value) :
    Document.Differs document (Document.write document path new) path old new where
  was := h
  becomes := Document.read?_write_self document new path
  rest := by rw [Document.write_write, Document.write_of_read? h]
  apart hother := Document.read?_write_of_isSome (Option.isSome_of_eq_some h) hother new

namespace Session

variable {session next : Session} {array : Path} {i source target : Nat} {removed : Value}

/-- An element of a sequence is removed as such. -/
theorem remove_item (session : Session) (array : Path) (i : Nat) :
    session.remove (array.item i) = session.removeItem array i := by
  have hsplit : (array.item i).splitLast? = some (array, .index i) :=
    Path.splitLast?_eq_some.mpr rfl
  rw [remove, hsplit]

theorem removeItem_eq_ok (h : session.removeItem array i = .ok (removed, next)) :
    ∃ items, session.value? array = some (.arr items) ∧ items[i]? = some removed ∧
      next.store.document = Document.write session.store.document array (.arr (items.eraseIdx i)) ∧
      next.registry = session.registry.dropWhere
        (Cache.throughItem array fun j => decide (i ≤ j)) := by
  obtain ⟨store, hremove, rfl⟩ := removeItem_eq_ok_iff.mp h
  obtain ⟨items, hitems, hfound, rfl⟩ := Store.remove_eq_ok hremove
  exact ⟨items, hitems, hfound, rfl, rfl⟩

theorem move_eq_ok (h : session.move array source target = .ok next) :
    ∃ items moved, session.value? array = some (.arr items) ∧ items[source]? = some moved ∧
      target < items.length ∧
      next.store.document = Document.write session.store.document array
        (.arr ((items.eraseIdx source).insertIdx target moved)) := by
  obtain ⟨store, hmove, rfl⟩ := move_eq_ok_iff.mp h
  obtain ⟨items, hitems, hsource, htarget, rfl⟩ := Store.move_eq_ok hmove
  have hmoved : items[source]? = some items[source] := List.getElem?_eq_getElem hsource
  refine ⟨items, items[source], hitems, hmoved, htarget, ?_⟩
  simp [Store.commit, Document.moveItem, hmoved]

/-- **An element that is removed** is taken out of its sequence, and what is filed about it and those
behind it is gone. -/
theorem drops_remove_item (harray : Path.Rooted array)
    (h : session.remove (array.item i) = .ok (removed, next)) :
    (∃ items, items[i]? = some removed ∧ Document.Differs session.store.document
      next.store.document array (.arr items) (.arr (items.eraseIdx i))) ∧
    Registry.DropsItems session.registry next.registry array fun j => i ≤ j := by
  rw [remove_item] at h
  obtain ⟨items, hitems, hremoved, hdocument, hregistry⟩ := removeItem_eq_ok h
  rw [hdocument, hregistry]
  exact ⟨⟨items, hremoved, Document.differs_write hitems _⟩,
    Registry.dropsItems_dropWhere session.registry harray _⟩

/-- **An element that is moved** is put back in its sequence, and what is filed about those that change
their index is gone. -/
theorem drops_move (harray : Path.Rooted array)
    (h : session.move array source target = .ok next) :
    (∃ items moved, items[source]? = some moved ∧ target < items.length ∧
      Document.Differs session.store.document next.store.document array
        (.arr items) (.arr ((items.eraseIdx source).insertIdx target moved))) ∧
    Registry.DropsItems session.registry next.registry array fun j =>
      source ≠ target ∧ min source target ≤ j ∧ j ≤ max source target := by
  obtain ⟨items, moved, hitems, hmoved, htarget, hdocument⟩ := move_eq_ok h
  rw [hdocument, (edited_move h).registry]
  exact ⟨⟨items, moved, hmoved, htarget, Document.differs_write hitems _⟩,
    Registry.dropsItems_between session.registry harray source target⟩

/-- **An element can be removed if there is one.** -/
theorem isOk_remove_iff : (session.remove (array.item i)).isOk = true ↔
    ∃ items, session.value? array = some (.arr items) ∧ i < items.length := by
  rw [remove_item]
  constructor
  · intro hok
    cases hremove : session.removeItem array i with
    | error e => simp [hremove, Except.isOk, Except.toBool] at hok
    | ok result =>
      obtain ⟨items, hitems, hfound, -⟩ := removeItem_eq_ok hremove
      exact ⟨items, hitems, (List.getElem?_eq_some_iff.mp hfound).1⟩
  · rintro ⟨items, hitems, hi⟩
    have hstore : session.store.items array = .ok items := Store.items_eq_ok.mpr hitems
    simp [removeItem, Store.remove, hstore, hi, bind, Except.bind, Except.isOk, Except.toBool]

/-- **An element can be moved between two places that are there.** -/
theorem isOk_move_iff : (session.move array source target).isOk = true ↔
    ∃ items, session.value? array = some (.arr items) ∧ source < items.length ∧
      target < items.length := by
  constructor
  · intro hok
    cases hmove : session.move array source target with
    | error e => simp [hmove, Except.isOk, Except.toBool] at hok
    | ok next =>
      obtain ⟨items, moved, hitems, hmoved, htarget, -⟩ := move_eq_ok hmove
      exact ⟨items, hitems, (List.getElem?_eq_some_iff.mp hmoved).1, htarget⟩
  · rintro ⟨items, hitems, hsource, htarget⟩
    have hstore : session.store.items array = .ok items := Store.items_eq_ok.mpr hitems
    have hnear : ¬ items.length ≤ source ∧ ¬ items.length ≤ target := by omega
    simp [move, Store.move, hstore, hnear, bind, Except.bind, Except.isOk, Except.toBool]

/-! ## Step by step and in one piece -/

/-- **Sessions with the same store, and the same filed for every path.** -/
structure FilesAlike (session other : Session) : Prop where
  store : session.store = other.store
  filedAt : ∀ path, session.registry.filedAt path = other.registry.filedAt path

namespace Stepwise

/-- What an edit in one piece comes to: it goes through, or the session is as it was. -/
def outcome {α : Type} (session : Session) (result : Except EditError (α × Session)) :
    EStateM.Result EditError Session α :=
  match result with
  | .ok (answer, next) => .ok answer next
  | .error refusal => .error refusal session

variable {α : Type} {answer : α} {refusal : EditError} {after : Session}
  {result : Except EditError (α × Session)}

theorem outcome_eq_ok : outcome session result = .ok answer after ↔
    result = .ok (answer, after) := by
  cases result <;> simp [outcome, Prod.ext_iff]

theorem outcome_eq_error : outcome session result = .error refusal after ↔
    result = .error refusal ∧ after = session := by
  cases result <;> simp [outcome, @eq_comm _ after]

theorem run_inStore (session : Session) (program : InPlace α) :
    (inStore program).run session = match program.run session.store with
      | .ok answer store => .ok answer { session with store := store }
      | .error refusal store => .error (.store refusal) { session with store := store } := rfl

theorem run_removeItem (session : Session) (array : Path) (index : Nat) :
    (removeItem array index).run session = outcome session (session.removeItem array index) := by
  unfold removeItem Session.removeItem
  rw [EStateM.run_bind, run_inStore, InPlace.run_remove]
  cases session.store.remove array index <;> rfl

theorem run_removeMember (session : Session) (path : Path) :
    (removeMember path).run session = outcome session (session.removeMember path) := by
  unfold removeMember Session.removeMember
  rw [EStateM.run_bind, EStateM.run_get]
  dsimp only
  cases session.value? path <;> rfl

/-- **A removal in place comes to what a removal in one piece does.** -/
theorem run_remove (session : Session) (path : Path) :
    (remove path).run session = outcome session (session.remove path) := by
  unfold remove Session.remove
  cases path.splitLast? with
  | none => rfl
  | some found =>
    obtain ⟨parent, last⟩ := found
    cases last with
    | index i => exact run_removeItem session parent i
    | key text => exact run_removeMember session path

theorem run_remove_eq_ok {path : Path} (h : (remove path).run session = .ok removed next) :
    session.remove path = .ok (removed, next) :=
  outcome_eq_ok.mp ((run_remove session path).symm.trans h)

theorem run_remove_eq_error {path : Path} (h : (remove path).run session = .error refusal after) :
    session.remove path = .error refusal ∧ after = session :=
  outcome_eq_error.mp ((run_remove session path).symm.trans h)

theorem run_forM_evict (array : Path) (indices : List Nat) (session : Session) :
    (indices.forM fun index => evict (array.item index)).run session
      = .ok () (session.setCache ((indices.map array.item).foldl Cache.evict
          session.registry.cache)) := by
  induction indices generalizing session with
  | nil => rfl
  | cons index indices ih =>
    rw [List.forM, EStateM.run_bind]
    exact ih _

theorem contains_between (source target : Nat) :
    (between source target).contains
      = fun i => decide (min source target ≤ i ∧ i ≤ max source target) := by
  funext i
  rw [Bool.eq_iff_iff, List.contains_iff_mem, decide_eq_true_iff, between, List.mem_range'_1]
  omega

/-- **Evicting one element after the other** drops what dropping all of them at once does. -/
theorem run_dropBetween (session : Session) (array : Path) (source target : Nat) :
    ∃ after, (dropBetween array source target).run session = .ok () after ∧
      FilesAlike after { session with
        registry := session.registry.dropWhere (Cache.throughItem array fun i =>
          decide (min source target ≤ i ∧ i ≤ max source target)) } := by
  unfold dropBetween
  rw [EStateM.run_bind, run_forM_evict, ← contains_between]
  refine ⟨_, rfl, rfl, fun path => ?_⟩
  obtain ⟨hentries, hinFlight⟩ :=
    Cache.foldl_evict ((between source target).map array.item) session.registry.cache
  simp only [Cache.any_startsWith_item] at hentries hinFlight
  rw [Registry.filedAt_dropWhere]
  refine Registry.filedAt_of_dropped (fun key =>
    Cache.throughItem array (between source target).contains (Path.parse key)) ?_ ?_ rfl path
  · exact hentries
  · exact hinFlight

/-- **A move in place comes to what a move in one piece does**: it is refused as that one is, or goes
through as it does. -/
theorem run_move (session : Session) (array : Path) (source target : Nat) :
    match session.move array source target with
    | .ok whole => ∃ next, (move array source target).run session = .ok () next ∧ next.FilesAlike whole
    | .error refusal => (move array source target).run session = .error refusal session := by
  unfold move Session.move
  rw [EStateM.run_bind, run_inStore, InPlace.run_move]
  cases session.store.move array source target with
  | error refusal => rfl
  | ok store =>
    change ∃ next, EStateM.run
      (if source = target then pure () else dropBetween array source target)
      { session with store := store } = .ok () next ∧ _
    by_cases hsame : source = target
    · rw [if_pos hsame, if_pos hsame]
      exact ⟨_, rfl, rfl, fun _ => rfl⟩
    · rw [if_neg hsame, if_neg hsame]
      exact run_dropBetween { session with store := store } array source target

theorem run_move_eq_ok (h : (move array source target).run session = .ok () next) :
    ∃ whole, session.move array source target = .ok whole ∧ next.FilesAlike whole := by
  have hrun := run_move session array source target
  split at hrun
  · rename_i whole hmove
    obtain ⟨after, hafter, halike⟩ := hrun
    obtain ⟨-, rfl⟩ := EStateM.Result.ok.inj (hafter.symm.trans h)
    exact ⟨whole, hmove, halike⟩
  · exact absurd (hrun.symm.trans h) nofun

theorem run_move_eq_error (h : (move array source target).run session = .error refusal after) :
    session.move array source target = .error refusal ∧ after = session := by
  have hrun := run_move session array source target
  split at hrun
  · obtain ⟨next, hnext, -⟩ := hrun
    exact absurd (hnext.symm.trans h) nofun
  · rename_i e hmove
    obtain ⟨rfl, rfl⟩ := EStateM.Result.error.inj (hrun.symm.trans h)
    exact ⟨hmove, rfl⟩

end Stepwise

/-- **Removing and moving elements keep document, cache and editors in step.**  An element is removed
from its sequence, or moved in it, and the document is the same otherwise; what is filed at or below
an element that changes its index is gone, and everything else that is filed stays.  The document is
changed first, and cache and editors after it, but an edit is refused only where there is no such
element, and then nothing has happened; so the edits in place come to those in one piece. -/
theorem shifts_keep_in_step (session : Session) {array : Path} (harray : Path.Rooted array) :
    let removal (i : Nat) := (Stepwise.remove (array.item i)).run session
    let shift (source target : Nat) := (Stepwise.move array source target).run session
    (∀ i removed next, removal i = .ok removed next →
      session.remove (array.item i) = .ok (removed, next) ∧
      (∃ items, items[i]? = some removed ∧ Document.Differs session.store.document
        next.store.document array (.arr items) (.arr (items.eraseIdx i))) ∧
      Registry.DropsItems session.registry next.registry array fun j => i ≤ j) ∧
    (∀ source target next, shift source target = .ok () next →
      (∃ whole, session.move array source target = .ok whole ∧ next.FilesAlike whole) ∧
      (∃ items moved, items[source]? = some moved ∧ target < items.length ∧
        Document.Differs session.store.document next.store.document array
          (.arr items) (.arr ((items.eraseIdx source).insertIdx target moved))) ∧
      Registry.DropsItems session.registry next.registry array fun j =>
        source ≠ target ∧ min source target ≤ j ∧ j ≤ max source target) ∧
    (∀ i e after, removal i = .error e after →
      session.remove (array.item i) = .error e ∧
      (¬ ∃ items, session.value? array = some (.arr items) ∧ i < items.length) ∧
        after = session ∧ session.act (.remove (array.item i)) = session) ∧
    ∀ source target e after, shift source target = .error e after →
      session.move array source target = .error e ∧
      (¬ ∃ items, session.value? array = some (.arr items) ∧ source < items.length ∧
        target < items.length) ∧
        after = session ∧ session.act (.move array source target) = session := by
  intro removal shift
  refine ⟨fun i removed next hrun => ?_, fun source target next hrun => ?_, fun i e after hrun => ?_,
    fun source target e after hrun => ?_⟩
  · have h := Stepwise.run_remove_eq_ok hrun
    exact ⟨h, drops_remove_item harray h⟩
  · obtain ⟨whole, h, halike⟩ := Stepwise.run_move_eq_ok hrun
    obtain ⟨hdocument, hdrops⟩ := drops_move harray h
    rw [← halike.store] at hdocument
    exact ⟨⟨whole, h, halike⟩, hdocument, hdrops.of_filedAt halike.filedAt⟩
  · obtain ⟨h, hafter⟩ := Stepwise.run_remove_eq_error hrun
    refine ⟨h, ?_, hafter, by simp [act, Session.after, h]⟩
    rw [← isOk_remove_iff, h]
    exact Bool.false_ne_true
  · obtain ⟨h, hafter⟩ := Stepwise.run_move_eq_error hrun
    refine ⟨h, ?_, hafter, by simp [act, h]⟩
    rw [← isOk_move_iff, h]
    exact Bool.false_ne_true

/-- The first of two elements is removed: the editor of the other, which takes its place, is gone,
and the one of the sequence stays.  A move to an element that is not there leaves everything. -/
theorem shifts_keep_in_step_first :
    let list := Path.root.child "list"
    let document := Value.obj [("root", .obj [("list", .arr [.str "a", .str "b"])])]
    let session := ((ofDocument .default document).setEditor (list.item 1) .initial).setEditor list
      .initial
    (∃ next, (Stepwise.remove (list.item 0)).run session = .ok (.str "a") next ∧
      next.value? list = some (.arr [.str "b"]) ∧
      next.registry.filedAt (list.item 1) = .nothing ∧
      next.registry.filedAt list = session.registry.filedAt list) ∧
    ∃ after, (Stepwise.move list 0 2).run session
      = .error (.store (.outOfBounds list 2 2)) after ∧ after = session := by
  intro list document session
  have hlist : Path.Rooted list := by decide
  obtain ⟨hremove, -, -, hrefused⟩ := shifts_keep_in_step session hlist
  have hrun : (Stepwise.remove (list.item 0)).run session = .ok (.str "a") _ := rfl
  have herror : (Stepwise.move list 0 2).run session = .error (.store (.outOfBounds list 2 2)) _ :=
    rfl
  obtain ⟨-, ⟨items, -, hdiffers⟩, hdrops⟩ := hremove 0 _ _ hrun
  obtain ⟨-, -, hafter, -⟩ := hrefused 0 2 _ _ herror
  refine ⟨⟨_, hrun, rfl, ?_, ?_⟩, _, herror, hafter⟩
  · exact hdrops.gone (by decide) (Nat.zero_le 1) (List.prefix_refl _)
  · refine hdrops.kept (by decide) fun i _ hbelow => ?_
    have hlonger := hbelow.length_le
    rw [Path.item, List.length_append] at hlonger
    exact absurd hlonger (Nat.not_succ_le_self _)

end Session

end SchemaForms
