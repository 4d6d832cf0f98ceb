import SchemaForms.Proofs.Store.Writing
import SchemaForms.Store.Basic

/-!
# Proofs/Store/Edits — what each write of a store does

A write that goes through puts a new document in place and tells the watchers of all paths that are
related to the written one (`edit_cases`).  Elsewhere it changes nothing, but for two writes that
make what is missing on their way: these may also fill slots beside it and replace containers
(`Edit.Spares`).
-/

namespace SchemaForms.Store

open Document (Pads Replaces)

variable {store next : Store} {path other : Path} {value item removed : Value}
  {i source target : Nat}

/-! ## One write after the other -/

theorem checkPadding_eq_ok :
    store.checkPadding path = .ok () ↔ Document.tooFar? (some store.document) path = none := by
  unfold checkPadding
  cases Document.tooFar? (some store.document) path <;> simp

theorem items_eq_ok {items : List Value} :
    store.items path = .ok items ↔ store.get? path = some (.arr items) := by
  unfold Store.items
  split
  · rename_i found hfound
    simp [hfound]
  · rename_i hnone
    constructor
    · exact nofun
    · exact fun h => absurd h (hnone items)

theorem set_eq_ok {options : WriteOptions} :
    store.set path value options = .ok next ↔
      Document.tooFar? (some store.document) path = none ∧
        next = store.commit (Document.write store.document path value) path options := by
  rw [← checkPadding_eq_ok]
  unfold Store.set
  cases store.checkPadding path with
  | error e => simp [bind, Except.bind]
  | ok u => simp [bind, Except.bind, eq_comm]

/-- What a sequence that is appended to held before; null and nothing count as an empty one. -/
def Holds (store : Store) (path : Path) (items : List Value) : Prop :=
  store.get? path = some (.arr items) ∨
    items = [] ∧ (store.get? path = none ∨ store.get? path = some .null)

theorem append_eq_ok (h : store.append path item = .ok (i, next)) :
    Document.tooFar? (some store.document) path = none ∧ ∃ items, store.Holds path items ∧
      i = items.length ∧ next = store.commit
        (Document.write store.document path (.arr (items ++ [item]))) path .interactive := by
  rw [← checkPadding_eq_ok]
  unfold Store.append at h
  cases hpadding : store.checkPadding path with
  | error e => simp [hpadding, bind, Except.bind] at h
  | ok u =>
    refine ⟨rfl, ?_⟩
    simp only [hpadding, bind, Except.bind] at h
    split at h
    · rename_i items hitems
      obtain ⟨rfl, rfl⟩ := Prod.mk.inj (Except.ok.inj h)
      exact ⟨items, .inl hitems, rfl, rfl⟩
    · rename_i hnone
      obtain ⟨rfl, rfl⟩ := Prod.mk.inj (Except.ok.inj h)
      exact ⟨[], .inr ⟨rfl, .inl hnone⟩, rfl, rfl⟩
    · rename_i hnull
      obtain ⟨rfl, rfl⟩ := Prod.mk.inj (Except.ok.inj h)
      exact ⟨[], .inr ⟨rfl, .inr hnull⟩, rfl, rfl⟩
    · exact absurd h nofun

theorem remove_eq_ok (h : store.remove path i = .ok (removed, next)) :
    ∃ items, store.get? path = some (.arr items) ∧ items[i]? = some removed ∧
      next = store.commit
        (Document.write store.document path (.arr (items.eraseIdx i))) path .interactive := by
  unfold Store.remove at h
  cases hitems : store.items path with
  | error e => simp [hitems, bind, Except.bind] at h
  | ok items =>
    simp only [hitems, bind, Except.bind] at h
    split at h
    · exact absurd h nofun
    · rename_i found hfound
      obtain ⟨rfl, rfl⟩ := Prod.mk.inj (Except.ok.inj h)
      exact ⟨items, items_eq_ok.mp hitems, hfound, rfl⟩

theorem move_eq_ok (h : store.move path source target = .ok next) :
    ∃ items, store.get? path = some (.arr items) ∧ source < items.length ∧ target < items.length ∧
      next = store.commit (Document.write store.document path
        (.arr (Document.moveItem items source target))) path .interactive := by
  unfold Store.move at h
  cases hitems : store.items path with
  | error e => simp [hitems, bind, Except.bind] at h
  | ok items =>
    simp only [hitems, bind, Except.bind] at h
    split at h
    · exact absurd h nofun
    · split at h
      · exact absurd h nofun
      · obtain rfl := Except.ok.inj h
        exact ⟨items, items_eq_ok.mp hitems, by omega, by omega, rfl⟩

/-- A step that parts from the one that is cleared. -/
theorem isRelated_append_singleton {parent rest : Path} {last : Segment}
    (h : Path.isRelated (parent ++ [last]) (parent ++ rest) = false) :
    ∃ step below, rest = step :: below ∧ step ≠ last := by
  obtain ⟨hbelow, habove⟩ := Path.isRelated_eq_false_iff.mp h
  cases rest with
  | nil => exact absurd (by simp) habove
  | cons step below =>
    refine ⟨step, below, rfl, ?_⟩
    rintro rfl
    exact hbelow ⟨below, by simp⟩

/-- A write in place of a value changes nothing beside a step below it, if it does not there. -/
theorem read?_write_parent {document found changed : Value} {parent : Path} {last : Segment}
    (hfound : Document.read? document parent = some found)
    (hsame : ∀ step below, step ≠ last →
      Document.read? changed (step :: below) = Document.read? found (step :: below))
    (hother : Path.isRelated (parent ++ [last]) other = false) :
    Document.read? (Document.write document parent changed) other
      = Document.read? document other := by
  by_cases hbelow : parent <+: other
  · obtain ⟨rest, rfl⟩ := hbelow
    obtain ⟨step, below, rfl, hne⟩ := isRelated_append_singleton hother
    rw [Document.read?_write_append, Document.read?_append, hfound, Option.bind_some]
    exact hsame step below hne
  · refine Document.read?_write_of_isSome (by simp [hfound]) ?_ changed
    have habove : ¬ other <+: parent := fun hleads => (Path.isRelated_eq_false_iff.mp hother).2
      (List.IsPrefix.trans hleads (List.prefix_append parent [last]))
    exact Path.isRelated_eq_false_iff.mpr ⟨hbelow, habove⟩

/-- **Clearing a field changes nothing beside it.** -/
theorem read?_cleared {document : Value} (h : store.cleared? path = some document)
    (hother : Path.isRelated path other = false) :
    Document.read? document other = store.get? other := by
  unfold cleared? at h
  split at h
  · rename_i hlast
    have hnil : path = [] := by simpa [Path.splitLast?] using hlast
    simp [hnil, Path.isRelated, Path.startsWith] at hother
  · rename_i parent last hlast
    obtain rfl := Path.splitLast?_eq_some.mp hlast
    split at h
    · rename_i members key hmembers
      obtain rfl := Option.some.inj h
      refine read?_write_parent hmembers ?_ hother
      intro step below hne
      cases step with
      | key text =>
        have htext : text ≠ key := fun heq => hne (congrArg Segment.key heq)
        simp [Document.member?_eq_get?, Value.asMembers?, Table.get?_erase_of_ne members htext]
      | index j => rfl
    · rename_i items i hitems
      obtain rfl := Option.some.inj h
      refine read?_write_parent hitems ?_ hother
      intro step below hne
      cases step with
      | key text => rfl
      | index j =>
        have hj : i ≠ j := fun heq => hne (congrArg Segment.index heq.symm)
        simp [Document.item?_eq_getElem?, Value.asItems?, List.getElem?_set_ne hj]
    · cases h

/-! ## Any write -/

/-- **A write spares a path**: it fills no slot there, and replaces no container that leads there.
One that is refused spares every path, and so does one that makes nothing on its way. -/
def Edit.Spares (store : Store) (path : Path) : Edit → Prop
  | .set written _ _ | .append written _ =>
    Document.tooFar? (some store.document) written = none →
      ¬ Pads store.document written path ∧ ¬ Replaces store.document written path
  | .remove .. | .move .. | .reset .. => True

/-- A write that goes through at a path. -/
structure Lands (store : Store) (edit : Edit) (path : Path) : Prop where
  /-- All that watch a related path are told. -/
  feeds : (store.edit edit).feeds = Feed.publish store.feeds (store.edit edit).document path
  /-- A path that is spared and not related keeps its value. -/
  apart : ∀ {other : Path}, Path.isRelated path other = false → edit.Spares store other →
    (store.edit edit).get? other = store.get? other

theorem lands_of_commit {edit : Edit} (value : Value) (options : WriteOptions)
    (h : store.edit edit = store.commit (Document.write store.document path value) path options)
    (hspares : ∀ other, edit.Spares store other →
      ¬ Pads store.document path other ∧ ¬ Replaces store.document path other) :
    Lands store edit path where
  feeds := by rw [h]; rfl
  apart {other} hother hspared := by
    rw [h]
    exact (Document.read?_write_eq_iff hother value).mpr (hspares other hspared)

/-- A write where there is a value already spares every path. -/
theorem lands_of_isSome {edit : Edit} (value : Value) (options : WriteOptions)
    (hsome : (Document.read? store.document path).isSome)
    (h : store.edit edit = store.commit (Document.write store.document path value) path options) :
    Lands store edit path :=
  lands_of_commit value options h fun _ _ =>
    ⟨Document.not_pads_of_isSome hsome, Document.not_replaces_of_isSome hsome⟩

/-- **A write changes nothing, or lands somewhere.** -/
theorem edit_cases (store : Store) (edit : Edit) :
    store.edit edit = store ∨ ∃ path, Lands store edit path := by
  cases edit with
  | set path value options =>
    cases h : store.set path value options with
    | error e => exact .inl (by simp [Store.edit, h, orSelf])
    | ok next =>
      obtain ⟨hnear, rfl⟩ := set_eq_ok.mp h
      exact .inr ⟨path, lands_of_commit _ _ (by rw [Store.edit, h]; rfl) fun _ hspares =>
        hspares hnear⟩
  | append path item =>
    cases h : store.append path item with
    | error e => exact .inl (by simp [Store.edit, h, orSelf, Except.map])
    | ok result =>
      obtain ⟨hnear, items, -, -, hnext⟩ := append_eq_ok h
      refine .inr ⟨path, lands_of_commit (.arr (items ++ [item])) .interactive ?_
        fun _ hspares => hspares hnear⟩
      rw [Store.edit, h, ← hnext]
      rfl
  | remove path index =>
    cases h : store.remove path index with
    | error e => exact .inl (by simp [Store.edit, h, orSelf, Except.map])
    | ok result =>
      obtain ⟨items, hitems, -, hnext⟩ := remove_eq_ok h
      have hsome : (Document.read? store.document path).isSome := Option.isSome_of_eq_some hitems
      refine .inr ⟨path, lands_of_isSome (.arr (items.eraseIdx index)) .interactive hsome ?_⟩
      rw [Store.edit, h, ← hnext]
      rfl
  | move path source target =>
    cases h : store.move path source target with
    | error e => exact .inl (by simp [Store.edit, h, orSelf])
    | ok next =>
      obtain ⟨items, hitems, -, -, rfl⟩ := move_eq_ok h
      have hsome : (Document.read? store.document path).isSome := Option.isSome_of_eq_some hitems
      exact .inr ⟨path, lands_of_isSome _ _ hsome (by rw [Store.edit, h]; rfl)⟩
  | reset path =>
    cases h : store.cleared? path with
    | none => exact .inl (by simp [Store.edit, Store.reset, h])
    | some document =>
      refine .inr ⟨path, ?_, ?_⟩
      · simp [Store.edit, Store.reset, h]
      · intro other hother _
        simp only [Store.edit, Store.reset, h]
        exact read?_cleared h hother

end SchemaForms.Store
