import SchemaForms.Proofs.Session.Filing

/-!
# Proofs/Session/Serving — which schema a mount gets

A mount calls for the schema of its descriptor, or for that of the block that its editor records.  It
gets what is filed for its path, or what the load under way for the path comes to, whoever asked for
that; only if there is neither it is served as it calls (`mounts_leave_their_schema`).  From its
beginning to its end the mount and its path are in one of two states (`Brings`): the load is under way
and nothing is filed, or the load is over and what is filed is what it came to.
-/

namespace SchemaForms

namespace Session

variable {session : Session} {path : Path} {descriptor : Descriptor}

/-! ## The block that an editor records -/

/-- The block that the editor at a path is for. -/
def blockName? (session : Session) (path : Path) : Option String :=
  (session.editor? path).bind EditorState.name

theorem blockName?_setEditor (session : Session) (path other : Path) (state : EditorState) :
    (session.setEditor path state).blockName? other
      = if path.key = other.key then state.name else session.blockName? other := by
  change ((session.registry.setEditor path state).editor? other).bind EditorState.name = _
  rw [Registry.editor?_setEditor]
  split <;> rfl

/-- **The end of a mount renames no editor.** -/
theorem blockName?_settle (session : Session) (place : Path) (epoch : Nat) (outcome : LoadOutcome)
    (path : Path) : (session.settle place epoch outcome).2.blockName? path
      = session.blockName? path := by
  rcases settle_cases session place epoch outcome with hsame | ⟨state, hstate, hnext⟩
  · rw [hsame]
  · rw [hnext, blockName?_setEditor, hstate.name]
    split
    · rename_i hkey
      unfold blockName? editorAt editor? Registry.editor?
      rw [hkey]
      cases Table.get? session.registry.editors path.key <;> rfl
    · rfl

/-- **A mount records the block that it is for.** -/
theorem blockName?_beginMount (session : Session) (path : Path) (descriptor : Descriptor) :
    (session.beginMount path descriptor).2.blockName? path
      = descriptor.blockName? (session.value? path) := by
  have hrecord : (session.recordMount path descriptor
      (descriptor.blockName? (session.value? path))).blockName? path
        = descriptor.blockName? (session.value? path) :=
    (blockName?_setEditor session path path _).trans (if_pos rfl)
  unfold beginMount
  dsimp only
  split
  · rw [blockName?_settle]
    exact hrecord
  · exact hrecord
  · split
    · rw [answerMount, blockName?_settle]
      exact hrecord
    · exact hrecord
    · rw [answerMount, blockName?_settle]
      exact hrecord

end Session

namespace Mounts

variable {answers : String → Except FetchError Catalog.BlockSchema} {mounts next : Mounts}
  {event : Event} {path : Path} {descriptor : Descriptor} {name : String}

/-! ## What a mount calls for -/

/-- The schema that the catalog has for a block. -/
def catalogSchema? (answers : String → Except FetchError Catalog.BlockSchema) (name : String) :
    Option Value := (answers name).toOption.map (·.schema)

/-- The schema that a descriptor calls for: its own, or that of the block with this name. -/
def called (answers : String → Except FetchError Catalog.BlockSchema) (descriptor : Descriptor)
    (name : Option String) : Option Value :=
  descriptor.schema.or (name.bind (catalogSchema? answers))

theorem schemaOf?_loadOutcome (answers : String → Except FetchError Catalog.BlockSchema)
    (name : String) :
    Cache.schemaOf? (Session.loadOutcome (answers name)) = catalogSchema? answers name := by
  unfold catalogSchema?
  cases answers name <;> rfl

/-! ## Until the mount ends -/

/-- **Nothing but mounts that end**: the catalog answers, and always the same to a name; a mount asks
whether the load is over that it waits for, or is given up. -/
inductive Quiet (answers : String → Except FetchError Catalog.BlockSchema) (mounts : Mounts) :
    Event → Prop where
  | answer {i : Nat} {mount : Mount} {name : String}
      (hattempt : mounts.all[i]? = some (.asks mount name)) :
      Quiet answers mounts (.answer i (answers name))
  | poll (i : Nat) : Quiet answers mounts (.poll i)
  | giveUp (i : Nat) : Quiet answers mounts (.giveUp i)

/-- **Where the schema of a path comes from**: the load for it is under way and asks for this block; or
it is over, and what is filed, if anything, is what it came to. -/
inductive Brings (answers : String → Except FetchError Catalog.BlockSchema) (path : Path)
    (name : String) (mounts : Mounts) : Prop where
  | pending {i : Nat} {mount : Mount} (hattempt : mounts.all[i]? = some (.asks mount name))
      (hkey : mount.path.key = path.key) (hrecord : mounts.record? path = some mount.flight)
      (hmissing : mounts.filed? path = none) : Brings answers path name mounts
  | landed (hfree : mounts.record? path = none)
      (hfiled : ∀ schema, mounts.filed? path = some schema →
        catalogSchema? answers name = some schema) : Brings answers path name mounts

/-- No load is on record for a path without a record. -/
theorem not_holds_of_free (hfree : mounts.record? path = none) (mount : Mount) :
    ¬ Holds mounts mount path := by
  intro hholds
  obtain ⟨-, flight, hflight, -⟩ := holds_iff.mp hholds
  exact absurd (hflight.symm.trans hfree) (Option.some_ne_none _)

/-- A path stays on its course when a mount moves on that holds no record of it. -/
theorem Brings.advance (h : Brings answers path name mounts) {i : Nat} {session : Session}
    {reached : Attempt} (hrecord : (mounts.advance i session reached).record? path = mounts.record? path)
    (hfiled : (mounts.advance i session reached).filed? path = mounts.filed? path)
    (hother : ∀ {mount : Mount} {name : String}, mounts.all[i]? = some (.asks mount name) →
      ¬ Holds mounts mount path) : Brings answers path name (mounts.advance i session reached) := by
  cases h with
  | pending hattempt hkey howned hmissing =>
    rename_i j owner
    have hij : i ≠ j := by
      rintro rfl
      exact hother hattempt (holds_iff.mpr ⟨hkey, _, howned, rfl⟩)
    have hsame : (mounts.advance i session reached).all[j]? = some (.asks owner name) := by
      rw [Mounts.advance, List.getElem?_set_ne hij]
      exact hattempt
    exact .pending hsame hkey (hrecord.trans howned) (hfiled.trans hmissing)
  | landed hfree hschema =>
    refine .landed (hrecord.trans hfree) fun schema hthere => ?_
    exact hschema schema (hfiled.symm.trans hthere)

/-- **The mount whose load is on record for the path asks for the block**, and nothing is filed. -/
theorem Brings.of_holds (h : Brings answers path name mounts) (hmatched : Matched mounts) {i : Nat}
    {mount : Mount} {asked : String} (hattempt : mounts.all[i]? = some (.asks mount asked))
    (hholds : Holds mounts mount path) : asked = name ∧ mounts.filed? path = none := by
  cases h with
  | pending howner hkey hrecord hmissing =>
    obtain rfl := hmatched.eq_of_holds howner hattempt hkey hrecord hholds
    exact ⟨(Attempt.asks.inj (Option.some.inj (hattempt.symm.trans howner))).2, hmissing⟩
  | landed hfree => exact absurd hholds (not_holds_of_free hfree mount)

/-- **A path stays on its course when a load ends**: if it is on record for the path, its record goes,
and what it finds is filed; otherwise nothing happens to the path. -/
theorem Brings.finish (h : Brings answers path name mounts) (hmatched : Matched mounts) {i : Nat}
    {mount : Mount} {asked : String} (hattempt : mounts.all[i]? = some (.asks mount asked))
    {session : Session} {reached : Attempt} {found : Option Value}
    (hrecord : (mounts.advance i session reached).record? path
      = if Holds mounts mount path then none else mounts.record? path)
    (hfiled : (mounts.advance i session reached).filed? path
      = if Holds mounts mount path then found.or (mounts.filed? path) else mounts.filed? path)
    (hfound : ∀ schema, found = some schema → catalogSchema? answers asked = some schema) :
    Brings answers path name (mounts.advance i session reached) := by
  by_cases hholds : Holds mounts mount path
  · obtain ⟨rfl, hmissing⟩ := h.of_holds hmatched hattempt hholds
    rw [if_pos hholds] at hrecord hfiled
    rw [hmissing, Option.or_none] at hfiled
    exact .landed hrecord fun schema hthere => hfound schema (hfiled.symm.trans hthere)
  · rw [if_neg hholds] at hrecord hfiled
    refine h.advance hrecord hfiled fun hsame => ?_
    obtain ⟨rfl, -⟩ := Attempt.asks.inj (Option.some.inj (hattempt.symm.trans hsame))
    exact hholds

/-- **A path stays on its course while mounts end.** -/
theorem Change.brings (h : Change mounts event next) (hmatched : Matched mounts)
    (hquiet : Quiet answers mounts event) (hbrings : Brings answers path name mounts) :
    Brings answers path name next := by
  have hdistinct := hmatched.numbered.distinct
  cases h with
  | idle => exact hbrings
  | begun => cases hquiet
  | acted => cases hquiet
  | answered found hattempt =>
    refine hbrings.finish hmatched hattempt (record?_answered _ _ _ _ _ _ hdistinct)
      (filed?_answered _ _ _ _ _ _) fun schema hschema => ?_
    cases hquiet with
    | answer hsame =>
      obtain ⟨-, rfl⟩ := Attempt.asks.inj (Option.some.inj (hattempt.symm.trans hsame))
      rwa [schemaOf?_loadOutcome] at hschema
  | told hattempt =>
    refine hbrings.advance (record?_told _ _ _ _ _ _) (filed?_told _ _ _ _ _ _) fun hsame => ?_
    exact absurd (hattempt.symm.trans hsame) nofun
  | released hattempt =>
    refine hbrings.finish hmatched hattempt (record?_released _ _ _ _ _ hdistinct) ?_
      fun schema hschema => absurd hschema.symm (Option.some_ne_none schema)
    rw [filed?_released, Option.none_or, ite_self]
  | left hattempt =>
    refine hbrings.advance rfl rfl fun hsame => ?_
    exact absurd (hattempt.symm.trans hsame) nofun

/-- A mount that ends renames no editor. -/
theorem Change.blockName?_eq (h : Change mounts event next) (hquiet : Quiet answers mounts event)
    (path : Path) : next.session.blockName? path = mounts.session.blockName? path := by
  cases h with
  | idle => rfl
  | begun => cases hquiet
  | acted => cases hquiet
  | answered found => exact Session.blockName?_settle _ _ _ _ path
  | told => exact Session.blockName?_settle _ _ _ _ path
  | released => rfl
  | left => rfl

/-! ## Over a run -/

/-- Nothing but mounts that end, one after another. -/
def QuietRun (answers : String → Except FetchError Catalog.BlockSchema) : Mounts → List Event → Prop
  | _, [] => True
  | mounts, event :: events => Quiet answers mounts event ∧ QuietRun answers (mounts.step event) events

theorem brings_run {events : List Event} (hmatched : Matched mounts)
    (hquiet : QuietRun answers mounts events) (h : Brings answers path name mounts) :
    Brings answers path name (mounts.run events) := by
  induction events generalizing mounts with
  | nil => exact h
  | cons event events ih =>
    have hchange := change_step mounts event
    exact ih (hchange.matched hmatched) hquiet.2 (hchange.brings hmatched hquiet.1 h)

theorem blockName?_run {events : List Event} (hquiet : QuietRun answers mounts events) (path : Path) :
    (mounts.run events).session.blockName? path = mounts.session.blockName? path := by
  induction events generalizing mounts with
  | nil => rfl
  | cons event events ih =>
    exact (ih hquiet.2).trans ((change_step mounts event).blockName?_eq hquiet.1 path)

/-- A path that the load under way asks for a block, or whose load is over, has the schema of this
block once there is one. -/
theorem Brings.called_of_filed (h : Brings answers path name mounts) {schema : Value}
    (hfiled : mounts.filed? path = some schema) : catalogSchema? answers name = some schema := by
  cases h with
  | pending _ _ _ hmissing => exact absurd (hfiled.symm.trans hmissing) (Option.some_ne_none _)
  | landed _ hschema => exact hschema schema hfiled

/-- Whether the mount with this index came to its end. -/
def hasEnded (mounts : Mounts) (i : Nat) : Bool :=
  match mounts.all[i]? with
  | some (.ended _) => true
  | _ => false

/-- The mount with this index ends with the last of these events. -/
def EndsWith (i : Nat) : Mounts → List Event → Prop
  | mounts, [] => mounts.hasEnded i = true
  | mounts, event :: events => mounts.hasEnded i = false ∧ EndsWith i (mounts.step event) events

/-- A mount that ended when it began ends with no event. -/
theorem EndsWith.eq_nil {i : Nat} {events : List Event} (h : EndsWith i mounts events)
    (hended : mounts.hasEnded i = true) : events = [] := by
  cases events with
  | nil => rfl
  | cons event events => exact absurd (h.1.symm.trans hended) Bool.false_ne_true

/-! ## What a mount gets -/

/-- **A mount that begins now gets the schema that it calls for**: nothing is filed for its path and no
load is under way, or what is filed is that schema, or what the load under way comes to. -/
inductive Serves (answers : String → Except FetchError Catalog.BlockSchema) (mounts : Mounts)
    (path : Path) (descriptor : Descriptor) : Prop where
  | fresh (hmissing : mounts.filed? path = none) (hfree : mounts.record? path = none) :
      Serves answers mounts path descriptor
  | filed {schema : Value} (hfiled : mounts.filed? path = some schema)
      (hcalled : called answers descriptor (descriptor.blockName? (mounts.session.value? path))
        = some schema) : Serves answers mounts path descriptor
  | joined {i : Nat} {mount : Mount} {name : String} (hmissing : mounts.filed? path = none)
      (hattempt : mounts.all[i]? = some (.asks mount name)) (hkey : mount.path.key = path.key)
      (hrecord : mounts.record? path = some mount.flight)
      (hcalled : called answers descriptor (descriptor.blockName? (mounts.session.value? path))
        = catalogSchema? answers name) : Serves answers mounts path descriptor

/-- Where a schema is filed, it decides. -/
theorem serves_iff_of_filed {schema : Value} (hfiled : mounts.filed? path = some schema) :
    Serves answers mounts path descriptor ↔
      called answers descriptor (descriptor.blockName? (mounts.session.value? path)) = some schema := by
  constructor
  · intro hserves
    cases hserves with
    | fresh hmissing => exact absurd (hfiled.symm.trans hmissing) (Option.some_ne_none _)
    | filed hthere hcalled =>
      obtain rfl := Option.some.inj (hthere.symm.trans hfiled)
      exact hcalled
    | joined hmissing => exact absurd (hfiled.symm.trans hmissing) (Option.some_ne_none _)
  · exact .filed hfiled

/-- Where nothing is filed and a load is under way, the name that it was asked under decides. -/
theorem serves_iff_of_joined (hmatched : Matched mounts) {i : Nat} {mount : Mount}
    (hmissing : mounts.filed? path = none) (hattempt : mounts.all[i]? = some (.asks mount name))
    (hkey : mount.path.key = path.key) (hrecord : mounts.record? path = some mount.flight) :
    Serves answers mounts path descriptor ↔
      called answers descriptor (descriptor.blockName? (mounts.session.value? path))
        = catalogSchema? answers name := by
  constructor
  · intro hserves
    cases hserves with
    | fresh _ hfree => exact absurd (hrecord.symm.trans hfree) (Option.some_ne_none _)
    | filed hfiled => exact absurd (hfiled.symm.trans hmissing) (Option.some_ne_none _)
    | joined _ hother hotherKey hotherRecord hcalled =>
      have hflight := Option.some.inj (hotherRecord.symm.trans hrecord)
      obtain rfl := hmatched.single hother hattempt (hotherKey.trans hkey.symm)
        (congrArg Flight.generation hflight)
      obtain ⟨-, rfl⟩ := Attempt.asks.inj (Option.some.inj (hother.symm.trans hattempt))
      exact hcalled
  · exact .joined hmissing hattempt hkey hrecord

/-- Where nothing is filed and no load is under way, a mount gets what it calls for. -/
theorem serves_iff_of_fresh (hmissing : mounts.filed? path = none) (hfree : mounts.record? path = none)
    {found : Option Value}
    (hfound : called answers descriptor (descriptor.blockName? (mounts.session.value? path)) = found) :
    Serves answers mounts path descriptor ↔
      called answers descriptor (descriptor.blockName? (mounts.session.value? path)) = found :=
  ⟨fun _ => hfound, fun _ => .fresh hmissing hfree⟩

/-- **How a mount is served is known when it begins**: it ends at once, or its path takes the course of
a load for some block. -/
theorem served_begin (hmatched : Matched mounts)
    (hpolicy : mounts.session.registry.cache.policy = .reuse) (path : Path) (descriptor : Descriptor)
    (answers : String → Except FetchError Catalog.BlockSchema) :
    let begun := mounts.begin path descriptor
    let wanted := called answers descriptor (descriptor.blockName? (mounts.session.value? path))
    (begun.hasEnded mounts.all.length = true ∧ ∀ schema, begun.filed? path = some schema →
      (Serves answers mounts path descriptor ↔ wanted = some schema)) ∨
    (∃ name, Brings answers path name begun ∧
      (Serves answers mounts path descriptor ↔ wanted = catalogSchema? answers name)) := by
  intro begun wanted
  obtain ⟨step, cache, hbegins, hcache, hall⟩ := begun_begin mounts path descriptor
  have hlast : begun.all[mounts.all.length]? = some (.ofStep step) := hall.mpr (.inr ⟨rfl, rfl⟩)
  have hended : ∀ {mode : EditMode}, step = .done mode → begun.hasEnded mounts.all.length = true := by
    rintro mode rfl
    rw [hasEnded, hlast]
    rfl
  have hfiled : begun.filed? path = cache.peek? path := congrArg (·.peek? path) hcache
  have hrecord : begun.record? path = Table.get? cache.inFlight path.key :=
    congrArg (fun found : Cache => Table.get? found.inFlight path.key) hcache
  cases hbegins with
  | met hthere mode =>
    refine .inl ⟨hended rfl, fun found hfound => ?_⟩
    obtain rfl := Option.some.inj (hthere.symm.trans (hfiled.symm.trans hfound))
    exact serves_iff_of_filed hthere
  | joined hlacks hflight =>
    obtain ⟨i, mount, name, hattempt, hkey, rfl⟩ := hmatched.owned hflight
    refine .inr ⟨name, .pending (hall.mpr (.inl hattempt)) hkey (hrecord.trans hflight)
      (hfiled.trans (hlacks hpolicy)), ?_⟩
    exact serves_iff_of_joined hmatched (hlacks hpolicy) hattempt hkey hflight
  | ready hlacks hfree hready mode =>
    refine .inl ⟨hended rfl, fun found hfound => ?_⟩
    rw [hfiled, Cache.peek?_finish_launch (hlacks hpolicy), if_pos rfl] at hfound
    refine serves_iff_of_fresh (hlacks hpolicy) hfree ?_
    have hschema : descriptor.schema = some found := hfound
    unfold called
    rw [hschema]
    rfl
  | asked hlacks hfree hschema hname =>
    rename_i name
    refine .inr ⟨name, .pending hlast rfl ?_ (hfiled.trans (hlacks hpolicy)), ?_⟩
    · rw [hrecord, Cache.get?_inFlight_launch, if_pos rfl]
    · refine serves_iff_of_fresh (hlacks hpolicy) hfree ?_
      rw [called, hschema, hname]
      rfl

/-- **A mount leaves the schema that it calls for, if and only if it is served so.**  Whatever was
mounted, rendered and stored before, and whether other mounts were under way when it began: once it
ends without anything else going on than mounts that end, and some schema is filed for its path (a
mount that has to do without leaves none), that is its own schema, or the catalog's for the block that
its editor records by then, exactly if this is what was filed for the path when it began, or what the
load under way for the path was to come to, or neither was there. -/
theorem mounts_leave_their_schema (session : Session)
    (hpolicy : session.registry.cache.policy = .reuse) (hidle : session.registry.cache.inFlight = [])
    (before : List Event) (path : Path) (descriptor : Descriptor) {mounts begun : Mounts}
    (hmounts : mounts = Mounts.run ⟨session, []⟩ before)
    (hbegun : begun = mounts.step (.mount path descriptor))
    (answers : String → Except FetchError Catalog.BlockSchema) (after : List Event)
    (hquiet : QuietRun answers begun after) (hends : EndsWith mounts.all.length begun after)
    {schema : Value} (hfiled : (begun.run after).filed? path = some schema) :
    called answers descriptor ((begun.run after).session.blockName? path) = some schema ↔
      Serves answers mounts path descriptor := by
  have hmatched : Matched mounts := hmounts ▸ (matched_idle hidle).run before
  have hreuse : mounts.session.registry.cache.policy = .reuse :=
    hmounts ▸ (policy_run _ before).trans hpolicy
  have hname : (begun.run after).session.blockName? path
      = descriptor.blockName? (mounts.session.value? path) := by
    rw [blockName?_run hquiet, hbegun]
    exact Session.blockName?_beginMount mounts.session path descriptor
  rw [hname]
  have hserved := served_begin hmatched hreuse path descriptor answers
  change begun = mounts.begin path descriptor at hbegun
  rw [← hbegun] at hserved
  rcases hserved with ⟨hended, hserves⟩ | ⟨name, hbrings, hserves⟩
  · obtain rfl := hends.eq_nil hended
    exact (hserves schema hfiled).symm
  · have hlater : Matched begun := hbegun ▸ (change_step mounts (.mount path descriptor)).matched hmatched
    have hschema := (brings_run hlater hquiet hbrings).called_of_filed hfiled
    rw [hserves, hschema]

/-- A catalog with two triggers. -/
def twoTriggers (name : String) : Except FetchError Catalog.BlockSchema :=
  if name = "stateTrigger" then .ok ⟨.obj [("title", .str "state")], []⟩
  else .ok ⟨.obj [("title", .str "time")], []⟩

/-- A document with a trigger of one of them. -/
def oneTrigger : Value :=
  .obj [("root", .obj [("trigger", .obj [("trigger", .str "state")])])]

/-- Two mounts of one trigger overlap, and the second one gets what the first one asked for. -/
theorem mounts_leave_their_schema_joined :
    let path := Path.root.child "trigger"
    let descriptor := Descriptor.block .trigger
    let begun := (start .default oneTrigger).run [.mount path descriptor, .mount path descriptor]
    let late := begun.run [.answer 0 (twoTriggers "stateTrigger"), .poll 1]
    begun.hasEnded 1 = false ∧
      called twoTriggers descriptor (late.session.blockName? path)
        = some (.obj [("title", .str "state")]) := by
  intro path descriptor begun late
  let mounts := (start .default oneTrigger).run [.mount path descriptor]
  have hattempt : mounts.all[0]? = some (.asks ⟨path, 1, ⟨1, 0⟩⟩ "stateTrigger") := by decide +kernel
  have hlater : begun.all[0]? = some (.asks ⟨path, 1, ⟨1, 0⟩⟩ "stateTrigger") := by decide +kernel
  have hwaits : begun.hasEnded 1 = false := by decide +kernel
  have hquiet : QuietRun twoTriggers begun [.answer 0 (twoTriggers "stateTrigger"), .poll 1] :=
    ⟨.answer hlater, .poll 1, trivial⟩
  have hended : late.hasEnded 1 = true := by decide +kernel
  have hends : EndsWith 1 begun [.answer 0 (twoTriggers "stateTrigger"), .poll 1] :=
    ⟨hwaits, by decide +kernel, hended⟩
  have hfiled : late.filed? path = some (.obj [("title", .str "state")]) := by decide +kernel
  have hserves : Serves twoTriggers mounts path descriptor :=
    .joined (by decide +kernel) hattempt rfl (by decide +kernel) (by decide +kernel)
  exact ⟨hwaits, (mounts_leave_their_schema (.ofDocument .default oneTrigger) rfl rfl
    [.mount path descriptor] path descriptor rfl rfl twoTriggers _ hquiet hends hfiled).mpr hserves⟩

/-- A trigger is changed to the other kind between two mounts.  The second one records the new block
and leaves the schema of the old one, whether the first one has ended by then or not. -/
theorem mounts_leave_other_schemas :
    let path := Path.root.child "trigger"
    let descriptor := Descriptor.block .trigger
    let changed : Event := .act (.input path (.value (.obj [("trigger", .str "time")])))
    let answered : Event := .answer 0 (twoTriggers "stateTrigger")
    let first := (start .default oneTrigger).run
      [.mount path descriptor, answered, changed, .mount path descriptor]
    let second := (start .default oneTrigger).run
      [.mount path descriptor, changed, .mount path descriptor, answered, .poll 1]
    ∀ late ∈ [first, second], late.hasEnded 1 = true ∧
      called twoTriggers descriptor (late.session.blockName? path)
        = some (.obj [("title", .str "time")]) ∧
      late.filed? path = some (.obj [("title", .str "state")]) := by
  intro path descriptor changed answered first second late hlate
  rw [List.mem_cons, List.mem_singleton] at hlate
  rcases hlate with rfl | rfl
  · decide +kernel
  · decide +kernel

end Mounts

end SchemaForms
