import SchemaForms.Proofs.Session.Mounting

/-!
# Proofs/Session/LateMounts — a mount that comes too late changes nothing

A mount may finish long after its editor is gone, or after a newer mount of the same path began.
Then it leaves all editors as they are, and the cache too if its load was evicted
(`late_mount_changes_nothing`).  Two invariants carry this over everything that happens in between:
no editor at the path has the number of the mount (`Lost`), because numbers are given out once; and
the load is parted from the cache, because generations are.
-/

namespace SchemaForms

namespace Session

variable {session : Session} {path : Path} {action : Action} {epoch generation : Nat}

/-! ## Editors that are lost to a mount -/

/-- No editor at the path has the number of the mount. -/
def Lost (path : Path) (epoch : Nat) (registry : Registry) : Prop :=
  ∀ state, registry.editor? path = some state → state.epoch ≠ epoch

/-- **An editor that is lost to a mount stays so.**  One that is made anew has no mount yet, and one
that goes on has the mount that it had. -/
theorem carried_lost (path : Path) (hepoch : epoch ≠ 0) : Carried (Lost path epoch) where
  turn _ h := h
  forget doomed h state hstate := by
    rw [Registry.editor?_forgetEditors] at hstate
    split at hstate
    · exact absurd hstate nofun
    · exact h state hstate
  edit {registry other next} hnext h state hstate := by
    rw [Registry.editor?_setEditor] at hstate
    split at hstate
    · rename_i hkey
      obtain rfl := Option.some.inj hstate
      have hsame : registry.editor? other = registry.editor? path := by
        unfold Registry.editor?
        rw [hkey]
      rw [hnext.epoch, hsame]
      cases hfound : registry.editor? path with
      | none => exact Ne.symm hepoch
      | some found => exact h found hfound
    · exact h state hstate

/-- A newer mount, of this path or another, has another number. -/
theorem lost_recordMount (h : Lost path epoch session.registry) (hle : epoch ≤ session.mounts)
    (other : Path) (descriptor : Descriptor) (name : Option String) :
    Lost path epoch (session.recordMount other descriptor name).registry := by
  intro state hstate
  change (session.registry.setEditor other _).editor? path = some state at hstate
  rw [Registry.editor?_setEditor] at hstate
  split at hstate
  · obtain rfl := Option.some.inj hstate
    exact Nat.ne_of_gt (Nat.lt_succ_of_le hle)
  · exact h state hstate

/-- **A newer mount takes the editor over.** -/
theorem lost_of_renewed (hle : epoch ≤ session.mounts) (descriptor : Descriptor)
    (name : Option String) :
    Lost path epoch (session.recordMount path descriptor name).registry := by
  intro state hstate
  change (session.registry.setEditor path _).editor? path = some state at hstate
  rw [Registry.editor?_setEditor, if_pos rfl] at hstate
  obtain rfl := Option.some.inj hstate
  exact Nat.ne_of_gt (Nat.lt_succ_of_le hle)

/-- **The end of a mount whose editor is lost changes nothing.** -/
theorem settle_eq_of_lost (h : Lost path epoch session.registry) (outcome : LoadOutcome) :
    session.settle path epoch outcome = (.structured, session) := by
  have hnone : (session.editor? path).filter (·.epoch = epoch) = none := by
    cases hfound : session.editor? path with
    | none => rfl
    | some state => simp [h state hfound]
  unfold settle
  rw [hnone]

/-! ## Actions that drop an editor -/

/-- **An action takes away the editor of a path**: what is at the path or above it is removed, moved
or replaced, or a rendering finds that it shows another block. -/
inductive Drops (session : Session) (path : Path) : Action → Prop where
  | removedItem {array : Path} {index i : Nat} {removed : Value} {next : Session}
      (hremove : session.remove (array.item index) = .ok (removed, next)) (hindex : index ≤ i)
      (hbelow : array.item i <+: path) : Drops session path (.remove (array.item index))
  | removedMember {parent : Path} {key : String} {removed : Value} {next : Session}
      (hremove : session.remove (parent.child key) = .ok (removed, next))
      (hbelow : parent.child key <+: path) : Drops session path (.remove (parent.child key))
  | moved {array : Path} {source target i : Nat} {next : Session}
      (hmove : session.move array source target = .ok next) (hne : source ≠ target)
      (hbetween : min source target ≤ i ∧ i ≤ max source target) (hbelow : array.item i <+: path) :
      Drops session path (.move array source target)
  | replaced {insertion : Insertion} {definition : Catalog.Definition} {place : Path} {next : Session}
      (hinsert : session.insertBlock insertion definition = .ok (place, next))
      (hbelow : place <+: path) : Drops session path (.insert insertion definition)
  | stale {rendered : Path} {state : EditorState} (hthere : session.editor? path = some state)
      (hgone : (session.render rendered).2.editor? path = none) :
      Drops session path (.render rendered)

/-- The editor of a path is gone, and the loads of the path are cut off from the cache. -/
structure Gone (session : Session) (path : Path) (generation : Nat) (next : Registry) : Prop where
  editor : next.editor? path = none
  parted : Table.Distinct session.registry.cache.inFlight →
    generation ≤ Cache.lastGeneration session.registry.cache.generations path.key →
      Cache.Parted next.cache path.key generation

theorem gone_dropWhere (hroot : Path.Rooted path) {doomed : Path → Bool}
    (hdoomed : doomed path = true) :
    Gone session path generation (session.registry.dropWhere doomed) where
  editor := by rw [Registry.editor?_dropWhere, hroot.parse_key, if_pos hdoomed]
  parted hdistinct hgiven := Cache.parted_evictWhere hroot hdoomed hdistinct hgiven

/-- The editor of a path is as it was, or a load of the path is cut off from the cache. -/
structure StandsOrFalls (path : Path) (state : EditorState) (generation : Nat)
    (registry : Registry) :
    Prop where
  distinct : Table.Distinct registry.cache.inFlight
  given : generation ≤ Cache.lastGeneration registry.cache.generations path.key
  cases : registry.editor? path = some state ∨ Cache.Parted registry.cache path.key generation

/-- What drops an editor in a rendering also evicts the loads of its path. -/
theorem stable_standsOrFalls (hroot : Path.Rooted path) (state : EditorState) (generation : Nat)
    (region : Path → Prop) : Render.Stable region (StandsOrFalls path state generation) where
  drop {registry dropped} _ h := by
    have hturn := Cache.turn_evictWhere registry.cache fun p => Path.startsWith p dropped
    refine ⟨Cache.lasting_distinct hturn h.distinct, Cache.lasting_given _ _ hturn h.given, ?_⟩
    by_cases hdropped : Path.startsWith path dropped = true
    · exact .inr (Cache.parted_evictWhere hroot hdropped h.distinct h.given)
    · refine h.cases.imp (fun heditor => ?_) fun hparted => hparted.turn hturn
      rw [Registry.dropUnder, Registry.editor?_dropWhere, hroot.parse_key, if_neg hdropped]
      exact heditor
  seed {registry seeded} schema _ h := by
    have hturn := Cache.turn_seed registry.cache seeded schema
    refine ⟨Cache.lasting_distinct hturn h.distinct, Cache.lasting_given _ _ hturn h.given, ?_⟩
    exact h.cases.imp id fun hparted => hparted.turn hturn

/-- **An editor that a rendering drops takes its load along.** -/
theorem gone_render (hroot : Path.Rooted path) {rendered : Path} {state : EditorState}
    (hthere : session.editor? path = some state)
    (hgone : (session.render rendered).2.editor? path = none) :
    Gone session path generation (session.render rendered).2.registry where
  editor := hgone
  parted hdistinct hgiven := by
    have hstart : StandsOrFalls path state generation session.registry :=
      ⟨hdistinct, hgiven, .inl hthere⟩
    have hend := keeps_render rendered (stable_standsOrFalls hroot state generation _) session hstart
    refine hend.cases.resolve_left fun heditor => ?_
    exact absurd (heditor.symm.trans hgone) nofun

/-- **What is dropped is gone.** -/
theorem Drops.gone (h : Drops session path action) (hroot : Path.Rooted path) :
    Gone session path generation (session.act action).registry := by
  cases h with
  | removedItem hremove hindex hbelow =>
    rcases edited_remove hremove with ⟨array', index', hpath, hnext⟩ | ⟨parent, key, hpath, -⟩
    · obtain ⟨rfl, hlast⟩ := List.append_inj' hpath rfl
      obtain rfl := Segment.index.inj (List.cons.inj hlast).1
      rw [act, hremove, after_ok, hnext.registry]
      exact gone_dropWhere hroot (Cache.throughItem_iff.mpr ⟨_, hbelow, decide_eq_true hindex⟩)
    · obtain ⟨-, hlast⟩ := List.append_inj' hpath rfl
      cases (List.cons.inj hlast).1
  | removedMember hremove hbelow =>
    rcases edited_remove hremove with ⟨array, index, hpath, -⟩ | ⟨parent', key', hpath, hnext⟩
    · obtain ⟨-, hlast⟩ := List.append_inj' hpath rfl
      cases (List.cons.inj hlast).1
    · rw [act, hremove, after_ok, hnext.registry]
      exact gone_dropWhere hroot (Path.startsWith_iff.mpr hbelow)
  | moved hmove hne hbetween hbelow =>
    have hnext := edited_move hmove
    rw [if_neg hne] at hnext
    rw [act, hmove]
    change Gone session path generation (Session.registry _)
    rw [hnext.registry]
    exact gone_dropWhere hroot (Cache.throughItem_iff.mpr ⟨_, hbelow, decide_eq_true hbetween⟩)
  | replaced hinsert hbelow =>
    rw [act, hinsert, after_ok, (edited_insertBlock hinsert).registry]
    exact gone_dropWhere hroot (Path.startsWith_iff.mpr hbelow)
  | stale hthere hgone =>
    rw [act]
    exact gone_render hroot hthere hgone

end Session

open Session (Drops Lost)

namespace Mounts

variable {mounts next : Mounts} {event : Event}

/-! ## The numbers of the mounts -/

/-- **Mounts that are under way have numbers and generations that were given out.** -/
structure Numbered (mounts : Mounts) : Prop where
  distinct : Table.Distinct mounts.session.registry.cache.inFlight
  epoch : ∀ {i : Nat} {attempt : Attempt} {mount : Mount}, mounts.all[i]? = some attempt →
    attempt.mount? = some mount → mount.epoch ≠ 0 ∧ mount.epoch ≤ mounts.session.mounts
  generation : ∀ {i : Nat} {mount : Mount} {name : String},
    mounts.all[i]? = some (.asks mount name) → mount.flight.generation
      ≤ Cache.lastGeneration mounts.session.registry.cache.generations mount.path.key

theorem numbered_start (config : Config) (document : Value) : Numbered (start config document) where
  distinct := Table.distinct_nil
  epoch h := absurd h nofun
  generation h := absurd h nofun

/-- A mount that is under way after another got further was so before. -/
theorem getElem?_advance {i j : Nat} {session : Session} {reached attempt : Attempt} {mount : Mount}
    (hover : reached.mount? = none) (hj : (mounts.advance i session reached).all[j]? = some attempt)
    (hmount : attempt.mount? = some mount) : mounts.all[j]? = some attempt := by
  rw [advance, List.getElem?_set] at hj
  split at hj
  · split at hj
    · obtain rfl := Option.some.inj hj
      exact absurd (hover.symm.trans hmount) nofun
    · exact absurd hj nofun
  · exact hj

/-- **Where a mount that is under way comes from**: it was so before the step, or it began with
it. -/
theorem Change.origin (h : Change mounts event next) {j : Nat} {attempt : Attempt} {mount : Mount}
    (hj : next.all[j]? = some attempt) (hmount : attempt.mount? = some mount) :
    mounts.all[j]? = some attempt ∨
      ∃ path descriptor, event = .mount path descriptor ∧
        attempt = .ofStep (mounts.session.beginMount path descriptor).1 ∧
        next.session = (mounts.session.beginMount path descriptor).2 := by
  cases h with
  | idle => exact .inl hj
  | begun path descriptor =>
    rcases Nat.lt_trichotomy j mounts.all.length with hlt | rfl | hgt
    · rw [List.getElem?_append_left hlt] at hj
      exact .inl hj
    · rw [List.getElem?_concat_length] at hj
      exact .inr ⟨path, descriptor, rfl, (Option.some.inj hj).symm, rfl⟩
    · rw [List.getElem?_eq_none (by simp; omega)] at hj
      cases hj
  | answered found => exact .inl (getElem?_advance rfl hj hmount)
  | told => exact .inl (getElem?_advance rfl hj hmount)
  | released => exact .inl (getElem?_advance rfl hj hmount)
  | left => exact .inl (getElem?_advance rfl hj hmount)
  | acted action => exact .inl hj

/-- **Every step keeps numbers and generations given out.** -/
theorem Change.numbered (h : Change mounts event next) (hmounts : Numbered mounts) :
    Numbered next where
  distinct := h.lasts Cache.lasting_distinct hmounts.distinct
  epoch := by
    intro j attempt mount hj hmount
    rcases h.origin hj hmount with hold | ⟨path, descriptor, rfl, rfl, hsession⟩
    · obtain ⟨hne, hle⟩ := hmounts.epoch hold hmount
      exact ⟨hne, Nat.le_trans hle h.mounts_le⟩
    · have hnumber : mount.epoch = mounts.session.mounts + 1 := by
        rcases Session.beginMount_cases mounts.session path descriptor with
          ⟨mode, hstep⟩ | ⟨flight, hstep⟩ | ⟨flight, name, hstep, -⟩ <;> rw [hstep] at hmount
        · exact absurd hmount nofun
        · rw [← Option.some.inj hmount]
        · rw [← Option.some.inj hmount]
      rw [hsession, Session.mounts_beginMount, hnumber]
      exact ⟨Nat.succ_ne_zero _, Nat.le_refl _⟩
  generation := by
    intro j mount name hj
    rcases h.origin hj rfl with hold | ⟨path, descriptor, rfl, hattempt, hsession⟩
    · exact h.lasts (Cache.lasting_given _ _) (hmounts.generation hold)
    · rcases Session.beginMount_cases mounts.session path descriptor with
        ⟨mode, hstep⟩ | ⟨flight, hstep⟩ | ⟨flight, name', hstep, hlast⟩ <;> rw [hstep] at hattempt
      · exact absurd hattempt nofun
      · exact absurd hattempt nofun
      · obtain ⟨rfl, rfl⟩ := Attempt.asks.inj hattempt
        rw [hsession]
        exact Nat.le_of_eq hlast

theorem Numbered.run (h : Numbered mounts) (events : List Event) :
    Numbered (mounts.run events) := by
  induction events generalizing mounts with
  | nil => exact h
  | cons event events ih => exact ih ((change_step mounts event).numbered h)

/-! ## After the loss -/

/-- **An editor that is lost to a mount stays so**, over any run. -/
theorem lost_run {path : Path} {epoch : Nat} (h : Lost path epoch mounts.session.registry)
    (hepoch : epoch ≠ 0) (hle : epoch ≤ mounts.session.mounts) (events : List Event) :
    Lost path epoch (mounts.run events).session.registry := by
  induction events generalizing mounts with
  | nil => exact h
  | cons event events ih =>
    have hchange := change_step mounts event
    refine ih ?_ (Nat.le_trans hle hchange.mounts_le)
    exact hchange.keeps (Session.carried_lost path hepoch)
      (fun other descriptor name _ => Session.lost_recordMount h hle other descriptor name) h

/-- What lasts in the cache lasts over any run. -/
theorem lasts_run {P : Cache → Prop} (hP : Cache.Lasting P) (h : P mounts.session.registry.cache)
    (events : List Event) : P (mounts.run events).session.registry.cache := by
  induction events generalizing mounts with
  | nil => exact h
  | cons event events ih => exact ih ((change_step mounts event).lasts hP h)

/-- **How a mount loses its editor**: an action takes it away, or a newer mount of its path
begins. -/
inductive Loses (mounts : Mounts) (path : Path) : Event → Prop where
  | dropped {action : Session.Action} (h : Drops mounts.session path action) :
      Loses mounts path (.act action)
  | renewed (descriptor : Descriptor) : Loses mounts path (.mount path descriptor)

theorem Loses.lost {path : Path} {loss : Event} (h : mounts.Loses path loss)
    (hroot : Path.Rooted path) {epoch : Nat} (hepoch : epoch ≠ 0)
    (hle : epoch ≤ mounts.session.mounts) :
    Lost path epoch (mounts.step loss).session.registry := by
  cases h with
  | dropped hdrops =>
    intro state hstate
    have hgone : Session.Gone mounts.session path 0 _ := hdrops.gone hroot
    exact absurd (hgone.editor.symm.trans hstate) nofun
  | renewed descriptor =>
    exact Session.keeps_beginMount (Session.carried_lost path hepoch) path descriptor
      (Session.lost_of_renewed hle descriptor _)

/-- **An action that drops an editor cuts the load of its mount off.** -/
theorem Numbered.parted_of_drops (h : Numbered mounts) {i : Nat} {mount : Mount} {name : String}
    (hattempt : mounts.all[i]? = some (.asks mount name)) (hroot : Path.Rooted mount.path)
    {action : Session.Action} (hdrops : Drops mounts.session mount.path action) :
    Cache.Parted (mounts.step (.act action)).session.registry.cache mount.path.key
      mount.flight.generation :=
  (hdrops.gone hroot).parted h.distinct (h.generation hattempt)

/-- **How a mount comes to its end**: it is told of the load that it waits for, or its own load is
answered. -/
theorem Change.ends (h : Change mounts event next) {i : Nat} {attempt : Attempt} {mount : Mount}
    {mode : EditMode} (hattempt : mounts.all[i]? = some attempt)
    (hmount : attempt.mount? = some mount) (hover : next.all[i]? = some (.ended mode)) :
    (∃ outcome, mounts.session.settle mount.path mount.epoch outcome = (mode, next.session)) ∨
    (∃ name outcome, attempt = .asks mount name ∧
      mounts.session.answerMount mount outcome = (mode, next.session)) := by
  have hstays : mounts.all[i]? ≠ some (.ended mode) := by
    intro hsame
    obtain rfl := Option.some.inj (hattempt.symm.trans hsame)
    exact absurd hmount nofun
  -- A mount other than the one that the step is about is where it was.
  have hself : ∀ {j : Nat} {session : Session} {reached : Attempt},
      (mounts.advance j session reached).all[i]? = some (.ended mode) →
      j = i ∧ reached = .ended mode := by
    intro j session reached hreached
    rw [advance, List.getElem?_set] at hreached
    split at hreached
    · rename_i hj
      split at hreached
      · exact ⟨hj, Option.some.inj hreached⟩
      · exact absurd hreached nofun
    · exact absurd hreached hstays
  cases h with
  | idle => exact absurd hover hstays
  | begun path descriptor =>
    obtain ⟨hi, -⟩ := List.getElem?_eq_some_iff.mp hattempt
    exact absurd ((List.getElem?_append_left hi).symm.trans hover) hstays
  | answered found hasks =>
    obtain ⟨rfl, hmode⟩ := hself hover
    obtain rfl := Option.some.inj (hasks.symm.trans hattempt)
    obtain rfl := Option.some.inj hmount
    exact .inr ⟨_, _, rfl, Prod.ext (Attempt.ended.inj hmode) rfl⟩
  | told hwaits =>
    obtain ⟨rfl, hmode⟩ := hself hover
    obtain rfl := Option.some.inj (hwaits.symm.trans hattempt)
    obtain rfl := Option.some.inj hmount
    exact .inl ⟨_, Prod.ext (Attempt.ended.inj hmode) rfl⟩
  | released => exact absurd (hself hover).2 nofun
  | left => exact absurd (hself hover).2 nofun
  | acted action => exact absurd hover hstays

/-- **A mount that finishes after its editor was lost changes nothing.**  Whatever happened since,
even if a new block was put at its path and mounted, its end leaves every editor as it was and shows
the form; and if an action dropped its editor, and with it evicted its load, its end leaves the
schemas and the records of loads as they were, too. -/
theorem late_mount_changes_nothing (config : Config) (document : Value) (before after : List Event)
    (loss exit : Event) {late : Mounts} {i : Nat} {attempt : Attempt} {mount : Mount}
    {mode : EditMode}
    (hrun : late = (start config document).run (before ++ loss :: after))
    (hattempt : ((start config document).run before).all[i]? = some attempt)
    (hmount : attempt.mount? = some mount) (hroot : Path.Rooted mount.path)
    (hloss : ((start config document).run before).Loses mount.path loss)
    (hlate : late.all[i]? = some attempt) (hover : (late.step exit).all[i]? = some (.ended mode)) :
    mode = .structured ∧
      (late.step exit).session.store = late.session.store ∧
      (late.step exit).session.registry.editors = late.session.registry.editors ∧
      ((∃ action, loss = .act action) →
        (late.step exit).session.registry.cache.entries = late.session.registry.cache.entries ∧
        (late.step exit).session.registry.cache.inFlight = late.session.registry.cache.inFlight) := by
  have hlateEq : late = (((start config document).run before).step loss).run after :=
    hrun.trans (run_append _ _ _)
  have hnumbered : Numbered ((start config document).run before) := (numbered_start _ _).run before
  obtain ⟨hne, hle⟩ := hnumbered.epoch hattempt hmount
  have hlost : Lost mount.path mount.epoch late.session.registry := by
    rw [hlateEq]
    exact lost_run (hloss.lost hroot hne hle) hne
      (Nat.le_trans hle (change_step _ loss).mounts_le) after
  rcases (change_step late exit).ends hlate hmount hover with
    ⟨outcome, hsettle⟩ | ⟨name, outcome, rfl, hanswer⟩
  · rw [Session.settle_eq_of_lost hlost] at hsettle
    obtain ⟨rfl, hsession⟩ := Prod.mk.inj hsettle
    rw [← hsession]
    exact ⟨rfl, rfl, rfl, fun _ => ⟨rfl, rfl⟩⟩
  · have hfinished : Lost mount.path mount.epoch
        (late.session.setCache (late.session.registry.cache.finish mount.path mount.flight
          outcome)).registry := hlost
    rw [Session.answerMount, Session.settle_eq_of_lost hfinished] at hanswer
    obtain ⟨rfl, hsession⟩ := Prod.mk.inj hanswer
    rw [← hsession]
    refine ⟨rfl, rfl, rfl, ?_⟩
    rintro ⟨action, rfl⟩
    cases hloss with
    | dropped hdrops =>
      have hparted : late.session.registry.cache.Parted mount.path.key mount.flight.generation := by
        rw [hlateEq]
        have hcut := hnumbered.parted_of_drops hattempt hroot hdrops
        exact lasts_run (Cache.lasting_parted _ _) hcut after
      change (late.session.registry.cache.finish _ _ _).entries = _ ∧
        (late.session.registry.cache.finish _ _ _).inFlight = _
      rw [Cache.finish, hparted.commit_eq]
      exact ⟨rfl, rfl⟩

/-- A block is removed while its schema is fetched, a new one is put in its place and mounted, and
then the answer about the first one comes. -/
theorem late_mount_changes_nothing_replaced :
    let path := Path.root.child "trigger"
    let before : List Event := [.mount path ⟨some "state_trigger", none, none⟩]
    let after : List Event := [.act (.insert ⟨.trigger, path, false⟩ (.named "time_trigger")),
      .mount path ⟨some "time_trigger", none, none⟩]
    let exit : Event := .answer 0 (.error (.unknownBlock "state_trigger"))
    let late := (start .default (.obj [("root", .obj [("trigger", .null)])])).run
      (before ++ .act (.remove path) :: after)
    late.session.registry.cache.isLoading path = true ∧
      (late.step exit).session.registry.editors = late.session.registry.editors ∧
      (late.step exit).session.registry.cache.inFlight = late.session.registry.cache.inFlight := by
  intro path before after exit late
  let first := (start .default (.obj [("root", .obj [("trigger", .null)])])).run before
  have hrun : late = (start .default (.obj [("root", .obj [("trigger", .null)])])).run
      (before ++ .act (.remove path) :: after) := rfl
  have hloading : late.session.registry.cache.isLoading path = true := by decide +kernel
  have hattempt : first.all[0]? = some (.asks ⟨path, 1, ⟨1, 0⟩⟩ "state_trigger") := by
    decide +kernel
  have hlate : late.all[0]? = some (.asks ⟨path, 1, ⟨1, 0⟩⟩ "state_trigger") := by decide +kernel
  have hover : (late.step exit).all[0]? = some (.ended .structured) := by decide +kernel
  have hdrops : Drops first.session path (.remove path) := .removedMember rfl (List.prefix_refl _)
  obtain ⟨-, -, heditors, hcache⟩ := late_mount_changes_nothing .default _ before after
    (.act (.remove path)) exit hrun hattempt rfl (by decide) (.dropped hdrops) hlate hover
  exact ⟨hloading, heditors, (hcache ⟨_, rfl⟩).2⟩

end Mounts

end SchemaForms
