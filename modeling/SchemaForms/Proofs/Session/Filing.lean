import SchemaForms.Proofs.Cache.Filing
import SchemaForms.Proofs.Session.LateMounts

/-!
# Proofs/Session/Filing — which schemas mounts file

An answer files its schema and takes its record along if it holds the record of its path, and nothing
else that a mount does touches what is filed (`filed?_answered`, `record?_answered`).  The records of
loads belong to the mounts that ran them, one to one (`Matched`), as long as no record was there
before the first mount.
-/

namespace SchemaForms

namespace Session

variable {session : Session} {path : Path} {descriptor : Descriptor}

/-! ## What stays as it is -/

theorem Begun.policy_eq {begun : MountStep} {cache : Cache}
    (h : Begun session path descriptor begun cache) :
    cache.policy = session.registry.cache.policy := by
  cases h with
  | met => rfl
  | joined => rfl
  | ready => exact Cache.policy_finish _ _ _ _
  | asked => rfl

/-- **A schema that is filed stays filed when mounts begin**, under a policy that uses schemas again. -/
theorem Begun.peek?_of_filed {begun : MountStep} {cache : Cache} {place : Path} {schema : Value}
    (h : Begun session place descriptor begun cache)
    (hpolicy : session.registry.cache.policy = .reuse)
    (hfiled : session.registry.cache.peek? path = some schema) : cache.peek? path = some schema := by
  cases h with
  | met => exact hfiled
  | joined => exact hfiled
  | ready hlacks =>
    rw [Cache.peek?_launch_finish, if_neg, hfiled]
    intro hkey
    have hthere : session.registry.cache.peek? place = some schema := by
      rw [Cache.peek?, hkey]
      exact hfiled
    exact absurd (hthere.symm.trans (hlacks hpolicy)) (Option.some_ne_none _)
  | asked => exact hfiled

theorem policy_act (session : Session) (action : Action) :
    (session.act action).registry.cache.policy = session.registry.cache.policy := by
  have hsteady : Steady fun registry => registry.cache.policy = session.registry.cache.policy :=
    ⟨fun _ h => h, fun path schema h => (Cache.policy_seed _ path schema).trans h, fun _ h => h⟩
  exact keeps_act hsteady action (.inr fun _ _ h => h) rfl

/-- Actions put no load on record. -/
theorem record_act (action : Action) {key : String} {flight : Flight}
    (h : Table.get? (session.act action).registry.cache.inFlight key = some flight) :
    Table.get? session.registry.cache.inFlight key = some flight := by
  let Older := fun registry : Registry => ∀ record,
    Table.get? registry.cache.inFlight key = some record →
      Table.get? session.registry.cache.inFlight key = some record
  have hsteady : Steady Older := by
    refine ⟨fun {registry doomed} _ hold record hrecord => ?_, fun path schema hold record hrecord =>
      ?_, fun _ hold => hold⟩
    · change Table.get? (registry.cache.evictWhere doomed).inFlight key = _ at hrecord
      rw [Cache.evictWhere, Table.get?_dropKeys] at hrecord
      split at hrecord
      · exact absurd hrecord.symm (Option.some_ne_none _)
      · exact hold record hrecord
    · rw [Cache.inFlight_seed] at hrecord
      exact hold record hrecord
  exact keeps_act hsteady action (.inr fun _ _ hold => hold) (fun _ hrecord => hrecord) flight h

end Session

namespace Mounts

variable {mounts next : Mounts} {event : Event}

/-- The schema that is filed for a path. -/
def filed? (mounts : Mounts) (path : Path) : Option Value :=
  mounts.session.registry.cache.peek? path

/-- The load that is on record for a path. -/
def record? (mounts : Mounts) (path : Path) : Option Flight :=
  Table.get? mounts.session.registry.cache.inFlight path.key

/-- **The load of the mount is on record for the path.** -/
def Holds (mounts : Mounts) (mount : Mount) (path : Path) : Prop :=
  mount.path.key = path.key ∧
    mounts.session.registry.cache.isCurrent mount.path.key mount.flight.generation = true

instance (mounts : Mounts) (mount : Mount) (path : Path) : Decidable (Holds mounts mount path) :=
  inferInstanceAs (Decidable (_ ∧ _))

theorem holds_iff {mount : Mount} {path : Path} :
    Holds mounts mount path ↔ mount.path.key = path.key ∧
      ∃ flight, mounts.record? path = some flight ∧
        flight.generation = mount.flight.generation := by
  unfold Holds record?
  rw [Cache.isCurrent_iff]
  refine and_congr_right fun hkey => ?_
  rw [hkey]

/-- **The beginning of a mount adds one to all mounts.** -/
theorem begun_begin (mounts : Mounts) (path : Path) (descriptor : Descriptor) :
    ∃ (step : MountStep) (cache : Cache), Session.Begun mounts.session path descriptor step cache ∧
      (mounts.begin path descriptor).session.registry.cache = cache ∧
      ∀ {j : Nat} {attempt : Attempt}, (mounts.begin path descriptor).all[j]? = some attempt ↔
        mounts.all[j]? = some attempt ∨ (j = mounts.all.length ∧ attempt = .ofStep step) := by
  refine ⟨_, _, Session.begun_beginMount mounts.session path descriptor, rfl, fun {j attempt} => ?_⟩
  change (mounts.all ++ [Attempt.ofStep (mounts.session.beginMount path descriptor).1])[j]? = _ ↔ _
  rcases Nat.lt_trichotomy j mounts.all.length with hlt | rfl | hgt
  · rw [List.getElem?_append_left hlt]
    exact ⟨.inl, fun h => h.resolve_right fun hlast => Nat.ne_of_lt hlt hlast.1⟩
  · rw [List.getElem?_concat_length, List.getElem?_eq_none (Nat.le_refl _)]
    simp [eq_comm]
  · rw [List.getElem?_eq_none (by simp; omega), List.getElem?_eq_none (Nat.le_of_lt hgt)]
    simp [Nat.ne_of_gt hgt]

/-! ## One step -/

/-- No step changes the policy. -/
theorem Change.policy_eq (h : Change mounts event next) :
    next.session.registry.cache.policy = mounts.session.registry.cache.policy := by
  cases h with
  | idle => rfl
  | begun path descriptor => exact (Session.begun_beginMount _ path descriptor).policy_eq
  | answered found =>
    change (mounts.session.answerMount _ _).2.registry.cache.policy = _
    rw [Session.cache_answerMount, Cache.policy_finish]
  | told =>
    change (mounts.session.settle _ _ _).2.registry.cache.policy = _
    rw [Session.cache_settle]
  | released => exact Cache.policy_drop _ _ _
  | left => rfl
  | acted action => exact Session.policy_act _ action

theorem policy_run (mounts : Mounts) (events : List Event) :
    (mounts.run events).session.registry.cache.policy = mounts.session.registry.cache.policy := by
  induction events generalizing mounts with
  | nil => rfl
  | cons event events ih => exact (ih _).trans (change_step mounts event).policy_eq

section Steps

variable (mounts : Mounts) (i : Nat) (mount : Mount) (outcome : LoadOutcome) (reached : Attempt)
  (path : Path)

/-- **An answer files its schema** if the load is on record, and nothing else. -/
theorem filed?_answered :
    (mounts.advance i (mounts.session.answerMount mount outcome).2 reached).filed? path =
      if Holds mounts mount path then (Cache.schemaOf? outcome).or (mounts.filed? path)
      else mounts.filed? path := by
  change (mounts.session.answerMount mount outcome).2.registry.cache.peek? path = _
  rw [Session.cache_answerMount, Cache.peek?_finish]
  rfl

theorem filed?_told :
    (mounts.advance i (mounts.session.settle mount.path mount.epoch outcome).2 reached).filed? path
      = mounts.filed? path := by
  change (mounts.session.settle _ _ _).2.registry.cache.peek? path = _
  rw [Session.cache_settle]
  rfl

theorem filed?_released :
    (mounts.advance i (mounts.session.dropMount mount) reached).filed? path = mounts.filed? path :=
  Cache.peek?_drop _ _ _ _

theorem filed?_acted (session : Session) :
    filed? { mounts with session := session } path = session.registry.cache.peek? path := rfl

/-- **An answer takes its record along**, and no other. -/
theorem record?_answered (hdistinct : Table.Distinct mounts.session.registry.cache.inFlight) :
    (mounts.advance i (mounts.session.answerMount mount outcome).2 reached).record? path =
      if Holds mounts mount path then none else mounts.record? path := by
  change Table.get? (mounts.session.answerMount mount outcome).2.registry.cache.inFlight path.key = _
  rw [Session.cache_answerMount, Cache.get?_inFlight_finish hdistinct]
  rfl

theorem record?_told :
    (mounts.advance i (mounts.session.settle mount.path mount.epoch outcome).2 reached).record? path
      = mounts.record? path := by
  change Table.get? (mounts.session.settle _ _ _).2.registry.cache.inFlight path.key = _
  rw [Session.cache_settle]
  rfl

/-- **A load that is given up takes its record along**, and no other. -/
theorem record?_released (hdistinct : Table.Distinct mounts.session.registry.cache.inFlight) :
    (mounts.advance i (mounts.session.dropMount mount) reached).record? path =
      if Holds mounts mount path then none else mounts.record? path :=
  Cache.get?_inFlight_release hdistinct _ _ _

end Steps

/-! ## Records and the mounts they belong to -/

/-- The load belongs to a mount of the path that asks the catalog. -/
def Owned (mounts : Mounts) (path : Path) (flight : Flight) : Prop :=
  ∃ (i : Nat) (mount : Mount) (name : String), mounts.all[i]? = some (.asks mount name) ∧
    mount.path.key = path.key ∧ mount.flight = flight

/-- **How records and mounts belong together**: each is that of a mount that asks the catalog, and no
two such mounts share one. -/
structure Matched (mounts : Mounts) : Prop where
  numbered : Numbered mounts
  owned : ∀ {path : Path} {flight : Flight}, mounts.record? path = some flight →
    Owned mounts path flight
  single : ∀ {i j : Nat} {a b : Mount} {first second : String},
    mounts.all[i]? = some (.asks a first) → mounts.all[j]? = some (.asks b second) →
      a.path.key = b.path.key → a.flight.generation = b.flight.generation → i = j

/-- No loads and no mounts. -/
theorem matched_idle {session : Session} (h : session.registry.cache.inFlight = []) :
    Matched ⟨session, []⟩ where
  numbered := by
    refine ⟨?_, fun h => absurd h nofun, fun h => absurd h nofun⟩
    change Table.Distinct session.registry.cache.inFlight
    rw [h]
    exact Table.distinct_nil
  owned hrecord := by
    change Table.get? session.registry.cache.inFlight _ = _ at hrecord
    rw [h] at hrecord
    exact absurd hrecord.symm (Option.some_ne_none _)
  single hi := absurd hi nofun

/-- **Where a mount that asks the catalog comes from**: it did so before the step, or it began with it,
at a path that no schema was filed for and no load was on record for. -/
theorem Change.asked (h : Change mounts event next) {j : Nat} {mount : Mount} {name : String}
    (hj : next.all[j]? = some (.asks mount name)) :
    mounts.all[j]? = some (.asks mount name) ∨
      (j = mounts.all.length ∧ ∃ descriptor, event = .mount mount.path descriptor ∧
        descriptor.schema = none ∧
        descriptor.blockName? (mounts.session.value? mount.path) = some name ∧
        Session.Lacking mounts.session.registry.cache mount.path ∧
        Table.get? mounts.session.registry.cache.inFlight mount.path.key = none ∧
        mount.flight = mounts.session.registry.cache.nextFlight mount.path.key) := by
  cases h with
  | idle => exact .inl hj
  | begun path descriptor =>
    obtain ⟨step, cache, hbegun, -, hall⟩ := begun_begin mounts path descriptor
    rcases hall.mp hj with hold | ⟨rfl, hlast⟩
    · exact .inl hold
    · cases hbegun with
      | met => exact absurd hlast nofun
      | joined => exact absurd hlast nofun
      | ready => exact absurd hlast nofun
      | asked hlacks hfree hschema hname =>
        obtain ⟨rfl, rfl⟩ := Attempt.asks.inj hlast
        exact .inr ⟨rfl, descriptor, rfl, hschema, hname, hlacks, hfree, rfl⟩
  | answered found => exact .inl (getElem?_advance rfl hj rfl)
  | told => exact .inl (getElem?_advance rfl hj rfl)
  | released => exact .inl (getElem?_advance rfl hj rfl)
  | left => exact .inl (getElem?_advance rfl hj rfl)
  | acted action => exact .inl hj

/-- A load belongs to its mount after another one moved on. -/
theorem owned_advance {i j : Nat} {owner : Mount} {asked : String}
    (howner : mounts.all[j]? = some (.asks owner asked)) (hij : i ≠ j) {path : Path}
    (hkey : owner.path.key = path.key) (session : Session) (reached : Attempt) :
    Owned (mounts.advance i session reached) path owner.flight := by
  refine ⟨j, owner, asked, ?_, hkey, rfl⟩
  rw [advance, List.getElem?_set_ne hij]
  exact howner

/-- When the load of a mount ends, the records that are left belong to others. -/
theorem Matched.owned_of_asking (h : Matched mounts) {i : Nat} {mount : Mount} {name : String}
    (hattempt : mounts.all[i]? = some (.asks mount name)) {path : Path} {flight : Flight}
    (hrecord : (if Holds mounts mount path then none else mounts.record? path) = some flight)
    (session : Session) (reached : Attempt) :
    Owned (mounts.advance i session reached) path flight := by
  split at hrecord
  · exact absurd hrecord.symm (Option.some_ne_none _)
  · rename_i hleft
    obtain ⟨j, owner, asked, howner, hkey, rfl⟩ := h.owned hrecord
    refine owned_advance howner ?_ hkey session reached
    rintro rfl
    obtain ⟨rfl, rfl⟩ := Attempt.asks.inj (Option.some.inj (hattempt.symm.trans howner))
    exact hleft (holds_iff.mpr ⟨hkey, _, hrecord, rfl⟩)

/-- When a mount moves on that only waits, the records belong to others as before. -/
theorem Matched.owned_of_waiting (h : Matched mounts) {i : Nat} {mount : Mount}
    (hattempt : mounts.all[i]? = some (.waits mount)) {path : Path} {flight : Flight}
    (hrecord : mounts.record? path = some flight) (session : Session) (reached : Attempt) :
    Owned (mounts.advance i session reached) path flight := by
  obtain ⟨j, owner, asked, howner, hkey, rfl⟩ := h.owned hrecord
  refine owned_advance howner ?_ hkey session reached
  rintro rfl
  exact absurd (hattempt.symm.trans howner) nofun

/-- **The beginning of a mount** puts at most its own load on record. -/
theorem Matched.owned_begin (h : Matched mounts) (place : Path) (descriptor : Descriptor)
    {path : Path} {flight : Flight} (hrecord : (mounts.begin place descriptor).record? path
      = some flight) : Owned (mounts.begin place descriptor) path flight := by
  obtain ⟨step, cache, hbegun, hcache, hall⟩ := begun_begin mounts place descriptor
  have hold : mounts.record? path = some flight → Owned (mounts.begin place descriptor) path flight := by
    intro hrecord
    obtain ⟨j, owner, asked, howner, hkey, hflight⟩ := h.owned hrecord
    exact ⟨j, owner, asked, hall.mpr (.inl howner), hkey, hflight⟩
  rw [record?, hcache] at hrecord
  cases hbegun with
  | met => exact hold hrecord
  | joined => exact hold hrecord
  | ready =>
    rw [Cache.get?_inFlight_launch_finish h.numbered.distinct] at hrecord
    split at hrecord
    · exact absurd hrecord.symm (Option.some_ne_none _)
    · exact hold hrecord
  | asked =>
    rw [Cache.get?_inFlight_launch] at hrecord
    split at hrecord
    · rename_i hkey
      obtain rfl := Option.some.inj hrecord
      exact ⟨mounts.all.length, _, _, hall.mpr (.inr ⟨rfl, rfl⟩), hkey, rfl⟩
    · exact hold hrecord

/-- **Every step keeps records and mounts together.** -/
theorem Change.matched (h : Change mounts event next) (hmounts : Matched mounts) : Matched next where
  numbered := h.numbered hmounts.numbered
  owned := by
    intro path flight hrecord
    cases h with
    | idle => exact hmounts.owned hrecord
    | begun place descriptor => exact hmounts.owned_begin place descriptor hrecord
    | answered found hattempt =>
      rw [record?_answered _ _ _ _ _ _ hmounts.numbered.distinct] at hrecord
      exact hmounts.owned_of_asking hattempt hrecord _ _
    | told hattempt =>
      rw [record?_told] at hrecord
      exact hmounts.owned_of_waiting hattempt hrecord _ _
    | released hattempt =>
      rw [record?_released _ _ _ _ _ hmounts.numbered.distinct] at hrecord
      exact hmounts.owned_of_asking hattempt hrecord _ _
    | left hattempt => exact hmounts.owned_of_waiting hattempt hrecord _ _
    | acted action => exact hmounts.owned (Session.record_act action hrecord)
  single := by
    intro i j a b first second hi hj hkey hgeneration
    -- A load that begins has a generation that none before it had.
    have hfresh : ∀ {k : Nat} {old : Mount} {name : String} {key : String},
        mounts.all[k]? = some (.asks old name) → old.path.key = key →
          old.flight.generation ≠ (mounts.session.registry.cache.nextFlight key).generation := by
      rintro k old name key hold rfl
      exact Nat.ne_of_lt (Nat.lt_succ_of_le (hmounts.numbered.generation hold))
    rcases h.asked hi with holdi | ⟨rfl, -, -, -, -, -, -, hflighti⟩ <;>
      rcases h.asked hj with holdj | ⟨rfl, -, -, -, -, -, -, hflightj⟩
    · exact hmounts.single holdi holdj hkey hgeneration
    · exact absurd (hgeneration.trans (congrArg Flight.generation hflightj)) (hfresh holdi hkey)
    · exact absurd (hgeneration.symm.trans (congrArg Flight.generation hflighti))
        (hfresh holdj hkey.symm)
    · rfl

/-- **A mount whose load is on record is the one that the record belongs to.** -/
theorem Matched.eq_of_holds (h : Matched mounts) {i j : Nat} {a b : Mount} {first second : String}
    {path : Path} (hi : mounts.all[i]? = some (.asks a first))
    (hj : mounts.all[j]? = some (.asks b second)) (hkey : a.path.key = path.key)
    (hrecord : mounts.record? path = some a.flight) (hholds : Holds mounts b path) : i = j := by
  obtain ⟨hother, flight, hflight, hgeneration⟩ := holds_iff.mp hholds
  obtain rfl := Option.some.inj (hrecord.symm.trans hflight)
  exact h.single hi hj (hkey.trans hother.symm) hgeneration

theorem Matched.run (h : Matched mounts) (events : List Event) : Matched (mounts.run events) := by
  induction events generalizing mounts with
  | nil => exact h
  | cons event events ih => exact ih ((change_step mounts event).matched h)

end Mounts

end SchemaForms
