import SchemaForms.Proofs.Cache.LateLoads

/-!
# Proofs/Cache/Records — the records of the cache and the calls they belong to

Calls for one path share a load.  `Tracked` says how the records of the cache and the calls belong
together: the record of a key is that of the call whose loader runs, unless it was evicted; those
who wait are told what that call comes to; and a schema stays filed until it is evicted.  Each of
these is kept by every step, and `Tracked.run` carries them over every run.
-/

namespace SchemaForms.Callers

open Cache (Caller Stage)

variable {callers next : Callers} {event : Event}

/-- The call with this index runs a load. -/
structure Runs (callers : Callers) (i : Nat) (caller : Caller) (flight : Flight) : Prop where
  here : callers.all[i]? = some caller
  plan : caller.plan = .load flight

/-- The record of a key belongs to a call whose loader runs and was not evicted. -/
def Owned (callers : Callers) (key : String) (flight : Flight) : Prop :=
  ∃ (i : Nat) (caller : Caller), callers.Runs i caller flight ∧ caller.stage = .underWay ∧
    caller.path.key = key ∧ (Path.Rooted caller.path → caller.evicted = false)

/-- A call that waits for this load waits for a call for the same key, and is answered what that
call came to. -/
def Joined (callers : Callers) (caller : Caller) (flight : Flight) : Prop :=
  ∃ (j : Nat) (owner : Caller), callers.Runs j owner flight ∧ owner.path.key = caller.path.key ∧
    ∀ outcome, caller.stage = .ended (.finished outcome) →
      owner.stage.told?.map (Ending.answer caller.path) = some outcome

/-- **How records and calls belong together.** -/
structure Tracked (callers : Callers) : Prop where
  issued : Issued callers
  /-- What is told of a load is what its call came to. -/
  ticket : ∀ {i : Nat} {caller : Caller} {flight : Flight}, callers.Runs i caller flight →
    callers.cache.loads[flight.ticket]? = some caller.stage.told?
  /-- No two loads have a ticket in common. -/
  tickets : ∀ {i j : Nat} {a b : Caller} {f g : Flight}, callers.Runs i a f → callers.Runs j b g →
    f.ticket = g.ticket → i = j
  /-- No two loads of a key have a generation in common. -/
  generations : ∀ {i j : Nat} {a b : Caller} {f g : Flight}, callers.Runs i a f →
    callers.Runs j b g → a.path.key = b.path.key → f.generation = g.generation → i = j
  /-- Every record is that of a call whose loader runs and was not evicted. -/
  owned : ∀ {key : String} {flight : Flight},
    Table.get? callers.cache.inFlight key = some flight → callers.Owned key flight
  /-- Every such call has its record. -/
  recorded : ∀ {i : Nat} {caller : Caller} {flight : Flight}, callers.Runs i caller flight →
    caller.stage = .underWay → Path.Rooted caller.path → caller.evicted = false →
      Table.get? callers.cache.inFlight caller.path.key = some flight
  joined : ∀ {i : Nat} {caller : Caller} {flight : Flight}, callers.all[i]? = some caller →
    caller.plan = .wait flight → callers.Joined caller flight
  /-- The schema that a load came to is there until it is evicted. -/
  filed : ∀ {i : Nat} {caller : Caller} {flight : Flight} {schema : Value},
    callers.Runs i caller flight →
      caller.stage.ending? = some (.finished (.ok (some schema))) → Path.Rooted caller.path →
        caller.evicted = false → (Table.get? callers.cache.entries caller.path.key).isSome

theorem tracked_start (policy : CachePolicy) : Tracked (start policy) where
  issued := issued_start policy
  ticket h := absurd h.here nofun
  tickets h := absurd h.here nofun
  generations h := absurd h.here nofun
  owned h := absurd h nofun
  recorded h := absurd h.here nofun
  joined h := absurd h nofun
  filed h := absurd h.here nofun

/-! ## One step -/

/-- Two loads of one call are one. -/
theorem Runs.inj {i : Nat} {a b : Caller} {f g : Flight} (ha : callers.Runs i a f)
    (hb : callers.Runs i b g) : a = b ∧ f = g := by
  obtain rfl := Option.some.inj (ha.here.symm.trans hb.here)
  exact ⟨rfl, Cache.Plan.load.inj (ha.plan.symm.trans hb.plan)⟩

/-- The record of a key that is of the generation of a load is the record of that load. -/
theorem Tracked.record_of_isCurrent (h : Tracked callers) {i : Nat} {caller : Caller}
    {flight : Flight} (hruns : callers.Runs i caller flight)
    (hcurrent : callers.cache.isCurrent caller.path.key flight.generation = true) :
    Table.get? callers.cache.inFlight caller.path.key = some flight := by
  obtain ⟨flight', hrecord, hgeneration⟩ := Cache.isCurrent_iff.mp hcurrent
  obtain ⟨j, owner, howner, -, hkey, -⟩ := h.owned hrecord
  obtain rfl := h.generations howner hruns hkey hgeneration
  obtain ⟨-, rfl⟩ := howner.inj hruns
  exact hrecord

/-- The call that an index leads to after the step of another. -/
theorem getElem?_advance_ne {i j : Nat} {caller : Caller} (hcaller : callers.all[i]? = some caller)
    (cache : Cache) (stage : Stage) (hij : i ≠ j) :
    (callers.advance i caller cache stage).all[j]? = callers.all[j]? := by
  rw [getElem?_advance hcaller, if_neg hij]

/-- The call that moved on. -/
theorem getElem?_advance_self {i : Nat} {caller : Caller} (hcaller : callers.all[i]? = some caller)
    (cache : Cache) (stage : Stage) :
    (callers.advance i caller cache stage).all[i]? = some (caller.atStage stage) := by
  rw [getElem?_advance hcaller, if_pos rfl]

/-- What was told is told. -/
theorem Change.told_eq (h : Change callers event next) {i : Nat} {before after : Caller}
    (hbefore : callers.all[i]? = some before) (hafter : next.all[i]? = some after) {ending : Ending}
    (htold : before.stage.told? = some ending) : after.stage.told? = some ending := by
  have hmoved : ∀ {j : Nat} {caller : Caller} {cache : Cache} {stage : Stage},
      callers.all[j]? = some caller → caller.stage.told? = none →
      (callers.advance j caller cache stage).all[i]? = some after →
      after.stage.told? = some ending := by
    intro j caller cache stage hcaller hnone hafter
    by_cases hij : j = i
    · subst hij
      obtain rfl := Option.some.inj (hcaller.symm.trans hbefore)
      exact absurd (hnone.symm.trans htold) nofun
    · rw [getElem?_advance_ne hcaller _ _ hij] at hafter
      obtain rfl := Option.some.inj (hafter.symm.trans hbefore)
      exact htold
  have hsame : next.all[i]? = some before → after.stage.told? = some ending := by
    intro hnext
    obtain rfl := Option.some.inj (hafter.symm.trans hnext)
    exact htold
  cases h with
  | idle => exact hsame hbefore
  | entered path =>
    obtain ⟨hi, -⟩ := List.getElem?_eq_some_iff.mp hbefore
    exact hsame ((List.getElem?_append_left hi).trans hbefore)
  | finished outcome hcaller _ hstage => exact hmoved hcaller (by rw [hstage]; rfl) hafter
  | released hcaller _ hstage => exact hmoved hcaller (by rw [hstage]; rfl) hafter
  | left hcaller _ hstage => exact hmoved hcaller (by rw [hstage]; rfl) hafter
  | told hcaller _ hstage => exact hmoved hcaller (by rw [hstage]; rfl) hafter
  | answered hcaller _ hstage => exact hmoved hcaller (by rw [hstage]; rfl) hafter
  | filed => exact hsame hbefore
  | seeded => exact hsame hbefore
  | evicted =>
    rw [evictWhere, List.getElem?_map, hbefore] at hafter
    obtain rfl := Option.some.inj hafter
    exact htold

/-! ### The calls after a step -/

/-- A call that runs a load after one of the calls moved on. -/
theorem runs_advance {i j : Nat} {caller after : Caller} {flight : Flight} {cache : Cache}
    {stage : Stage} (hcaller : callers.all[i]? = some caller)
    (h : (callers.advance i caller cache stage).Runs j after flight) :
    (i = j ∧ after = caller.atStage stage ∧ callers.Runs i caller flight) ∨
      (i ≠ j ∧ callers.Runs j after flight) := by
  by_cases hij : i = j
  · subst hij
    have hafter := h.here
    rw [getElem?_advance_self hcaller] at hafter
    obtain rfl := Option.some.inj hafter
    exact .inl ⟨rfl, rfl, hcaller, h.plan⟩
  · exact .inr ⟨hij, (getElem?_advance_ne hcaller _ _ hij).symm.trans h.here, h.plan⟩

/-- When a call that waits moves on, the calls that run a load are as before. -/
theorem runs_of_waiting {i j : Nat} {caller after : Caller} {awaited flight : Flight}
    {cache : Cache}
    {stage : Stage} (hcaller : callers.all[i]? = some caller) (hplan : caller.plan = .wait awaited)
    (h : (callers.advance i caller cache stage).Runs j after flight) :
    callers.Runs j after flight := by
  rcases runs_advance hcaller h with ⟨-, -, hself⟩ | ⟨-, hother⟩
  · rw [hself.plan] at hplan
    cases hplan
  · exact hother

/-- Another call runs its load after one of the calls moved on, as before. -/
theorem Runs.advance {i j : Nat} {caller other : Caller} {flight : Flight}
    (h : callers.Runs j other flight)
    (hcaller : callers.all[i]? = some caller) (hij : i ≠ j) (cache : Cache) (stage : Stage) :
    (callers.advance i caller cache stage).Runs j other flight :=
  ⟨(getElem?_advance_ne hcaller _ _ hij).trans h.here, h.plan⟩

/-- What a request leads to, seen from the calls. -/
theorem runs_entered {path : Path} {j : Nat} {after : Caller} {flight : Flight}
    (h : (Callers.mk (callers.cache.request path).2
      (callers.all ++ [.new path (callers.cache.request path).1])).Runs j after flight) :
    callers.Runs j after flight ∨
      (j = callers.all.length ∧ after = ⟨path, .load flight, .underWay, false⟩ ∧
        flight = callers.cache.nextFlight path.key ∧
        (callers.cache.request path).2 = callers.cache.launch path.key) := by
  obtain ⟨hhere, hplan⟩ := h
  rcases Nat.lt_trichotomy j callers.all.length with hj | hj | hj
  · rw [List.getElem?_append_left hj] at hhere
    exact .inl ⟨hhere, hplan⟩
  · subst hj
    rw [List.getElem?_concat_length] at hhere
    obtain rfl := Option.some.inj hhere
    obtain ⟨hflight, hlaunch⟩ := plan_new hplan
    refine .inr ⟨rfl, ?_, hflight, hlaunch⟩
    rcases Cache.request_cases callers.cache path with ⟨_, -, -, hr⟩ | ⟨-, _, -, hr⟩ | ⟨-, -, hr⟩ <;>
      rw [hr] at hplan ⊢ <;> simp only [Caller.new, Cache.Plan.load.injEq, reduceCtorEq] at hplan
    simp [Caller.new, hplan]
  · rw [List.getElem?_eq_none (by simp; omega)] at hhere
    cases hhere

/-- A call is there after another one began. -/
theorem Runs.entered {j : Nat} {other : Caller} {flight : Flight} (h : callers.Runs j other flight)
    (cache : Cache) (caller : Caller) :
    (Callers.mk cache (callers.all ++ [caller])).Runs j other flight := by
  obtain ⟨hj, -⟩ := List.getElem?_eq_some_iff.mp h.here
  exact ⟨(List.getElem?_append_left hj).trans h.here, h.plan⟩

/-- A call that runs a load after an eviction ran it before. -/
theorem runs_evictWhere {doomed : Path → Bool} {j : Nat} {after : Caller} {flight : Flight}
    (h : (callers.evictWhere doomed).Runs j after flight) :
    ∃ before, callers.Runs j before flight ∧ after = before.afterEviction doomed := by
  obtain ⟨hhere, hplan⟩ := h
  rw [evictWhere, List.getElem?_map] at hhere
  obtain ⟨before, hbefore, rfl⟩ := Option.map_eq_some_iff.mp hhere
  exact ⟨before, ⟨hbefore, hplan⟩, rfl⟩

theorem Runs.evictWhere {j : Nat} {other : Caller} {flight : Flight}
    (h : callers.Runs j other flight)
    (doomed : Path → Bool) :
    (callers.evictWhere doomed).Runs j (other.afterEviction doomed) flight :=
  ⟨by rw [Callers.evictWhere, List.getElem?_map, h.here]; rfl, h.plan⟩

/-! ### The ledger of the loads -/

@[simp] theorem loads_commit (cache : Cache) (path : Path) (generation : Nat)
    (outcome : LoadOutcome) :
    (cache.commit path generation outcome).loads = cache.loads := by
  unfold Cache.commit
  split <;> rfl

@[simp] theorem loads_release (cache : Cache) (path : Path) (generation : Nat) :
    (cache.release path generation).loads = cache.loads := by
  unfold Cache.release
  split <;> rfl

@[simp] theorem loads_seed (cache : Cache) (path : Path) (schema : Value) :
    (cache.seed path schema).loads = cache.loads := by
  unfold Cache.seed
  split <;> rfl

/-- A ticket that was given out stands for the same load after a request. -/
theorem loads_request {cache : Cache} (path : Path) {ticket : Nat} {ending : Option Ending}
    (h : cache.loads[ticket]? = some ending) :
    (cache.request path).2.loads[ticket]? = some ending := by
  obtain ⟨hticket, -⟩ := List.getElem?_eq_some_iff.mp h
  rcases Cache.request_cases cache path with ⟨_, -, -, hr⟩ | ⟨-, _, -, hr⟩ | ⟨-, -, hr⟩ <;> rw [hr]
  · exact h
  · exact h
  · exact (List.getElem?_append_left hticket).trans h

/-- A call that moves on and has nothing to tell yet leaves the ledger right. -/
theorem Tracked.ticket_advance (h : Tracked callers) {i j : Nat} {caller after : Caller}
    {flight : Flight} {cache : Cache} {stage : Stage} (hcaller : callers.all[i]? = some caller)
    (hloads : cache.loads = callers.cache.loads) (hstage : stage.told? = caller.stage.told?)
    (hruns : (callers.advance i caller cache stage).Runs j after flight) :
    (callers.advance i caller cache stage).cache.loads[flight.ticket]? = some after.stage.told? := by
  change cache.loads[flight.ticket]? = _
  rw [hloads]
  rcases runs_advance hcaller hruns with ⟨rfl, rfl, hself⟩ | ⟨-, hother⟩
  · exact (h.ticket hself).trans (congrArg some hstage.symm)
  · exact h.ticket hother

/-- **After a step, what is told of a load is what its call came to.** -/
theorem Change.ticket (hchange : Change callers event next) (h : Tracked callers) {j : Nat}
    {after : Caller} {flight : Flight} (hruns : next.Runs j after flight) :
    next.cache.loads[flight.ticket]? = some after.stage.told? := by
  cases hchange with
  | idle => exact h.ticket hruns
  | entered path =>
    rcases runs_entered hruns with hold | ⟨-, rfl, rfl, hlaunch⟩
    · exact loads_request path (h.ticket hold)
    · change (callers.cache.request path).2.loads[_]? = _
      rw [hlaunch]
      exact List.getElem?_concat_length
  | finished outcome hcaller _ hstage =>
    exact h.ticket_advance hcaller (loads_commit _ _ _ _) (by rw [hstage]; rfl) hruns
  | released hcaller _ hstage =>
    exact h.ticket_advance hcaller (loads_release _ _ _) (by rw [hstage]; rfl) hruns
  | left hcaller hplan => exact h.ticket (runs_of_waiting hcaller hplan hruns)
  | told hcaller hplan hstage =>
    rename_i i caller told ending
    have hself : callers.Runs i caller told := ⟨hcaller, hplan⟩
    change (callers.cache.loads.set told.ticket (some ending))[flight.ticket]? = _
    rcases runs_advance hcaller hruns with ⟨rfl, rfl, hsame⟩ | ⟨hij, hother⟩
    · obtain ⟨-, rfl⟩ := hself.inj hsame
      obtain ⟨hticket, -⟩ := List.getElem?_eq_some_iff.mp (h.ticket hself)
      rw [List.getElem?_set, if_pos rfl, if_pos hticket]
      rfl
    · have hne : told.ticket ≠ flight.ticket := fun heq => hij (h.tickets hself hother heq)
      rw [List.getElem?_set_ne hne]
      exact h.ticket hother
  | answered hcaller hplan => exact h.ticket (runs_of_waiting hcaller hplan hruns)
  | filed => exact h.ticket ⟨hruns.here, hruns.plan⟩
  | seeded path schema =>
    have hticket := h.ticket ⟨hruns.here, hruns.plan⟩
    exact (congrArg (·[flight.ticket]?) (loads_seed _ _ _)).trans hticket
  | evicted =>
    obtain ⟨before, hbefore, rfl⟩ := runs_evictWhere hruns
    have hticket := h.ticket hbefore
    exact hticket

/-- **The loads of a step are those before it and perhaps a new one**, which has the next ticket and
the next generation. -/
theorem Change.runs_origin (hchange : Change callers event next) {j : Nat} {after : Caller}
    {flight : Flight} (hruns : next.Runs j after flight) :
    (∃ before, callers.Runs j before flight ∧ before.path = after.path) ∨
      (j = callers.all.length ∧ flight = callers.cache.nextFlight after.path.key) := by
  rcases hchange.origin hruns.here with ⟨before, hbefore, hsucc⟩ | ⟨path, rfl, rfl, rfl⟩
  · exact .inl ⟨before, ⟨hbefore, hsucc.plan ▸ hruns.plan⟩, hsucc.path.symm⟩
  · refine .inr ⟨rfl, ?_⟩
    rw [path_new]
    exact (plan_new hruns.plan).1

/-- A new load has a ticket that no other load has. -/
theorem Tracked.ticket_ne (h : Tracked callers) {i : Nat} {caller : Caller} {flight : Flight}
    (hruns : callers.Runs i caller flight) (key : String) :
    flight.ticket ≠ (callers.cache.nextFlight key).ticket := by
  obtain ⟨hticket, -⟩ := List.getElem?_eq_some_iff.mp (h.ticket hruns)
  exact Nat.ne_of_lt hticket

/-- A new load has a generation that no other load of its key has. -/
theorem Tracked.generation_ne (h : Tracked callers) {i : Nat} {caller : Caller} {flight : Flight}
    (hruns : callers.Runs i caller flight) :
    flight.generation ≠ (callers.cache.nextFlight caller.path.key).generation :=
  Nat.ne_of_lt (Nat.lt_succ_of_le (h.issued.given hruns.here hruns.plan))

/-- **After a step, no two loads have a ticket in common.** -/
theorem Change.tickets (hchange : Change callers event next) (h : Tracked callers) {i j : Nat}
    {a b : Caller} {f g : Flight} (ha : next.Runs i a f) (hb : next.Runs j b g)
    (heq : f.ticket = g.ticket) : i = j := by
  rcases hchange.runs_origin ha with ⟨a', ha', -⟩ | ⟨rfl, rfl⟩ <;>
    rcases hchange.runs_origin hb with ⟨b', hb', -⟩ | ⟨rfl, rfl⟩
  · exact h.tickets ha' hb' heq
  · exact absurd heq (h.ticket_ne ha' _)
  · exact absurd heq.symm (h.ticket_ne hb' _)
  · rfl

/-- **After a step, no two loads of a key have a generation in common.** -/
theorem Change.generations (hchange : Change callers event next) (h : Tracked callers) {i j : Nat}
    {a b : Caller} {f g : Flight} (ha : next.Runs i a f) (hb : next.Runs j b g)
    (hkey : a.path.key = b.path.key) (heq : f.generation = g.generation) : i = j := by
  rcases hchange.runs_origin ha with ⟨a', ha', hpa⟩ | ⟨rfl, rfl⟩ <;>
    rcases hchange.runs_origin hb with ⟨b', hb', hpb⟩ | ⟨rfl, rfl⟩
  · exact h.generations ha' hb' (by rw [hpa, hpb, hkey]) heq
  · rw [← hkey, ← hpa] at heq
    exact absurd heq (h.generation_ne ha')
  · rw [hkey, ← hpb] at heq
    exact absurd heq.symm (h.generation_ne hb')
  · rfl

/-! ### Records and the calls they belong to -/

/-- A load that ends does to the records what a load does that is given up. -/
theorem inFlight_commit (cache : Cache) (path : Path) (generation : Nat) (outcome : LoadOutcome) :
    (cache.commit path generation outcome).inFlight = (cache.release path generation).inFlight := by
  unfold Cache.commit Cache.release
  split <;> rfl

/-- **When a load ends, its record goes**: the records that are left are those of other calls. -/
theorem Tracked.record_of_release (h : Tracked callers) {i : Nat} {caller : Caller}
    {flight : Flight} (hruns : callers.Runs i caller flight) {key : String} {record : Flight}
    (hrecord : Table.get? (callers.cache.release caller.path flight.generation).inFlight key
      = some record) :
    Table.get? callers.cache.inFlight key = some record ∧
      ∀ {j : Nat} {owner : Caller}, callers.Runs j owner record → owner.path.key = key → i ≠ j := by
  unfold Cache.release at hrecord
  split at hrecord
  · rw [Table.get?_erase h.issued.distinct] at hrecord
    split at hrecord
    · exact absurd hrecord nofun
    · rename_i hkey
      refine ⟨hrecord, ?_⟩
      rintro j owner howner hown rfl
      obtain ⟨rfl, -⟩ := hruns.inj howner
      exact hkey hown.symm
  · rename_i hcurrent
    refine ⟨hrecord, ?_⟩
    rintro j owner howner rfl rfl
    obtain ⟨rfl, rfl⟩ := hruns.inj howner
    exact hcurrent (Cache.isCurrent_iff.mpr ⟨flight, hrecord, rfl⟩)

/-- **When a load ends, no other record goes.** -/
theorem Tracked.release_of_record (h : Tracked callers) {i j : Nat} {caller other : Caller}
    {flight record : Flight} (hruns : callers.Runs i caller flight)
    (hother : callers.Runs j other record) (hij : i ≠ j)
    (hrecord : Table.get? callers.cache.inFlight other.path.key = some record) :
    Table.get? (callers.cache.release caller.path flight.generation).inFlight other.path.key
      = some record := by
  unfold Cache.release
  split
  · rename_i hcurrent
    have hkey : other.path.key ≠ caller.path.key := by
      intro hkey
      rw [hkey, h.record_of_isCurrent hruns hcurrent] at hrecord
      exact hij (h.tickets hruns hother (congrArg Flight.ticket (Option.some.inj hrecord)))
    exact (Table.get?_erase_of_ne _ hkey).trans hrecord
  · exact hrecord

/-- When the load of a call ends, the records that are left belong to calls as before. -/
theorem Tracked.owned_advance (h : Tracked callers) {i : Nat} {caller : Caller} {flight : Flight}
    (hruns : callers.Runs i caller flight) {cache : Cache} {stage : Stage} {key : String}
    {record : Flight}
    (hinFlight : cache.inFlight = (callers.cache.release caller.path flight.generation).inFlight)
    (hrecord : Table.get? cache.inFlight key = some record) :
    (callers.advance i caller cache stage).Owned key record := by
  rw [hinFlight] at hrecord
  obtain ⟨hbefore, hne⟩ := h.record_of_release hruns hrecord
  obtain ⟨j, owner, howner, hstage, hkey, hevicted⟩ := h.owned hbefore
  exact ⟨j, owner, howner.advance hruns.here (hne howner hkey) _ _, hstage, hkey, hevicted⟩

/-- When a call moves on whose loader does not run, the records belong to calls as before. -/
theorem Owned.advance {i : Nat} {caller : Caller} {cache : Cache} {stage : Stage} {key : String}
    {record : Flight} (h : callers.Owned key record) (hcaller : callers.all[i]? = some caller)
    (hother : ∀ flight, caller.plan = .load flight → caller.stage ≠ .underWay) :
    (callers.advance i caller cache stage).Owned key record := by
  obtain ⟨j, owner, howner, hstage, hkey, hevicted⟩ := h
  have hij : i ≠ j := by
    rintro rfl
    obtain rfl := Option.some.inj (hcaller.symm.trans howner.here)
    exact hother _ howner.plan hstage
  exact ⟨j, owner, howner.advance hcaller hij _ _, hstage, hkey, hevicted⟩

/-- What is done to the cache alone leaves the calls as they are. -/
theorem Owned.withCache {key : String} {record : Flight} (h : callers.Owned key record)
    (cache : Cache) : (callers.withCache cache).Owned key record := by
  obtain ⟨j, owner, howner, hrest⟩ := h
  exact ⟨j, owner, ⟨howner.here, howner.plan⟩, hrest⟩

/-- After a request, the record of a key belongs to a call as before, or to the new one. -/
theorem Tracked.owned_entered (h : Tracked callers) (path : Path) {key : String} {record : Flight}
    (hrecord : Table.get? (callers.cache.request path).2.inFlight key = some record) :
    (callers.enter path).Owned key record := by
  have hbefore : Table.get? callers.cache.inFlight key = some record →
      (Callers.mk (callers.cache.request path).2
        (callers.all ++ [.new path (callers.cache.request path).1])).Owned key record := by
    intro hbefore
    obtain ⟨j, owner, howner, hstage, hkey, hevicted⟩ := h.owned hbefore
    exact ⟨j, owner, howner.entered _ _, hstage, hkey, hevicted⟩
  unfold enter
  rcases Cache.request_cases callers.cache path with ⟨_, -, -, hr⟩ | ⟨-, _, -, hr⟩ | ⟨-, -, hr⟩ <;>
    rw [hr] at hrecord hbefore ⊢
  · exact hbefore hrecord
  · exact hbefore hrecord
  · change Table.get? (Table.insert _ _ _) key = _ at hrecord
    rw [Table.get?_insert] at hrecord
    split at hrecord
    · rename_i hkey
      obtain rfl := Option.some.inj hrecord
      exact ⟨callers.all.length, ⟨path, .load _, .underWay, false⟩,
        ⟨List.getElem?_concat_length, rfl⟩, rfl, hkey, fun _ => rfl⟩
    · exact hbefore hrecord

/-- After an eviction, the records that are left belong to calls that it spared. -/
theorem Tracked.owned_evictWhere (h : Tracked callers) {doomed : Path → Bool} {key : String}
    {record : Flight}
    (hrecord : Table.get? (callers.evictWhere doomed).cache.inFlight key = some record) :
    (callers.evictWhere doomed).Owned key record := by
  change Table.get? (Table.dropKeys callers.cache.inFlight fun key => doomed (Path.parse key)) key
    = _ at hrecord
  rw [Table.get?_dropKeys] at hrecord
  split at hrecord
  · exact absurd hrecord nofun
  · rename_i hspared
    obtain ⟨j, owner, howner, hstage, hkey, hevicted⟩ := h.owned hrecord
    refine ⟨j, _, howner.evictWhere _, hstage, hkey, fun (hroot : Path.Rooted owner.path) => ?_⟩
    rw [← hkey, hroot.parse_key] at hspared
    exact Bool.or_eq_false_iff.mpr ⟨hevicted hroot, Bool.eq_false_iff.mpr hspared⟩

/-- **After a step, every record belongs to a call whose loader runs and was not evicted.** -/
theorem Change.owned (hchange : Change callers event next) (h : Tracked callers) {key : String}
    {record : Flight} (hrecord : Table.get? next.cache.inFlight key = some record) :
    next.Owned key record := by
  cases hchange with
  | idle => exact h.owned hrecord
  | entered path => exact h.owned_entered path hrecord
  | finished outcome hcaller hplan =>
    exact h.owned_advance ⟨hcaller, hplan⟩ (inFlight_commit _ _ _ _) hrecord
  | released hcaller hplan => exact h.owned_advance ⟨hcaller, hplan⟩ rfl hrecord
  | left hcaller hplan =>
    exact Owned.advance (h.owned hrecord) hcaller
      fun _ hload => absurd (hplan.symm.trans hload) nofun
  | told hcaller _ hstage =>
    exact Owned.advance (h.owned hrecord) hcaller
      fun _ _ hunder => absurd (hstage.symm.trans hunder) nofun
  | answered hcaller hplan =>
    exact Owned.advance (h.owned hrecord) hcaller
      fun _ hload => absurd (hplan.symm.trans hload) nofun
  | filed => exact (h.owned hrecord).withCache _
  | seeded path schema =>
    change Table.get? (callers.cache.seed path schema).inFlight key = _ at hrecord
    rw [Cache.inFlight_seed] at hrecord
    exact (h.owned hrecord).withCache _
  | evicted => exact h.owned_evictWhere hrecord

/-- A request leaves the records that there are. -/
theorem get?_inFlight_request {cache : Cache} {key : String} {flight : Flight} (path : Path)
    (hrecord : Table.get? cache.inFlight key = some flight) :
    Table.get? (cache.request path).2.inFlight key = some flight := by
  rcases Cache.request_cases cache path with
    ⟨_, -, -, hr⟩ | ⟨-, _, -, hr⟩ | ⟨-, hnone, hr⟩ <;> rw [hr]
  · exact hrecord
  · exact hrecord
  · have hkey : path.key ≠ key := by
      rintro rfl
      exact absurd (hnone.symm.trans hrecord) nofun
    exact (Table.get?_insert _ _ _ _).trans ((if_neg hkey).trans hrecord)

/-- What is filed for a path that an eviction spares is filed for it afterwards. -/
theorem get?_dropKeys_of_spared {α : Type} {table : List (String × α)} {doomed : Path → Bool}
    {path : Path} (hroot : Path.Rooted path) (hspared : doomed path = false) :
    Table.get? (Table.dropKeys table fun key => doomed (Path.parse key)) path.key
      = Table.get? table path.key := by
  rw [Table.get?_dropKeys, hroot.parse_key, if_neg (Bool.eq_false_iff.mp hspared)]

/-- When the load of a call ends, the other calls keep their records. -/
theorem Tracked.recorded_advance (h : Tracked callers) {i j : Nat} {caller after : Caller}
    {flight record : Flight} (hruns : callers.Runs i caller flight) {cache : Cache} {stage : Stage}
    (hinFlight : cache.inFlight = (callers.cache.release caller.path flight.generation).inFlight)
    (hafter : (callers.advance i caller cache stage).Runs j after record)
    (hover : stage ≠ .underWay)
    (hstage : after.stage = .underWay) (hroot : Path.Rooted after.path)
    (hevicted : after.evicted = false) :
    Table.get? (callers.advance i caller cache stage).cache.inFlight after.path.key =
      some record := by
  change Table.get? cache.inFlight after.path.key = some record
  rcases runs_advance hruns.here hafter with ⟨-, rfl, -⟩ | ⟨hij, hother⟩
  · exact absurd hstage hover
  · rw [hinFlight]
    exact h.release_of_record hruns hother hij (h.recorded hother hstage hroot hevicted)

/-- When a call moves on that does not run a loader any more, the others keep their records. -/
theorem Tracked.recorded_of_over (h : Tracked callers) {i j : Nat} {caller after : Caller}
    {record : Flight} {cache : Cache} {stage : Stage} (hcaller : callers.all[i]? = some caller)
    (hafter : (callers.advance i caller cache stage).Runs j after record)
    (hover : stage ≠ .underWay)
    (hstage : after.stage = .underWay) (hroot : Path.Rooted after.path)
    (hevicted : after.evicted = false) :
    Table.get? callers.cache.inFlight after.path.key = some record := by
  rcases runs_advance hcaller hafter with ⟨-, rfl, -⟩ | ⟨-, hother⟩
  · exact absurd hstage hover
  · exact h.recorded hother hstage hroot hevicted

/-- **After a step, every call whose loader runs and was not evicted has its record.** -/
theorem Change.recorded (hchange : Change callers event next) (h : Tracked callers) {j : Nat}
    {after : Caller} {record : Flight} (hafter : next.Runs j after record)
    (hstage : after.stage = .underWay) (hroot : Path.Rooted after.path)
    (hevicted : after.evicted = false) :
    Table.get? next.cache.inFlight after.path.key = some record := by
  cases hchange with
  | idle => exact h.recorded hafter hstage hroot hevicted
  | entered path =>
    change Table.get? (callers.cache.request path).2.inFlight after.path.key = some record
    rcases runs_entered hafter with hold | ⟨-, rfl, rfl, hlaunch⟩
    · exact get?_inFlight_request path (h.recorded hold hstage hroot hevicted)
    · rw [hlaunch]
      exact (Table.get?_insert _ _ _ _).trans (if_pos rfl)
  | finished outcome hcaller hplan =>
    exact h.recorded_advance ⟨hcaller, hplan⟩ (inFlight_commit _ _ _ _) hafter nofun hstage hroot
      hevicted
  | released hcaller hplan =>
    exact h.recorded_advance ⟨hcaller, hplan⟩ rfl hafter nofun hstage hroot hevicted
  | left hcaller => exact h.recorded_of_over hcaller hafter nofun hstage hroot hevicted
  | told hcaller => exact h.recorded_of_over hcaller hafter nofun hstage hroot hevicted
  | answered hcaller => exact h.recorded_of_over hcaller hafter nofun hstage hroot hevicted
  | filed => exact h.recorded ⟨hafter.here, hafter.plan⟩ hstage hroot hevicted
  | seeded path schema =>
    change Table.get? (callers.cache.seed path schema).inFlight _ = _
    rw [Cache.inFlight_seed]
    exact h.recorded ⟨hafter.here, hafter.plan⟩ hstage hroot hevicted
  | evicted =>
    obtain ⟨before, hbefore, rfl⟩ := runs_evictWhere hafter
    obtain ⟨hbeforeEvicted, hspared⟩ := Bool.or_eq_false_iff.mp hevicted
    have hrecord := h.recorded hbefore hstage hroot hbeforeEvicted
    exact (get?_dropKeys_of_spared hroot hspared).trans hrecord

/-! ### Who waits -/

/-- A call that moves on while another is looked at leaves that one as it is. -/
theorem advance_cases {i j : Nat} {caller before after : Caller} {cache : Cache} {stage : Stage}
    (hcaller : callers.all[i]? = some caller) (hbefore : callers.all[j]? = some before)
    (hafter : (callers.advance i caller cache stage).all[j]? = some after) :
    after = before ∨ (caller = before ∧ after = caller.atStage stage) := by
  by_cases hij : i = j
  · subst hij
    rw [getElem?_advance_self hcaller] at hafter
    exact .inr ⟨Option.some.inj (hcaller.symm.trans hbefore), (Option.some.inj hafter).symm⟩
  · rw [getElem?_advance_ne hcaller _ _ hij, hbefore] at hafter
    exact .inl (Option.some.inj hafter).symm

/-- **How a call that waits gets its answer**: it has it, or it is told. -/
theorem Change.answer_cases (hchange : Change callers event next) {i : Nat} {before after : Caller}
    {flight : Flight} {outcome : LoadOutcome} (hbefore : callers.all[i]? = some before)
    (hafter : next.all[i]? = some after) (hplan : before.plan = .wait flight)
    (hover : after.stage = .ended (.finished outcome)) :
    before.stage = .ended (.finished outcome) ∨
      callers.cache.outcome? before.path flight.ticket = some outcome := by
  have hsame : next.all[i]? = some before → before.stage = .ended (.finished outcome) := by
    intro hnext
    obtain rfl := Option.some.inj (hafter.symm.trans hnext)
    exact hover
  -- A call that runs a load is not the one that waits.
  have hloader : ∀ {j : Nat} {caller : Caller} {f : Flight} {cache : Cache} {stage : Stage},
      callers.all[j]? = some caller → caller.plan = .load f →
        (callers.advance j caller cache stage).all[i]? = some after →
          before.stage = .ended (.finished outcome) := by
    intro j caller f cache stage hcaller hload hafter
    rcases advance_cases hcaller hbefore hafter with rfl | ⟨rfl, -⟩
    · exact hover
    · rw [hload] at hplan
      cases hplan
  cases hchange with
  | idle => exact .inl (hsame hbefore)
  | entered path =>
    obtain ⟨hi, -⟩ := List.getElem?_eq_some_iff.mp hbefore
    exact .inl (hsame ((List.getElem?_append_left hi).trans hbefore))
  | finished _ hcaller hload => exact .inl (hloader hcaller hload hafter)
  | released hcaller hload => exact .inl (hloader hcaller hload hafter)
  | left hcaller =>
    rcases advance_cases hcaller hbefore hafter with rfl | ⟨-, rfl⟩
    · exact .inl hover
    · exact absurd hover nofun
  | told hcaller hload => exact .inl (hloader hcaller hload hafter)
  | answered hcaller hwait _ houtcome =>
    rcases advance_cases hcaller hbefore hafter with rfl | ⟨rfl, rfl⟩
    · exact .inl hover
    · obtain rfl := Cache.Plan.wait.inj (hwait.symm.trans hplan)
      obtain rfl := Ending.finished.inj (Stage.ended.inj hover)
      exact .inr houtcome
  | filed => exact .inl (hsame hbefore)
  | seeded => exact .inl (hsame hbefore)
  | evicted =>
    rw [evictWhere, List.getElem?_map, hbefore] at hafter
    obtain rfl := Option.some.inj hafter
    exact .inl hover

/-- What someone who waits for a load is told, is what its call came to. -/
theorem Tracked.outcome?_eq (h : Tracked callers) {i : Nat} {owner : Caller} {flight : Flight}
    (howner : callers.Runs i owner flight) (path : Path) :
    callers.cache.outcome? path flight.ticket = owner.stage.told?.map (Ending.answer path) := by
  unfold Cache.outcome?
  rw [h.ticket howner]
  rfl

/-- **After a step, who waits, waits for a load of the same key, and is answered what its call came
to.** -/
theorem Change.joined (hchange : Change callers event next) (h : Tracked callers) {i : Nat}
    {after : Caller} {flight : Flight} (hafter : next.all[i]? = some after)
    (hplan : after.plan = .wait flight) : next.Joined after flight := by
  rcases hchange.origin hafter with ⟨before, hbefore, hsucc⟩ | ⟨path, rfl, rfl, rfl⟩
  · have hwait : before.plan = .wait flight := hsucc.plan ▸ hplan
    obtain ⟨j, owner, howner, hkey, hanswer⟩ := h.joined hbefore hwait
    obtain ⟨owner', howner', hsucc'⟩ := hchange.kept howner.here
    refine ⟨j, owner', ⟨howner', hsucc'.plan.trans howner.plan⟩, ?_, ?_⟩
    · rw [hsucc'.path, hsucc.path, hkey]
    · intro outcome hover
      have htold : owner.stage.told?.map (Ending.answer before.path) = some outcome := by
        rcases hchange.answer_cases hbefore hafter hwait hover with hbefore | houtcome
        · exact hanswer outcome hbefore
        · rw [← h.outcome?_eq howner]
          exact houtcome
      obtain ⟨ending, hending, rfl⟩ := Option.map_eq_some_iff.mp htold
      rw [hchange.told_eq howner.here howner' hending, hsucc.path]
      rfl
  · have hwait : ∃ flight', (callers.cache.request path).1 = .wait flight' ∧
        Table.get? callers.cache.inFlight path.key = some flight' := by
      rcases Cache.request_cases callers.cache path with
        ⟨_, -, -, hr⟩ | ⟨-, flight', hrecord, hr⟩ | ⟨-, -, hr⟩ <;> rw [hr] at hplan ⊢
      · exact absurd hplan nofun
      · exact ⟨flight', rfl, hrecord⟩
      · exact absurd hplan nofun
    obtain ⟨flight', hr, hrecord⟩ := hwait
    rw [hr] at hplan ⊢
    obtain rfl := Cache.Plan.wait.inj hplan
    obtain ⟨j, owner, howner, -, hkey, -⟩ := h.owned hrecord
    obtain ⟨owner', howner', hsucc'⟩ := hchange.kept howner.here
    refine ⟨j, owner', ⟨howner', hsucc'.plan.trans howner.plan⟩, ?_, fun _ hover => ?_⟩
    · rw [hsucc'.path, hkey]
      rfl
    · exact absurd hover nofun

/-! ### What was filed -/

/-- Requests file nothing. -/
theorem entries_request (cache : Cache) (path : Path) :
    (cache.request path).2.entries = cache.entries := by
  rcases Cache.request_cases cache path with ⟨_, -, -, hr⟩ | ⟨-, _, -, hr⟩ | ⟨-, -, hr⟩ <;> rw [hr]
  rfl

/-- A schema that is there is there after another was filed. -/
theorem isSome_get?_insert {α : Type} {table : List (String × α)} {key other : String} {value : α}
    (h : (Table.get? table other).isSome) :
    (Table.get? (Table.insert table key value) other).isSome := by
  rw [Table.get?_insert]
  split
  · rfl
  · exact h

theorem isSome_entries_commit {cache : Cache} {path : Path} {generation : Nat}
    {outcome : LoadOutcome} {key : String} (h : (Table.get? cache.entries key).isSome) :
    (Table.get? (cache.commit path generation outcome).entries key).isSome := by
  unfold Cache.commit
  split
  · cases outcome with
    | error fault => exact h
    | ok answer =>
      cases answer with
      | none => exact h
      | some schema => exact isSome_get?_insert h
  · exact h

theorem entries_release (cache : Cache) (path : Path) (generation : Nat) :
    (cache.release path generation).entries = cache.entries := by
  unfold Cache.release
  split <;> rfl

theorem isSome_entries_seed {cache : Cache} {path : Path} {schema : Value} {key : String}
    (h : (Table.get? cache.entries key).isSome) :
    (Table.get? (cache.seed path schema).entries key).isSome := by
  unfold Cache.seed
  split
  · exact h
  · exact isSome_get?_insert h

/-- A load that is on record when it comes to a schema files it. -/
theorem entries_commit_of_record {cache : Cache} {path : Path} {flight : Flight} {schema : Value}
    (hrecord : Table.get? cache.inFlight path.key = some flight) :
    (Table.get? (cache.commit path flight.generation (.ok (some schema))).entries
      path.key).isSome := by
  unfold Cache.commit
  rw [if_pos (Cache.isCurrent_iff.mpr ⟨flight, hrecord, rfl⟩)]
  change (Table.get? (Table.insert _ _ _) _).isSome
  rw [Table.get?_insert, if_pos rfl]
  rfl

/-- **After a step, the schema that a load came to is there until it is evicted.** -/
theorem Change.stays_filed (hchange : Change callers event next) (h : Tracked callers) {j : Nat}
    {after : Caller} {flight : Flight} {schema : Value} (hafter : next.Runs j after flight)
    (hending : after.stage.ending? = some (.finished (.ok (some schema))))
    (hroot : Path.Rooted after.path) (hevicted : after.evicted = false) :
    (Table.get? next.cache.entries after.path.key).isSome := by
  cases hchange with
  | idle => exact h.filed hafter hending hroot hevicted
  | entered path =>
    change (Table.get? (callers.cache.request path).2.entries _).isSome
    rw [entries_request]
    rcases runs_entered hafter with hold | ⟨-, rfl, -⟩
    · exact h.filed hold hending hroot hevicted
    · exact absurd hending nofun
  | finished outcome hcaller hplan hstage =>
    rcases runs_advance hcaller hafter with ⟨rfl, rfl, hself⟩ | ⟨-, hother⟩
    · obtain rfl := Ending.finished.inj (Option.some.inj hending)
      exact entries_commit_of_record (h.recorded ⟨hcaller, hplan⟩ hstage hroot hevicted)
    · exact isSome_entries_commit (h.filed hother hending hroot hevicted)
  | released hcaller =>
    change (Table.get? (callers.cache.release _ _).entries _).isSome
    rw [entries_release]
    rcases runs_advance hcaller hafter with ⟨-, rfl, -⟩ | ⟨-, hother⟩
    · exact absurd (Option.some.inj hending) nofun
    · exact h.filed hother hending hroot hevicted
  | left hcaller hplan =>
    exact h.filed (runs_of_waiting hcaller hplan hafter) hending hroot hevicted
  | told hcaller _ hstage =>
    rename_i caller _ _ _
    rcases runs_advance hcaller hafter with ⟨-, rfl, hself⟩ | ⟨-, hother⟩
    · have hnoted : caller.stage.ending? = some (.finished (.ok (some schema))) := by
        rw [hstage]
        exact hending
      have hentry := h.filed hself hnoted hroot hevicted
      exact hentry
    · exact h.filed hother hending hroot hevicted
  | answered hcaller hplan =>
    exact h.filed (runs_of_waiting hcaller hplan hafter) hending hroot hevicted
  | filed => exact isSome_get?_insert (h.filed ⟨hafter.here, hafter.plan⟩ hending hroot hevicted)
  | seeded =>
    exact isSome_entries_seed (h.filed ⟨hafter.here, hafter.plan⟩ hending hroot hevicted)
  | evicted =>
    obtain ⟨before, hbefore, rfl⟩ := runs_evictWhere hafter
    obtain ⟨hbeforeEvicted, hspared⟩ := Bool.or_eq_false_iff.mp hevicted
    have hentry := h.filed hbefore hending hroot hbeforeEvicted
    exact (congrArg Option.isSome (get?_dropKeys_of_spared hroot hspared)).trans hentry

/-! ## Every run -/

/-- **Every step preserves how records and calls belong together.** -/
theorem Change.tracked (hchange : Change callers event next) (h : Tracked callers) :
    Tracked next where
  issued := hchange.issued h.issued
  ticket := hchange.ticket h
  tickets := hchange.tickets h
  generations := hchange.generations h
  owned := hchange.owned h
  recorded := hchange.recorded h
  joined := hchange.joined h
  filed := hchange.stays_filed h

/-- Every run preserves it, too. -/
theorem Tracked.run (h : Tracked callers) (events : List Event) : Tracked (callers.run events) := by
  induction events generalizing callers with
  | nil => exact h
  | cons event events ih => exact ih ((change_step callers event).tracked h)

/-- A cache keeps its policy. -/
theorem Change.policy_eq (hchange : Change callers event next) :
    next.cache.policy = callers.cache.policy := by
  cases hchange with
  | idle => rfl
  | entered path =>
    rcases Cache.request_cases callers.cache path with ⟨_, -, -, hr⟩ | ⟨-, _, -, hr⟩ | ⟨-, -, hr⟩ <;>
      rw [hr]
    rfl
  | finished =>
    unfold advance Cache.commit
    split <;> rfl
  | released =>
    unfold advance Cache.release
    split <;> rfl
  | left => rfl
  | told => rfl
  | answered => rfl
  | filed => rfl
  | seeded =>
    unfold withCache Cache.seed
    split <;> rfl
  | evicted => rfl

theorem policy_run (callers : Callers) (events : List Event) :
    (callers.run events).cache.policy = callers.cache.policy := by
  induction events generalizing callers with
  | nil => rfl
  | cons event events ih => exact (ih _).trans (change_step callers event).policy_eq

end SchemaForms.Callers
