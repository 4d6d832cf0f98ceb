import SchemaForms.Proofs.Cache.Steps

/-!
# Proofs/Cache/LateLoads — an eviction cuts a load off from the cache

A load that was in flight when its path was evicted may end much later, and by then the path may
have been loaded and evicted again any number of times.  Its end changes nothing in the cache
(`evicted_load_ends_unnoticed`).  The invariant is `Issued`: the generation of every load was given
out for its path.  An eviction parts the load from the cache, and what is parted stays parted.
-/

namespace SchemaForms.Callers

open Cache (Caller Parted lastGeneration)

variable {callers next : Callers} {event : Event}

/-- **Every load has a generation that was given out for its path.** -/
structure Issued (callers : Callers) : Prop where
  distinct : Table.Distinct callers.cache.inFlight
  given : ∀ {i : Nat} {caller : Caller} {flight : Flight}, callers.all[i]? = some caller →
    caller.plan = .load flight →
      flight.generation ≤ lastGeneration callers.cache.generations caller.path.key

theorem issued_start (policy : CachePolicy) : Issued (start policy) where
  distinct := Table.distinct_nil
  given h := absurd h nofun

/-! ## One step -/

@[simp] theorem path_new (path : Path) (plan : Cache.Plan) :
    (Caller.new path plan).path = path := by
  unfold Caller.new
  split <;> rfl

/-- A call that runs a new load got the next generation of its key. -/
theorem plan_new {cache : Cache} {path : Path} {flight : Flight}
    (h : (Caller.new path (cache.request path).1).plan = .load flight) :
    flight = cache.nextFlight path.key ∧ (cache.request path).2 = cache.launch path.key := by
  rcases Cache.request_cases cache path with ⟨_, -, -, hr⟩ | ⟨-, _, -, hr⟩ | ⟨-, -, hr⟩ <;>
    rw [hr] at h ⊢ <;> simp only [Caller.new, Cache.Plan.load.injEq, reduceCtorEq] at h
  exact ⟨h.symm, rfl⟩

/-- **Every step preserves that generations are given out.** -/
theorem Change.issued (h : Change callers event next) (hissued : Issued callers) :
    Issued next where
  distinct := Cache.lasting_distinct h.turn hissued.distinct
  given := by
    intro i after flight hafter hplan
    rcases h.origin hafter with ⟨before, hbefore, hsucc⟩ | ⟨path, rfl, -, rfl⟩
    · rw [hsucc.path]
      exact Cache.lasting_given _ _ h.turn (hissued.given hbefore (hsucc.plan ▸ hplan))
    · obtain ⟨rfl, hlaunch⟩ := plan_new hplan
      cases h with
      | entered =>
        rw [path_new, hlaunch]
        exact Nat.le_of_eq (by simp [Cache.launch, Cache.nextFlight])
      | idle hactor => cases hactor
      | evicted hevicts => cases hevicts

/-- Every run preserves it, too. -/
theorem Issued.run (h : Issued callers) (events : List Event) : Issued (callers.run events) := by
  induction events generalizing callers with
  | nil => exact h
  | cons event events ih => exact ih ((change_step callers event).issued h)

/-! ## After the eviction -/

/-- What is parted stays parted, over any run. -/
theorem parted_run {key : String} {generation : Nat} (h : Parted callers.cache key generation)
    (events : List Event) : Parted (callers.run events).cache key generation := by
  induction events generalizing callers with
  | nil => exact h
  | cons event events ih => exact ih (h.turn (change_step callers event).turn)

/-- **A call over a run**: it keeps its path and its plan, and it is known whether an eviction
covered its path. -/
theorem kept_run {i : Nat} {before : Caller} (h : callers.all[i]? = some before)
    (events : List Event) :
    ∃ after, (callers.run events).all[i]? = some after ∧ after.path = before.path ∧
      after.plan = before.plan ∧
      after.evicted = (before.evicted || events.any (·.covers before.path)) := by
  induction events generalizing callers before with
  | nil => exact ⟨before, h, rfl, rfl, (Bool.or_false _).symm⟩
  | cons event events ih =>
    obtain ⟨middle, hmiddle, hsucc⟩ := (change_step callers event).kept h
    obtain ⟨after, hafter, hpath, hplan, hevicted⟩ := ih hmiddle
    refine ⟨after, hafter, hpath.trans hsucc.path, hplan.trans hsucc.plan, ?_⟩
    rw [hevicted, hsucc.evicted, hsucc.path, Bool.or_assoc, List.any_cons]

/-- **An eviction parts the loads that it covers from the cache.** -/
theorem Issued.parted_step {i : Nat} {caller : Caller} {flight : Flight} (h : Issued callers)
    (hcaller : callers.all[i]? = some caller) (hplan : caller.plan = .load flight)
    (hroot : Path.Rooted caller.path) (hcovers : event.covers caller.path = true) :
    Parted (callers.step event).cache caller.path.key flight.generation := by
  have hevict : (callers.step event).cache = callers.cache.evictWhere event.covers := by
    cases event with
    | evict path => rfl
    | evictFrom array index => rfl
    | _ => exact absurd hcovers (by simp [Event.covers])
  rw [hevict]
  exact Cache.parted_evictWhere hroot hcovers h.distinct (h.given hcaller hplan)

/-- **A call whose load is parted from the cache leaves entries and records alone**, whatever it
does. -/
theorem Change.eq_of_parted {i : Nat} {caller : Caller} {flight : Flight}
    (h : Change callers event next) (hactor : event.actor? = some i)
    (hcaller : callers.all[i]? = some caller) (hplan : caller.plan = .load flight)
    (hparted : Parted callers.cache caller.path.key flight.generation) :
    next.cache.entries = callers.cache.entries ∧ next.cache.inFlight = callers.cache.inFlight := by
  -- The call that acts is the one whose load is parted.
  have hsame : ∀ {other : Caller} {f : Flight}, callers.all[i]? = some other →
      other.plan = .load f → caller = other ∧ f = flight := by
    intro other f hother hf
    obtain rfl := Option.some.inj (hcaller.symm.trans hother)
    exact ⟨rfl, by simpa [hplan] using hf.symm⟩
  cases h with
  | idle => exact ⟨rfl, rfl⟩
  | entered => cases hactor
  | finished outcome hother hf =>
    obtain rfl := Option.some.inj hactor
    obtain ⟨rfl, rfl⟩ := hsame hother hf
    rw [advance, hparted.commit_eq]
    exact ⟨rfl, rfl⟩
  | released hother hf =>
    obtain rfl := Option.some.inj hactor
    obtain ⟨rfl, rfl⟩ := hsame hother hf
    rw [advance, hparted.release_eq]
    exact ⟨rfl, rfl⟩
  | left => exact ⟨rfl, rfl⟩
  | told => exact ⟨rfl, rfl⟩
  | answered => exact ⟨rfl, rfl⟩
  | filed => cases hactor
  | seeded => cases hactor
  | evicted hevicts =>
    rw [evicts_of_actor? hactor] at hevicts
    cases hevicts

/-- **A load that was evicted while it was in flight ends unnoticed.**  From the eviction on, and
however often its path is loaded and evicted again in between, nothing that its call does (its
loader answers, it is given up, those who wait for it are told) writes an entry or touches the
record of a load. -/
theorem evicted_load_ends_unnoticed (policy : CachePolicy) (before after : List Event)
    (eviction exit : Event) {late : Callers} {i : Nat} {caller : Caller} {flight : Flight}
    (hrun : late = (start policy).run (before ++ eviction :: after))
    (hcaller : ((start policy).run before).all[i]? = some caller)
    (hload : caller.plan = .load flight) (hroot : Path.Rooted caller.path)
    (hcovers : eviction.covers caller.path = true) (hexit : exit.actor? = some i) :
    (late.step exit).cache.entries = late.cache.entries ∧
      (late.step exit).cache.inFlight = late.cache.inFlight := by
  have hissued : Issued ((start policy).run before) := (issued_start policy).run before
  have hlate : late = (((start policy).run before).step eviction).run after :=
    hrun.trans (run_append _ _ _)
  have hparted : Parted late.cache caller.path.key flight.generation := by
    rw [hlate]
    exact parted_run (hissued.parted_step hcaller hload hroot hcovers) after
  obtain ⟨caller', hcaller', hpath, hplan, -⟩ := kept_run hcaller (eviction :: after)
  rw [← run_append, ← hrun] at hcaller'
  exact (change_step late exit).eq_of_parted hexit hcaller' (hplan.trans hload) (hpath ▸ hparted)

/-- A load ends while another load of its path is on record. -/
theorem evicted_load_ends_unnoticed_reloaded :
    let path := Path.root.child "trigger"
    let late := (start .reuse).run ([.call path] ++ .evict path :: [.call path])
    let exit : Event := .finish 0 (.ok (some .null))
    late.cache.isLoading path = true ∧
      (late.step exit).cache.entries = late.cache.entries ∧
      (late.step exit).cache.inFlight = late.cache.inFlight := by
  intro path late exit
  have hloading : late.cache.isLoading path = true := by decide
  have hrun : late = (start .reuse).run ([.call path] ++ .evict path :: [.call path]) := rfl
  have hcaller : ((start .reuse).run [.call path]).all[0]?
      = some ⟨path, .load ⟨1, 0⟩, .underWay, false⟩ := rfl
  have hcovers : (Event.evict path).covers path = true := by decide
  exact ⟨hloading, evicted_load_ends_unnoticed .reuse [.call path] [.call path] (.evict path) exit
    hrun hcaller rfl (by decide) hcovers rfl⟩

end SchemaForms.Callers
