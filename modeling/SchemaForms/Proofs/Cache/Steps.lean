import SchemaForms.Cache.Callers
import SchemaForms.Proofs.Cache.Eviction

/-!
# Proofs/Cache/Steps — what one step of many calls does

`Change` lists everything that a step can do, and `change_step` says that it does one of these.
Every later argument goes by its cases.  Two facts hold of all of them: a call keeps its path and
its plan (`Change.origin`, `Change.kept`), and the cache makes a turn (`Change.turn`).
-/

namespace SchemaForms.Callers

open Cache (Caller Stage)

variable {callers next : Callers} {event : Event}

/-- **What a step does**: nothing, or one move of one call, or one thing done to the cache. -/
inductive Change (callers : Callers) : Event → Callers → Prop where
  | idle {event : Event} {i : Nat} (hactor : event.actor? = some i) : Change callers event callers
  | entered (path : Path) :
      Change callers (.call path)
        ⟨(callers.cache.request path).2, callers.all ++ [.new path (callers.cache.request path).1]⟩
  | finished {i : Nat} {caller : Caller} {flight : Flight} (outcome : LoadOutcome)
      (hcaller : callers.all[i]? = some caller) (hplan : caller.plan = .load flight)
      (hstage : caller.stage = .underWay) :
      Change callers (.finish i outcome)
        (callers.advance i caller (callers.cache.commit caller.path flight.generation outcome)
          (.noted (.finished outcome)))
  | released {i : Nat} {caller : Caller} {flight : Flight}
      (hcaller : callers.all[i]? = some caller) (hplan : caller.plan = .load flight)
      (hstage : caller.stage = .underWay) :
      Change callers (.giveUp i)
        (callers.advance i caller (callers.cache.release caller.path flight.generation)
          (.noted .dropped))
  | left {i : Nat} {caller : Caller} {flight : Flight}
      (hcaller : callers.all[i]? = some caller) (hplan : caller.plan = .wait flight)
      (hstage : caller.stage = .underWay) :
      Change callers (.giveUp i) (callers.advance i caller callers.cache (.ended .dropped))
  | told {i : Nat} {caller : Caller} {flight : Flight} {ending : Ending}
      (hcaller : callers.all[i]? = some caller) (hplan : caller.plan = .load flight)
      (hstage : caller.stage = .noted ending) :
      Change callers (.tell i)
        (callers.advance i caller (callers.cache.tell flight.ticket ending) (.ended ending))
  | answered {i : Nat} {caller : Caller} {flight : Flight} {outcome : LoadOutcome}
      (hcaller : callers.all[i]? = some caller) (hplan : caller.plan = .wait flight)
      (hstage : caller.stage = .underWay)
      (houtcome : callers.cache.outcome? caller.path flight.ticket = some outcome) :
      Change callers (.poll i) (callers.advance i caller callers.cache (.ended (.finished outcome)))
  | filed (path : Path) (schema : Value) :
      Change callers (.set path schema) (callers.withCache (callers.cache.set path schema))
  | seeded (path : Path) (schema : Value) :
      Change callers (.seed path schema) (callers.withCache (callers.cache.seed path schema))
  | evicted {event : Event} (hevicts : event.evicts = true) :
      Change callers event (callers.evictWhere event.covers)

theorem change_finish (callers : Callers) (i : Nat) (outcome : LoadOutcome) :
    Change callers (.finish i outcome) (callers.finish i outcome) := by
  unfold finish
  split
  · exact .idle rfl
  · rename_i caller hcaller
    split
    · rename_i hplan hstage
      exact .finished outcome hcaller hplan hstage
    · exact .idle rfl

theorem change_giveUp (callers : Callers) (i : Nat) :
    Change callers (.giveUp i) (callers.giveUp i) := by
  unfold giveUp
  split
  · exact .idle rfl
  · rename_i caller hcaller
    split
    · rename_i hplan hstage
      exact .released hcaller hplan hstage
    · rename_i hplan hstage
      exact .left hcaller hplan hstage
    · exact .idle rfl

theorem change_tell (callers : Callers) (i : Nat) : Change callers (.tell i) (callers.tell i) := by
  unfold tell
  split
  · exact .idle rfl
  · rename_i caller hcaller
    split
    · rename_i hplan hstage
      exact .told hcaller hplan hstage
    · exact .idle rfl

theorem change_poll (callers : Callers) (i : Nat) : Change callers (.poll i) (callers.poll i) := by
  unfold poll
  split
  · exact .idle rfl
  · rename_i caller hcaller
    split
    · rename_i hplan hstage
      split
      · rename_i outcome houtcome
        exact .answered hcaller hplan hstage houtcome
      · exact .idle rfl
    · exact .idle rfl

/-- **A step does one of these things.** -/
theorem change_step (callers : Callers) (event : Event) :
    Change callers event (callers.step event) := by
  cases event with
  | call path => exact .entered path
  | finish i outcome => exact change_finish callers i outcome
  | giveUp i => exact change_giveUp callers i
  | tell i => exact change_tell callers i
  | poll i => exact change_poll callers i
  | set path schema => exact .filed path schema
  | seed path schema => exact .seeded path schema
  | evict path => exact .evicted rfl
  | evictFrom array index => exact .evicted rfl

/-! ## Callers keep their path and their plan -/

/-- The calls after one of them moved on. -/
theorem getElem?_advance {i : Nat} {caller : Caller} (hcaller : callers.all[i]? = some caller)
    (cache : Cache) (stage : Stage) (j : Nat) :
    (callers.advance i caller cache stage).all[j]?
      = if i = j then some (caller.atStage stage) else callers.all[j]? := by
  obtain ⟨hi, -⟩ := List.getElem?_eq_some_iff.mp hcaller
  rw [advance, List.getElem?_set, if_pos hi]

/-- What a call is after a step, seen from what it was. -/
structure Successor (event : Event) (before after : Caller) : Prop where
  path : after.path = before.path
  plan : after.plan = before.plan
  evicted : after.evicted = (before.evicted || event.covers before.path)

theorem Successor.refl (hevent : event.covers = fun _ => false) (caller : Caller) :
    Successor event caller caller := ⟨rfl, rfl, by rw [hevent, Bool.or_false]⟩

/-- A call that moves on is the same call. -/
theorem Successor.atStage (hevent : event.covers = fun _ => false) (caller : Caller)
    (stage : Stage) :
    Successor event caller (caller.atStage stage) := ⟨rfl, rfl, by
  rw [hevent, Bool.or_false, Caller.atStage]⟩

/-- Only an eviction, which no call does, covers paths. -/
theorem covers_of_actor? {i : Nat} (h : event.actor? = some i) :
    event.covers = fun _ => false := by
  cases event <;> first | rfl | cases h

/-- No call evicts anything. -/
theorem evicts_of_actor? {i : Nat} (h : event.actor? = some i) : event.evicts = false := by
  cases event <;> first | rfl | cases h

/-- A call after one of the calls moved on. -/
theorem successor_advance {i : Nat} {caller : Caller} (hevent : event.covers = fun _ => false)
    (hcaller : callers.all[i]? = some caller) (cache : Cache) (stage : Stage) {j : Nat}
    {after : Caller}
    (hafter : (callers.advance i caller cache stage).all[j]? = some after) :
    ∃ before, callers.all[j]? = some before ∧ Successor event before after := by
  rw [getElem?_advance hcaller] at hafter
  split at hafter
  · rename_i hij
    subst hij
    obtain rfl := Option.some.inj hafter
    exact ⟨caller, hcaller, .atStage hevent caller stage⟩
  · exact ⟨after, hafter, .refl hevent after⟩

/-- **Where a call comes from**: it was there before the step, or the step is its beginning. -/
theorem Change.origin (h : Change callers event next) {j : Nat} {after : Caller}
    (hafter : next.all[j]? = some after) :
    (∃ before, callers.all[j]? = some before ∧ Successor event before after) ∨
      ∃ path, event = .call path ∧ j = callers.all.length ∧
        after = .new path (callers.cache.request path).1 := by
  cases h with
  | idle hactor => exact .inl ⟨after, hafter, .refl (covers_of_actor? hactor) after⟩
  | entered path =>
    rcases Nat.lt_trichotomy j callers.all.length with hj | hj | hj
    · rw [List.getElem?_append_left hj] at hafter
      exact .inl ⟨after, hafter, .refl rfl after⟩
    · subst hj
      rw [List.getElem?_concat_length] at hafter
      exact .inr ⟨path, rfl, rfl, (Option.some.inj hafter).symm⟩
    · rw [List.getElem?_eq_none (by simp; omega)] at hafter
      cases hafter
  | finished outcome hcaller => exact .inl (successor_advance rfl hcaller _ _ hafter)
  | released hcaller => exact .inl (successor_advance rfl hcaller _ _ hafter)
  | left hcaller => exact .inl (successor_advance rfl hcaller _ _ hafter)
  | told hcaller => exact .inl (successor_advance rfl hcaller _ _ hafter)
  | answered hcaller => exact .inl (successor_advance rfl hcaller _ _ hafter)
  | filed path schema => exact .inl ⟨after, hafter, .refl rfl after⟩
  | seeded path schema => exact .inl ⟨after, hafter, .refl rfl after⟩
  | evicted hevicts =>
    rw [evictWhere, List.getElem?_map] at hafter
    obtain ⟨before, hbefore, rfl⟩ := Option.map_eq_some_iff.mp hafter
    exact .inl ⟨before, hbefore, rfl, rfl, rfl⟩

/-- No step makes the calls fewer. -/
theorem Change.length_le (h : Change callers event next) :
    callers.all.length ≤ next.all.length := by
  cases h <;> simp [advance, withCache, evictWhere]

/-- **A call is kept by every step.** -/
theorem Change.kept (h : Change callers event next) {j : Nat} {before : Caller}
    (hbefore : callers.all[j]? = some before) :
    ∃ after, next.all[j]? = some after ∧ Successor event before after := by
  obtain ⟨hj, -⟩ := List.getElem?_eq_some_iff.mp hbefore
  have hnext : j < next.all.length := Nat.lt_of_lt_of_le hj h.length_le
  obtain ⟨after, hafter⟩ : ∃ after, next.all[j]? = some after :=
    ⟨next.all[j], List.getElem?_eq_getElem hnext⟩
  rcases h.origin hafter with ⟨before', hbefore', hsucc⟩ | ⟨path, -, rfl, -⟩
  · obtain rfl := Option.some.inj (hbefore.symm.trans hbefore')
    exact ⟨after, hafter, hsucc⟩
  · exact absurd hj (Nat.lt_irrefl _)

/-! ## What a step does to the cache -/

/-- **Every step is a turn of the cache.** -/
theorem Change.turn (h : Change callers event next) : Cache.Turn callers.cache next.cache := by
  cases h with
  | idle => exact .refl _
  | entered path => exact Cache.turn_request _ path
  | finished outcome => exact Cache.turn_commit _ _ _ outcome
  | released => exact Cache.turn_release _ _ _
  | left => exact .refl _
  | told => exact Cache.turn_tell _ _ _
  | answered => exact .refl _
  | filed path schema => exact Cache.turn_set _ path schema
  | seeded path schema => exact Cache.turn_seed _ path schema
  | evicted => exact Cache.turn_evictWhere _ _

end SchemaForms.Callers
