import SchemaForms.Cache.Basic

/-!
# Cache/Callers — many calls at once

Callers for schemas run side by side.  A step is what one of them does without an interruption, or what
someone else does to the cache: so a load that is over is first noted in the cache and then told to
those who wait, and anything may happen in between.  What a call is about to do is kept with it, and
whether its path was evicted since it began is kept for the record; no step depends on the latter.
-/

namespace SchemaForms

namespace Cache

/-- How far a call got. -/
inductive Stage where
  /-- Its loader runs, or it waits for the load of another caller. -/
  | underWay
  /-- Its load is over: the cache knows it, but those who wait do not. -/
  | noted (ending : Ending)
  | ended (ending : Ending)

/-- How the load of a call ended, once it is over. -/
def Stage.ending? : Stage → Option Ending
  | .underWay => none
  | .noted ending | .ended ending => some ending

/-- How a call ended, once those who wait for it know. -/
def Stage.told? : Stage → Option Ending
  | .ended ending => some ending
  | _ => none

/-- A call for the schema of a path. -/
structure Caller where
  path : Path
  plan : Plan
  stage : Stage
  /-- Whether an eviction covered its path since it began. -/
  evicted : Bool

namespace Caller

/-- The same call at another stage. -/
def atStage (caller : Caller) (stage : Stage) : Caller := { caller with stage := stage }

/-- The same call after an eviction. -/
def afterEviction (doomed : Path → Bool) (caller : Caller) : Caller :=
  { caller with evicted := caller.evicted || doomed caller.path }

/-- A new call; one that meets a schema is over at once. -/
def new (path : Path) (plan : Plan) : Caller :=
  match plan with
  | .hit schema => ⟨path, plan, .ended (.finished (.ok (some schema))), false⟩
  | _ => ⟨path, plan, .underWay, false⟩

end Caller

end Cache

open Cache (Caller Stage)

/-- A cache and the calls to it, each known by its position. -/
structure Callers where
  cache : Cache
  /-- All calls that ever began. -/
  all : List Caller

namespace Callers

/-- What can happen. -/
inductive Event where
  /-- A call begins. -/
  | call (path : Path)
  /-- The loader of a call answers. -/
  | finish (i : Nat) (outcome : LoadOutcome)
  /-- A call is given up. -/
  | giveUp (i : Nat)
  /-- Those who wait for a call are told that its load is over. -/
  | tell (i : Nat)
  /-- A call that waits asks whether the load is over. -/
  | poll (i : Nat)
  | set (path : Path) (schema : Value)
  | seed (path : Path) (schema : Value)
  | evict (path : Path)
  | evictFrom (array : Path) (index : Nat)

/-- The call that does the step. -/
def Event.actor? : Event → Option Nat
  | .finish i _ | .giveUp i | .tell i | .poll i => some i
  | _ => none

/-- Whether an event is an eviction. -/
def Event.evicts : Event → Bool
  | .evict _ | .evictFrom _ _ => true
  | _ => false

/-- The paths that an event evicts. -/
def Event.covers : Event → Path → Bool
  | .evict path => fun p => Path.startsWith p path
  | .evictFrom array index => Cache.throughItem array fun i => decide (index ≤ i)
  | _ => fun _ => false

/-- No calls yet. -/
def start (policy : CachePolicy) : Callers := ⟨.empty policy, []⟩

/-- Goes on with a cache, and with a call at another stage. -/
def advance (callers : Callers) (i : Nat) (caller : Caller) (cache : Cache) (stage : Stage) : Callers :=
  ⟨cache, callers.all.set i (caller.atStage stage)⟩

/-- A call begins. -/
def enter (callers : Callers) (path : Path) : Callers :=
  let (plan, cache) := callers.cache.request path
  ⟨cache, callers.all ++ [.new path plan]⟩

/-- The loader of a call answers, and the cache takes note. -/
def finish (callers : Callers) (i : Nat) (outcome : LoadOutcome) : Callers :=
  match callers.all[i]? with
  | none => callers
  | some caller =>
    match caller.plan, caller.stage with
    | .load flight, .underWay =>
      callers.advance i caller (callers.cache.commit caller.path flight.generation outcome)
        (.noted (.finished outcome))
    | _, _ => callers

/-- A call is given up.  If it runs a load, the cache takes note. -/
def giveUp (callers : Callers) (i : Nat) : Callers :=
  match callers.all[i]? with
  | none => callers
  | some caller =>
    match caller.plan, caller.stage with
    | .load flight, .underWay =>
      callers.advance i caller (callers.cache.release caller.path flight.generation) (.noted .dropped)
    | .wait _, .underWay => callers.advance i caller callers.cache (.ended .dropped)
    | _, _ => callers

/-- Those who wait for a call are told that its load is over. -/
def tell (callers : Callers) (i : Nat) : Callers :=
  match callers.all[i]? with
  | none => callers
  | some caller =>
    match caller.plan, caller.stage with
    | .load flight, .noted ending =>
      callers.advance i caller (callers.cache.tell flight.ticket ending) (.ended ending)
    | _, _ => callers

/-- A call that waits asks whether the load is over. -/
def poll (callers : Callers) (i : Nat) : Callers :=
  match callers.all[i]? with
  | none => callers
  | some caller =>
    match caller.plan, caller.stage with
    | .wait flight, .underWay =>
      match callers.cache.outcome? caller.path flight.ticket with
      | some outcome => callers.advance i caller callers.cache (.ended (.finished outcome))
      | none => callers
    | _, _ => callers

/-- Goes on with a cache. -/
def withCache (callers : Callers) (cache : Cache) : Callers := { callers with cache := cache }

/-- An eviction, which is put on record for the calls that it covers. -/
def evictWhere (callers : Callers) (doomed : Path → Bool) : Callers :=
  ⟨callers.cache.evictWhere doomed, callers.all.map (Caller.afterEviction doomed)⟩

/-- One step.  An event that is not possible changes nothing. -/
def step (callers : Callers) : Event → Callers
  | .call path => callers.enter path
  | .finish i outcome => callers.finish i outcome
  | .giveUp i => callers.giveUp i
  | .tell i => callers.tell i
  | .poll i => callers.poll i
  | .set path schema => callers.withCache (callers.cache.set path schema)
  | .seed path schema => callers.withCache (callers.cache.seed path schema)
  | .evict path => callers.evictWhere (Event.evict path).covers
  | .evictFrom array index => callers.evictWhere (Event.evictFrom array index).covers

/-- A run of steps. -/
def run (callers : Callers) (events : List Event) : Callers := events.foldl step callers

theorem run_append (callers : Callers) (front back : List Event) :
    callers.run (front ++ back) = (callers.run front).run back := List.foldl_append

end Callers

end SchemaForms
