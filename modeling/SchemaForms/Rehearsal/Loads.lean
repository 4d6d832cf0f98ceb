import SchemaForms.Cache.Basic

/-!
# Rehearsal/Loads — requests to a cache that are answered step by step

A request has a name.  It either runs the load itself, and then waits to be given its outcome, or
waits for the load that another request runs.  Requests that are over are forgotten.
-/

namespace SchemaForms

/-- A request to the cache that has not been answered. -/
structure Awaited where
  path : Path
  flight : Flight
  /-- Whether it runs the load. -/
  runsLoad : Bool

/-- A cache, and the requests to it that have not been answered. -/
structure Loads where
  cache : Cache
  awaited : List (String × Awaited)

/-- What became of a request so far. -/
structure LoadReport where
  /-- Whether it runs the load. -/
  runsLoad : Bool
  /-- What it came to, once it is over. -/
  outcome : Option LoadOutcome

namespace Loads

/-- A request that has not been answered. -/
def find? (loads : Loads) (id : String) : Option Awaited := Table.get? loads.awaited id

/-- Forgets a request. -/
def forget (loads : Loads) (id : String) : Loads :=
  { loads with awaited := Table.erase loads.awaited id }

/-- Gives up a request, and with it the load that it runs. -/
def drop (loads : Loads) (id : String) : Loads :=
  match loads.find? id with
  | some awaited =>
    { loads.forget id with
      cache := if awaited.runsLoad then loads.cache.drop awaited.path awaited.flight
        else loads.cache }
  | none => loads

/-- Keeps a request that has not been answered. -/
def keep (loads : Loads) (id : String) (awaited : Awaited) : LoadReport × Loads :=
  (⟨awaited.runsLoad, none⟩, { loads with awaited := Table.insert loads.awaited id awaited })

/-- Begins a request, after giving up one of the same name; if it runs the load and the outcome is
known, it is over at once. -/
def start (loads : Loads) (id : String) (path : Path) (outcome : Option LoadOutcome) :
    LoadReport × Loads :=
  let loads := loads.drop id
  let (plan, cache) := loads.cache.request path
  let loads := { loads with cache := cache }
  match plan, outcome with
  | .hit schema, _ => (⟨false, some (.ok (some schema))⟩, loads)
  | .wait flight, _ => loads.keep id ⟨path, flight, false⟩
  | .load flight, some outcome =>
    (⟨true, some outcome⟩, { loads with cache := cache.finish path flight outcome })
  | .load flight, none => loads.keep id ⟨path, flight, true⟩

/-- Asks how a request stands. -/
def poll (loads : Loads) (id : String) (awaited : Awaited) : LoadReport × Loads :=
  let outcome :=
    if awaited.runsLoad then none else loads.cache.outcome? awaited.path awaited.flight.ticket
  (⟨awaited.runsLoad, outcome⟩, if outcome.isSome then loads.forget id else loads)

/-- Gives a request the outcome of the load that it runs. -/
def finish (loads : Loads) (id : String) (awaited : Awaited) (outcome : LoadOutcome) :
    LoadReport × Loads :=
  if awaited.runsLoad then
    (⟨true, some outcome⟩,
      { loads.forget id with cache := loads.cache.finish awaited.path awaited.flight outcome })
  else loads.poll id awaited

end Loads

end SchemaForms
