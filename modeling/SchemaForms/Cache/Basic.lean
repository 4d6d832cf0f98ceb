import SchemaForms.Catalog.Definition
import SchemaForms.Path.Key
import SchemaForms.Text.Basic
import SchemaForms.Value.Basic

/-!
# Cache/Basic — schemas by path

The cache files the schema of each module under the written form of its path.  Every load of a path
gets a generation that no earlier load of the path had, and the record of a load in flight holds it.
An eviction drops the record, so that it parts the load from the cache for good: the load ends with a
generation that is not on record, and its outcome reaches those who wait for it and nothing else.

An eviction can also be done one key at a time (`sweep`): the keys that are filed are listed first, and
then each one that is covered is taken out.  A sweep of a sequence lists the keys once and evicts an
element for each of them, so that it comes by keys that an earlier element took along.
-/

namespace SchemaForms

/-- Whether a stored schema is used again. -/
inductive CachePolicy where
  | reuse
  | alwaysRefetch
  deriving DecidableEq

namespace CachePolicy

/-- The name of a policy. -/
def name : CachePolicy → String
  | .reuse => "reuse"
  | .alwaysRefetch => "always-refetch"

/-- The policy with a given name, up to the case of ASCII letters. -/
def ofText? (text : String) : Option CachePolicy :=
  let text := Text.asciiLower text
  if text = "reuse" then some .reuse
  else if text = "refetch" ∨ text = "always-refetch" then some .alwaysRefetch
  else none

/-- The complaint about a text that names no policy. -/
def unknownMessage (text : String) : String := s!"unknown cache policy '{Text.asciiLower text}'"

end CachePolicy

/-- What a load comes to: a schema, none, or an error. -/
abbrev LoadOutcome := Except FetchError (Option Value)

/-- How a load came to an end. -/
inductive Ending where
  | finished (outcome : LoadOutcome)
  /-- It was given up before it was finished. -/
  | dropped

/-- What the end of a load means to someone who waited for it. -/
def Ending.answer (path : Path) : Ending → LoadOutcome
  | .finished outcome => outcome
  | .dropped => .error (.abandoned path.key)

/-- The record of a load in flight: which of the loads of its path it is, and the ticket under which
its outcome will be told. -/
structure Flight where
  generation : Nat
  ticket : Nat
  deriving DecidableEq

/-- The schemas of a session. -/
structure Cache where
  policy : CachePolicy
  /-- The schema filed under each key. -/
  entries : List (String × Value)
  /-- The load in flight for each key. -/
  inFlight : List (String × Flight)
  /-- The generation given out last for each key. -/
  generations : List (String × Nat)
  /-- What is told of each load that ever began, nothing while it runs; a ticket is a position in this
  list. -/
  loads : List (Option Ending)

namespace Cache

/-- A cache without schemas. -/
def empty (policy : CachePolicy) : Cache := ⟨policy, [], [], [], []⟩

/-- The generation given out last for a key. -/
def lastGeneration (generations : List (String × Nat)) (key : String) : Nat :=
  (Table.get? generations key).getD 0

/-- Gives out the next generation of a key. -/
def advance (generations : List (String × Nat)) (key : String) : List (String × Nat) :=
  Table.insert generations key (lastGeneration generations key + 1)

/-! ## Loads -/

/-- What a request for a schema leads to. -/
inductive Plan where
  /-- The schema is there. -/
  | hit (schema : Value)
  /-- Another load is under way. -/
  | wait (flight : Flight)
  /-- A load is to be run. -/
  | load (flight : Flight)
  deriving DecidableEq

/-- The record of the next load of a key. -/
def nextFlight (cache : Cache) (key : String) : Flight :=
  ⟨lastGeneration cache.generations key + 1, cache.loads.length⟩

/-- Puts the next load of a key on record. -/
def launch (cache : Cache) (key : String) : Cache :=
  { cache with
    inFlight := Table.insert cache.inFlight key (cache.nextFlight key)
    generations := advance cache.generations key
    loads := cache.loads ++ [none] }

/-- Asks for the schema of a path. -/
def request (cache : Cache) (path : Path) : Plan × Cache :=
  let key := path.key
  let stored := if cache.policy = .reuse then Table.get? cache.entries key else none
  match stored, Table.get? cache.inFlight key with
  | some schema, _ => (.hit schema, cache)
  | none, some flight => (.wait flight, cache)
  | none, none => (.load (cache.nextFlight key), cache.launch key)

/-- Whether the load in flight for a key is of this generation. -/
def isCurrent (cache : Cache) (key : String) (generation : Nat) : Bool :=
  (Table.get? cache.inFlight key).any fun flight => flight.generation = generation

/-- Takes note that a load is over.  Its schema is filed unless the load was evicted meanwhile. -/
def commit (cache : Cache) (path : Path) (generation : Nat) (outcome : LoadOutcome) : Cache :=
  if cache.isCurrent path.key generation then
    { cache with
      inFlight := Table.erase cache.inFlight path.key
      entries := match outcome with
        | .ok (some schema) => Table.insert cache.entries path.key schema
        | _ => cache.entries }
  else cache

/-- Tells those who wait for a load how it ended. -/
def tell (cache : Cache) (ticket : Nat) (ending : Ending) : Cache :=
  { cache with loads := cache.loads.set ticket (some ending) }

/-- Finishes a load. -/
def finish (cache : Cache) (path : Path) (flight : Flight) (outcome : LoadOutcome) : Cache :=
  (cache.commit path flight.generation outcome).tell flight.ticket (.finished outcome)

/-- Takes note that a load was given up. -/
def release (cache : Cache) (path : Path) (generation : Nat) : Cache :=
  if cache.isCurrent path.key generation then
    { cache with inFlight := Table.erase cache.inFlight path.key }
  else cache

/-- Gives a load up. -/
def drop (cache : Cache) (path : Path) (flight : Flight) : Cache :=
  (cache.release path flight.generation).tell flight.ticket .dropped

/-- What someone who waits for a load is told; nothing, while it runs. -/
def outcome? (cache : Cache) (path : Path) (ticket : Nat) : Option LoadOutcome :=
  cache.loads[ticket]?.join.map (Ending.answer path)

/-! ## Entries -/

/-- The schema filed for a path. -/
def peek? (cache : Cache) (path : Path) : Option Value := Table.get? cache.entries path.key

/-- Whether a schema is filed for a path. -/
def contains (cache : Cache) (path : Path) : Bool := Table.contains cache.entries path.key

/-- Files a schema. -/
def set (cache : Cache) (path : Path) (schema : Value) : Cache :=
  { cache with entries := Table.insert cache.entries path.key schema }

/-- Files a schema where there is none. -/
def seed (cache : Cache) (path : Path) (schema : Value) : Cache :=
  if cache.contains path then cache else cache.set path schema

theorem inFlight_seed (cache : Cache) (path : Path) (schema : Value) :
    (cache.seed path schema).inFlight = cache.inFlight := by
  unfold seed
  split <;> rfl

/-- Whether a load is in flight for a path. -/
def isLoading (cache : Cache) (path : Path) : Bool := Table.contains cache.inFlight path.key

/-- How many schemas are filed. -/
def size (cache : Cache) : Nat := cache.entries.length

/-! ## Eviction -/

/-- Drops the entries and the loads in flight whose paths satisfy `doomed`.  The generations of these
loads are not used again. -/
def evictWhere (cache : Cache) (doomed : Path → Bool) : Cache :=
  let isDoomed := fun key => doomed (Path.parse key)
  { cache with
    entries := Table.dropKeys cache.entries isDoomed
    inFlight := Table.dropKeys cache.inFlight isDoomed
    generations :=
      ((Table.keys cache.inFlight).filter isDoomed).foldl advance cache.generations }

/-- Drops what is filed at or below a path. -/
def evict (cache : Cache) (path : Path) : Cache :=
  cache.evictWhere fun p => Path.startsWith p path

/-- Whether a path leads through an element of a sequence whose index satisfies `chosen`. -/
def throughItem (array : Path) (chosen : Nat → Bool) (path : Path) : Bool :=
  Path.startsWith path array && match path[array.length]? with
    | some (.index i) => chosen i
    | _ => false

theorem throughItem_iff {array path : Path} {chosen : Nat → Bool} :
    throughItem array chosen path = true ↔ ∃ i, array.item i <+: path ∧ chosen i = true := by
  unfold throughItem
  rw [Bool.and_eq_true, Path.startsWith_iff]
  constructor
  · rintro ⟨⟨rest, rfl⟩, hindex⟩
    cases rest with
    | nil => simp at hindex
    | cons segment rest =>
      cases segment with
      | key text => simp at hindex
      | index i => exact ⟨i, ⟨rest, by simp [Path.item]⟩, by simpa using hindex⟩
  · rintro ⟨i, ⟨rest, rfl⟩, hchosen⟩
    exact ⟨⟨.index i :: rest, by simp [Path.item]⟩, by simp [Path.item, hchosen]⟩

/-- Drops what is filed at or below the elements of a sequence from an index on. -/
def evictFrom (cache : Cache) (array : Path) (index : Nat) : Cache :=
  cache.evictWhere (throughItem array fun i => decide (index ≤ i))

/-! ## Evictions key by key -/

/-- The keys under which a schema is filed, and then those under which a load is in flight. -/
def filedKeys (cache : Cache) : List String := Table.keys cache.entries ++ Table.keys cache.inFlight

/-- Takes out what is filed under a key.  The generation of a load that goes is not used again. -/
def takeOut (cache : Cache) (key : String) : Cache :=
  { cache with
    entries := Table.dropKeys cache.entries (· = key)
    inFlight := Table.dropKeys cache.inFlight (· = key)
    generations :=
      if Table.contains cache.inFlight key then advance cache.generations key
      else cache.generations }

/-- Takes out the keys at or below a path, one after the other. -/
def sweep (cache : Cache) (path : Path) : Cache :=
  (cache.filedKeys.filter fun key => Path.startsWith (Path.parse key) path).foldl takeOut cache

/-- Sweeps the element of a sequence that a key leads through, from an index on. -/
def sweepItem (array : Path) (index : Nat) (cache : Cache) (key : String) : Cache :=
  match (Path.parse key)[array.length]? with
  | some (.index i) =>
    if Path.startsWith (Path.parse key) array ∧ index ≤ i then cache.sweep (array.item i) else cache
  | _ => cache

/-- Sweeps the elements of a sequence from an index on: one for each key that was filed. -/
def sweepFrom (cache : Cache) (array : Path) (index : Nat) : Cache :=
  cache.filedKeys.foldl (sweepItem array index) cache

end Cache

end SchemaForms
