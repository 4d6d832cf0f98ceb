import SchemaForms.Cache.Basic
import SchemaForms.Proofs.Path.RoundTrip

/-!
# Proofs/Cache/Eviction — what an eviction parts stays parted

`request_cases` says what a request can lead to, and `Turn` what any operation can do to the records
of loads: it drops some of them, or puts a new load on record.  `Parted` is the state of a load that
an eviction cut off: its generation was given out, and the load on record for its key, if there is
one, is of another.  No turn makes that undone, because a generation is given out once
(`Parted.turn`); and as long as it holds, the end of the load changes neither entries nor records
(`Parted.commit_eq`, `Parted.release_eq`).
-/

namespace SchemaForms.Cache

variable {cache : Cache} {key : String} {generation : Nat}

/-! ## Requests -/

/-- **What a request leads to**: a schema that may be used again, a load in flight, or a new
load. -/
theorem request_cases (cache : Cache) (path : Path) :
    (∃ schema, cache.policy = .reuse ∧ Table.get? cache.entries path.key = some schema ∧
        cache.request path = (.hit schema, cache)) ∨
      ((cache.policy = .reuse → Table.get? cache.entries path.key = none) ∧
        ∃ flight, Table.get? cache.inFlight path.key = some flight ∧
          cache.request path = (.wait flight, cache)) ∨
      ((cache.policy = .reuse → Table.get? cache.entries path.key = none) ∧
        Table.get? cache.inFlight path.key = none ∧
        cache.request path = (.load (cache.nextFlight path.key), cache.launch path.key)) := by
  by_cases hpolicy : cache.policy = .reuse
  · cases hentry : Table.get? cache.entries path.key with
    | some schema => exact .inl ⟨schema, hpolicy, rfl, by simp [request, hpolicy, hentry]⟩
    | none =>
      cases hflight : Table.get? cache.inFlight path.key with
      | some flight =>
        exact .inr (.inl ⟨fun _ => rfl, flight, rfl, by simp [request, hentry, hflight]⟩)
      | none => exact .inr (.inr ⟨fun _ => rfl, rfl, by simp [request, hentry, hflight]⟩)
  · cases hflight : Table.get? cache.inFlight path.key with
    | some flight =>
      exact .inr (.inl ⟨fun h => absurd h hpolicy, flight, rfl, by
        simp [request, hpolicy, hflight]⟩)
    | none =>
      exact .inr (.inr ⟨fun h => absurd h hpolicy, rfl, by simp [request, hpolicy, hflight]⟩)

/-! ## Generations -/

@[simp] theorem lastGeneration_advance (generations : List (String × Nat)) (key other : String) :
    lastGeneration (advance generations key) other
      = if key = other then lastGeneration generations key + 1
        else lastGeneration generations other := by
  rw [lastGeneration, advance, Table.get?_insert]
  split <;> rfl

/-- Generations are only given out, never taken back. -/
theorem lastGeneration_le_advance (generations : List (String × Nat)) (key other : String) :
    lastGeneration generations other ≤ lastGeneration (advance generations key) other := by
  rw [lastGeneration_advance]
  split
  · rename_i h
    subst h
    exact Nat.le_succ _
  · exact Nat.le_refl _

theorem lastGeneration_le_foldl (keys : List String) (generations : List (String × Nat))
    (other : String) :
    lastGeneration generations other ≤ lastGeneration (keys.foldl advance generations) other := by
  induction keys generalizing generations with
  | nil => exact Nat.le_refl _
  | cons key keys ih =>
    exact Nat.le_trans (lastGeneration_le_advance generations key other) (ih _)

theorem isCurrent_iff :
    cache.isCurrent key generation = true ↔
      ∃ flight, Table.get? cache.inFlight key = some flight ∧
        flight.generation = generation := by
  rw [isCurrent, Option.any_eq_true]
  simp

/-- No load is on record for a key after the key was dropped. -/
theorem isCurrent_of_get?_eq_none (h : Table.get? cache.inFlight key = none) :
    cache.isCurrent key generation = false := by
  rw [isCurrent, h]
  rfl

/-! ## What operations do to the records -/

/-- Records were only dropped, and generations only given out. -/
structure Shrinks (cache other : Cache) : Prop where
  sublist : other.inFlight.Sublist cache.inFlight
  kept : Table.Distinct cache.inFlight → ∀ {key : String} {flight : Flight},
    Table.get? other.inFlight key = some flight → Table.get? cache.inFlight key = some flight
  given : ∀ key, lastGeneration cache.generations key ≤ lastGeneration other.generations key

/-- Nothing happened to records and generations. -/
theorem Shrinks.of_eq {other : Cache} (hinFlight : other.inFlight = cache.inFlight)
    (hgenerations : other.generations = cache.generations) : Shrinks cache other where
  sublist := hinFlight ▸ List.Sublist.refl _
  kept _ _ _ h := by rwa [hinFlight] at h
  given _ := Nat.le_of_eq (by rw [hgenerations])

/-- **What an operation does to the records of loads.** -/
inductive Turn (cache : Cache) : Cache → Prop where
  | shrunk {other : Cache} (h : Shrinks cache other) : Turn cache other
  | launched (key : String) : Turn cache (cache.launch key)

theorem Turn.refl (cache : Cache) : Turn cache cache := .shrunk (.of_eq rfl rfl)

theorem turn_request (cache : Cache) (path : Path) : Turn cache (cache.request path).2 := by
  rcases request_cases cache path with ⟨_, -, -, hr⟩ | ⟨-, _, -, hr⟩ | ⟨-, -, hr⟩ <;> rw [hr]
  · exact .refl cache
  · exact .refl cache
  · exact .launched path.key

/-- What takes the record of a key away. -/
theorem turn_erase {other : Cache} (hinFlight : other.inFlight = Table.erase cache.inFlight key)
    (hgenerations : other.generations = cache.generations) : Turn cache other := by
  refine .shrunk ⟨hinFlight ▸ Table.erase_sublist _ _,
    fun hdistinct k flight hflight => ?_, fun k => ?_⟩
  · rw [hinFlight, Table.get?_erase hdistinct] at hflight
    split at hflight
    · exact absurd hflight nofun
    · exact hflight
  · exact Nat.le_of_eq (by rw [hgenerations])

theorem turn_commit (cache : Cache) (path : Path) (generation : Nat) (outcome : LoadOutcome) :
    Turn cache (cache.commit path generation outcome) := by
  unfold Cache.commit
  split
  · exact turn_erase rfl rfl
  · exact .refl cache

theorem turn_release (cache : Cache) (path : Path) (generation : Nat) :
    Turn cache (cache.release path generation) := by
  unfold Cache.release
  split
  · exact turn_erase rfl rfl
  · exact .refl cache

theorem turn_tell (cache : Cache) (ticket : Nat) (ending : Ending) :
    Turn cache (cache.tell ticket ending) := .shrunk (.of_eq rfl rfl)

theorem turn_set (cache : Cache) (path : Path) (schema : Value) :
    Turn cache (cache.set path schema) := .shrunk (.of_eq rfl rfl)

theorem turn_seed (cache : Cache) (path : Path) (schema : Value) :
    Turn cache (cache.seed path schema) := by
  unfold Cache.seed
  split
  · exact .refl cache
  · exact turn_set cache path schema

theorem turn_evictWhere (cache : Cache) (doomed : Path → Bool) :
    Turn cache (cache.evictWhere doomed) := by
  refine .shrunk ⟨List.filter_sublist, fun _ key flight hflight => ?_, fun key => ?_⟩
  · rw [evictWhere, Table.get?_dropKeys] at hflight
    split at hflight
    · exact absurd hflight nofun
    · exact hflight
  · exact lastGeneration_le_foldl _ _ _

/-- A property of the cache that every operation keeps. -/
def Lasting (P : Cache → Prop) : Prop :=
  ∀ {cache other : Cache}, Turn cache other → P cache → P other

/-- No key gets two records. -/
theorem lasting_distinct : Lasting fun cache => Table.Distinct cache.inFlight := by
  intro cache other hturn hdistinct
  cases hturn with
  | shrunk h => exact hdistinct.sublist h.sublist
  | launched key => exact hdistinct.insert _ _

/-- A generation that was given out is never taken back. -/
theorem lasting_given (key : String) (generation : Nat) :
    Lasting fun cache => generation ≤ lastGeneration cache.generations key := by
  intro cache other hturn hgiven
  cases hturn with
  | shrunk h => exact Nat.le_trans hgiven (h.given key)
  | launched launched => exact Nat.le_trans hgiven (lastGeneration_le_advance _ _ _)

/-! ## Loads that were cut off -/

/-- **A load of this generation is cut off from the cache.** -/
structure Parted (cache : Cache) (key : String) (generation : Nat) : Prop where
  distinct : Table.Distinct cache.inFlight
  given : generation ≤ lastGeneration cache.generations key
  gone : cache.isCurrent key generation = false

namespace Parted

/-- **What is cut off stays cut off**: no new load gets the same generation. -/
theorem turn {other : Cache} (h : Parted cache key generation) (hturn : Turn cache other) :
    Parted other key generation where
  distinct := lasting_distinct hturn h.distinct
  given := lasting_given key generation hturn h.given
  gone := by
    refine Bool.eq_false_iff.mpr fun hcurrent => Bool.eq_false_iff.mp h.gone ?_
    obtain ⟨flight, hflight, hgeneration⟩ := isCurrent_iff.mp hcurrent
    cases hturn with
    | shrunk hshrinks =>
      exact isCurrent_iff.mpr ⟨flight, hshrinks.kept h.distinct hflight, hgeneration⟩
    | launched launched =>
      rw [launch, Table.get?_insert] at hflight
      split at hflight
      · rename_i hkey
        subst hkey
        obtain rfl := Option.some.inj hflight
        have hgiven := h.given
        rw [← hgeneration, nextFlight] at hgiven
        exact absurd hgiven (Nat.not_succ_le_self _)
      · exact isCurrent_iff.mpr ⟨flight, hflight, hgeneration⟩

/-- **The outcome of a load that is cut off is not filed.** -/
theorem commit_eq {path : Path} (h : Parted cache path.key generation) (outcome : LoadOutcome) :
    cache.commit path generation outcome = cache := by
  unfold Cache.commit
  rw [h.gone]
  rfl

/-- **Giving up a load that is cut off leaves the records alone.** -/
theorem release_eq {path : Path} (h : Parted cache path.key generation) :
    cache.release path generation = cache := by
  rw [Cache.release, h.gone]
  rfl

end Parted

theorem lasting_parted (key : String) (generation : Nat) :
    Lasting fun cache => Parted cache key generation := fun hturn h => h.turn hturn

/-- **An eviction cuts off the loads that it covers.** -/
theorem parted_evictWhere {path : Path} {doomed : Path → Bool} (hroot : Path.Rooted path)
    (hdoomed : doomed path = true) (hdistinct : Table.Distinct cache.inFlight)
    (hgiven : generation ≤ lastGeneration cache.generations path.key) :
    Parted (cache.evictWhere doomed) path.key generation where
  distinct := hdistinct.sublist List.filter_sublist
  given := Nat.le_trans hgiven (lastGeneration_le_foldl _ _ _)
  gone := by
    refine isCurrent_of_get?_eq_none ?_
    rw [evictWhere, Table.get?_dropKeys, hroot.parse_key, if_pos hdoomed]

end SchemaForms.Cache
