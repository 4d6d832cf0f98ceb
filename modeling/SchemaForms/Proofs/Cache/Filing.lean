import SchemaForms.Proofs.Cache.Records

/-!
# Proofs/Cache/Filing — what loads leave

A load that ends takes its record along, and files its schema if it is on record until then
(`peek?_finish`, `get?_inFlight_finish`).  A load that is given up files nothing.  What ends as soon
as it began leaves its schema alone (`finish_launch`).
-/

namespace SchemaForms.Cache

variable {cache : Cache}

/-! ## The policy -/

theorem policy_finish (cache : Cache) (path : Path) (flight : Flight) (outcome : LoadOutcome) :
    (cache.finish path flight outcome).policy = cache.policy := by
  change (cache.commit path flight.generation outcome).policy = _
  unfold commit
  split <;> rfl

theorem policy_drop (cache : Cache) (path : Path) (flight : Flight) :
    (cache.drop path flight).policy = cache.policy := by
  change (cache.release path flight.generation).policy = _
  unfold release
  split <;> rfl

theorem policy_seed (cache : Cache) (path : Path) (schema : Value) :
    (cache.seed path schema).policy = cache.policy := by
  unfold seed
  split <;> rfl

/-! ## What is on record -/

/-- A load that begins is on record, and the other records stay. -/
theorem get?_inFlight_launch (cache : Cache) (key other : String) :
    Table.get? (cache.launch key).inFlight other
      = if key = other then some (cache.nextFlight key) else Table.get? cache.inFlight other :=
  Table.get?_insert _ _ _ _

/-- A load that was just launched is on record. -/
theorem isCurrent_launch (cache : Cache) (key : String) :
    (cache.launch key).isCurrent key (cache.nextFlight key).generation = true :=
  isCurrent_iff.mpr ⟨_, (get?_inFlight_launch cache key key).trans (if_pos rfl), rfl⟩

/-- **When a load is given up, its record goes, and no other.** -/
theorem get?_inFlight_release (hdistinct : Table.Distinct cache.inFlight) (path : Path)
    (generation : Nat) (other : String) :
    Table.get? (cache.release path generation).inFlight other =
      if path.key = other ∧ cache.isCurrent path.key generation = true then none
      else Table.get? cache.inFlight other := by
  unfold release
  by_cases hcurrent : cache.isCurrent path.key generation = true
  · rw [if_pos hcurrent]
    dsimp only
    rw [Table.get?_erase hdistinct]
    simp [hcurrent, eq_comm]
  · rw [if_neg hcurrent, if_neg fun h => hcurrent h.2]

/-- **When a load ends, its record goes, and no other.** -/
theorem get?_inFlight_finish (hdistinct : Table.Distinct cache.inFlight) (path : Path)
    (flight : Flight) (outcome : LoadOutcome) (other : String) :
    Table.get? (cache.finish path flight outcome).inFlight other =
      if path.key = other ∧ cache.isCurrent path.key flight.generation = true then none
      else Table.get? cache.inFlight other := by
  rw [← get?_inFlight_release hdistinct path flight.generation other,
    ← Callers.inFlight_commit cache path flight.generation outcome]
  rfl

/-! ## What is filed -/

/-- The schema that a load comes to. -/
def schemaOf? (outcome : LoadOutcome) : Option Value := outcome.toOption.join

/-- **A load that ends files its schema**, if it is on record. -/
theorem peek?_finish (cache : Cache) (path : Path) (flight : Flight) (outcome : LoadOutcome)
    (other : Path) : (cache.finish path flight outcome).peek? other =
      if path.key = other.key ∧ cache.isCurrent path.key flight.generation = true then
        (schemaOf? outcome).or (cache.peek? other)
      else cache.peek? other := by
  change Table.get? (cache.commit path flight.generation outcome).entries other.key = _
  unfold commit peek?
  by_cases hcurrent : cache.isCurrent path.key flight.generation = true
  · rw [if_pos hcurrent]
    rcases outcome with e | _ | schema
    · exact (ite_self _).symm
    · exact (ite_self _).symm
    · simp [Table.get?_insert, hcurrent, schemaOf?, Except.toOption]
  · rw [if_neg hcurrent, if_neg fun h => hcurrent h.2]

/-- A load that is given up files nothing. -/
theorem peek?_drop (cache : Cache) (path other : Path) (flight : Flight) :
    (cache.drop path flight).peek? other = cache.peek? other := by
  change Table.get? (cache.release path flight.generation).entries other.key = _
  unfold release
  split <;> rfl

theorem peek?_set (cache : Cache) (path : Path) (schema : Value) (other : Path) :
    (cache.set path schema).peek? other
      = if path.key = other.key then some schema else cache.peek? other :=
  Table.get?_insert _ _ _ _

/-! ## Loads that end at once -/

/-- **A load that ends at once is not on record**, and the other records stay. -/
theorem get?_inFlight_launch_finish (hdistinct : Table.Distinct cache.inFlight) (path : Path)
    (outcome : LoadOutcome) (other : String) :
    Table.get? ((cache.launch path.key).finish path (cache.nextFlight path.key) outcome).inFlight
      other = if path.key = other then none else Table.get? cache.inFlight other := by
  rw [get?_inFlight_finish (hdistinct.insert _ _), get?_inFlight_launch]
  by_cases hkey : path.key = other
  · rw [if_pos ⟨hkey, isCurrent_launch cache path.key⟩, if_pos hkey]
  · rw [if_neg fun h => hkey h.1, if_neg hkey, if_neg hkey]

/-- A load that ends at once files its schema. -/
theorem peek?_launch_finish (cache : Cache) (path : Path) (outcome : LoadOutcome) (other : Path) :
    ((cache.launch path.key).finish path (cache.nextFlight path.key) outcome).peek? other =
      if path.key = other.key then (schemaOf? outcome).or (cache.peek? other)
      else cache.peek? other := by
  rw [peek?_finish]
  by_cases hkey : path.key = other.key
  · rw [if_pos ⟨hkey, isCurrent_launch cache path.key⟩, if_pos hkey]
    rfl
  · rw [if_neg fun h => hkey h.1, if_neg hkey]
    rfl

/-- A load that is answered at once leaves its schema. -/
theorem peek?_finish_launch {path : Path} (hmissing : cache.peek? path = none)
    (outcome : LoadOutcome) (other : Path) :
    ((cache.launch path.key).finish path (cache.nextFlight path.key) outcome).peek? other
      = if path.key = other.key then schemaOf? outcome else cache.peek? other := by
  rw [peek?_launch_finish]
  refine ite_congr rfl (fun hkey => ?_) fun _ => rfl
  rw [peek?, ← hkey, ← peek?, hmissing, Option.or_none]

/-- A load that is answered at once leaves no load under way. -/
theorem inFlight_finish_launch (hidle : cache.inFlight = []) (path : Path) (outcome : LoadOutcome) :
    ((cache.launch path.key).finish path (cache.nextFlight path.key) outcome).inFlight = [] := by
  have hinFlight : (cache.launch path.key).inFlight = [(path.key, cache.nextFlight path.key)] := by
    rw [launch, hidle]
    rfl
  unfold finish commit
  rw [if_pos (isCurrent_launch cache path.key)]
  change Table.erase (cache.launch path.key).inFlight path.key = []
  rw [hinFlight]
  simp [Table.erase]

/-- **What a load that is answered at once leaves**: its schema, and no load under way. -/
theorem finish_launch (hidle : cache.inFlight = []) {path : Path}
    (hmissing : cache.peek? path = none)
    (outcome : LoadOutcome) :
    let finished := (cache.launch path.key).finish path (cache.nextFlight path.key) outcome
    finished.policy = cache.policy ∧ finished.inFlight = [] ∧
      ∀ other, Path.Rooted other →
        finished.peek? other = if path = other then schemaOf? outcome else cache.peek? other := by
  refine ⟨policy_finish _ _ _ _, inFlight_finish_launch hidle path outcome, fun other hother => ?_⟩
  rw [peek?_finish_launch hmissing]
  exact ite_congr (propext ⟨hother.key_inj, congrArg Path.key⟩) (fun _ => rfl) fun _ => rfl

end SchemaForms.Cache
