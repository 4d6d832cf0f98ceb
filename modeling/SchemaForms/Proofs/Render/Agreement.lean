import SchemaForms.Proofs.Cache.Eviction
import SchemaForms.Proofs.Render.Parametric

/-!
# Proofs/Render/Agreement — registries that agree on some paths

What a rendering finds out about a path is its editor, its schema and whether it is loading.  Two
registries are the `Same` at a path if they agree on these, and they `Agree` on a region if they are
the same at each path of the document in it.  The effects of rendering are confined: dropping below
a path leaves the rest as it was, and filing a schema leaves all other paths as they were.
-/

namespace SchemaForms

/-- A cache without its schemas: what is known about loads. -/
def Cache.bare (cache : Cache) : Cache := { cache with entries := [] }

theorem Cache.bare_seed (cache : Cache) (path : Path) (schema : Value) :
    (cache.seed path schema).bare = cache.bare := by
  unfold Cache.seed
  split <;> rfl

namespace Render

variable {a b c : Registry} {path other base steps : Path}

theorem Same.trans (hab : Same a b path) (hbc : Same b c path) : Same a c path :=
  ⟨hab.editor.trans hbc.editor, hab.schema.trans hbc.schema, hab.loading.trans hbc.loading⟩

/-- Two registries agree on the paths of the document in a region. -/
def Agree (region : Path → Prop) (a b : Registry) : Prop :=
  ∀ path, Path.Rooted path → region path → Same a b path

variable {region region' : Path → Prop}

theorem Agree.refl (region : Path → Prop) (a : Registry) : Agree region a a :=
  fun path _ _ => .refl a path

theorem Agree.trans (hab : Agree region a b) (hbc : Agree region b c) : Agree region a c :=
  fun path hroot hpath => (hab path hroot hpath).trans (hbc path hroot hpath)

theorem Agree.mono (h : Agree region a b) (hle : ∀ path, region' path → region path) :
    Agree region' a b := fun path hroot hpath => h path hroot (hle path hpath)

/-! ## Regions -/

/-- The paths at and below `base` followed by some steps, but for `base` itself. -/
def Beneath (base steps : Path) (path : Path) : Prop := base ++ steps <+: path ∧ path ≠ base

theorem downward_le (path : Path) : Downward fun p => path <+: p :=
  fun hle hpath => hpath.trans hle

theorem downward_beneath (base steps : Path) : Downward (Beneath base steps) := by
  rintro path below hle ⟨hpath, hne⟩
  refine ⟨hpath.trans hle, ?_⟩
  rintro rfl
  exact hne (hle.eq_of_length_le (((List.prefix_append below steps).trans hpath).length_le))

theorem beneath_of_le_append (hsteps : steps ≠ []) (h : base ++ steps <+: path) :
    Beneath base steps path := by
  refine ⟨h, ?_⟩
  rintro rfl
  have hlength := h.length_le
  rw [List.length_append] at hlength
  exact hsteps (List.length_eq_zero_iff.mp (by omega))

theorem not_beneath_self (base steps : Path) : ¬ Beneath base steps base := fun h => h.2 rfl

/-- Different steps from a path lead to different regions. -/
theorem disjoint_beneath {s t : Segment} (hne : s ≠ t) {rest : Path} (h : Beneath base [s] rest) :
    ¬ Beneath base [t] rest := by
  intro h'
  obtain ⟨x, hx⟩ := h.1
  obtain ⟨y, hy⟩ := h'.1
  rw [← hy, List.append_assoc, List.append_assoc] at hx
  exact hne (List.cons.inj (List.append_cancel_left hx)).1

/-! ## What the effects of rendering leave as it was -/

theorem peek?_dropWhere (registry : Registry) (doomed : Path → Bool) (hroot : Path.Rooted path) :
    (registry.dropWhere doomed).cache.peek? path
      = if doomed path then none else registry.cache.peek? path := by
  rw [Registry.peek?_dropWhere, hroot.parse_key]

/-- **What is dropped leaves the rest as it was.** -/
theorem same_dropWhere (registry : Registry) {doomed : Path → Bool}
    (hspared : doomed (Path.parse path.key) = false) :
    Same (registry.dropWhere doomed) registry path where
  editor := by
    rw [Registry.editor?_dropWhere, hspared]
    rfl
  schema := by
    rw [Registry.peek?_dropWhere, hspared]
    rfl
  loading := by
    change Option.isSome (Table.get? (Table.dropKeys registry.cache.inFlight fun key =>
      doomed (Path.parse key)) path.key) = _
    rw [Table.get?_dropKeys, hspared]
    rfl

/-- What is dropped below a path leaves alone what is not read as a path below. -/
theorem same_dropUnder_of_parse (registry : Registry) (hspared : ¬ other <+: Path.parse path.key) :
    Same (registry.dropUnder other) registry path :=
  same_dropWhere registry (Bool.eq_false_iff.mpr fun h => hspared (Path.startsWith_iff.mp h))

theorem same_dropUnder (registry : Registry) (hroot : Path.Rooted path)
    (hspared : ¬ other <+: path) :
    Same (registry.dropUnder other) registry path :=
  same_dropUnder_of_parse registry (by rwa [hroot.parse_key])

/-- The schema that is filed under a key where there is none. -/
theorem peek?_seed_key (cache : Cache) (path other : Path) (schema : Value) :
    (cache.seed other schema).peek? path
      = if other.key = path.key then some ((cache.peek? path).getD schema)
        else cache.peek? path := by
  unfold Cache.seed Cache.contains Table.contains Cache.peek?
  split
  · rename_i hthere
    obtain ⟨found, hfound⟩ := Option.isSome_iff_exists.mp hthere
    split
    · rename_i hkey
      rw [← hkey, hfound]
      rfl
    · rfl
  · rename_i hnone
    refine (Table.get?_insert cache.entries other.key path.key schema).trans ?_
    split
    · rename_i hkey
      rw [← hkey, Option.not_isSome_iff_eq_none.mp hnone]
      rfl
    · rfl

/-- The schema that is filed where there is none. -/
theorem peek?_seed (cache : Cache) (hroot : Path.Rooted path) (other : Path) (schema : Value) :
    (cache.seed other schema).peek? path
      = if other = path then some ((cache.peek? path).getD schema) else cache.peek? path := by
  rw [peek?_seed_key]
  by_cases hpath : other = path
  · rw [if_pos hpath, if_pos (congrArg Path.key hpath)]
  · rw [if_neg hpath, if_neg fun hkey => hpath (hroot.key_inj hkey)]

/-- A schema is not filed where there is one. -/
theorem seed_of_peek? {cache : Cache} {found : Value} (h : cache.peek? path = some found)
    (schema : Value) : cache.seed path schema = cache := by
  have hthere : cache.contains path = true := by
    have hget : Table.get? cache.entries path.key = some found := h
    rw [Cache.contains, Table.contains, hget]
    rfl
  rw [Cache.seed, if_pos hthere]

/-- **What is filed at a path leaves all others as they were.** -/
theorem same_seed (registry : Registry) (hroot : Path.Rooted path) (hne : other ≠ path)
    (schema : Value) :
    Same { registry with cache := registry.cache.seed other schema } registry path where
  editor := rfl
  schema := (peek?_seed registry.cache hroot other schema).trans (if_neg hne)
  loading := by
    change Table.contains (registry.cache.seed other schema).inFlight path.key = _
    unfold Cache.seed
    split <;> rfl

end Render

end SchemaForms
