import SchemaForms.Cache.Basic
import SchemaForms.Proofs.Cache.Steps
import SchemaForms.Proofs.Path.Regions

/-!
# Proofs/Cache/Sweeping — an eviction takes out what it covers, and nothing else

Everything is filed under written forms of paths, and an eviction finds what it covers by reading them
back.  `Takes` says what is left when the keys of a certain kind were taken out of a cache; it holds of
an eviction in one piece and of one that goes key by key, and two of them one after the other take out
the keys of both kinds (`Takes.trans`).  So a sweep that comes by the same keys again and again comes to
the same as one eviction (`takes_sweepFrom`).

As long as every key is the written form of a legible path, an eviction is exact for all paths
(`evictions_are_exact`).  A path with a first key that is not empty is legible
(`Path.legible_of_first_key`), and no other ones are filed in a run in which only legible paths are
used (`wellFiled_run`).
-/

namespace SchemaForms

namespace Cache

variable {cache before middle after other : Cache} {first second doomed : String → Bool} {path : Path}

/-! ## What is taken out -/

/-- **The keys of a certain kind were taken out**, with a new generation for each load that went, and
nothing else happened. -/
structure Takes (before after : Cache) (doomed : String → Bool) : Prop where
  policy : after.policy = before.policy
  entries : after.entries = Table.dropKeys before.entries doomed
  inFlight : after.inFlight = Table.dropKeys before.inFlight doomed
  loads : after.loads = before.loads
  given : ∀ key, lastGeneration after.generations key = lastGeneration before.generations key
    + if doomed key ∧ Table.contains before.inFlight key then 1 else 0

/-- Nothing is taken out. -/
theorem Takes.refl (cache : Cache) : Takes cache cache fun _ => false where
  policy := rfl
  entries := (List.filter_eq_self.mpr fun _ _ => rfl).symm
  inFlight := (List.filter_eq_self.mpr fun _ _ => rfl).symm
  loads := rfl
  given _ := by simp

/-- **What is taken out twice is gone after the first time.** -/
theorem Takes.trans (h : Takes before middle first) (h' : Takes middle after second) :
    Takes before after fun key => first key || second key where
  policy := h'.policy.trans h.policy
  entries := by rw [h'.entries, h.entries, Table.dropKeys_dropKeys]
  inFlight := by rw [h'.inFlight, h.inFlight, Table.dropKeys_dropKeys]
  loads := h'.loads.trans h.loads
  given key := by
    have hleft : Table.contains middle.inFlight key
        = (!first key && Table.contains before.inFlight key) := by
      rw [Table.contains, h.inFlight, Table.get?_dropKeys]
      cases first key <;> rfl
    rw [h'.given, h.given, hleft, Nat.add_assoc]
    cases first key <;> simp

/-- It is all the same what would happen to keys under which nothing is filed. -/
theorem Takes.congr (h : Takes before after first)
    (hsame : ∀ key ∈ before.filedKeys, first key = second key) : Takes before after second where
  policy := h.policy
  entries := h.entries.trans
    (Table.dropKeys_congr fun key hkey => hsame key (List.mem_append_left _ hkey))
  inFlight := h.inFlight.trans
    (Table.dropKeys_congr fun key hkey => hsame key (List.mem_append_right _ hkey))
  loads := h.loads
  given key := by
    rw [h.given]
    by_cases hloading : Table.contains before.inFlight key = true
    · rw [hsame key (List.mem_append_right _ (Table.contains_eq_true_iff.mp hloading))]
    · simp [hloading]

/-- **Steps that take keys out, one after the other**, take out what any of them does. -/
theorem takes_foldl {α : Type} {step : Cache → α → Cache} {takes : α → String → Bool}
    (h : ∀ cache a, Takes cache (step cache a) (takes a)) (items : List α) (cache : Cache) :
    Takes cache (items.foldl step cache) fun key => items.any (takes · key) := by
  induction items generalizing cache with
  | nil => exact .refl cache
  | cons a items ih => exact (h cache a).trans (ih (step cache a))

/-! ## Evictions -/

theorem lastGeneration_foldl_advance (keys : List String) (generations : List (String × Nat))
    (other : String) : lastGeneration (keys.foldl advance generations) other
      = lastGeneration generations other + keys.count other := by
  induction keys generalizing generations with
  | nil => rfl
  | cons key keys ih =>
    rw [List.foldl_cons, ih, lastGeneration_advance, List.count_cons]
    by_cases hkey : key = other
    · subst hkey
      simp only [↓reduceIte, beq_self_eq_true]
      omega
    · simp [hkey]

/-- **An eviction in one piece** takes out what it covers. -/
theorem takes_evictWhere (hdistinct : Table.Distinct cache.inFlight) (covered : Path → Bool) :
    Takes cache (cache.evictWhere covered) fun key => covered (Path.parse key) where
  policy := rfl
  entries := rfl
  inFlight := rfl
  loads := rfl
  given key := by
    change lastGeneration (((Table.keys cache.inFlight).filter _).foldl advance _) key = _
    rw [lastGeneration_foldl_advance, List.Nodup.count (hdistinct.filter _)]
    simp only [List.mem_filter, Table.contains_eq_true_iff, and_comm]

theorem takes_takeOut (cache : Cache) (key : String) :
    Takes cache (cache.takeOut key) fun other => decide (other = key) where
  policy := rfl
  entries := rfl
  inFlight := rfl
  loads := rfl
  given other := by
    unfold takeOut
    by_cases hkey : other = key
    · subst hkey
      by_cases hloading : Table.contains cache.inFlight other = true <;> simp [hloading]
    · split <;> simp [hkey, Ne.symm hkey]

/-- **An eviction key by key** takes out what the one in one piece does. -/
theorem takes_sweep (cache : Cache) (path : Path) :
    Takes cache (cache.sweep path) fun key => Path.startsWith (Path.parse key) path := by
  refine (takes_foldl takes_takeOut _ cache).congr fun key hkey => ?_
  rw [Bool.eq_iff_iff]
  simp [hkey]

/-- Whether the sweep of a sequence takes a key out on account of another. -/
def sweptBy (array : Path) (index : Nat) (key other : String) : Bool :=
  throughItem array
    (fun i => decide (index ≤ i) && Path.startsWith (Path.parse other) (array.item i))
    (Path.parse key)

theorem takes_sweepItem (array : Path) (index : Nat) (cache : Cache) (key : String) :
    Takes cache (sweepItem array index cache key) (sweptBy array index key) := by
  unfold sweepItem
  split
  · rename_i i hstep
    split
    · rename_i hcovered
      refine (takes_sweep cache (array.item i)).congr fun other _ => ?_
      simp [sweptBy, throughItem, hstep, hcovered]
    · rename_i hspared
      refine (Takes.refl cache).congr fun other _ => ?_
      simp only [sweptBy, throughItem, hstep]
      grind
  · rename_i hstep
    refine (Takes.refl cache).congr fun other _ => ?_
    unfold sweptBy throughItem
    split
    · rename_i i hindex
      exact absurd hindex (hstep i)
    · rw [Bool.and_false]

/-- **A sweep of a sequence** takes out what the eviction in one piece does, however often it comes by
the same element. -/
theorem takes_sweepFrom (cache : Cache) (array : Path) (index : Nat) :
    Takes cache (cache.sweepFrom array index) fun key =>
      throughItem array (fun i => decide (index ≤ i)) (Path.parse key) := by
  refine (takes_foldl (takes_sweepItem array index) cache.filedKeys cache).congr fun key hkey => ?_
  rw [Bool.eq_iff_iff, List.any_eq_true]
  constructor
  · rintro ⟨other, -, hswept⟩
    obtain ⟨i, -, hboth⟩ := throughItem_iff.mp hswept
    obtain ⟨hindex, hbelow⟩ := Bool.and_eq_true_iff.mp hboth
    exact throughItem_iff.mpr ⟨i, Path.startsWith_iff.mp hbelow, hindex⟩
  · intro hthrough
    obtain ⟨i, hbelow, hindex⟩ := throughItem_iff.mp hthrough
    exact ⟨key, hkey, throughItem_iff.mpr
      ⟨i, hbelow, Bool.and_eq_true_iff.mpr ⟨hindex, Path.startsWith_iff.mpr hbelow⟩⟩⟩

/-! ## What is filed at a path -/

/-- Everything in the cache is filed under the written form of a legible path, and no path has two
records. -/
structure WellFiled (cache : Cache) : Prop where
  distinct : Table.Distinct cache.inFlight
  legible : ∀ key ∈ cache.filedKeys, ∃ path : Path, path.Legible ∧ path.key = key

/-- The schema and the record that are filed for a path. -/
def filedAt (cache : Cache) (path : Path) : Option Value × Option Flight :=
  (cache.peek? path, Table.get? cache.inFlight path.key)

/-- **Exactly what is filed for certain paths is gone**; for all others, and for those who wait, all
is as it was. -/
structure Clears (before after : Cache) (covered : Path → Prop) : Prop where
  gone : ∀ path, covered path → after.filedAt path = (none, none)
  kept : ∀ path, ¬ covered path → after.filedAt path = before.filedAt path
  told : after.loads = before.loads

/-- Nothing tells two caches apart. -/
structure Alike (cache other : Cache) : Prop where
  policy : cache.policy = other.policy
  entries : cache.entries = other.entries
  inFlight : cache.inFlight = other.inFlight
  loads : cache.loads = other.loads
  given : ∀ key, lastGeneration cache.generations key = lastGeneration other.generations key

/-- Nothing is filed for a path whose written form is not in use. -/
theorem filedAt_of_not_mem (h : path.key ∉ cache.filedKeys) : cache.filedAt path = (none, none) := by
  obtain ⟨hentries, hinFlight⟩ := not_or.mp (mt List.mem_append.mpr h)
  exact Prod.ext (Table.get?_eq_none.mpr hentries) (Table.get?_eq_none.mpr hinFlight)

/-- **What is filed for a path is filed for a legible one**, which is the path that its key reads as. -/
theorem WellFiled.parse_key_or (h : cache.WellFiled) (path : Path) :
    Path.parse path.key = path ∨ cache.filedAt path = (none, none) := by
  by_cases hfiled : path.key ∈ cache.filedKeys
  · obtain ⟨found, hlegible, hkey⟩ := h.legible path.key hfiled
    obtain rfl := hlegible.unmistakable path hkey.symm
    exact .inl hlegible.parse_key
  · exact .inr (filedAt_of_not_mem hfiled)

/-- What is filed for a path after keys were taken out. -/
theorem Takes.filedAt (h : Takes before after doomed) (path : Path) :
    after.filedAt path = if doomed path.key then (none, none) else before.filedAt path := by
  rw [Cache.filedAt, Cache.filedAt, peek?, peek?, h.entries, h.inFlight, Table.get?_dropKeys,
    Table.get?_dropKeys]
  split <;> rfl

/-- **Taking out the keys that are read as certain paths clears these paths.** -/
theorem Takes.clears (hfiled : before.WellFiled) {covered : Path → Bool} {region : Path → Prop}
    (h : Takes before after fun key => covered (Path.parse key))
    (hregion : ∀ path, covered path = true ↔ region path) : Clears before after region where
  gone path hpath := by
    rw [h.filedAt]
    rcases hfiled.parse_key_or path with hparse | hnone
    · rw [hparse, if_pos ((hregion path).mpr hpath)]
    · rw [hnone, ite_self]
  kept path hpath := by
    rw [h.filedAt]
    rcases hfiled.parse_key_or path with hparse | hnone
    · rw [hparse, if_neg fun hcovered => hpath ((hregion path).mp hcovered)]
    · rw [hnone, ite_self]
  told := h.loads

/-- Two ways to take out the same keys come to the same. -/
theorem Takes.alike (h : Takes before after doomed)
    (h' : Takes before other doomed) : Alike after other where
  policy := h.policy.trans h'.policy.symm
  entries := h.entries.trans h'.entries.symm
  inFlight := h.inFlight.trans h'.inFlight.symm
  loads := h.loads.trans h'.loads.symm
  given key := (h.given key).trans (h'.given key).symm

/-! ## Caches that are well filed -/

/-- A cache in which something was filed under one more key at most. -/
theorem filedKeys_subset {key : String}
    (hentries : Table.keys other.entries ⊆ key :: Table.keys cache.entries)
    (hinFlight : Table.keys other.inFlight ⊆ key :: Table.keys cache.inFlight) :
    other.filedKeys ⊆ key :: cache.filedKeys := by
  intro found hfound
  rcases List.mem_append.mp hfound with hfound | hfound
  · rcases List.mem_cons.mp (hentries hfound) with rfl | hold
    · exact List.mem_cons_self
    · exact List.mem_cons_of_mem _ (List.mem_append_left _ hold)
  · rcases List.mem_cons.mp (hinFlight hfound) with rfl | hold
    · exact List.mem_cons_self
    · exact List.mem_cons_of_mem _ (List.mem_append_right _ hold)

/-- **A turn that files nothing under a new key but a legible path's** keeps a cache well filed. -/
theorem WellFiled.turn (h : cache.WellFiled) (hturn : Turn cache other) (hpath : path.Legible)
    (hkeys : other.filedKeys ⊆ path.key :: cache.filedKeys) : other.WellFiled where
  distinct := lasting_distinct hturn h.distinct
  legible key hkey := by
    rcases List.mem_cons.mp (hkeys hkey) with rfl | hold
    · exact ⟨path, hpath, rfl⟩
    · exact h.legible key hold

theorem WellFiled.empty (policy : CachePolicy) : (Cache.empty policy).WellFiled :=
  ⟨List.nodup_nil, fun _ hkey => absurd hkey List.not_mem_nil⟩

theorem WellFiled.request (h : cache.WellFiled) (hpath : path.Legible) :
    (cache.request path).2.WellFiled := by
  refine h.turn (turn_request cache path) hpath ?_
  rcases request_cases cache path with ⟨_, -, -, hr⟩ | ⟨-, _, -, hr⟩ | ⟨-, -, hr⟩ <;> rw [hr]
  · exact List.subset_cons_self _ _
  · exact List.subset_cons_self _ _
  · exact filedKeys_subset (List.subset_cons_self _ _) (Table.keys_insert_subset _ _ _)

theorem WellFiled.set (h : cache.WellFiled) (hpath : path.Legible) (schema : Value) :
    (cache.set path schema).WellFiled :=
  h.turn (turn_set cache path schema) hpath
    (filedKeys_subset (Table.keys_insert_subset _ _ _) (List.subset_cons_self _ _))

theorem WellFiled.seed (h : cache.WellFiled) (hpath : path.Legible) (schema : Value) :
    (cache.seed path schema).WellFiled := by
  unfold Cache.seed
  split
  · exact h
  · exact h.set hpath schema

theorem WellFiled.release (h : cache.WellFiled) (hpath : path.Legible) (generation : Nat) :
    (cache.release path generation).WellFiled := by
  refine h.turn (turn_release cache path generation) hpath ?_
  unfold Cache.release
  split
  · exact filedKeys_subset (List.subset_cons_self _ _)
      (List.subset_cons_of_subset _ (Table.keys_subset (Table.erase_sublist _ _)))
  · exact List.subset_cons_self _ _

theorem WellFiled.commit (h : cache.WellFiled) (hpath : path.Legible) (generation : Nat)
    (outcome : LoadOutcome) : (cache.commit path generation outcome).WellFiled := by
  refine h.turn (turn_commit cache path generation outcome) hpath ?_
  unfold Cache.commit
  split
  · refine filedKeys_subset ?_
      (List.subset_cons_of_subset _ (Table.keys_subset (Table.erase_sublist _ _)))
    dsimp only
    split
    · exact Table.keys_insert_subset _ _ _
    · exact List.subset_cons_self _ _
  · exact List.subset_cons_self _ _

theorem WellFiled.evictWhere (h : cache.WellFiled) (doomed : Path → Bool) :
    (cache.evictWhere doomed).WellFiled where
  distinct := h.distinct.sublist List.filter_sublist
  legible key hkey := by
    refine h.legible key ?_
    rcases List.mem_append.mp hkey with hentry | hflight
    · exact List.mem_append_left _ (Table.keys_subset List.filter_sublist hentry)
    · exact List.mem_append_right _ (Table.keys_subset List.filter_sublist hflight)

end Cache

/-! ## Runs over legible paths -/

namespace Callers

open Cache (Caller)

variable {callers next : Callers} {event : Event}

/-- The path for which an event may file something. -/
def Event.filing? : Event → Option Path
  | .call path | .set path _ | .seed path _ => some path
  | _ => none

/-- A well filed cache, and calls that leave it so. -/
structure WellFiled (callers : Callers) : Prop where
  cache : callers.cache.WellFiled
  paths : ∀ (i : Nat) (caller : Caller), callers.all[i]? = some caller → caller.path.Legible

theorem Change.cache_wellFiled (h : Change callers event next) (hfiled : callers.WellFiled)
    (hlegible : ∀ path, event.filing? = some path → path.Legible) : next.cache.WellFiled := by
  cases h with
  | idle => exact hfiled.cache
  | entered path => exact hfiled.cache.request (hlegible path rfl)
  | finished outcome hcaller => exact hfiled.cache.commit (hfiled.paths _ _ hcaller) _ outcome
  | released hcaller => exact hfiled.cache.release (hfiled.paths _ _ hcaller) _
  | left => exact hfiled.cache
  | told => exact ⟨hfiled.cache.distinct, hfiled.cache.legible⟩
  | answered => exact hfiled.cache
  | filed path schema => exact hfiled.cache.set (hlegible path rfl) schema
  | seeded path schema => exact hfiled.cache.seed (hlegible path rfl) schema
  | evicted => exact hfiled.cache.evictWhere _

/-- **A step that uses a legible path** keeps the cache well filed. -/
theorem WellFiled.step (hfiled : callers.WellFiled) (event : Event)
    (hlegible : ∀ path, event.filing? = some path → path.Legible) :
    (callers.step event).WellFiled where
  cache := (change_step callers event).cache_wellFiled hfiled hlegible
  paths i after hafter := by
    rcases (change_step callers event).origin hafter with
      ⟨before, hbefore, hsame⟩ | ⟨path, rfl, -, rfl⟩
    · rw [hsame.path]
      exact hfiled.paths i before hbefore
    · have hpath : (Caller.new path (callers.cache.request path).1).path = path := by
        unfold Caller.new
        split <;> rfl
      rw [hpath]
      exact hlegible path rfl

theorem WellFiled.run (hfiled : callers.WellFiled) {events : List Event}
    (hlegible : ∀ event ∈ events, ∀ path, event.filing? = some path → path.Legible) :
    (callers.run events).WellFiled := by
  induction events generalizing callers with
  | nil => exact hfiled
  | cons event events ih =>
    obtain ⟨hevent, hevents⟩ := List.forall_mem_cons.mp hlegible
    exact ih (hfiled.step event hevent) hevents

/-- **Whatever is called, filed and evicted, by however many callers, a cache stays well filed** as
long as the paths are legible. -/
theorem wellFiled_run (policy : CachePolicy) {events : List Event}
    (hlegible : ∀ event ∈ events, ∀ path, event.filing? = some path → path.Legible) :
    ((start policy).run events).cache.WellFiled := by
  have hstart : (start policy).WellFiled := ⟨.empty policy, fun _ _ h => by simp [start] at h⟩
  exact (hstart.run hlegible).cache

end Callers

/-! ## Evictions are exact -/

namespace Cache

/-- **Evictions are exact.**  When everything is filed under legible paths, an eviction clears the
paths at and below its own, and the one of a sequence from an index on clears the paths at and below
those elements, and neither touches anything else.  Taking out key by key what a list of the keys
shows, and coming by elements that are gone already, comes to the same. -/
theorem evictions_are_exact (cache : Cache) (hfiled : cache.WellFiled) :
    (∀ path : Path,
      Clears cache (cache.evict path) (path <+: ·) ∧ Alike (cache.sweep path) (cache.evict path)) ∧
    ∀ (array : Path) (index : Nat),
      Clears cache (cache.evictFrom array index) (fun path => ∃ i, index ≤ i ∧ array.item i <+: path) ∧
        Alike (cache.sweepFrom array index) (cache.evictFrom array index) := by
  refine ⟨fun path => ?_, fun array index => ?_⟩
  · have htakes := takes_evictWhere hfiled.distinct fun p => Path.startsWith p path
    exact ⟨htakes.clears hfiled fun _ => Path.startsWith_iff, (takes_sweep cache path).alike htakes⟩
  · have htakes := takes_evictWhere hfiled.distinct
      (throughItem array fun i => decide (index ≤ i))
    refine ⟨htakes.clears hfiled fun path => throughItem_iff.trans ?_,
      (takes_sweepFrom cache array index).alike htakes⟩
    exact exists_congr fun i => by rw [decide_eq_true_iff, and_comm]

/-- What evictions clear and keep next to keys made of structural characters, a key spelled like an
index, a key that another one begins with, and an empty key. -/
theorem evictions_are_exact_spelled :
    let list := Path.root.child "list"
    let cache := (((((((Cache.empty .reuse).set ((Path.root.child "a.b").item 0) .null).set
      (((Path.root.child "a").child "b").item 0) .null).set (list.child "1") .null).set
      (Path.root.child "list[1]") .null).set (Path.root.child "listing") .null).set
      ((list.item 1).child "") .null).request (list.item 2) |>.2
    cache.WellFiled ∧
      (cache.evict (Path.root.child "a")).filedAt ((Path.root.child "a.b").item 0)
        = (some .null, none) ∧
      (cache.evict (Path.root.child "a")).filedAt (((Path.root.child "a").child "b").item 0)
        = (none, none) ∧
      (cache.evictFrom list 1).filedAt (list.child "1") = (some .null, none) ∧
      (cache.evictFrom list 1).filedAt (Path.root.child "list[1]") = (some .null, none) ∧
      (cache.evictFrom list 1).filedAt (Path.root.child "listing") = (some .null, none) ∧
      (cache.evictFrom list 1).filedAt ((list.item 1).child "") = (none, none) ∧
      cache.filedAt (list.item 2) = (none, some ⟨1, 0⟩) ∧
      (cache.evictFrom list 1).filedAt (list.item 2) = (none, none) := by
  intro list cache
  let events : List Callers.Event := [.set ((Path.root.child "a.b").item 0) .null,
    .set (((Path.root.child "a").child "b").item 0) .null, .set (list.child "1") .null,
    .set (Path.root.child "list[1]") .null, .set (Path.root.child "listing") .null,
    .set ((list.item 1).child "") .null, .call (list.item 2)]
  have hrooted : ∀ event ∈ events, ∀ path, event.filing? = some path → path.Rooted := by decide
  have hfiled : cache.WellFiled := Callers.wellFiled_run .reuse fun event hevent path hpath =>
    (hrooted event hevent path hpath).legible
  have haside : ∀ key : String, ¬ ∃ i, 1 ≤ i ∧ list.item i <+: list.child key := by
    rintro key ⟨i, -, hle⟩
    simp [Path.item, Path.child] at hle
  have hbeside : ∀ key : String, key ≠ "list" →
      ¬ ∃ i, 1 ≤ i ∧ list.item i <+: Path.root.child key := by
    rintro key hne ⟨i, -, hle⟩
    simp [list, Path.item, Path.child, Path.root] at hle
  obtain ⟨hevict, hevictFrom⟩ := evictions_are_exact cache hfiled
  have ha := (hevict (Path.root.child "a")).1
  have hlist := (hevictFrom list 1).1
  refine ⟨hfiled, ?_, ha.gone _ (by decide), ?_, ?_, ?_, hlist.gone _ ⟨1, by decide, by decide⟩, ?_,
    hlist.gone _ ⟨2, by decide, by decide⟩⟩
  · exact (ha.kept _ (by decide)).trans (by decide +kernel)
  · exact (hlist.kept _ (haside "1")).trans (by decide +kernel)
  · exact (hlist.kept _ (hbeside "list[1]" (by decide))).trans (by decide +kernel)
  · exact (hlist.kept _ (hbeside "listing" (by decide))).trans (by decide +kernel)
  · decide +kernel

end Cache

end SchemaForms
