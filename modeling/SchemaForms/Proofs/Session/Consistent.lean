import SchemaForms.Proofs.Render.Agreement
import SchemaForms.Proofs.Render.Places
import SchemaForms.Proofs.Session.Actions

/-!
# Proofs/Session/Consistent — every schema that is filed belongs where it is

`Consistent` is the invariant of a session whose schemas come from a catalog with fixed answers.  A
schema is filed at a path only as long as the schema of a module above it puts a module there; and
if that is a block, the schema is the catalog's answer to the name that the editor of the path asked
for.  What is above a path cannot go without the path, so that dropping keeps this; and an editor
that goes on keeps the name that it asked for.
-/

namespace SchemaForms.Session

open Render (Place Same placeAt)
open Schema (Proper)

variable {maxDepth : Nat} {answers : String → Except FetchError Catalog.BlockSchema}
variable {registry : Registry} {path : Path}

/-- A module above a path puts a place there. -/
def Hosted (maxDepth : Nat) (registry : Registry) (path : Path) (place : Place) : Prop :=
  ∃ base steps host, path = base ++ steps ∧ Path.Rooted base ∧
    registry.cache.peek? base = some host ∧ placeAt maxDepth host steps = some place

/-- The editor of a path asked for a block, and the catalog answered with a schema. -/
structure Asked (answers : String → Except FetchError Catalog.BlockSchema) (registry : Registry)
    (path : Path) (category : Category) (schema : Value) : Prop where
  /-- The editor took the name from the instance. -/
  derived : ∃ state name found, registry.editor? path = some state ∧
    state.descriptor = some (.block category) ∧ state.name = some name ∧
    answers name = .ok found ∧ found.schema = schema

/-- **Why a schema is filed at a place.** -/
def Explains (answers : String → Except FetchError Catalog.BlockSchema) (registry : Registry)
    (path : Path) (schema : Value) : Place → Prop
  | .inline inner => schema = inner
  | .block category => Asked answers registry path category schema

/-- **Every schema that is filed belongs where it is**, and no load is under way. -/
structure Consistent (maxDepth : Nat) (answers : String → Except FetchError Catalog.BlockSchema)
    (registry : Registry) : Prop where
  policy : registry.cache.policy = .reuse
  idle : registry.cache.inFlight = []
  /-- The editor of the whole document has its schema at hand, or was made anew. -/
  top : ∀ state, registry.editor? Path.root = some state →
    state.descriptor = none ∨ ∃ schema, state.descriptor = some (.inline schema) ∧ Proper schema
  proper : ∀ {path : Path} {schema : Value}, Path.Rooted path →
    registry.cache.peek? path = some schema → Proper schema
  filed : ∀ {path : Path} {schema : Value}, Path.Rooted path → path ≠ Path.root →
    registry.cache.peek? path = some schema →
      ∃ place, Hosted maxDepth registry path place ∧ Explains answers registry path schema place

/-! ## Places -/

/-- What is below a path of the document is not the root. -/
theorem append_ne_root {base steps : Path} (hbase : Path.Rooted base) (hsteps : steps ≠ []) :
    base ++ steps ≠ Path.root := by
  intro hroot
  have hlength := congrArg List.length hroot
  have hbaseLength : 1 ≤ base.length := hbase.under.length_le
  rw [List.length_append, show Path.root.length = 1 from rfl] at hlength
  exact hsteps (List.length_eq_zero_iff.mp (by omega))

theorem steps_ne_nil {steps : Path} {host : Value} {place : Place}
    (h : placeAt maxDepth host steps = some place) : steps ≠ [] := by
  rintro rfl
  cases h

/-- A hosted path is not the root. -/
theorem Hosted.ne_root {place : Place} (h : Hosted maxDepth registry path place) :
    path ≠ Path.root := by
  obtain ⟨base, steps, host, rfl, hbase, -, hplace⟩ := h
  exact append_ne_root hbase (steps_ne_nil hplace)

/-- Seen from the same number of steps above, a path is one place. -/
theorem place_unique {base base' steps steps' : Path} {host host' : Value} {place place' : Place}
    (hhost : registry.cache.peek? base = some host) (hhost' : registry.cache.peek? base' = some host')
    (hplace : placeAt maxDepth host steps = some place)
    (hplace' : placeAt maxDepth host' steps' = some place')
    (hpath : base ++ steps = base' ++ steps') (hlength : steps.length = steps'.length) :
    place = place' := by
  obtain ⟨rfl, rfl⟩ := List.append_inj' hpath hlength
  obtain rfl := Option.some.inj (hhost.symm.trans hhost')
  exact Option.some.inj (hplace.symm.trans hplace')

/-- **A path that holds modules as the elements of its value is no module itself.** -/
theorem Consistent.not_filed (h : Consistent maxDepth answers registry) {base : Path} {key : String}
    {i : Nat} {host : Value} {place : Place} (hhost : registry.cache.peek? base = some host)
    (hplace : placeAt maxDepth host [.key key, .index i] = some place) (hbase : Path.Rooted base)
    (hinner : Path.Rooted (base ++ [.key key])) :
    registry.cache.peek? (base ++ [.key key]) = none := by
  cases hfound : registry.cache.peek? (base ++ [.key key]) with
  | none => rfl
  | some inner =>
    obtain ⟨other, ⟨base', steps, host', hpath, -, hhost', hother⟩, -⟩ :=
      h.filed hinner (append_ne_root hbase (List.cons_ne_nil _ _)) hfound
    have hlast := congrArg List.getLast? hpath
    rcases Render.placeAt_cases hother with ⟨key', rfl⟩ | ⟨key', i', rfl⟩ | ⟨i', rfl⟩
    · obtain ⟨rfl, hkey⟩ := List.append_inj' hpath rfl
      obtain rfl := Segment.key.inj (List.cons.inj hkey).1
      obtain rfl := Option.some.inj (hhost.symm.trans hhost')
      rw [Render.placeAt_item_eq_none hother] at hplace
      cases hplace
    · simp at hlast
    · simp at hlast

/-- **A path is one place.** -/
theorem Consistent.hosted_unique (h : Consistent maxDepth answers registry) {place place' : Place}
    (hplace : Hosted maxDepth registry path place) (hplace' : Hosted maxDepth registry path place') :
    place = place' := by
  obtain ⟨base, steps, host, rfl, hbase, hhost, hsteps⟩ := hplace
  obtain ⟨base', steps', host', hpath, hbase', hhost', hsteps'⟩ := hplace'
  have hlast := congrArg List.getLast? hpath
  have hsame := place_unique hhost hhost' hsteps hsteps' hpath
  -- The last step tells a member from an element, and an element is one of a single module.
  rcases Render.placeAt_cases hsteps with ⟨key, rfl⟩ | ⟨key, i, rfl⟩ | ⟨i, rfl⟩ <;>
    rcases Render.placeAt_cases hsteps' with ⟨key', rfl⟩ | ⟨key', i', rfl⟩ | ⟨i', rfl⟩
  · exact hsame rfl
  · simp at hlast
  · simp at hlast
  · simp at hlast
  · exact hsame rfl
  · have hsplit : (base ++ [.key key]) ++ [.index i] = base' ++ [.index i'] := by simpa using hpath
    obtain ⟨rfl, -⟩ := List.append_inj' hsplit rfl
    exact absurd ((h.not_filed hhost hsteps hbase hbase').symm.trans hhost') nofun
  · simp at hlast
  · have hsplit : base ++ [.index i] = (base' ++ [.key key']) ++ [.index i'] := by simpa using hpath
    obtain ⟨rfl, -⟩ := List.append_inj' hsplit rfl
    exact absurd ((h.not_filed hhost' hsteps' hbase' hbase).symm.trans hhost) nofun
  · exact hsame rfl

/-! ## What keeps the invariant -/

/-- Where nothing is filed, everything belongs where it is. -/
theorem consistent_empty (maxDepth : Nat)
    (answers : String → Except FetchError Catalog.BlockSchema) :
    Consistent maxDepth answers (.empty .reuse) where
  policy := rfl
  idle := rfl
  top _ hstate := absurd hstate nofun
  proper _ hschema := absurd hschema nofun
  filed _ _ hschema := absurd hschema nofun

/-- A place stays hosted as long as the schema above it stays. -/
theorem Hosted.of_same {other : Registry} {place : Place}
    (h : Hosted maxDepth registry path place)
    (hsame : ∀ base, base <+: path → Path.Rooted base → ∀ host,
      registry.cache.peek? base = some host → other.cache.peek? base = some host) :
    Hosted maxDepth other path place := by
  obtain ⟨base, steps, host, rfl, hbase, hhost, hplace⟩ := h
  exact ⟨base, steps, host, rfl, hbase,
    hsame base (List.prefix_append _ _) hbase host hhost, hplace⟩

/-- An explanation holds as long as the editor of the path stays. -/
theorem Explains.of_editor {other : Registry} {schema : Value} {place : Place}
    (h : Explains answers registry path schema place)
    (hsame : other.editor? path = registry.editor? path) :
    Explains answers other path schema place := by
  cases place with
  | inline inner => exact h
  | block category =>
    obtain ⟨state, name, found, hstate, hrest⟩ := h.derived
    exact ⟨state, name, found, hsame.trans hstate, hrest⟩

/-- **Dropping keeps the invariant.** -/
theorem Consistent.dropWhere (h : Consistent maxDepth answers registry) {doomed : Path → Bool}
    (hbelow : DropsBelow doomed) : Consistent maxDepth answers (registry.dropWhere doomed) where
  policy := h.policy
  idle := by
    change Table.dropKeys registry.cache.inFlight (fun key => doomed (Path.parse key)) = []
    rw [h.idle]
    rfl
  top state hstate := by
    rw [Registry.editor?_dropWhere] at hstate
    split at hstate
    · exact absurd hstate nofun
    · exact h.top state hstate
  proper hroot hschema := by
    rw [Render.peek?_dropWhere _ _ hroot] at hschema
    split at hschema
    · exact absurd hschema nofun
    · exact h.proper hroot hschema
  filed {path schema} hroot hne hschema := by
    rw [Render.peek?_dropWhere _ _ hroot] at hschema
    split at hschema
    · exact absurd hschema nofun
    · rename_i hspared
      obtain ⟨place, hhosted, hexplains⟩ := h.filed hroot hne hschema
      refine ⟨place, hhosted.of_same fun base hle hbase host hhost => ?_, hexplains.of_editor ?_⟩
      · have hbaseSpared : ¬ doomed base = true := fun hdoomed => hspared (hbelow hle hdoomed)
        rw [Render.peek?_dropWhere _ _ hbase, if_neg hbaseSpared]
        exact hhost
      · rw [Registry.editor?_dropWhere, hroot.parse_key, if_neg hspared]

/-- **An editor that goes on keeps the invariant.** -/
theorem Consistent.wentOn (h : Consistent maxDepth answers registry) {other : Path}
    {state : EditorState} (hstate : state.Continues ((registry.editor? other).getD .initial)) :
    Consistent maxDepth answers (registry.setEditor other state) where
  policy := h.policy
  idle := h.idle
  top found hfound := by
    rw [Registry.editor?_setEditor] at hfound
    split at hfound
    · rename_i hkey
      obtain rfl := Path.rooted_root.key_inj hkey
      obtain rfl := Option.some.inj hfound
      rw [hstate.descriptor]
      cases hbefore : registry.editor? Path.root with
      | none => exact .inl rfl
      | some before => exact h.top before hbefore
    · exact h.top found hfound
  proper := h.proper
  filed {path schema} hroot hne hschema := by
    obtain ⟨place, hhosted, hexplains⟩ := h.filed hroot hne hschema
    refine ⟨place, hhosted, ?_⟩
    cases place with
    | inline inner => exact hexplains
    | block category =>
      obtain ⟨before, name, found, hbefore, hdescriptor, hname, hanswer⟩ := hexplains.derived
      by_cases hkey : other.key = path.key
      · obtain rfl := hroot.key_inj hkey
        rw [hbefore] at hstate
        exact ⟨state, name, found, by rw [Registry.editor?_setEditor, if_pos rfl],
          hstate.descriptor.trans hdescriptor, hstate.name.trans hname, hanswer⟩
      · exact ⟨before, name, found, by rw [Registry.editor?_setEditor, if_neg hkey]; exact hbefore,
          hdescriptor, hname, hanswer⟩

/-- **An editor that takes its name from the instance keeps the invariant**, if no schema is filed
under another name. -/
theorem Consistent.recorded (h : Consistent maxDepth answers registry) {category : Category}
    (hplace : Hosted maxDepth registry path (.block category))
    {state : EditorState} (hdescriptor : state.descriptor = some (.block category))
    (hname : ∀ schema, registry.cache.peek? path = some schema →
      ∃ before, registry.editor? path = some before ∧ state.name = before.name) :
    Consistent maxDepth answers (registry.setEditor path state) where
  policy := h.policy
  idle := h.idle
  top found hfound := by
    rw [Registry.editor?_setEditor, if_neg fun hkey => hplace.ne_root (Path.rooted_root.key_inj hkey)]
      at hfound
    exact h.top found hfound
  proper := h.proper
  filed {other schema} hother hne hschema := by
    obtain ⟨place, hhosted, hexplains⟩ := h.filed hother hne hschema
    refine ⟨place, hhosted, ?_⟩
    by_cases hkey : path.key = other.key
    · obtain rfl := hother.key_inj hkey
      obtain rfl := h.hosted_unique hhosted hplace
      obtain ⟨before, hbefore, hsame⟩ := hname schema hschema
      obtain ⟨before', name, found, hbefore', -, hbeforeName, hanswer⟩ := hexplains.derived
      obtain rfl := Option.some.inj (hbefore.symm.trans hbefore')
      exact ⟨state, name, found, by rw [Registry.editor?_setEditor, if_pos rfl], hdescriptor,
        hsame.trans hbeforeName, hanswer⟩
    · exact hexplains.of_editor ((registry.editor?_setEditor _ _ _).trans (if_neg hkey))

/-- The editor of the whole document keeps the invariant if it has its schema at hand. -/
theorem Consistent.recordedRoot (h : Consistent maxDepth answers registry) {state : EditorState}
    {schema : Value} (hdescriptor : state.descriptor = some (.inline schema))
    (hproper : Proper schema) :
    Consistent maxDepth answers (registry.setEditor Path.root state) where
  policy := h.policy
  idle := h.idle
  top found hfound := by
    rw [Registry.editor?_setEditor, if_pos rfl] at hfound
    obtain rfl := Option.some.inj hfound
    exact .inr ⟨schema, hdescriptor, hproper⟩
  proper := h.proper
  filed {other found} hother hne hfound := by
    obtain ⟨place, hhosted, hexplains⟩ := h.filed hother hne hfound
    have hkey : Path.root.key ≠ other.key := fun hkey => hne (hother.key_inj hkey).symm
    exact ⟨place, hhosted, hexplains.of_editor
      ((registry.editor?_setEditor _ _ _).trans (if_neg hkey))⟩

/-- **What is filed at its place keeps the invariant**, where nothing was filed before. -/
theorem Consistent.file (h : Consistent maxDepth answers registry)
    (hmissing : registry.cache.peek? path = none) {filed : Option Value}
    (hfiled : ∀ schema, filed = some schema → Proper schema ∧ (path ≠ Path.root →
      ∃ place, Hosted maxDepth registry path place ∧ Explains answers registry path schema place))
    {cache : Cache} (hpolicy : cache.policy = .reuse) (hidle : cache.inFlight = [])
    (hpeek : ∀ other, Path.Rooted other →
      cache.peek? other = if path = other then filed else registry.cache.peek? other) :
    Consistent maxDepth answers { registry with cache := cache } where
  policy := hpolicy
  idle := hidle
  top := h.top
  proper {other found} hother hfound := by
    rw [hpeek other hother] at hfound
    split at hfound
    · exact (hfiled found hfound).1
    · exact h.proper hother hfound
  filed {other found} hother hne hfound := by
    have hkept : ∀ base, Path.Rooted base → ∀ host, registry.cache.peek? base = some host →
        cache.peek? base = some host := by
      intro base hbase host hhost
      have hother : path ≠ base := by
        rintro rfl
        exact absurd (hmissing.symm.trans hhost) nofun
      rw [hpeek base hbase, if_neg hother, hhost]
    rw [hpeek other hother] at hfound
    split at hfound
    · rename_i hpath
      subst hpath
      obtain ⟨place, hhosted, hexplains⟩ := (hfiled found hfound).2 hne
      exact ⟨place, hhosted.of_same fun base _ hbase => hkept base hbase, hexplains.of_editor rfl⟩
    · obtain ⟨place, hhosted, hexplains⟩ := h.filed hother hne hfound
      exact ⟨place, hhosted.of_same fun base _ hbase => hkept base hbase, hexplains.of_editor rfl⟩

/-- **A schema that is at hand keeps the invariant** when it is filed at its place. -/
theorem Consistent.seed (h : Consistent maxDepth answers registry) {schema : Value}
    (hproper : Proper schema)
    (hplace : path = Path.root ∨ Hosted maxDepth registry path (.inline schema)) :
    Consistent maxDepth answers { registry with cache := registry.cache.seed path schema } := by
  cases hbefore : registry.cache.peek? path with
  | some before =>
    rw [Render.seed_of_peek? hbefore]
    exact h
  | none =>
    have hfiled : ∀ found, some schema = some found → Proper found ∧ (path ≠ Path.root →
        ∃ place, Hosted maxDepth registry path place ∧
          Explains answers registry path found place) := by
      rintro found ⟨⟩
      exact ⟨hproper, fun hne => ⟨_, hplace.resolve_left hne, rfl⟩⟩
    refine h.file hbefore hfiled ?_ ?_ fun other hother => ?_
    · rw [← h.policy]
      unfold Cache.seed
      split <;> rfl
    · rw [← h.idle]
      unfold Cache.seed
      split <;> rfl
    · rw [Render.peek?_seed _ hother]
      split
      · rename_i hpath
        subst hpath
        rw [hbefore]
        rfl
      · rfl

end SchemaForms.Session
