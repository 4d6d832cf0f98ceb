import SchemaForms.Proofs.Render.Advancing
import SchemaForms.Proofs.Render.Modules

/-!
# Proofs/Render/Opening — mounted blocks open one level deeper

A module looks up its editor and its schema, and then its fields advance beneath it.  A block that
lacks its schema opens once it is mounted, and what it lacks then is at least one level deeper.  So
every module and every field below an editor whose schema is at hand advances, whatever levels are
left (`advancing_module`, `advancing_field`); the induction is on these levels.
-/

namespace SchemaForms.Render

open SchemaForms.Path (Fitting WrittenUnder)
open Schema (Proper)
open Value (Regular)

variable {stage : Stage} {depth : Nat} {registry dropped filed later : Registry}
  {request : ModuleRequest} {state : Option EditorState} {schema : Option Value} {host : Value}
  {base steps below path : Path}

/-! ## Regions below the editor -/

namespace Stage

/-- What is written like a path at or below `base`, but not like that of the editor itself. -/
def Under (stage : Stage) (base path : Path) : Prop :=
  path.key ≠ stage.top.key ∧ WrittenUnder base path

/-- What is filed at or below some steps from `base`, but for `base` itself. -/
def Beneath (stage : Stage) (base steps path : Path) : Prop :=
  path.key ≠ base.key ∧ stage.Under (base ++ steps) path

/-- A path at or below that of the editor. -/
structure Has (stage : Stage) (path : Path) : Prop where
  below : stage.top <+: path
  fitting : Fitting path

theorem keyClosed_under (base : Path) : KeyClosed (stage.Under base) := by
  rintro path other hkey ⟨hne, longer, hle, hlonger⟩
  exact ⟨hkey ▸ hne, longer, hle, hlonger.trans hkey⟩

theorem keyClosed_beneath (base steps : Path) : KeyClosed (stage.Beneath base steps) := by
  rintro path other hkey ⟨hne, hunder⟩
  exact ⟨hkey ▸ hne, keyClosed_under _ hkey hunder⟩

theorem Under.widen (h : stage.Under below path) (hle : base <+: below) :
    stage.Under base path := ⟨h.1, h.2.widen hle⟩

/-- **What is below a path is beneath it.** -/
theorem Under.beneath (h : stage.Under below path) (hbase : stage.top <+: base)
    (hle : base ++ steps <+: below) (hne : base ≠ below) : stage.Beneath base steps path := by
  refine ⟨fun hkey => ?_, h.widen hle⟩
  obtain ⟨other, hother, hwritten⟩ := h.2
  obtain rfl := Path.eq_nil_of_writtenUnder ⟨other, hother, hwritten.trans hkey⟩
    ((List.prefix_append _ _).trans hle) hne
  exact h.1 (hkey.trans (by rw [List.prefix_nil.mp hbase]))

end Stage

/-! ## The editor of a module -/

/-- **What is dropped is below the path**, and the editor at the top stays. -/
theorem concord_dropUnder (registry : Registry) (hhas : stage.Has path)
    (hne : path.key ≠ stage.top.key) :
    Concord (fun other => ¬ stage.Under path other) (registry.dropUnder path) registry := by
  intro other hfitting hout
  refine same_dropUnder_of_parse registry fun hle => ?_
  refine hout ⟨fun hkey => hne ?_, Path.writtenUnder_of_parse hfitting hle⟩
  have hlength := (Path.parse_key_spec stage.fitting).2
  rw [hkey] at hle
  rw [hhas.below.eq_of_length_le (Nat.le_trans hle.length_le hlength)]

theorem Stage.Keeps.dropUnder (h : stage.Keeps registry) (hhas : stage.Has path)
    (hne : path.key ≠ stage.top.key) : stage.Keeps (registry.dropUnder path) := by
  have hself := concord_dropUnder registry hhas hne stage.top stage.fitting fun hin => hin.1 rfl
  refine ⟨?_, hself.editor.trans h.editor, hself.schema.trans h.schema,
    fun {other host} hfitting hhost => ?_⟩
  · simp [Registry.dropUnder, Registry.dropWhere, Cache.evictWhere, Table.dropKeys, h.idle]
  · rw [Registry.dropUnder, Registry.peek?_dropWhere] at hhost
    split at hhost
    · exact absurd hhost.symm (Option.some_ne_none host)
    · exact h.proper hfitting hhost

/-- Below a path whose first step is not seen nothing is dropped. -/
theorem accord_dropUnder (registry : Registry) (hhides : Path.HidesFirst path)
    (hhas : stage.Has path) (hne : path.key ≠ stage.top.key) :
    Accord (registry.dropUnder path) registry := by
  refine fun other hfitting =>
    same_dropUnder_of_parse registry (hhides.not_prefix_parse_key (fun hnil => hne ?_) hfitting)
  have hcons := hhides.eq_cons
  rw [hnil] at hcons
  have htop := hhas.below
  rw [hcons] at htop ⊢
  rcases List.prefix_cons_iff.mp htop with htop | ⟨rest, htop, hrest⟩
  · rw [htop]
    rfl
  · rw [htop, List.prefix_nil.mp hrest]

/-- Whether a module is the one of a block, and its editor was mounted for another block. -/
def isStaleFor (view : View) (request : ModuleRequest) : Option EditorState → Bool
  | some state =>
    match request.subject with
    | .block category _ => state.isStale (liveName? view request.path category)
    | .object _ _ => false
  | none => false

theorem run_currentEditor_eq (view : View) (request : ModuleRequest) (registry : Registry) :
    (currentEditor view request).run registry =
      if isStaleFor view request (registry.editor? request.path)
      then (none, registry.dropUnder request.path)
      else (registry.editor? request.path, registry) := by
  rw [run_currentEditor]
  unfold isStaleFor
  cases request.subject <;> cases registry.editor? request.path <;> rfl

/-- The editor at the top is never stale. -/
theorem Stage.Keeps.isStaleFor_eq_false (h : stage.Keeps registry)
    (hkey : request.path.key = stage.top.key) :
    isStaleFor stage.view request (registry.editor? request.path) = false := by
  have heditor : registry.editor? request.path = some stage.state := by
    rw [Registry.editor?, hkey]
    exact h.editor
  rw [heditor]
  unfold isStaleFor
  cases request.subject with
  | object inner isItem => rfl
  | block category given => exact stage.fresh _

/-- **What became of the editor of a module.** -/
structure Looked (stage : Stage) (request : ModuleRequest) (registry : Registry)
    (state : Option EditorState) (dropped : Registry) : Prop where
  keeps : stage.Keeps dropped
  frame : Concord (fun path => ¬ stage.Under request.path path) dropped registry
  /-- The editor is found again as long as it is the one that was found. -/
  again : ∀ {later : Registry}, stage.Keeps later →
    later.editor? request.path = dropped.editor? request.path →
      ∃ after, (currentEditor stage.view request).run later = (state, after) ∧
        stage.Keeps after ∧ Accord after later

theorem looked (h : stage.Keeps registry) (hhas : stage.Has request.path)
    (hrun : (currentEditor stage.view request).run registry = (state, dropped)) :
    Looked stage request registry state dropped := by
  have hcurrent := hrun
  rw [run_currentEditor_eq] at hrun
  split at hrun
  · rename_i hstale
    obtain ⟨rfl, rfl⟩ := Prod.mk.inj hrun
    have hne : request.path.key ≠ stage.top.key := fun hkey =>
      Bool.false_ne_true ((h.isStaleFor_eq_false hkey).symm.trans hstale)
    refine ⟨h.dropUnder hhas hne, concord_dropUnder registry hhas hne, fun {later} hlater hsame => ?_⟩
    by_cases hhides : Path.HidesFirst request.path
    · -- Such a path is not read back, so the editor stays and is stale once more.
      have hkept := (accord_dropUnder registry hhides hhas hne _ hhas.fitting).editor
      refine ⟨_, ?_, hlater.dropUnder hhas hne, accord_dropUnder later hhides hhas hne⟩
      rw [run_currentEditor_eq, hsame, hkept, if_pos hstale]
    · have hback := Path.parse_key_of_not_hidesFirst hhas.fitting hhides
      exact ⟨later, currentEditor_again hback hcurrent hsame, hlater, .refl later⟩
  · rename_i hfresh
    obtain ⟨rfl, rfl⟩ := Prod.mk.inj hrun
    refine ⟨h, fun path _ _ => .refl _ path, fun {later} hlater hsame => ?_⟩
    refine ⟨later, ?_, hlater, .refl later⟩
    rw [run_currentEditor_eq, hsame, if_neg hfresh]

/-! ## The schema of a module -/

/-- **How a module opens**: with an editor that shows no text, and with a schema or none. -/
structure Opens (stage : Stage) (request : ModuleRequest) (registry : Registry)
    (state : Option EditorState) (schema : Option Value) (filed : Registry) : Prop where
  run : ∃ dropped, (currentEditor stage.view request).run registry = (state, dropped) ∧
    (schemaFor request).run dropped = (schema, filed)
  keeps : stage.Keeps filed
  frame : Concord (fun path => ¬ stage.Under request.path path) filed registry
  found : filed.cache.peek? request.path = schema
  missing : schema = none → ∃ category given, request.subject = .block category given
  /-- The module opens in the same way as long as nothing changes at its path. -/
  again : ∀ {later : Registry}, stage.Keeps later → Same later filed request.path →
    ∃ after, (∃ between, (currentEditor stage.view request).run later = (state, between) ∧
      (schemaFor request).run between = (schema, after)) ∧ stage.Keeps after ∧ Accord after later

/-- Every schema that is filed still describes a module. -/
theorem proper_seed {cache : Cache} {inner : Value} (hproper : Proper inner)
    (h : ∀ {other : Path} {host : Value}, Fitting other → cache.peek? other = some host → Proper host)
    {other : Path} (hfitting : Fitting other) (hhost : (cache.seed path inner).peek? other = some host) :
    Proper host := by
  rw [peek?_seed_key] at hhost
  split at hhost
  · cases hfound : cache.peek? other with
    | some found =>
      rw [hfound] at hhost
      exact h hfitting (hfound.trans hhost)
    | none =>
      rw [hfound] at hhost
      exact Option.some.inj hhost ▸ hproper
  · exact h hfitting hhost

theorem Stage.Keeps.seed (h : stage.Keeps dropped) {inner : Value} (hproper : Proper inner) :
    stage.Keeps { dropped with cache := dropped.cache.seed path inner } where
  idle := (Cache.inFlight_seed _ _ _).trans h.idle
  editor := h.editor
  schema := by
    rw [peek?_seed_key, h.schema]
    split <;> rfl
  proper hfitting hhost := proper_seed hproper h.proper hfitting hhost

/-- What is filed at a path leaves alone what is not below it. -/
theorem concord_seed (h : stage.Keeps dropped) (inner : Value) (hproper : Proper inner) :
    Concord (fun other => ¬ stage.Under path other)
      { dropped with cache := dropped.cache.seed path inner } dropped := by
  intro other _ hout
  refine (h.seed hproper).same h rfl ((peek?_seed_key _ _ _ _).trans ?_)
  split
  · rename_i hkey
    have htop : other.key = stage.top.key := Decidable.byContradiction fun hne =>
      hout ⟨hne, path, List.prefix_refl path, hkey⟩
    have hfound : dropped.cache.peek? other = some stage.schema := by
      rw [Cache.peek?, htop]
      exact h.schema
    rw [hfound]
    rfl
  · rfl

/-- The schema that was found is found again. -/
theorem run_schemaFor_again (hfound : registry.cache.peek? request.path = schema)
    (hmissing : schema = none → ∃ category given, request.subject = .block category given) :
    (schemaFor request).run registry = (schema, registry) := by
  cases schema with
  | some host => exact run_schemaFor_of_peek? hfound
  | none =>
    obtain ⟨category, given, hsubject⟩ := hmissing rfl
    rw [run_schemaFor_block hsubject, hfound]

/-- **Whatever a module is, it opens**, if it is a block or its schema describes a module. -/
theorem exists_opens (hfitting : Fitting request.path)
    (hproper : ∀ inner isItem, request.subject = .object inner isItem → Proper inner)
    (hcurrent : (currentEditor stage.view request).run registry = (state, dropped))
    (hlooked : Looked stage request registry state dropped) :
    ∃ schema filed, Opens stage request registry state schema filed := by
  obtain ⟨schema, filed, hrun, hkeeps, hframe, heditor, hfound, hmissing⟩ : ∃ schema filed,
      (schemaFor request).run dropped = (schema, filed) ∧ stage.Keeps filed ∧
        Concord (fun path => ¬ stage.Under request.path path) filed dropped ∧
        filed.editor? request.path = dropped.editor? request.path ∧
        filed.cache.peek? request.path = schema ∧
        (schema = none → ∃ category given, request.subject = .block category given) := by
    cases hsubject : request.subject with
    | object inner isItem =>
      have hinner := hproper inner isItem hsubject
      exact ⟨_, _, run_schemaFor_object hsubject dropped, hlooked.keeps.seed hinner,
        concord_seed hlooked.keeps inner hinner, rfl, (peek?_seed_key _ _ _ _).trans (if_pos rfl), nofun⟩
    | block category given =>
      exact ⟨_, _, run_schemaFor_block hsubject dropped, hlooked.keeps, fun path _ _ => .refl _ path,
        rfl, rfl, fun _ => ⟨category, given, rfl⟩⟩
  refine ⟨schema, filed, ⟨dropped, hcurrent, hrun⟩, hkeeps, fun path hfitting hout =>
    (hframe path hfitting hout).trans (hlooked.frame path hfitting hout), hfound, hmissing,
    fun {later} hlater hsame => ?_⟩
  obtain ⟨after, hagain, hafter, hsameAfter⟩ := hlooked.again hlater (hsame.editor.trans heditor)
  refine ⟨after, ⟨after, hagain, run_schemaFor_again ?_ hmissing⟩, hafter, hsameAfter⟩
  exact ((hsameAfter _ hfitting).schema.trans hsame.schema).trans hfound

/-! ## The fields of a module -/

/-- **A rendering of fields advances** beneath the modules that they are fields of. -/
def Stage.FieldAdvancing (stage : Stage) (depth : Nat) (next : FieldRenderer) : Prop :=
  ∀ ⦃base steps : Path⦄ ⦃host fragment : Value⦄ (key : String),
    stage.top <+: base → Fitting (base ++ steps) → Proper host → Regular fragment →
      (steps = [] → placeOf stage.view.maxRefDepth host fragment = none) →
        Advancing stage (stage.Beneath base steps) (Widget.missing depth)
          (next key fragment host (base ++ steps))

variable {next : FieldRenderer}

/-- **The fields of a module advance** beneath it. -/
theorem advancing_fields (hnext : stage.FieldAdvancing depth next) (hbase : stage.Has base)
    (hproper : Proper host) (hidden : List String) :
    Advancing stage (stage.Beneath base [])
      (fun body => body.1.flatMap fun member => member.2.missing depth)
      (fields stage.view next host base hidden) := by
  unfold fields
  split
  · rename_i shape hclass
    let entries := fieldSchemas shape hidden (Document.read? stage.view.document base)
    have hnodup : (entries.map (·.1)).Nodup := nodup_fieldSchemas hproper.regular hclass
      fun value hvalue => regular_read? stage.regular hvalue
    have hdisjoint : entries.Pairwise fun a b =>
        ∀ path, stage.Beneath base [.key a.1] path → ¬ stage.Beneath base [.key b.1] path :=
      (List.pairwise_map.mp hnodup).imp fun hne path ha hb =>
        hne (Path.key_eq_of_writtenUnder ha.2.2 hb.2.2)
    have hmember : ∀ entry ∈ entries, Advancing stage (stage.Beneath base [.key entry.1])
        (fun member => member.2.missing depth)
        (do return (entry.1, ← next entry.1 entry.2 host (base.child entry.1))) := by
      intro entry hentry
      have hfield := hnext entry.1 hbase.below (hbase.fitting.child entry.1) hproper
        (covers_of_mem hproper hclass hentry).regular nofun
      exact hfield.map (fun widget => (entry.1, widget)) fun _ => rfl
    have hmembers := advancing_mapM entries (fun entry _ => Stage.keyClosed_beneath base _) hdisjoint
      hmember
    refine (hmembers.mono ?_).map _ fun members => rfl
    rintro path ⟨entry, -, hne, hunder⟩
    exact ⟨hne, hunder.widen (by rw [List.append_nil]; exact List.prefix_append _ _)⟩
  · rename_i hclass
    have hfitting : Fitting (base ++ []) := by
      rw [List.append_nil]
      exact hbase.fitting
    have hvalue := hnext "value" hbase.below hfitting hproper hproper.regular
      fun _ => placeOf_self_eq_none hproper hclass
    rw [List.append_nil] at hvalue
    exact hvalue.map _ fun widget => by simp

/-! ## Modules -/

/-- Registries that have the editor at the top agree on its path, so they need only agree elsewhere. -/
theorem Stage.Keeps.same_at (h : stage.Keeps later) (hfiled : stage.Keeps filed)
    (hagree : path.key ≠ stage.top.key → Same later filed path) : Same later filed path := by
  by_cases hkey : path.key = stage.top.key
  · refine h.same hfiled ?_ ?_
    · rw [Registry.editor?, Registry.editor?, hkey]
      exact h.editor.trans hfiled.editor.symm
    · rw [Cache.peek?, Cache.peek?, hkey]
      exact h.schema.trans hfiled.schema.symm
  · exact hagree hkey

/-- **A module that shows a text, or has its schema, lacks only what is deeper.** -/
theorem lt_of_found {view : View}
    (hfresh : isStaleFor view request (registry.editor? request.path) = false)
    (hshown : (registry.editor? request.path).bind EditorState.shownText? ≠ none ∨
      registry.cache.peek? request.path ≠ none) {entry : Nat × ModuleHead}
    (hentry : entry ∈ ((module view next request).run registry).1.missing depth) :
    depth < entry.1 := by
  have hcurrent : (currentEditor view request).run registry
      = (registry.editor? request.path, registry) := by
    rw [run_currentEditor_eq, hfresh]
    rfl
  cases htext : (registry.editor? request.path).bind EditorState.shownText? with
  | some shown =>
    rw [run_module_source hcurrent htext] at hentry
    exact absurd hentry List.not_mem_nil
  | none =>
    obtain ⟨host, hhost⟩ := Option.ne_none_iff_exists'.mp (hshown.resolve_left fun h => h htext)
    rw [run_module_form hcurrent htext (run_schemaFor_of_peek? hhost)] at hentry
    dsimp only at hentry
    rw [Widget.missing_form] at hentry
    obtain ⟨member, -, hin⟩ := List.mem_flatMap.mp hentry
    exact Widget.le_of_mem_missing hin

/-- **What a block that was mounted lacks is deeper than the block.** -/
theorem lt_of_opened {category : Category} {given : Option String}
    (hsubject : request.subject = .block category given)
    (hopened : stage.Opened later (headOf stage.view request state)) {entry : Nat × ModuleHead}
    (hentry : entry ∈ ((module stage.view next request).run later).1.missing depth) :
    depth < entry.1 := by
  obtain ⟨kind, named, mounted, hrole, heditor, hfresh, hshown⟩ := hopened
  obtain ⟨asked, hkind⟩ := subject_of_role hrole
  obtain ⟨rfl, -⟩ := Subject.block.inj (hsubject.symm.trans hkind)
  have heditor : later.editor? request.path = some mounted := heditor
  refine lt_of_found ?_ ?_ hentry <;> rw [heditor]
  · unfold isStaleFor
    rw [hsubject]
    exact hfresh
  · exact hshown

/-- What the module at the top lacks is deeper. -/
theorem lt_of_top (request : ModuleRequest) (h : stage.Keeps registry)
    (hkey : request.path.key = stage.top.key) {entry : Nat × ModuleHead}
    (hentry : entry ∈ ((module stage.view next request).run registry).1.missing depth) :
    depth < entry.1 := by
  refine lt_of_found (h.isStaleFor_eq_false hkey) (.inr ?_) hentry
  rw [Cache.peek?, hkey]
  exact fun hnone => Option.some_ne_none _ (h.schema.symm.trans hnone)

section

variable (hhas : stage.Has request.path)

include hhas

/-- A module that is shown as text advances. -/
theorem advances_source {shown : Format × String × Option ParseError}
    (hcurrent : (currentEditor stage.view request).run registry = (state, dropped))
    (hlooked : Looked stage request registry state dropped)
    (htext : state.bind EditorState.shownText? = some shown) :
    Advances stage (stage.Under request.path) (Widget.missing depth)
      (module stage.view next request) registry := by
  have hrun : ∀ {registry dropped : Registry},
      (currentEditor stage.view request).run registry = (state, dropped) →
        (module stage.view next request).run registry
          = (.source (headOf stage.view request state) shown.1 shown.2.1 shown.2.2, dropped) :=
    fun hcurrent => run_module_source hcurrent htext
  refine advances_of_settled ?_ ?_ ?_ fun {later} hlater hagree => ?_
  · rw [hrun hcurrent]
    rfl
  · rw [hrun hcurrent]
    exact hlooked.keeps
  · rw [hrun hcurrent]
    exact hlooked.frame
  · rw [hrun hcurrent] at hagree ⊢
    have hsame := hlater.same_at hlooked.keeps fun hne =>
      hagree _ hhas.fitting ⟨hne, Path.writtenUnder_self _⟩
    obtain ⟨after, hagain, -, hafter⟩ := hlooked.again hlater hsame.editor
    rw [hrun hagain]
    exact ⟨rfl, hafter⟩

/-- **A module whose schema is missing advances**: it is a block, and it opens when it is mounted. -/
theorem advances_pending (hdepth : depth ≤ stage.maxRenderDepth + 1)
    (hform : state.bind EditorState.shownText? = none)
    (hopens : Opens stage request registry state none filed) :
    Advances stage (stage.Under request.path) (Widget.missing depth)
      (module stage.view next request) registry := by
  have hrun : ∀ {registry filed : Registry},
      (∃ dropped, (currentEditor stage.view request).run registry = (state, dropped) ∧
        (schemaFor request).run dropped = (none, filed)) →
      (module stage.view next request).run registry
        = (.pending (headOf stage.view request state) (filed.cache.isLoading request.path), filed) :=
    fun ⟨dropped, hcurrent, hschema⟩ => run_module_pending hcurrent hform hschema
  obtain ⟨category, given, hsubject⟩ := hopens.missing rfl
  have hne : request.path.key ≠ stage.top.key := fun hkey => by
    have hfound := hopens.found
    rw [Cache.peek?, hkey] at hfound
    exact absurd (hopens.keeps.schema.symm.trans hfound) (Option.some_ne_none _)
  have hself : stage.Under request.path request.path := ⟨hne, Path.writtenUnder_self _⟩
  constructor <;> rw [hrun hopens.run]
  · exact hopens.keeps
  · exact hopens.frame
  · intro later hlater hagree
    obtain ⟨after, hagain, -, hafter⟩ := hopens.again hlater (hagree _ hhas.fitting hself)
    rw [hrun hagain, (hafter _ hhas.fitting).loading, (hagree _ hhas.fitting hself).loading]
    exact ⟨rfl, hafter⟩
  · refine List.forall_mem_singleton.mpr ⟨hdepth, hhas.fitting, hself, hopens.found, category, ?_⟩
    change ∃ given, roleOf stage.view request state = .block category given
    rw [roleOf, hsubject]
    exact ⟨_, rfl⟩
  · exact List.pairwise_singleton _ _
  · intro later hlater hserved entry hentry
    refine ⟨_, List.mem_singleton_self _, ?_⟩
    exact lt_of_opened hsubject (hserved.opened _ (List.mem_singleton_self _)) hentry

/-- **A module that is shown by its schema advances**, if its fields do. -/
theorem advances_form (hnext : stage.FieldAdvancing (depth + 1) next)
    (hform : state.bind EditorState.shownText? = none)
    (hopens : Opens stage request registry state (some host) filed) :
    Advances stage (stage.Under request.path) (Widget.missing depth)
      (module stage.view next request) registry := by
  let body := fields stage.view next host request.path (hiddenKeys request.subject)
  have hrun : ∀ {registry filed : Registry},
      (∃ dropped, (currentEditor stage.view request).run registry = (state, dropped) ∧
        (schemaFor request).run dropped = (some host, filed)) →
      (module stage.view next request).run registry
        = (.form (headOf stage.view request state) (body.run filed).1.1 (body.run filed).1.2,
          (body.run filed).2) :=
    fun ⟨dropped, hcurrent, hschema⟩ => run_module_form hcurrent hform hschema
  have hbody := advancing_fields hnext hhas (hopens.keeps.proper hhas.fitting hopens.found)
    (hiddenKeys request.subject)
  have hbelow : ∀ path, stage.Beneath request.path [] path → stage.Under request.path path :=
    fun path hpath => List.append_nil request.path ▸ hpath.2
  have hnow := hbody filed hopens.keeps
  have hself : Same (body.run filed).2 filed request.path :=
    hnow.frame _ hhas.fitting fun hin => hin.1 rfl
  constructor <;> rw [hrun hopens.run] <;> simp only [Widget.missing_form]
  · exact hnow.keeps
  · exact fun path hfitting hout => (hnow.frame path hfitting fun hin => hout (hbelow path hin)).trans
      (hopens.frame path hfitting hout)
  · intro later hlater hagree
    have hsame := hlater.same_at hnow.keeps fun hne =>
      hagree _ hhas.fitting ⟨hne, Path.writtenUnder_self _⟩
    obtain ⟨after, hagain, hkeeps, hafter⟩ := hopens.again hlater (hsame.trans hself)
    obtain ⟨hshown, hlast⟩ := hnow.replay hkeeps (hafter.on (hagree.mono hbelow))
    rw [hrun hagain, hshown]
    exact ⟨rfl, hlast.trans hafter⟩
  · exact fun entry hentry => (hnow.lacks entry hentry).mono hbelow
  · exact hnow.apart
  · intro later hlater hserved
    -- The modules below are not filed under the path of this one.
    have hown : ∀ entry ∈ ((body.run filed).1.1.flatMap fun member =>
        member.2.missing (depth + 1)), entry.2.path.key ≠ request.path.key :=
      fun entry hentry => (hnow.lacks entry hentry).inside.1
    have hsame := hlater.same_at hnow.keeps fun hne =>
      hserved.rest _ hhas.fitting ⟨⟨hne, Path.writtenUnder_self _⟩, hown⟩
    obtain ⟨after, hagain, hkeeps, hafter⟩ := hopens.again hlater (hsame.trans hself)
    rw [hrun hagain]
    rw [Widget.missing_form]
    refine hnow.next hkeeps ⟨fun entry hentry => ?_, ?_⟩
    · exact (hserved.opened entry hentry).of_same (hafter _ (hnow.lacks entry hentry).fitting)
    · exact hafter.on (hserved.rest.mono fun path hpath => ⟨hbelow path hpath.1, hpath.2⟩)

end

/-- **A module advances** at its path and below, if its fields do. -/
theorem advancing_module (request : ModuleRequest)
    (hnext : stage.FieldAdvancing (depth + 1) next)
    (hdepth : depth ≤ stage.maxRenderDepth + 1) (hhas : stage.Has request.path)
    (hproper : ∀ inner isItem, request.subject = .object inner isItem → Proper inner) :
    Advancing stage (stage.Under request.path) (Widget.missing depth)
      (module stage.view next request) := by
  intro registry h
  obtain ⟨state, dropped, hcurrent⟩ :
      ∃ state dropped, (currentEditor stage.view request).run registry = (state, dropped) :=
    ⟨_, _, rfl⟩
  have hlooked := looked h hhas hcurrent
  cases htext : state.bind EditorState.shownText? with
  | some shown => exact advances_source hhas hcurrent hlooked htext
  | none =>
    obtain ⟨schema, filed, hopens⟩ := exists_opens hhas.fitting hproper hcurrent hlooked
    cases schema with
    | none => exact advances_pending hhas hdepth htext hopens
    | some host => exact advances_form hhas hnext htext hopens

/-! ## Fields -/

theorem missing_scalar (kind : Primitive) (options : Option (List String)) (path : Path)
    (value : Option Value) : (scalar kind options path value).missing depth = [] := by
  cases kind <;> cases options <;> rfl

section

variable {fragment : Value} (hnext : stage.FieldAdvancing (depth + 1) next)
  (hdepth : depth ≤ stage.maxRenderDepth + 1) (hbase : stage.top <+: base)
  (hfitting : Fitting (base ++ steps))

include hnext hdepth hbase hfitting

/-- **The modules of a sequence advance** beneath the module that holds the sequence. -/
theorem advancing_itemModules (key : String) {subject : Subject}
    (hproper : ∀ inner isItem, subject = .object inner isItem → Proper inner) :
    Advancing stage (stage.Beneath base steps) (fun items => items.flatMap (Widget.missing depth))
      (itemModules stage.view next key (base ++ steps) subject) := by
  let indices := List.range (itemCount stage.view (base ++ steps))
  have hdisjoint : indices.Pairwise fun i j => ∀ path, stage.Under ((base ++ steps).item i) path →
      ¬ stage.Under ((base ++ steps).item j) path :=
    List.nodup_range.imp fun hne path hi hj => hne (Path.index_eq_of_writtenUnder hi.2 hj.2)
  have htop : stage.top <+: base ++ steps := hbase.trans (List.prefix_append _ _)
  have hitem : ∀ i ∈ indices, Advancing stage (stage.Under ((base ++ steps).item i))
      (Widget.missing depth) (module stage.view next
        ⟨some s!"{key}[{i}]", (base ++ steps).item i, subject, true⟩) := by
    intro i hi
    have hword := lt_of_lt_itemCount stage.regular (List.mem_range.mp hi)
    have hhas : stage.Has ((base ++ steps).item i) :=
      ⟨htop.trans (List.prefix_append _ _), hfitting.item hword⟩
    exact advancing_module ⟨_, (base ++ steps).item i, subject, true⟩ hnext hdepth hhas hproper
  refine (advancing_mapM indices (fun i _ => Stage.keyClosed_under _) hdisjoint hitem).mono ?_
  rintro path ⟨i, -, hunder⟩
  refine hunder.beneath hbase (List.prefix_append _ _) fun hsame => ?_
  simpa [Path.item] using congrArg List.length hsame

/-- **The control for a sequence advances** beneath the module that holds the sequence. -/
theorem advancing_array (key : String) {items : Option Value} (hhost : Proper host)
    (hregular : Regular (items.getD .null)) :
    Advancing stage (stage.Beneath base steps) (Widget.missing depth)
      (array stage.view next key items host (base ++ steps)) := by
  unfold array
  dsimp only
  split
  · rename_i category hclass
    refine (advancing_itemModules hnext hdepth hbase hfitting key
      fun inner isItem hsubject => by cases hsubject).map _ fun modules => ?_
    exact Widget.missing_list rfl rfl
  · refine advancing_pure _ ((Widget.missing_list rfl rfl).trans ?_)
    refine List.flatMap_eq_nil_iff.mpr fun item hitem => ?_
    obtain ⟨i, -, rfl⟩ := List.mem_map.mp hitem
    exact missing_scalar _ _ _ _
  · rename_i shape hclass
    have hproper := proper_of_placeOf hhost hregular (placeOf_of_object hclass)
    refine (advancing_itemModules hnext hdepth hbase hfitting key fun inner isItem hsubject => ?_).map _
      fun modules => Widget.missing_list rfl rfl
    obtain ⟨rfl, -⟩ := Subject.object.inj hsubject
    exact hproper
  · exact advancing_pure _ rfl
  · exact advancing_pure _ rfl

/-- **A module that a fragment asks for advances** beneath the module that the fragment belongs
to. -/
theorem advancing_fieldModule (title : Option String) (subject : Subject) (removable : Bool)
    (hsteps : steps ≠ [])
    (hproper : ∀ inner isItem, subject = .object inner isItem → Proper inner) :
    Advancing stage (stage.Beneath base steps) (Widget.missing depth)
      (module stage.view next ⟨title, base ++ steps, subject, removable⟩) := by
  have hhas : stage.Has (base ++ steps) := ⟨hbase.trans (List.prefix_append _ _), hfitting⟩
  have hmodule := advancing_module ⟨title, base ++ steps, subject, removable⟩ hnext hdepth hhas hproper
  refine hmodule.mono fun path hunder => ?_
  refine hunder.beneath hbase (List.prefix_refl _) fun hsame => hsteps ?_
  exact List.self_eq_append_right.mp hsame

end

/-- **The control for a fragment advances**, if those of the next level do. -/
theorem advancing_openField (hnext : stage.FieldAdvancing (depth + 1) next)
    (hdepth : depth ≤ stage.maxRenderDepth + 1) :
    stage.FieldAdvancing depth (openField stage.view next) := by
  intro base steps host fragment key hbase hfitting hhost hregular hsteps
  unfold openField
  dsimp only
  split
  · exact advancing_pure _ rfl
  · rename_i resolved hresolved
    have htarget : target? stage.view.maxRefDepth host fragment = resolved := by
      rw [target?, hresolved]
      rfl
    subst htarget
    have hleads : ∀ {place}, placeOf stage.view.maxRefDepth host fragment = some place → steps ≠ [] :=
      fun hplace hnil => by cases (hsteps hnil).symm.trans hplace
    split
    · rename_i items hclass
      exact advancing_array hnext hdepth hbase hfitting key hhost
        (regular_items hhost.regular hregular hclass)
    · rename_i category hclass
      split
      · exact advancing_pure _ rfl
      · have hblock := advancing_fieldModule hnext hdepth hbase hfitting (some key)
          (.block category none) true (hleads (placeOf_of_block hclass))
          fun inner isItem hsubject => by cases hsubject
        exact hblock.map _ fun block => Widget.missing_filledSlot _ _ _
    · rename_i shape hclass
      have hplace := placeOf_of_object hclass
      refine advancing_fieldModule hnext hdepth hbase hfitting (some key) (.object _ false) false
        (hleads hplace) fun inner isItem hsubject => ?_
      obtain ⟨rfl, -⟩ := Subject.object.inj hsubject
      exact proper_of_placeOf hhost hregular hplace
    · exact advancing_pure _ (missing_scalar _ _ _ _)
    · exact advancing_pure _ rfl

/-- **Every field advances**, whatever levels are left. -/
theorem advancing_field (stage : Stage) (depth : Nat) :
    stage.FieldAdvancing (depth + 1) (field stage.view (roomAt stage.maxRenderDepth depth)) := by
  generalize hroom : roomAt stage.maxRenderDepth depth = room
  unfold roomAt at hroom
  induction room generalizing depth with
  | zero => exact fun base steps host fragment key _ _ _ _ _ => advancing_pure _ rfl
  | succ room ih => exact advancing_openField (ih (depth + 1) (by omega)) (by omega)

end SchemaForms.Render
