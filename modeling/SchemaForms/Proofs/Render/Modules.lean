import SchemaForms.Proofs.Render.Sound

/-!
# Proofs/Render/Modules — modules are confined to their place

A module looks up its editor and its schema and renders its fields below.  If its fields are sound,
it is sound at and below its path (`sound_module`).  It lacks its schema only if it is a block, and
a block that is shown is shown by the catalog's answer to its name (`answer_of_shown`): its editor
asked for the schema that is filed, and has not become stale since.
-/

namespace SchemaForms.Render

open Schema (Node Proper)
open Session (Consistent Hosted)
open Value (Regular)

/-! ## Reading the document -/

/-- What a regular value holds is regular. -/
theorem regular_read? {document found : Value} {path : Path} (h : Regular document)
    (hfound : Document.read? document path = some found) : Regular found := by
  induction path generalizing document with
  | nil => exact Option.some.inj hfound ▸ h
  | cons segment rest ih =>
    cases segment with
    | key key =>
      obtain ⟨child, hchild, hrest⟩ := Option.bind_eq_some_iff.mp hfound
      exact ih (h.member? hchild) hrest
    | index i =>
      obtain ⟨child, hchild, hrest⟩ := Option.bind_eq_some_iff.mp hfound
      exact ih (h.item? hchild) hrest

/-- **The index of an element fits a word.** -/
theorem lt_of_lt_itemCount {view : View} {path : Path} {i : Nat} (h : Regular view.document)
    (hi : i < itemCount view path) : i < Numeral.unsignedBound := by
  unfold itemCount at hi
  cases hfound : Document.read? view.document path with
  | none =>
    rw [hfound] at hi
    exact absurd hi (Nat.not_lt_zero i)
  | some found =>
    rw [hfound] at hi
    have hregular := regular_read? h hfound
    cases found with
    | arr items => exact Nat.lt_of_lt_of_le hi (Value.regular_arr.mp hregular).1
    | _ => exact absurd hi (Nat.not_lt_zero i)

theorem rooted_child {base : Path} (h : Path.Rooted base) (key : String) :
    Path.Rooted (base ++ [.key key]) where
  under := h.under.trans (List.prefix_append _ _)
  fits segment hsegment := by
    rcases List.mem_append.mp hsegment with hbase | hkey
    · exact h.fits segment hbase
    · obtain rfl := List.mem_singleton.mp hkey
      trivial

theorem rooted_item {path : Path} (h : Path.Rooted path) {i : Nat}
    (hi : i < Numeral.unsignedBound) :
    Path.Rooted (path.item i) where
  under := h.under.trans (List.prefix_append _ _)
  fits segment hsegment := by
    rcases List.mem_append.mp hsegment with hpath | hindex
    · exact h.fits segment hpath
    · obtain rfl := List.mem_singleton.mp hindex
      exact hi

/-! ## The editor of a module -/

variable {setting : Setting} {depth : Nat} {registry dropped filed : Registry}
  {request : ModuleRequest} {state : Option EditorState} {schema : Option Value}

/-- The module of a request is at its place. -/
def Setting.Placed (setting : Setting) (registry : Registry) (request : ModuleRequest) : Prop :=
  match request.subject with
  | .object schema _ => Proper schema ∧ (request.path = Path.root ∨
      Hosted setting.view.maxRefDepth registry request.path (.inline schema))
  | .block category _ => Hosted setting.view.maxRefDepth registry request.path (.block category)

/-- A place stays where it is when all is dropped that is filed there. -/
theorem hosted_dropUnder {maxDepth : Nat} {path : Path} {place : Place}
    (h : Hosted maxDepth registry path place) :
    Hosted maxDepth (registry.dropUnder path) path place := by
  obtain ⟨base, steps, host, rfl, hbase, hhost, hplace⟩ := h
  refine ⟨base, steps, host, rfl, hbase, ?_, hplace⟩
  have hout : ¬ base ++ steps <+: base :=
    fun hle => not_beneath_self base steps (beneath_of_le_append (Session.steps_ne_nil hplace) hle)
  exact (same_dropUnder registry hbase hout).schema.trans hhost

/-- What is filed where nothing is filed keeps all places. -/
theorem hosted_seed {maxDepth : Nat} {path : Path} {place : Place}
    (h : Hosted maxDepth registry path place) (other : Path)
    (schema : Value) :
    Hosted maxDepth { registry with cache := registry.cache.seed other schema } path place := by
  refine h.of_same fun base _ hbase host hhost => ?_
  rw [peek?_seed _ hbase, hhost]
  split <;> rfl

/-- **What is left after the editor of a module was looked up**: all, or all that is not below. -/
theorem currentEditor_cases {view : View}
    (hrun : (currentEditor view request).run registry = (state, dropped)) :
    dropped = registry ∧ state = registry.editor? request.path ∨
      dropped = registry.dropUnder request.path ∧ state = none := by
  rw [run_currentEditor] at hrun
  split at hrun
  · split at hrun
    · obtain ⟨rfl, rfl⟩ := Prod.mk.inj hrun
      exact .inr ⟨rfl, rfl⟩
    · rename_i hstate _
      obtain ⟨rfl, rfl⟩ := Prod.mk.inj hrun
      exact .inl ⟨rfl, hstate.symm⟩
  · obtain ⟨rfl, rfl⟩ := Prod.mk.inj hrun
    exact .inl ⟨rfl, rfl⟩

theorem editor?_dropUnder (registry : Registry) {path : Path} (hback : Path.parse path.key = path) :
    (registry.dropUnder path).editor? path = none := by
  rw [Registry.dropUnder, Registry.editor?_dropWhere, hback,
    if_pos (Path.startsWith_iff.mpr (List.prefix_refl path))]

/-- **The editor of a module is found again** as long as it is the one that was found. -/
theorem currentEditor_again {view : View} (hback : Path.parse request.path.key = request.path)
    (hrun : (currentEditor view request).run registry = (state, dropped)) {later : Registry}
    (hsame : later.editor? request.path = dropped.editor? request.path) :
    (currentEditor view request).run later = (state, later) := by
  have hnone : later.editor? request.path = none →
      (currentEditor view request).run later = (none, later) := by
    intro hlater
    rw [run_currentEditor]
    split
    · rename_i hfound
      exact absurd (hlater.symm.trans hfound) nofun
    · rw [hlater]
  rw [run_currentEditor] at hrun
  split at hrun
  · rename_i category given found hsubject hfound
    split at hrun
    · obtain ⟨rfl, rfl⟩ := Prod.mk.inj hrun
      exact hnone (hsame.trans (editor?_dropUnder registry hback))
    · rename_i hfresh
      obtain ⟨rfl, rfl⟩ := Prod.mk.inj hrun
      rw [run_currentEditor, hsubject, hsame.trans hfound]
      exact if_neg hfresh
  · rename_i hother
    obtain ⟨rfl, rfl⟩ := Prod.mk.inj hrun
    rw [run_currentEditor]
    split
    · rename_i category given found hsubject hfound
      exact absurd (hsame ▸ hfound) (hother category given found hsubject)
    · rw [hsame]

theorem Setting.Placed.current (h : setting.Placed registry request)
    (hrun : (currentEditor setting.view request).run registry = (state, dropped)) :
    setting.Placed dropped request := by
  rcases currentEditor_cases hrun with ⟨rfl, -⟩ | ⟨rfl, -⟩
  · exact h
  · unfold Setting.Placed at h ⊢
    split
    · rename_i schema isItem hsubject
      rw [hsubject] at h
      exact ⟨h.1, h.2.imp_right hosted_dropUnder⟩
    · rename_i category given hsubject
      rw [hsubject] at h
      exact hosted_dropUnder h

/-! ## The schema of a module -/

/-- **What is filed when the schema of a module was looked up.** -/
structure Filed (setting : Setting) (request : ModuleRequest) (dropped filed : Registry)
    (schema : Option Value) : Prop where
  run : (schemaFor request).run dropped = (schema, filed)
  keeps : setting.Keeps filed
  placed : setting.Placed filed request
  frame : ∀ path, Path.Rooted path → request.path ≠ path → Same filed dropped path
  editor : filed.editor? request.path = dropped.editor? request.path
  found : filed.cache.peek? request.path = schema
  /-- The schema is found again as long as it is the one that was found. -/
  again : ∀ {later : Registry}, later.cache.peek? request.path = schema →
    (schemaFor request).run later = (schema, later)

/-- **A schema that is filed is found**, whatever the module is. -/
theorem run_schemaFor_of_peek? {host : Value} (h : registry.cache.peek? request.path = some host) :
    (schemaFor request).run registry = (some host, registry) := by
  unfold schemaFor
  rw [← h]
  cases hsubject : request.subject with
  | block category given => rfl
  | object inner isItem =>
    change (({ registry with cache := registry.cache.seed request.path inner } : Registry).cache.peek?
      request.path, ({ registry with cache := registry.cache.seed request.path inner } : Registry)) = _
    rw [seed_of_peek? h]

/-- The schema of a block is looked up. -/
theorem run_schemaFor_block {category : Category} {given : Option String}
    (hsubject : request.subject = .block category given) (registry : Registry) :
    (schemaFor request).run registry = (registry.cache.peek? request.path, registry) := by
  unfold schemaFor
  rw [hsubject]
  rfl

/-- The schema of an object is filed, unless there is one. -/
theorem run_schemaFor_object {inner : Value} {isItem : Bool}
    (hsubject : request.subject = .object inner isItem) (registry : Registry) :
    (schemaFor request).run registry = (some ((registry.cache.peek? request.path).getD inner),
      { registry with cache := registry.cache.seed request.path inner }) := by
  have hpeek : (registry.cache.seed request.path inner).peek? request.path
      = some ((registry.cache.peek? request.path).getD inner) :=
    (peek?_seed_key _ _ _ _).trans (if_pos rfl)
  unfold schemaFor
  rw [hsubject, ← hpeek]
  rfl

/-- **The schema of an object is at hand.** -/
theorem filed_object {inner : Value} {isItem : Bool}
    (hsubject : request.subject = .object inner isItem) (h : setting.Keeps dropped)
    (hplaced : setting.Placed dropped request) :
    ∃ filed host, Filed setting request dropped filed (some host) := by
  have hplacedInner := hplaced
  rw [Setting.Placed, hsubject] at hplacedInner
  obtain ⟨hproper, hplace⟩ := hplacedInner
  refine ⟨_, _, run_schemaFor_object hsubject dropped, h.seed hproper hplace, ?_,
    fun path hpath hne => same_seed dropped hpath hne inner, rfl,
    (peek?_seed_key _ _ _ _).trans (if_pos rfl), run_schemaFor_of_peek?⟩
  rw [Setting.Placed, hsubject]
  exact ⟨hproper, hplace.imp_right fun hhosted => hosted_seed hhosted request.path inner⟩

/-- **The schema of a block is looked up.** -/
theorem filed_block {category : Category} {given : Option String}
    (hsubject : request.subject = .block category given) (h : setting.Keeps dropped)
    (hplaced : setting.Placed dropped request) :
    Filed setting request dropped dropped (dropped.cache.peek? request.path) where
  run := run_schemaFor_block hsubject dropped
  keeps := h
  placed := hplaced
  frame path _ _ := .refl dropped path
  editor := rfl
  found := rfl
  again {later} hlater := (run_schemaFor_block hsubject later).trans (by rw [hlater])

/-- **The schema of a block that is shown is the catalog's answer to its name.**  The editor asked
for it, is in its structured mode, and was not stale. -/
theorem answer_of_shown {category : Category} {given : Option String} {host : Value} {name : String}
    (hroot : Path.Rooted request.path) (hsubject : request.subject = .block category given)
    (h : setting.Keeps registry) (hplaced : setting.Placed registry request)
    (hrun : (currentEditor setting.view request).run registry = (state, dropped))
    (hform : state.bind EditorState.shownText? = none)
    (hhost : dropped.cache.peek? request.path = some host)
    (hname : liveName? setting.view request.path category = some name) :
    ∃ found, setting.answers name = .ok found ∧ found.schema = host := by
  rcases currentEditor_cases hrun with ⟨rfl, rfl⟩ | ⟨rfl, -⟩
  · rw [Setting.Placed, hsubject] at hplaced
    obtain ⟨place, hhosted, hexplains⟩ := h.filed hroot hplaced.ne_root hhost
    obtain rfl := h.hosted_unique hhosted hplaced
    obtain ⟨editor, asked, found, heditor, hdescriptor, hasked, hanswer, hschema⟩ := hexplains.derived
    refine ⟨found, ?_, hschema⟩
    rw [run_currentEditor, hsubject, heditor] at hrun
    dsimp only at hrun
    split at hrun
    · exact absurd (Prod.mk.inj hrun).1 nofun
    · rename_i hfresh
      have hmode : editor.mode = .structured := by
        rw [heditor] at hform
        unfold EditorState.shownText? at hform
        cases hmode : editor.mode with
        | structured => rfl
        | text format => simp [hmode] at hform
      have hsame : asked = name := by
        simpa [EditorState.isStale, hdescriptor, Descriptor.isDerived, Descriptor.block, hmode,
          hname, hasked] using hfresh
      exact hsame ▸ hanswer
  · rw [Registry.dropUnder, peek?_dropWhere _ _ hroot,
      if_pos (Path.startsWith_iff.mpr (List.prefix_refl _))] at hhost
    exact absurd hhost nofun

/-! ## Modules -/

/-- **A rendering of fields is sound** beneath the modules that they are fields of. -/
def SoundField (setting : Setting) (depth : Nat) (next : FieldRenderer) : Prop :=
  ∀ ⦃registry : Registry⦄ ⦃base steps : Path⦄ ⦃host fragment : Value⦄ (key : String),
    setting.Keeps registry → Path.Rooted base → registry.cache.peek? base = some host →
      Path.Rooted (base ++ steps) → Covers setting.view.maxRefDepth host steps fragment →
        Sound setting depth (Beneath base steps) (fun widget => [widget])
          (next key fragment host (base ++ steps)) registry

/-- **The fields of a module are sound** beneath it. -/
theorem sound_fields {next : FieldRenderer} {base : Path} {host : Value}
    (hnext : SoundField setting depth next) (hdocument : Regular setting.view.document)
    (h : setting.Keeps registry) (hbase : Path.Rooted base)
    (hhost : registry.cache.peek? base = some host) (hidden : List String) :
    Sound setting depth (Beneath base []) (fun body => body.1.map (·.2))
      (fields setting.view next host base hidden) registry := by
  have hproper : Proper host := h.proper hbase hhost
  unfold fields
  split
  · rename_i shape hclass
    let entries := fieldSchemas shape hidden (Document.read? setting.view.document base)
    have hnodup : (entries.map (·.1)).Nodup := nodup_fieldSchemas hproper.regular hclass
      fun value hvalue => regular_read? hdocument hvalue
    have hdisjoint : entries.Pairwise fun a b =>
        ∀ path, Beneath base [.key a.1] path → ¬ Beneath base [.key b.1] path := by
      refine (List.pairwise_map.mp hnodup).imp fun {a b} hne path hpath => ?_
      exact disjoint_beneath (fun hkey => hne (Segment.key.inj hkey)) hpath
    have hmember : ∀ entry ∈ entries, ∀ registry, setting.Keeps registry →
        registry.cache.peek? base = some host →
          Sound setting depth (Beneath base [.key entry.1]) (fun member => [member.2])
            (do return (entry.1, ← next entry.1 entry.2 host (base.child entry.1))) registry := by
      intro entry hentry registry h hhost
      have hfield := hnext entry.1 h hbase hhost (rooted_child hbase _)
        (covers_of_mem hproper hclass hentry)
      exact hfield.map _ fun widget hgood other hother => hgood other hother
    have hmembers := sound_mapM hbase entries (fun entry _ => downward_beneath base [.key entry.1])
      (fun entry _ => not_beneath_self base _) hdisjoint hmember registry h hhost
    have hbelow : ∀ path, (∃ entry ∈ entries, Beneath base [.key entry.1] path) →
        Beneath base [] path := by
      rintro path ⟨entry, -, hpath, hne⟩
      exact ⟨(List.append_nil base).symm ▸ (List.prefix_append _ _).trans hpath, hne⟩
    refine (hmembers.mono hbelow).map _ fun members hgood widget hwidget => ?_
    obtain ⟨member, hmember, rfl⟩ := List.mem_map.mp hwidget
    exact hgood _ (List.mem_flatMap.mpr ⟨member, hmember, List.mem_singleton_self _⟩)
  · rename_i hclass
    have hroot : Path.Rooted (base ++ []) := by rwa [List.append_nil]
    have hvalue := hnext "value" h hbase hhost hroot (covers_value hproper hclass)
    rw [List.append_nil] at hvalue
    exact hvalue.map _ fun widget hgood other hother => hgood other hother

theorem run_bind_of {α β : Type} {renderer : Renderer α} {next : α → Renderer β} {a : α}
    (h : renderer.run registry = (a, filed)) :
    (renderer >>= next).run registry = (next a).run filed := by
  rw [StateT.run_bind, h]
  rfl

/-- The body of a module as it is rendered. -/
theorem run_module_form {view : View} {next : FieldRenderer} {host : Value}
    (hcurrent : (currentEditor view request).run registry = (state, dropped))
    (hform : state.bind EditorState.shownText? = none)
    (hschema : (schemaFor request).run dropped = (some host, filed)) :
    (module view next request).run registry =
      let body := (fields view next host request.path (hiddenKeys request.subject)).run filed
      (.form (headOf view request state) body.1.1 body.1.2, body.2) := by
  unfold module
  rw [run_bind_of hcurrent]
  rw [hform]
  dsimp only
  rw [run_bind_of hschema]
  rfl

theorem run_module_pending {view : View} {next : FieldRenderer}
    (hcurrent : (currentEditor view request).run registry = (state, dropped))
    (hform : state.bind EditorState.shownText? = none)
    (hschema : (schemaFor request).run dropped = (none, filed)) :
    (module view next request).run registry =
      (.pending (headOf view request state) (filed.cache.isLoading request.path), filed) := by
  unfold module
  rw [run_bind_of hcurrent]
  rw [hform]
  dsimp only
  rw [run_bind_of hschema]
  rfl

theorem run_module_source {view : View} {next : FieldRenderer}
    {shown : Format × String × Option ParseError}
    (hcurrent : (currentEditor view request).run registry = (state, dropped))
    (htext : state.bind EditorState.shownText? = some shown) :
    (module view next request).run registry =
      (.source (headOf view request state) shown.1 shown.2.1 shown.2.2, dropped) := by
  unfold module
  rw [run_bind_of hcurrent]
  rw [htext]
  rfl

/-- Whatever the subject of a module is, its schema is looked up and filed. -/
theorem exists_filed (h : setting.Keeps dropped) (hplaced : setting.Placed dropped request) :
    ∃ filed schema, Filed setting request dropped filed schema ∧
      (schema = none → ∃ category given, request.subject = .block category given) ∧
      (∀ category given, request.subject = .block category given → filed = dropped) := by
  cases hsubject : request.subject with
  | object inner isItem =>
    obtain ⟨filed, host, hfiled⟩ := filed_object hsubject h hplaced
    exact ⟨filed, _, hfiled, nofun, nofun⟩
  | block category given =>
    exact ⟨dropped, _, filed_block hsubject h hplaced, fun _ => ⟨category, given, rfl⟩,
      fun _ _ _ => rfl⟩

/-- The role of a module tells its kind. -/
theorem subject_of_role {view : View} {category : Category} {given : Option String}
    (h : roleOf view request state = .block category given) :
    ∃ given, request.subject = .block category given := by
  unfold roleOf at h
  split at h
  · split at h <;> exact absurd h nofun
  · rename_i found given' hsubject
    obtain ⟨rfl, -⟩ := Role.block.inj h
    exact ⟨given', hsubject⟩

/-- The lookup of the editor of a module is confined to its path and what is below. -/
theorem frame_currentEditor
    (hrun : (currentEditor setting.view request).run registry = (state, dropped))
    (path : Path) (hpath : Path.Rooted path) (hout : ¬ request.path <+: path) :
    Same dropped registry path := by
  rcases currentEditor_cases hrun with ⟨rfl, -⟩ | ⟨rfl, -⟩
  · exact .refl _ path
  · exact same_dropUnder registry hpath hout

theorem keeps_currentEditor_of (h : setting.Keeps registry)
    (hrun : (currentEditor setting.view request).run registry = (state, dropped)) :
    setting.Keeps dropped := by
  rcases currentEditor_cases hrun with ⟨rfl, -⟩ | ⟨rfl, -⟩
  · exact h
  · exact h.dropWhere (dropsBelow_startsWith request.path)

/-- A module that is shown as text is sound. -/
theorem sound_module_source {next : FieldRenderer} {shown : Format × String × Option ParseError}
    (hroot : Path.Rooted request.path) (h : setting.Keeps registry)
    (hcurrent : (currentEditor setting.view request).run registry = (state, dropped))
    (htext : state.bind EditorState.shownText? = some shown) :
    Sound setting depth (fun path => request.path <+: path) (fun widget => [widget])
      (module setting.view next request) registry := by
  have hrun : (module setting.view next request).run registry = _ :=
    run_module_source hcurrent htext
  refine ⟨?_, fun path hpath hout => ?_, fun later hlater => ?_,
    fun widget hwidget entry hentry => ?_⟩
  · rw [hrun]
    exact keeps_currentEditor_of h hcurrent
  · rw [hrun]
    exact frame_currentEditor hcurrent path hpath hout
  · rw [hrun] at hlater ⊢
    have hsame := hlater request.path hroot (List.prefix_refl _)
    exact run_module_source (currentEditor_again hroot.parse_key hcurrent hsame.editor) htext
  · rw [hrun] at hwidget
    obtain rfl := List.mem_singleton.mp hwidget
    obtain rfl := List.mem_singleton.mp hentry
    trivial

/-- **A module whose schema is missing is sound**: it is a block. -/
theorem sound_module_pending {next : FieldRenderer} (hroot : Path.Rooted request.path)
    (hcurrent : (currentEditor setting.view request).run registry = (state, dropped))
    (hform : state.bind EditorState.shownText? = none)
    (hfiled : Filed setting request dropped filed none)
    (hframe : ∀ path, Path.Rooted path → ¬ request.path <+: path → Same filed registry path)
    {category : Category} {given : Option String} (hblock : request.subject = .block category given) :
    Sound setting depth (fun path => request.path <+: path) (fun widget => [widget])
      (module setting.view next request) registry := by
  have hrun : (module setting.view next request).run registry = _ :=
    run_module_pending hcurrent hform hfiled.run
  refine ⟨?_, fun path hpath hout => ?_, fun later hlater => ?_,
    fun widget hwidget entry hentry => ?_⟩
  · rw [hrun]
    exact hfiled.keeps
  · rw [hrun]
    exact hframe path hpath hout
  · rw [hrun] at hlater ⊢
    have hsame := hlater request.path hroot (List.prefix_refl _)
    rw [run_module_pending (currentEditor_again hroot.parse_key hcurrent (hsame.editor.trans hfiled.editor)) hform
      (hfiled.again (hsame.schema.trans hfiled.found)), hsame.loading]
  · rw [hrun] at hwidget ⊢
    obtain rfl := List.mem_singleton.mp hwidget
    obtain rfl := List.mem_singleton.mp hentry
    have hhosted := hfiled.placed
    rw [Setting.Placed, hblock] at hhosted
    have hrole : ∃ named, roleOf setting.view request state = .block category named := by
      rw [roleOf, hblock]
      exact ⟨_, rfl⟩
    obtain ⟨named, hrole⟩ := hrole
    exact ⟨List.prefix_refl _, hroot, hfiled.found, category, named, hrole, hhosted⟩

/-- **A module that is shown by its schema is sound**, and if it is a block, the schema is its
own. -/
theorem sound_module_form {host : Value}
    (hnext : SoundField setting (depth + 1) (setting.fieldAt depth))
    (hdocument : Regular setting.view.document) (hroot : Path.Rooted request.path)
    (hcurrent : (currentEditor setting.view request).run registry = (state, dropped))
    (hform : state.bind EditorState.shownText? = none)
    (hfiled : Filed setting request dropped filed (some host))
    (hframe : ∀ path, Path.Rooted path → ¬ request.path <+: path → Same filed registry path)
    (hown : ∀ category given name, request.subject = .block category given →
      liveName? setting.view request.path category = some name →
        ∃ found, setting.answers name = .ok found ∧ found.schema = host) :
    Sound setting depth (fun path => request.path <+: path) (fun widget => [widget])
      (module setting.view (setting.fieldAt depth) request) registry := by
  have hrun : (module setting.view (setting.fieldAt depth) request).run registry = _ :=
    run_module_form hcurrent hform hfiled.run
  have hbody :=
    sound_fields hnext hdocument hfiled.keeps hroot hfiled.found (hiddenKeys request.subject)
  have hbelow : ∀ path, Beneath request.path [] path → request.path <+: path :=
    fun path hpath => List.append_nil request.path ▸ hpath.1
  have hsameSelf := hbody.frame request.path hroot (not_beneath_self _ _)
  refine ⟨?_, fun path hpath hout => ?_, fun later hlater => ?_,
    fun widget hwidget entry hentry => ?_⟩
  · rw [hrun]
    exact hbody.keeps
  · rw [hrun]
    exact (hbody.frame path hpath fun hin => hout (hbelow path hin)).trans (hframe path hpath hout)
  · rw [hrun] at hlater ⊢
    have hsame := (hlater request.path hroot (List.prefix_refl _)).trans hsameSelf
    rw [run_module_form (currentEditor_again hroot.parse_key hcurrent (hsame.editor.trans hfiled.editor)) hform
      (hfiled.again (hsame.schema.trans hfiled.found)), hbody.replay later (hlater.mono hbelow)]
  · rw [hrun] at hwidget ⊢
    obtain rfl := List.mem_singleton.mp hwidget
    rcases List.mem_cons.mp hentry with rfl | hfield
    · refine ⟨List.prefix_refl _, fun category given name hrole hname later hlater => ?_⟩
      obtain ⟨given, hsubject⟩ := subject_of_role hrole
      obtain ⟨found, hanswer, rfl⟩ := hown category given name hsubject hname
      refine ⟨found, hanswer, ?_⟩
      have hhidden : hiddenKeys (.block category none) = hiddenKeys request.subject := by
        rw [hsubject]
        rfl
      rw [hhidden]
      exact hbody.replay later (hlater.mono hbelow)
    · obtain ⟨member, hmember, hentry⟩ := Widget.mem_levelsOfFields.mp hfield
      exact (hbody.good member.2 (List.mem_map_of_mem hmember) entry hentry).mono hbelow

/-- **A module at its place is sound** at and below its path. -/
theorem sound_module (request : ModuleRequest)
    (hnext : SoundField setting (depth + 1) (setting.fieldAt depth))
    (hdocument : Regular setting.view.document) (hroot : Path.Rooted request.path)
    (h : setting.Keeps registry) (hplaced : setting.Placed registry request) :
    Sound setting depth (fun path => request.path <+: path) (fun widget => [widget])
      (module setting.view (setting.fieldAt depth) request) registry := by
  obtain ⟨state, dropped, hcurrent⟩ :
      ∃ state dropped, (currentEditor setting.view request).run registry = (state, dropped) :=
    ⟨_, _, rfl⟩
  cases htext : state.bind EditorState.shownText? with
  | some shown => exact sound_module_source hroot h hcurrent htext
  | none =>
    obtain ⟨filed, schema, hfiled, hmissing, hblock⟩ :=
      exists_filed (keeps_currentEditor_of h hcurrent) (hplaced.current hcurrent)
    have hframe : ∀ path, Path.Rooted path → ¬ request.path <+: path → Same filed registry path := by
      intro path hpath hout
      refine (hfiled.frame path hpath ?_).trans (frame_currentEditor hcurrent path hpath hout)
      rintro rfl
      exact hout (List.prefix_refl _)
    cases schema with
    | none =>
      obtain ⟨category, given, hsubject⟩ := hmissing rfl
      exact sound_module_pending hroot hcurrent htext hfiled hframe hsubject
    | some host =>
      refine sound_module_form hnext hdocument hroot hcurrent htext hfiled hframe ?_
      intro category given name hsubject hname
      obtain rfl := hblock category given hsubject
      exact answer_of_shown hroot hsubject h hplaced hcurrent htext hfiled.found hname

end SchemaForms.Render
