import SchemaForms.Proofs.Session.Hydrating

/-!
# Proofs/Session/OwnSchemas — no block is shown by the schema of another

Blocks come and go at a path, and the text of one may be edited until it names another.  Whatever
was done to a session, in the tree of the next hydration every block that is shown as a form is
shown by the catalog's answer to the name that the document gives it then, and the objects inside it by
the schemas that this answer has for them (`blocks_show_their_own_schemas`).  What carries this over a
run is that every schema that is filed belongs where it is.
-/

namespace SchemaForms.Session

open Schema (Bare Proper)

variable {σ : Type} {answers : String → Except FetchError Catalog.BlockSchema}
  {definition : Catalog.Definition} {source : Catalog.Source σ}

/-! ## Runs -/

/-- What is asked of a session from outside, one thing after the other. -/
inductive Call where
  | act (action : Action)
  /-- The hydration of the whole document. -/
  | hydrate

/-- Whether a call leaves it to the session which schemas are filed: no keys are declared, and no
editor but that of the whole document is rendered. -/
def Call.isPlain : Call → Bool
  | .act (.addProperty _ _ _) => false
  | .act (.render path) => decide (path = Path.root)
  | _ => true

/-- A session and its catalog after a call. -/
def call (source : Catalog.Source σ) (reached : Session × σ) : Call → Session × σ
  | .act action => (reached.1.act action, reached.2)
  | .hydrate => (reached.1.hydrate source Path.root reached.2).2

/-- A session and its catalog after a run of calls. -/
def calls (source : Catalog.Source σ) (reached : Session × σ) (run : List Call) : Session × σ :=
  run.foldl (call source) reached

/-! ## What calls keep -/

/-- **An action keeps every schema where it belongs.** -/
theorem keeps_act_of_isPlain {session : Session} {action : Action} (h : Keeps answers session)
    (hdocument : session.store.document.Regular) (hplain : (Call.act action).isPlain = true) :
    Keeps answers (session.act action) := by
  obtain ⟨registry, heffect, hnext⟩ := edited_act session action
  unfold Keeps
  rw [hnext.config, hnext.registry]
  cases heffect with
  | none => exact h
  | dropped hbelow => exact h.dropWhere hbelow
  | wentOn hstate => exact h.wentOn hstate
  | filed path key kind schema => exact absurd hplain nofun
  | rendered path =>
    obtain rfl : path = Path.root := of_decide_eq_true hplain
    exact keeps_render_root h hdocument

theorem keeps_call (hfixed : source.Fixed answers definition)
    (hanswers : ∀ name found, answers name = .ok found → Proper found.schema)
    {reached : Session × σ} {made : Call} (h : Keeps answers reached.1)
    (hdocument : reached.1.store.document.Regular) (hplain : made.isPlain = true) :
    Keeps answers (call source reached made).1 := by
  cases made with
  | act action => exact keeps_act_of_isPlain h hdocument hplain
  | hydrate =>
    obtain ⟨last, later, hhydrate, hstore, -, hlast⟩ := hydrate_spec hfixed hanswers reached.1 h
      hdocument reached.2
    have hregular : last.store.document.Regular := by
      rw [hstore]
      exact hdocument
    rw [call, hhydrate]
    exact keeps_render_root hlast hregular

/-- The documents that a run goes through are those after so many of its calls. -/
theorem regular_of_take {reached : Session × σ} {run : List Call}
    (htaken : ∀ n ∈ List.range (run.length + 1),
      (calls source reached (run.take n)).1.store.document.Regular) :
    ∀ done, done <+: run → (calls source reached done).1.store.document.Regular := by
  intro done hdone
  rw [List.prefix_iff_eq_take.mp hdone]
  exact htaken _ (List.mem_range.mpr (Nat.lt_succ_of_le hdone.length_le))

/-- **A run of calls keeps every schema where it belongs.** -/
theorem keeps_calls (hfixed : source.Fixed answers definition)
    (hanswers : ∀ name found, answers name = .ok found → Proper found.schema)
    (run : List Call) (hplain : ∀ made ∈ run, made.isPlain = true) (reached : Session × σ)
    (h : Keeps answers reached.1)
    (hdocuments : ∀ done, done <+: run → (calls source reached done).1.store.document.Regular) :
    Keeps answers (calls source reached run).1 := by
  induction run generalizing reached with
  | nil => exact h
  | cons made run ih =>
    have hnow : reached.1.store.document.Regular := hdocuments [] List.nil_prefix
    refine ih (fun other hother => hplain other (List.mem_cons_of_mem _ hother)) _
      (keeps_call hfixed hanswers h hnow (hplain made List.mem_cons_self)) fun done hdone => ?_
    exact hdocuments (made :: done) (List.cons_prefix_cons.mpr ⟨rfl, hdone⟩)

/-! ## The start -/

/-- **A session that was opened has its first schema where it belongs.** -/
theorem keeps_openRoot (hfixed : source.Fixed answers definition)
    (hroot : Proper (rootSchema definition)) {config : Config} (hpolicy : config.policy = .reuse)
    (document : Value) (state : σ) :
    Keeps answers (openRoot source (ofDocument config document) state).2.1 := by
  let descriptor := Descriptor.inline (rootSchema definition)
  obtain ⟨later, hlater⟩ : ∃ later, source.root state = (later, .ok definition) :=
    ⟨_, Prod.ext rfl (hfixed.root state)⟩
  obtain ⟨recorded, hstart⟩ :
      ∃ recorded, recorded = (ofDocument config document).recordMount Path.root descriptor none :=
    ⟨_, rfl⟩
  have hrecorded : Keeps answers recorded := by
    have hempty : Keeps answers (ofDocument config document) := by
      change Consistent _ answers (.empty config.policy)
      rw [hpolicy]
      exact consistent_empty _ answers
    rw [hstart]
    exact hempty.recordedRoot rfl hroot
  have hmissing : recorded.registry.cache.peek? Path.root = none := by
    rw [hstart]
    rfl
  obtain ⟨schema, hpeek, -⟩ | ⟨-, hrequest⟩ :=
    Cache.request_of_idle hrecorded.policy hrecorded.idle Path.root
  · exact absurd (hmissing.symm.trans hpeek) nofun
  · have hname : descriptor.blockName? ((ofDocument config document).value? Path.root) = none := rfl
    have hfiled : ∀ schema, Cache.schemaOf? (.ok (some (rootSchema definition))) = some schema →
        Proper schema ∧ (Path.root ≠ Path.root → ∃ place,
          Hosted recorded.config.maxRefDepth recorded.registry Path.root place ∧
            Explains answers recorded.registry Path.root schema place) := by
      rintro schema ⟨⟩
      exact ⟨hroot, fun hne => absurd rfl hne⟩
    have hfinished := hrecorded.finished hmissing hfiled
    unfold openRoot beginMount
    rw [hlater]
    dsimp only
    rw [hname, ← hstart, hrequest]
    exact hfinished.settle _ _ _

/-! ## Catalogs in memory -/

/-- A catalog in memory gives fixed answers. -/
theorem fixed_source {catalog : Catalog} (hroot : catalog.root = some definition) :
    (catalog.source : Catalog.Source σ).Fixed catalog.schemaOf definition where
  schema _ _ := rfl
  root _ := by
    change catalog.rootDefinition = _
    rw [Catalog.rootDefinition, hroot]

/-! ## The tree of a hydration -/

/-- **No block is ever shown by the schema of another.**  After any run of calls, the hydration of
the whole document ends with a tree.  Every block in it that is shown as a form, and whose instance
in the document names a block, has exactly the fields that come of the catalog's schema of that
block, rendered at the depth at which it stands; and every schema that is filed then, also that of an
object inside a block, belongs where it is.  The documents on the way are values as they are held in
memory. -/
theorem blocks_show_their_own_schemas (hfixed : source.Fixed answers definition)
    (hroot : Bare (rootSchema definition))
    (hblocks : ∀ name found, answers name = .ok found → Bare found.schema) {config : Config}
    (hpolicy : config.policy = .reuse) (document : Value) (start : σ) {opened : Session × σ}
    (hopened : opened = (openRoot source (ofDocument config document) start).2) (run : List Call)
    (hplain : ∀ made ∈ run, made.isPlain = true)
    (hdocuments : ∀ done, done <+: run → (calls source opened done).1.store.document.Regular)
    {reached : Session × σ} (hreached : reached = calls source opened run) :
    ∃ widget final later,
      reached.1.hydrate source Path.root reached.2 = (some widget, final, later) ∧
      final.store = reached.1.store ∧
      Keeps answers final ∧
      ∀ depth head fields isOpen category given name,
        (depth, .form head fields isOpen) ∈ widget.levels 0 →
        head.role = .block category given →
        Render.liveName? final.view head.path category = some name →
        ∃ found, answers name = .ok found ∧
          (Render.fields final.view (final.fieldAt depth) found.schema head.path
            (Render.hiddenKeys (.block category none))).run final.registry
              = ((fields, isOpen), final.registry) := by
  have hanswers : ∀ name found, answers name = .ok found → Proper found.schema :=
    fun name found hfound => (hblocks name found hfound).proper
  have hstart : Keeps answers opened.1 := by
    rw [hopened]
    exact keeps_openRoot hfixed hroot.proper hpolicy document start
  have hkeeps : Keeps answers reached.1 := by
    rw [hreached]
    exact keeps_calls hfixed hanswers run hplain opened hstart hdocuments
  have hdocument : reached.1.store.document.Regular := by
    rw [hreached]
    exact hdocuments run (List.prefix_refl run)
  obtain ⟨last, later, hhydrate, hstore, -, hlast⟩ :=
    hydrate_spec hfixed hanswers reached.1 hkeeps hdocument reached.2
  have hregular : last.store.document.Regular := by
    rw [hstore]
    exact hdocument
  refine ⟨_, _, later, hhydrate, hstore, keeps_render_root hlast hregular, ?_⟩
  intro depth head fields isOpen category given name hform hrole hname
  have hgood := (sound_render hlast hregular).good _ (List.mem_singleton_self _) _ hform
  exact hgood.2 category given name hrole hname _ (.refl _ _)

/-- A block is hydrated, and then the instance at its path is overwritten by one of another
block. -/
theorem blocks_show_their_own_schemas_overwritten :
    let slot := Path.root.child "trigger"
    let schema := fun key => Value.obj [("type", .str "object"),
      ("properties", .obj [(key, .obj [("type", .str "string")])])]
    let catalog : Catalog :=
      ⟨[(.trigger, [⟨"stateTrigger", none, none, some (schema "entity"), []⟩,
          ⟨"timeTrigger", none, none, some (schema "at"), []⟩])],
        some ⟨"automation", none, none, some (.obj [("properties",
          .obj [("trigger", .obj [("x-block-type", .str "trigger")])])]), []⟩⟩
    let source : Catalog.Source Unit := catalog.source
    let opened := (openRoot source (ofDocument .default (.obj [("root", .obj [])])) ()).2
    let run := [Call.act (.insert ⟨.trigger, slot, false⟩ (.named "stateTrigger")), .hydrate,
      .act (.input slot (.value (.obj [("trigger", .str "time")])))]
    let reached := calls source opened run
    ∃ widget final later,
      reached.1.hydrate source Path.root reached.2 = (some widget, final, later) ∧
      Keeps catalog.schemaOf final ∧
      ∃ head fields isOpen, (1, .form head fields isOpen) ∈ widget.levels 0 ∧ head.path = slot ∧
        (Render.fields final.view (final.fieldAt 1) (schema "at") slot ["trigger", "alias"]).run
          final.registry = ((fields, isOpen), final.registry) := by
  intro slot schema catalog source opened run reached
  have hdocuments : ∀ done, done <+: run → (calls source opened done).1.store.document.Regular :=
    regular_of_take (by decide +kernel)
  obtain ⟨widget, final, later, hhydrate, hstore, hkeeps, hown⟩ := blocks_show_their_own_schemas
    (fixed_source rfl) (by decide) (bare_schemaOf (by decide)) rfl (.obj [("root", .obj [])]) () rfl run
    (by decide) hdocuments rfl
  have hshown : ((reached.1.hydrate source Path.root reached.2).1.any fun widget =>
      (widget.levels 0).any fun entry => match entry with
        | (1, .form head _ _) =>
          decide (head.path = slot ∧ head.role = .block .trigger (some "timeTrigger"))
        | _ => false) = true := by decide +kernel
  have hlive : (Document.read? reached.1.store.document slot).bind
      (fun found => Catalog.nameFromInstance? found .trigger) = some "timeTrigger" := by
    decide +kernel
  rw [hhydrate] at hshown
  obtain ⟨entry, hentry, hform⟩ := List.any_eq_true.mp hshown
  split at hform
  · rename_i head fields isOpen
    obtain ⟨hpath, hrole⟩ := of_decide_eq_true hform
    have hname : Render.liveName? final.view head.path .trigger = some "timeTrigger" := by
      rw [hpath, ← hlive, ← hstore]
      rfl
    obtain ⟨found, hfound, hbody⟩ := hown 1 head fields isOpen .trigger _ _ hentry hrole hname
    obtain rfl := Except.ok.inj hfound
    rw [hpath] at hbody
    exact ⟨widget, final, later, hhydrate, hkeeps, head, fields, isOpen, hentry, hpath, hbody⟩
  · exact absurd hform nofun

end SchemaForms.Session
