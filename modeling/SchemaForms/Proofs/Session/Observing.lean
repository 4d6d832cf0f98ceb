import SchemaForms.Proofs.Render.Growth
import SchemaForms.Proofs.Session.Locality
import SchemaForms.Proofs.Session.OwnSchemas

/-!
# Proofs/Session/Observing — who notices that an editor was rendered

Rendering an editor files schemas and may drop what is filed, at its path and below.  An editor that
lies apart cannot tell (`twin_observed`).  Where every schema belongs where it is, an editor that is
mounted for the block at its place files schemas of objects only, and an editor that is `InPlace`
itself cannot tell whether they are filed yet: the sessions run `Abreast`.  So in both cases a
hydration shows the same as if nothing had been rendered (`rendering_goes_unnoticed`).
-/

namespace SchemaForms.Session

open Render (Alike Fresh Grown)
open Schema (Proper)

variable {σ : Type} {answers : String → Except FetchError Catalog.BlockSchema} {path : Path}
  {category : Category} {session before after : Session}

/-! ## Editors in their places -/

/-- **An editor that stands where it belongs**: that of the whole document, once it has its schema,
or one that was mounted for the block at its path, where the schema of a module above it puts a
block. -/
inductive Stands (session : Session) (path : Path) : Prop where
  | root (hpath : path = Path.root) (hfiled : session.registry.cache.peek? Path.root ≠ none)
  | block {category : Category} {state : EditorState} (hpath : Path.Rooted path)
      (hhosted : Hosted session.config.maxRefDepth session.registry path (.block category))
      (heditor : session.editor? path = some state)
      (hdescriptor : state.descriptor = some (.block category))
      (hfresh : state.isStale (Render.liveName? session.view path category) = false)

theorem Stands.rooted (h : Stands session path) : Path.Rooted path := by
  cases h with
  | root hpath => exact hpath ▸ Path.rooted_root
  | block hpath => exact hpath

/-- **What an editor needs to stay where it stands**: its state, and the schemas above it. -/
theorem Stands.kept (h : Stands before path) (hconfig : after.config = before.config)
    (hstore : after.store = before.store)
    (hkept : ∀ base, base <+: path → Path.Rooted base → ∀ host,
      before.registry.cache.peek? base = some host → after.registry.cache.peek? base = some host)
    (hsame : after.editor? path = before.editor? path) : Stands after path := by
  cases h with
  | root hpath hfiled =>
    obtain ⟨host, hhost⟩ := Option.ne_none_iff_exists'.mp hfiled
    have hthere := hkept Path.root (hpath ▸ List.prefix_refl _) Path.rooted_root host hhost
    exact .root hpath fun hnone => absurd (hnone.symm.trans hthere) nofun
  | block hpath hhosted heditor hdescriptor hfresh =>
    refine .block hpath ?_ (hsame.trans heditor) hdescriptor (view_eq hconfig hstore ▸ hfresh)
    rw [hconfig]
    exact hhosted.of_same hkept

/-- What an editor shows that stands for a block. -/
theorem moduleOf_of_block {state : EditorState} (heditor : session.editor? path = some state)
    (hdescriptor : state.descriptor = some (.block category)) :
    session.moduleOf path = ⟨none, path, .block category none, false⟩ := by
  rw [moduleOf, heditor, Option.bind_some, hdescriptor]
  rfl

/-- **An editor in a session in which all is in its place.** -/
structure InPlace (answers : String → Except FetchError Catalog.BlockSchema) (session : Session)
    (path : Path) : Prop where
  keeps : Keeps answers session
  regular : session.store.document.Regular
  stands : Stands session path

namespace InPlace

theorem placed (h : InPlace answers session path) :
    (session.setting answers).Placed session.registry (session.moduleOf path) := by
  cases h.stands with
  | root hpath => exact hpath ▸ placed_root h.keeps
  | block hpath hhosted heditor hdescriptor =>
    rw [moduleOf_of_block heditor hdescriptor]
    exact hhosted

theorem sound (h : InPlace answers session path) :
    Render.Sound (session.setting answers) 0 (fun below => path <+: below) (fun widget => [widget])
      (Render.module session.view (session.fieldAt 0) (session.moduleOf path)) session.registry :=
  Render.sound_module (session.moduleOf path) (Render.sound_field h.regular 0) h.regular
    h.stands.rooted h.keeps h.placed

/-- The schema of the whole document is there. -/
theorem top (h : InPlace answers session path) (hpath : path = Path.root) :
    session.registry.cache.peek? Path.root ≠ none := by
  cases h.stands with
  | root _ hfiled => exact hfiled
  | block _ hhosted => exact absurd hpath hhosted.ne_root

theorem grows (h : InPlace answers session path) :
    Render.Grows (session.setting answers) (fun widget => [widget])
      (Render.module session.view (session.fieldAt 0) (session.moduleOf path)) session.registry :=
  Render.grows_module (session.moduleOf path) (Render.sound_field h.regular 0)
    (Render.grows_field h.regular 0) h.stands.rooted h.keeps h.placed h.top

/-- **An editor in its place is not stale.** -/
theorem not_stale (h : InPlace answers session path) (category : Category) (given : Option String)
    (found : EditorState) (hsubject : (session.moduleOf path).subject = .block category given)
    (hfound : session.editor? path = some found) :
    found.isStale (Render.liveName? session.view path category) = false := by
  cases h.stands with
  | root hpath =>
    have hplaced := h.placed
    rw [Render.Setting.Placed, hsubject] at hplaced
    exact absurd hpath hplaced.ne_root
  | block hpath hhosted heditor hdescriptor hfresh =>
    rw [moduleOf_of_block heditor hdescriptor] at hsubject
    obtain ⟨rfl, -⟩ := Subject.block.inj hsubject
    obtain rfl := Option.some.inj (heditor.symm.trans hfound)
    exact hfresh

/-- **A rendering leaves an editor in its place.** -/
theorem render (h : InPlace answers session path) :
    InPlace answers (session.render path).2 path := by
  have hfield : Render.SoundField (session.setting answers) 1 (session.fieldAt 0) :=
    Render.sound_field h.regular 0
  obtain ⟨filed, hgrown, hsame⟩ := Render.module_keeps_itself (session.moduleOf path) hfield
    h.regular h.stands.rooted h.keeps h.placed h.top h.not_stale
  have hkept : ∀ base, base <+: path → Path.Rooted base → ∀ host,
      session.registry.cache.peek? base = some host →
        (session.render path).2.registry.cache.peek? base = some host := by
    intro base hle hbase host hhost
    by_cases hself : base = path
    · subst hself
      exact hsame.schema.trans (hgrown.kept hbase hhost)
    · have hout : ¬ path <+: base := fun hbelow => hself (hle.eq_of_length_le hbelow.length_le)
      exact (h.sound.frame base hbase hout).schema.trans hhost
  refine ⟨h.sound.keeps, h.regular, h.stands.kept rfl rfl hkept ?_⟩
  exact hsame.editor.trans (hgrown.editor h.stands.rooted)

/-- **A mount leaves an editor in its place**, be it its own or another. -/
theorem mounted {other : Path} (h : InPlace answers before path)
    (hmounted : Mounted answers before after other category)
    (hother : Hosted before.config.maxRefDepth before.registry other (.block category)) :
    InPlace answers after path := by
  have hregular : after.store.document.Regular := by
    rw [hmounted.store]
    exact h.regular
  refine ⟨hmounted.keeps, hregular, ?_⟩
  by_cases hself : path = other
  · subst hself
    obtain ⟨state, hstate, hdescriptor, hname⟩ := hmounted.named
    refine .block h.stands.rooted ?_ hstate hdescriptor ?_
    · rw [hmounted.config]
      exact hother.of_same fun _ _ hbase _ hhost => hmounted.kept hbase hhost
    · rw [view_eq hmounted.config hmounted.store, ← askedName?_eq]
      exact EditorState.isStale_of_name_eq hname
  · exact h.stands.kept hmounted.config hmounted.store
      (fun _ _ hbase _ hhost => hmounted.kept hbase hhost) (hmounted.apart h.stands.rooted hself).1

end InPlace

/-! ## Sessions abreast -/

/-- A session and one that only files more schemas of objects. -/
structure Ahead (before after : Session) : Prop where
  config : after.config = before.config
  store : after.store = before.store
  mounts : after.mounts = before.mounts
  grown : Grown before.config.maxRefDepth before.registry after.registry

theorem Ahead.refl (session : Session) : Ahead session session := ⟨rfl, rfl, rfl, .refl _ _⟩

/-- The limit on references is the same. -/
theorem Ahead.grown_after (h : Ahead before after) :
    Grown after.config.maxRefDepth before.registry after.registry := by
  rw [h.config]
  exact h.grown

/-- **An editor that is in its place stays there in a session that is ahead.** -/
theorem Ahead.stands (h : Ahead before after) (hstands : Stands before path) :
    Stands after path :=
  hstands.kept h.config h.store (fun _ _ hbase _ hhost => h.grown.kept hbase hhost)
    (h.grown.editor hstands.rooted)

/-- The schema of a block is the same. -/
theorem Ahead.schema_eq (h : Ahead before after) (hafter : Keeps answers after)
    (hpath : Path.Rooted path)
    (hhosted : Hosted after.config.maxRefDepth after.registry path (.block category)) :
    after.registry.cache.peek? path = before.registry.cache.peek? path := by
  unfold Keeps at hafter
  rw [h.config] at hafter hhosted
  exact h.grown.block hafter hpath hhosted

/-- Where the schema is the same, the sessions cannot be told apart. -/
theorem Ahead.twin (h : Ahead before after) (hpath : Path.Rooted path)
    (hschema : after.registry.cache.peek? path = before.registry.cache.peek? path) :
    Twin (fun other => other = path) after before := by
  refine ⟨h.config, h.store, h.mounts, h.grown.bare, ?_, ?_⟩
  · rintro other rfl
    exact h.grown.editor hpath
  · rintro other rfl
    exact hschema

/-- **A session that is ahead shows the same, and stays ahead.** -/
theorem Ahead.render (h : Ahead before after) (hplace : InPlace answers after path) :
    (before.render path).1 = (after.render path).1 ∧
      Ahead (before.render path).2 (after.render path).2 := by
  obtain ⟨hsame, hnext⟩ := hplace.grows.follows h.grown_after
  rw [render_eq h.config.symm h.store.symm (h.grown.editor hplace.stands.rooted).symm]
  refine ⟨hsame, h.config, h.store, h.mounts, ?_⟩
  change Grown before.config.maxRefDepth _ _
  rw [← h.config]
  exact hnext

/-- **A rendering leaves a session ahead**, if no block that it shows was stale. -/
theorem Ahead.rendered (h : Ahead before after) (hplace : InPlace answers after path)
    (hfresh : Fresh before.view before.registry (before.render path).1) :
    Ahead before (after.render path).2 := by
  rw [(h.render hplace).1, ← view_eq h.config h.store] at hfresh
  refine ⟨h.config, h.store, h.mounts, ?_⟩
  rw [← h.config]
  exact hplace.grows.grown h.grown_after (List.forall_mem_singleton.mpr hfresh)

/-- **Two sessions of which one is ahead, with an editor that is in its place in both.** -/
structure Abreast (answers : String → Except FetchError Catalog.BlockSchema) (path : Path)
    (before after : Session) : Prop where
  ahead : Ahead before after
  first : InPlace answers before path
  second : InPlace answers after path

section

variable {source : Catalog.Source σ} {definition : Catalog.Definition}
  (hfixed : source.Fixed answers definition)
  (hanswers : ∀ name found, answers name = .ok found → Proper found.schema)

include hfixed hanswers

/-- **A mount of a block comes to the same in a session that is ahead**, and leaves it ahead. -/
theorem Ahead.mountNow (h : Ahead before after) (hbefore : Keeps answers before)
    (hafter : Keeps answers after) (hready : Ready before path category)
    (hreadyAfter : Ready after path category) (state : σ) :
    ∃ mode x y later,
      Session.mountNow source path (.block category) before state = (some mode, x, later) ∧
      Session.mountNow source path (.block category) after state = (some mode, y, later) ∧
      Mounted answers before x path category ∧ Mounted answers after y path category ∧
      Ahead x y := by
  obtain ⟨mode, x, later, hx, hmounted⟩ := mountNow_spec hfixed hanswers hbefore hready state
  obtain ⟨mode', y, later', hy, hmountedAfter⟩ :=
    mountNow_spec hfixed hanswers hafter hreadyAfter state
  have htwin := h.twin hready.rooted (h.schema_eq hafter hready.rooted hreadyAfter.hosted)
  obtain ⟨hmode, htwin, hlater⟩ := twin_mountNow source htwin rfl (.block category) state
  rw [hx, hy] at hmode htwin hlater
  obtain rfl : mode' = mode := Option.some.inj hmode
  obtain rfl : later' = later := hlater
  refine ⟨_, x, y, _, hx, hy, hmounted, hmountedAfter, htwin.config, htwin.store, htwin.mounts,
    htwin.alike.bare, fun {other} hother => ?_, fun {other} hother => ?_⟩
  · by_cases hself : other = path
    · exact htwin.alike.editor hself
    · have hsame := (hmounted.apart hother hself).1
      have hsameAfter := (hmountedAfter.apart hother hself).1
      exact hsameAfter.trans ((h.grown.editor hother).trans hsame.symm)
  · by_cases hself : other = path
    · exact .inl (htwin.alike.schema hself)
    · have hsame := (hmounted.apart hother hself).2
      have hsameAfter := (hmountedAfter.apart hother hself).2
      rw [hsame, hsameAfter, hmounted.config]
      rcases h.grown.schema hother with hsame | ⟨hnone, schema, hschema, hhosted⟩
      · exact .inl hsame
      refine .inr ⟨hnone, schema, hschema, hhosted.of_same fun base _ hbase host hhost => ?_⟩
      exact hmountedAfter.kept hbase hhost

theorem Abreast.mountAll (heads : List ModuleHead) (h : Abreast answers path before after)
    (hbefore : ∀ head ∈ heads, MountableHead before head)
    (hafter : ∀ head ∈ heads, MountableHead after head) (state : σ) :
    ∃ x y later, Session.mountAll source heads before state = (true, x, later) ∧
      Session.mountAll source heads after state = (true, y, later) ∧ Abreast answers path x y := by
  induction heads generalizing before after state with
  | nil => exact ⟨before, after, state, rfl, rfl, h⟩
  | cons head heads ih =>
    obtain ⟨category, given, hrole, hready⟩ := hbefore head List.mem_cons_self
    obtain ⟨category', given', hrole', hreadyAfter⟩ := hafter head List.mem_cons_self
    obtain ⟨rfl, -⟩ := Role.block.inj (hrole.symm.trans hrole')
    obtain ⟨mode, x, y, between, hx, hy, hmounted, hmountedAfter, hahead⟩ :=
      h.ahead.mountNow hfixed hanswers h.first.keeps h.second.keeps hready hreadyAfter state
    have hnext : Abreast answers path x y :=
      ⟨hahead, h.first.mounted hmounted hready.hosted,
        h.second.mounted hmountedAfter hreadyAfter.hosted⟩
    have hrest : ∀ other ∈ heads, MountableHead x other := fun other hother =>
      (hbefore other (List.mem_cons_of_mem _ hother)).later h.first.keeps hmounted hready.hosted
    have hrestAfter : ∀ other ∈ heads, MountableHead y other := fun other hother =>
      (hafter other (List.mem_cons_of_mem _ hother)).later h.second.keeps hmountedAfter
        hreadyAfter.hosted
    obtain ⟨last, lastAfter, later, hall, hallAfter, hend⟩ := ih hnext hrest hrestAfter between
    have hdescriptor : pendingDescriptor head = .block category := by
      rw [pendingDescriptor, hrole]
    refine ⟨last, lastAfter, later, ?_, ?_, hend⟩
    · rw [Session.mountAll, hdescriptor, hx]
      exact hall
    · rw [Session.mountAll, hdescriptor, hy]
      exact hallAfter

/-- **Hydrations of sessions abreast show the same.** -/
theorem Abreast.hydrateRounds (rounds : Nat) (h : Abreast answers path before after) (state : σ) :
    (Session.hydrateRounds source path rounds after state).1
      = (Session.hydrateRounds source path rounds before state).1 := by
  induction rounds generalizing before after state with
  | zero => exact congrArg some (h.ahead.render h.second).1.symm
  | succ rounds ih =>
    obtain ⟨hsame, hahead⟩ := h.ahead.render h.second
    have hnext : Abreast answers path (before.render path).2 (after.render path).2 :=
      ⟨hahead, h.first.render, h.second.render⟩
    have hheads : (after.render path).2.toMount (after.render path).1
        = (before.render path).2.toMount (before.render path).1 := by
      rw [hsame, toMount_eq hahead.grown.bare]
    have hbefore : ∀ head ∈ (before.render path).2.toMount (before.render path).1,
        MountableHead (before.render path).2 head := fun _ hhead =>
      mountable_of_sound h.first.sound hhead
    have hafter : ∀ head ∈ (after.render path).2.toMount (after.render path).1,
        MountableHead (after.render path).2 head := fun _ hhead =>
      mountable_of_sound h.second.sound hhead
    rw [hheads] at hafter
    unfold Session.hydrateRounds
    dsimp only
    rw [hheads]
    cases hmissing : (before.render path).2.toMount (before.render path).1 with
    | nil => exact congrArg some hsame.symm
    | cons head heads =>
      rw [hmissing] at hbefore hafter
      obtain ⟨x, y, later, hx, hy, hmounted⟩ :=
        hnext.mountAll hfixed hanswers (head :: heads) hbefore hafter state
      dsimp only
      rw [hx, hy]
      exact ih hmounted later

end

/-! ## Renderings of another editor -/

/-- A session after an editor was rendered a number of times. -/
def observed (session : Session) (path : Path) : Nat → Session
  | 0 => session
  | times + 1 => ((session.observed path times).render path).2

/-- No path is below two that lie apart. -/
theorem not_below_both {other below : Path} (hapart : Path.isRelated other path = false)
    (hother : other <+: below) : ¬ path <+: below := by
  intro hpath
  obtain ⟨hnotBelow, hnotAbove⟩ := Bool.or_eq_false_iff.mp hapart
  rcases List.prefix_or_prefix_of_prefix hother hpath with hle | hle
  · exact absurd (Path.startsWith_iff.mpr hle) (Bool.eq_false_iff.mp hnotAbove)
  · exact absurd (Path.startsWith_iff.mpr hle) (Bool.eq_false_iff.mp hnotBelow)

/-- Where no load is under way, only schemas are dropped. -/
theorem bare_evict {cache : Cache} (hidle : cache.inFlight = []) (path : Path) :
    (cache.evict path).bare = cache.bare := by
  unfold Cache.evict Cache.evictWhere Cache.bare
  rw [hidle]
  rfl

/-- **What happens apart is not noticed.**  What a rendering files and drops lies at or below the
editor that is rendered. -/
theorem stable_alike {other : Path} (hpath : Path.Rooted path)
    (hapart : Path.isRelated other path = false) {registry : Registry}
    (hidle : registry.cache.inFlight = []) :
    Render.Stable (fun below => other <+: below)
      fun now => Alike (fun below => path <+: below) now registry where
  drop {now dropped} hdropped h := by
    have hspared : ∀ {below : Path}, path <+: below →
        ¬ Path.startsWith (Path.parse below.key) dropped = true := fun hbelow hdoomed =>
      not_below_both hapart (hdropped.trans (Path.startsWith_iff.mp hdoomed))
        (hpath.prefix_parse_key hbelow)
    have hidleNow : now.cache.inFlight = [] := (congrArg (·.inFlight) h.bare).trans hidle
    refine ⟨(bare_evict hidleNow dropped).trans h.bare, fun hbelow => ?_, fun hbelow => ?_⟩
    · rw [Registry.dropUnder, Registry.editor?_dropWhere, if_neg (hspared hbelow), h.editor hbelow]
    · rw [Registry.dropUnder, Registry.peek?_dropWhere, if_neg (hspared hbelow), h.schema hbelow]
  seed {now seeded} schema hseeded h := by
    refine ⟨(Cache.bare_seed _ _ _).trans h.bare, h.editor, fun {below} hbelow => ?_⟩
    have hkey : ¬ seeded.key = below.key := fun hkey =>
      not_below_both hapart (Path.key_inj_of_root (hpath.under.trans hbelow) hkey ▸ hseeded) hbelow
    rw [Render.peek?_seed_key, if_neg hkey, h.schema hbelow]

/-- **A session in which only editors apart were rendered** cannot be told from the one before. -/
theorem twin_observed {other : Path} (hpath : Path.Rooted path)
    (hapart : Path.isRelated other path = false) (hidle : session.registry.cache.inFlight = [])
    (times : Nat) :
    Twin (fun below => path <+: below) (session.observed other times) session := by
  induction times with
  | zero => exact ⟨rfl, rfl, rfl, .refl _ _⟩
  | succ times ih =>
    have halike := keeps_render other (stable_alike hpath hapart hidle) _ ih.alike
    exact ⟨ih.config, ih.store, ih.mounts, halike⟩

/-- What keeps the renderings of one editor from being noticed by another. -/
inductive Discreet (answers : String → Except FetchError Catalog.BlockSchema) (session : Session)
    (other path : Path) : Prop where
  /-- The editors lie apart. -/
  | apart (hpath : Path.Rooted path) (hapart : Path.isRelated other path = false)
  /-- Both editors are in their places, and no block that is rendered was mounted for another. -/
  | settled (hother : InPlace answers session other) (hpath : InPlace answers session path)
      (hfresh : Fresh session.view session.registry (session.render other).1)

/-- **Renderings of an editor in its place** leave the session abreast with the session before. -/
theorem abreast_observed {other : Path} (hother : InPlace answers session other)
    (hpath : InPlace answers session path)
    (hfresh : Fresh session.view session.registry (session.render other).1) (times : Nat) :
    Abreast answers path session (session.observed other times) ∧
      InPlace answers (session.observed other times) other := by
  induction times with
  | zero => exact ⟨⟨.refl session, hpath, hpath⟩, hother⟩
  | succ times ih =>
    obtain ⟨hbefore, hplace⟩ := ih
    have hahead := hbefore.ahead.rendered hplace hfresh
    have hnext := hplace.render
    exact ⟨⟨hahead, hpath, hnext.keeps, hnext.regular, hahead.stands hpath.stands⟩, hnext⟩

/-- **Sessions abreast cannot be told apart where the editor is.** -/
theorem Abreast.twin (h : Abreast answers path before after) :
    Twin (fun other => other = path) after before := by
  refine h.ahead.twin h.first.stands.rooted ?_
  cases h.second.stands with
  | root hpath =>
    subst hpath
    rcases h.ahead.grown.schema Path.rooted_root with hsame | ⟨hnone, -⟩
    · exact hsame
    · exact absurd hnone (h.first.top rfl)
  | block hpath hhosted => exact h.ahead.schema_eq h.second.keeps hpath hhosted

/-- **The editor of the whole document is in its place** after any run of plain calls, as long as
its schema is there. -/
theorem inPlace_calls {source : Catalog.Source σ} {definition : Catalog.Definition}
    (hfixed : source.Fixed answers definition) (hroot : Proper (rootSchema definition))
    (hanswers : ∀ name found, answers name = .ok found → Proper found.schema) {config : Config}
    (hpolicy : config.policy = .reuse) (document : Value) (start : σ) {opened : Session × σ}
    (hopened : opened = (openRoot source (ofDocument config document) start).2) (run : List Call)
    (hplain : ∀ made ∈ run, made.isPlain = true)
    (hdocuments : ∀ done, done <+: run → (calls source opened done).1.store.document.Regular)
    (hfiled : (calls source opened run).1.registry.cache.peek? Path.root ≠ none) :
    InPlace answers (calls source opened run).1 Path.root where
  keeps := by
    refine keeps_calls hfixed hanswers run hplain opened ?_ hdocuments
    rw [hopened]
    exact keeps_openRoot hfixed hroot hpolicy document start
  regular := hdocuments run (List.prefix_refl run)
  stands := .root rfl hfiled

/-- **A rendering is an observation.**  With no load under way, let one editor be rendered any number
of times.  If another lies apart, or both are in their places and no block that is rendered was
mounted for another than the one that is there, then the hydration of the other shows what it would
have shown, and a mount of it comes to the same end with the same schema. -/
theorem rendering_goes_unnoticed {source : Catalog.Source σ} {definition : Catalog.Definition}
    (hfixed : source.Fixed answers definition)
    (hanswers : ∀ name found, answers name = .ok found → Proper found.schema)
    (hidle : session.registry.cache.inFlight = []) {other : Path}
    (h : Discreet answers session other path) (times : Nat) (state : σ) :
    ((session.observed other times).hydrate source path state).1
        = (session.hydrate source path state).1 ∧
      ∀ descriptor,
        let mounted := mountNow source path descriptor (session.observed other times) state
        let expected := mountNow source path descriptor session state
        mounted.1 = expected.1 ∧
          mounted.2.1.registry.cache.peek? path = expected.2.1.registry.cache.peek? path := by
  have hmount : Twin (fun below => below = path) (session.observed other times) session →
      ∀ descriptor, Concurs (fun below => below = path)
        (mountNow source path descriptor (session.observed other times) state)
        (mountNow source path descriptor session state) :=
    fun htwin descriptor => twin_mountNow source htwin rfl descriptor state
  suffices hboth : _ ∧ Twin (fun below => below = path) (session.observed other times) session from
    ⟨hboth.1, fun descriptor =>
      ⟨(hmount hboth.2 descriptor).same, (hmount hboth.2 descriptor).twin.alike.schema rfl⟩⟩
  cases h with
  | apart hpath hapart =>
    have htwin := twin_observed hpath hapart hidle times
    have hbelow := List.prefix_refl path
    refine ⟨(twin_hydrate source (Render.downward_le path) hbelow htwin state).same, ?_⟩
    exact htwin.mono fun other hother => hother ▸ hbelow
  | settled hother hpath hfresh =>
    have habreast := (abreast_observed hother hpath hfresh times).1
    refine ⟨?_, habreast.twin⟩
    unfold hydrate
    rw [habreast.ahead.config]
    exact habreast.hydrateRounds hfixed hanswers _ state

/-- A block is inserted, and the whole document is rendered twice before its first hydration; that
files the schema of an object. -/
theorem rendering_goes_unnoticed_twice :
    let slot := Path.root.child "trigger"
    let options := Path.root.child "options"
    let schema := fun key => Value.obj [("type", .str "object"),
      ("properties", .obj [(key, .obj [("type", .str "string")])])]
    let catalog : Catalog :=
      ⟨[(.trigger, [⟨"stateTrigger", none, none, some (schema "entity"), []⟩])],
        some ⟨"automation", none, none, some (.obj [("properties",
          .obj [("trigger", .obj [("x-block-type", .str "trigger")]),
            ("options", schema "mode")])]), []⟩⟩
    let source : Catalog.Source Unit := catalog.source
    let opened := (openRoot source (ofDocument .default (.obj [("root", .obj [])])) ()).2
    let session :=
      (calls source opened [.act (.insert ⟨.trigger, slot, false⟩ (.named "stateTrigger"))]).1
    session.registry.cache.contains options = false ∧
      (session.observed Path.root 2).registry.cache.contains options = true ∧
      ((session.observed Path.root 2).hydrate source Path.root ()).1
        = (session.hydrate source Path.root ()).1 := by
  intro slot options schema catalog source opened session
  let run := [Call.act (.insert ⟨.trigger, slot, false⟩ (.named "stateTrigger"))]
  have hdocuments : ∀ done, done <+: run → (calls source opened done).1.store.document.Regular :=
    regular_of_take (by decide +kernel)
  have hanswers : ∀ name found, catalog.schemaOf name = .ok found → Proper found.schema :=
    fun name found hfound => (bare_schemaOf (by decide) name found hfound).proper
  have hroot : Proper (rootSchema ⟨"automation", none, none, catalog.root.bind (·.schema), []⟩) :=
    Schema.Bare.proper (by decide)
  have hplace : InPlace catalog.schemaOf session Path.root :=
    inPlace_calls (fixed_source rfl) hroot hanswers rfl (.obj [("root", .obj [])]) () rfl run
      (by decide) hdocuments (by decide +kernel)
  have hunnoticed := rendering_goes_unnoticed (fixed_source rfl) hanswers (by decide +kernel)
    (.settled hplace hplace (by decide +kernel)) 2 ()
  exact ⟨by decide +kernel, by decide +kernel, hunnoticed.1⟩

/-- The keys of the fields of a form at a path. -/
def formKeys? (path : Path) (widget : Widget) : Option (List String) :=
  widget.nodes.findSome? fun node =>
    match node with
    | .form head fields _ => if head.path = path then some (fields.map (·.1)) else none
    | _ => none

/-- **The rendering of an editor that is not in its place is noticed.**  A block is inserted, and
the editor at its path is rendered before it is mounted: the hydration of the whole document then
shows the block without its field.  A block is overwritten by one of another name, and its editor is
rendered: its hydration then shows no block. -/
theorem renderings_out_of_place_are_noticed :
    let slot := Path.root.child "trigger"
    let schema := fun key => Value.obj [("type", .str "object"),
      ("properties", .obj [(key, .obj [("type", .str "string")])])]
    let catalog : Catalog :=
      ⟨[(.trigger, [⟨"stateTrigger", none, none, some (schema "entity"), []⟩,
          ⟨"timeTrigger", none, none, some (schema "at"), []⟩])],
        some ⟨"automation", none, none, some (.obj [("properties",
          .obj [("trigger", .obj [("x-block-type", .str "trigger")])])]), []⟩⟩
    let source : Catalog.Source Unit := catalog.source
    let opened := (openRoot source (ofDocument .default (.obj [("root", .obj [])])) ()).2
    let insert := Call.act (.insert ⟨.trigger, slot, false⟩ (.named "stateTrigger"))
    let inserted := (calls source opened [insert]).1
    let overwritten := (calls source opened
      [insert, .hydrate, .act (.input slot (.value (.obj [("trigger", .str "time")])))]).1
    let shown := fun (session : Session) path =>
      (session.hydrate source path ()).1.bind (formKeys? slot)
    inserted.registry.cache.inFlight = [] ∧ overwritten.registry.cache.inFlight = [] ∧
      shown inserted Path.root = some ["entity"] ∧
      shown (inserted.observed slot 1) Path.root = some [] ∧
      shown overwritten slot = some ["at"] ∧
      shown (overwritten.observed slot 1) slot = some ["trigger"] := by
  decide +kernel

end SchemaForms.Session
