import SchemaForms.Proofs.Render.Parametric
import SchemaForms.Session.Action

/-!
# Proofs/Session/Actions — what actions do to the registry

An action drops what is filed below some paths, files a schema, or lets an editor go on: with
another text or in another mode, but with the block, the descriptor and the number of its last
mount.  A property of the registry that is kept by each of these is kept by every action
(`keeps_act`).
-/

namespace SchemaForms

/-- An editor that goes on has the mount that it had. -/
structure EditorState.Continues (after before : EditorState) : Prop where
  name : after.name = before.name
  descriptor : after.descriptor = before.descriptor
  epoch : after.epoch = before.epoch

namespace EditorState

variable {state before : EditorState}

theorem Continues.refl (state : EditorState) : state.Continues state := ⟨rfl, rfl, rfl⟩

theorem Continues.enterText (h : state.Continues before) (format : Format) (value : Option Value) :
    (state.enterText format value).Continues before := ⟨h.name, h.descriptor, h.epoch⟩

theorem Continues.leaveText (h : state.Continues before) : state.leaveText.Continues before :=
  ⟨h.name, h.descriptor, h.epoch⟩

theorem Continues.showAs (h : state.Continues before) (mode : EditMode) (value : Option Value) :
    (Session.showAs state mode value).Continues before := by
  cases mode with
  | structured => exact h.leaveText
  | text format => exact h.enterText format value

end EditorState

/-- Whether a set of paths that are dropped contains all that is below them. -/
def DropsBelow (doomed : Path → Bool) : Prop :=
  ∀ {path below : Path}, path <+: below → doomed path = true → doomed below = true

theorem dropsBelow_startsWith (path : Path) : DropsBelow fun p => Path.startsWith p path := by
  intro p q hpq hp
  exact Path.startsWith_iff.mpr ((Path.startsWith_iff.mp hp).trans hpq)

theorem dropsBelow_throughItem (array : Path) (chosen : Nat → Bool) :
    DropsBelow (Cache.throughItem array chosen) := by
  intro p q hpq hp
  obtain ⟨i, hi, hchosen⟩ := Cache.throughItem_iff.mp hp
  exact Cache.throughItem_iff.mpr ⟨i, hi.trans hpq, hchosen⟩

namespace Session

/-- A property of the registry that is kept by what actions do. -/
structure Steady (P : Registry → Prop) : Prop where
  drop : ∀ {registry : Registry} {doomed : Path → Bool}, DropsBelow doomed → P registry →
    P (registry.dropWhere doomed)
  seed : ∀ {registry : Registry} (path : Path) (schema : Value), P registry →
    P { registry with cache := registry.cache.seed path schema }
  edit : ∀ {registry : Registry} {path : Path} {state : EditorState},
    state.Continues ((registry.editor? path).getD .initial) → P registry →
      P (registry.setEditor path state)

/-- A property that is also kept when a schema is replaced. -/
def KeptByFiling (P : Registry → Prop) : Prop :=
  ∀ {registry : Registry} (path : Path) (schema : Value), P registry →
    P { registry with cache := registry.cache.set path schema }

variable {P : Registry → Prop} {session : Session}

theorem Steady.stable (hP : Steady P) (region : Path → Prop) : Render.Stable region P where
  drop _ h := hP.drop (dropsBelow_startsWith _) h
  seed schema _ h := hP.seed _ schema h

/-! ## Edits of the document -/

/-- A session that an edit led to: with this registry, and otherwise only another document. -/
structure Edited (session : Session) (registry : Registry) (next : Session) : Prop where
  registry : next.registry = registry
  config : next.config = session.config
  mounts : next.mounts = session.mounts

theorem Edited.refl (session : Session) : Edited session session.registry session := ⟨rfl, rfl, rfl⟩

theorem Edited.setEditor {registry : Registry} {next : Session} (h : Edited session registry next)
    (path : Path) (state : EditorState) :
    Edited session (registry.setEditor path state) (next.setEditor path state) :=
  ⟨by rw [← h.registry]; rfl, h.config, h.mounts⟩

/-- **A write goes through if its path is near**, and changes the store only. -/
theorem write_eq_ok {session next : Session} {path : Path} {value : Value} :
    session.write path value = .ok next ↔ session.store.checkPadding path = .ok () ∧
      next = { session with
        store := session.store.commit (Document.write session.store.document path value) path
          .interactive } := by
  unfold write Store.set
  cases session.store.checkPadding path with
  | error e => simp [bind, Except.bind, Except.map]
  | ok _ => simp [bind, Except.bind, Except.map, eq_comm]

theorem edited_write {session next : Session} {path : Path} {value : Value}
    (h : session.write path value = .ok next) : Edited session session.registry next := by
  obtain ⟨-, rfl⟩ := write_eq_ok.mp h
  exact ⟨rfl, rfl, rfl⟩

/-- An append changes the store only. -/
theorem append_eq_ok {session next : Session} {path : Path} {item : Value} {index : Nat} :
    session.append path item = .ok (index, next) ↔
      ∃ store, session.store.append path item = .ok (index, store) ∧
        next = { session with store := store } := by
  unfold append
  cases session.store.append path item with
  | error e => simp
  | ok result => simp [Prod.ext_iff, and_assoc, eq_comm]

theorem edited_append {session next : Session} {path : Path} {item : Value} {index : Nat}
    (h : session.append path item = .ok (index, next)) : Edited session session.registry next := by
  obtain ⟨store, -, rfl⟩ := append_eq_ok.mp h
  exact ⟨rfl, rfl, rfl⟩

/-- **Where an instance is put**: at the end of the sequence, or at the path itself. -/
theorem place_eq_ok {session next : Session} {insertion : Insertion} {found : Value} {path : Path}
    (h : session.place insertion found = .ok (path, next)) :
    (∃ index, insertion.isArray = true ∧ path = insertion.target.item index ∧
      session.append insertion.target found = .ok (index, next)) ∨
    (insertion.isArray = false ∧ path = insertion.target ∧
      session.write insertion.target found = .ok next) := by
  unfold place at h
  split at h
  · rename_i hisArray
    cases happend : session.append insertion.target found with
    | error e =>
      rw [happend] at h
      exact absurd h nofun
    | ok result =>
      rw [happend] at h
      obtain ⟨rfl, rfl⟩ := Prod.mk.inj (Except.ok.inj h)
      exact .inl ⟨result.1, hisArray, rfl, rfl⟩
  · rename_i hisArray
    split at h
    · rename_i hwrite
      obtain ⟨rfl, rfl⟩ := Prod.mk.inj (Except.ok.inj h)
      exact .inr ⟨Bool.eq_false_iff.mpr hisArray, rfl, hwrite⟩
    · exact absurd h nofun

theorem edited_place {session next : Session} {insertion : Insertion} {found : Value} {path : Path}
    (h : session.place insertion found = .ok (path, next)) :
    Edited session session.registry next := by
  obtain ⟨index, -, -, happend⟩ | ⟨-, -, hwrite⟩ := place_eq_ok h
  · exact edited_append happend
  · exact edited_write hwrite

/-- A removal of an element drops what is filed about it and the elements after it. -/
theorem removeItem_eq_ok_iff {session next : Session} {array : Path} {index : Nat}
    {removed : Value} : session.removeItem array index = .ok (removed, next) ↔
      ∃ store, session.store.remove array index = .ok (removed, store) ∧
        next = { session with
          store := store
          registry := session.registry.dropWhere
            (Cache.throughItem array fun i => decide (index ≤ i)) } := by
  unfold removeItem
  cases session.store.remove array index with
  | error e => simp
  | ok result => simp [Prod.ext_iff, and_assoc, eq_comm]

/-- **What a removal drops**: an element with those after it, or a member with what is below it. -/
theorem edited_remove {session next : Session} {path : Path} {removed : Value}
    (h : session.remove path = .ok (removed, next)) :
    (∃ array index, path = Path.item array index ∧
      Edited session
        (session.registry.dropWhere (Cache.throughItem array fun i => decide (index ≤ i))) next) ∨
    (∃ parent key, path = Path.child parent key ∧
      Edited session (session.registry.dropUnder path) next) := by
  unfold remove at h
  cases hsplit : path.splitLast? with
  | none =>
    rw [hsplit] at h
    exact absurd h nofun
  | some found =>
    obtain ⟨parent, last⟩ := found
    have hpath : path = parent ++ [last] := Path.splitLast?_eq_some.mp hsplit
    rw [hsplit] at h
    cases last with
    | index i =>
      obtain ⟨store, -, rfl⟩ := removeItem_eq_ok_iff.mp h
      exact .inl ⟨parent, i, hpath, rfl, rfl, rfl⟩
    | key text =>
      change session.removeMember path = _ at h
      unfold removeMember at h
      split at h
      · exact absurd h nofun
      · obtain rfl := (Prod.mk.inj (Except.ok.inj h)).2
        exact .inr ⟨parent, text, hpath, rfl, rfl, rfl⟩

/-- A move drops what is filed about the elements that change their index. -/
theorem move_eq_ok_iff {session next : Session} {array : Path} {source target : Nat} :
    session.move array source target = .ok next ↔
      ∃ store, session.store.move array source target = .ok store ∧
        next = { session with
          store := store
          registry := if source = target then session.registry
            else session.registry.dropWhere (Cache.throughItem array fun i =>
              decide (min source target ≤ i ∧ i ≤ max source target)) } := by
  unfold move
  cases session.store.move array source target with
  | error e => simp
  | ok store => simp [eq_comm]

/-- **What a move drops**: the elements that change their index. -/
theorem edited_move {session next : Session} {array : Path} {source target : Nat}
    (h : session.move array source target = .ok next) :
    Edited session (if source = target then session.registry
      else session.registry.dropWhere (Cache.throughItem array fun i =>
        decide (min source target ≤ i ∧ i ≤ max source target))) next := by
  obtain ⟨store, -, rfl⟩ := move_eq_ok_iff.mp h
  exact ⟨rfl, rfl, rfl⟩

/-- An insertion puts the instance in its place and drops what was filed there. -/
theorem insertBlock_eq_ok {session next : Session} {insertion : Insertion}
    {definition : Catalog.Definition} {path : Path}
    (h : session.insertBlock insertion definition = .ok (path, next)) :
    ∃ placed, session.place insertion (definition.newInstance insertion.category)
        = .ok (path, placed) ∧
      next = { placed with registry := placed.registry.dropUnder path } := by
  unfold insertBlock at h
  cases hplace : session.place insertion (definition.newInstance insertion.category) with
  | error e =>
    rw [hplace] at h
    exact absurd h nofun
  | ok result =>
    rw [hplace] at h
    obtain ⟨rfl, rfl⟩ := Prod.mk.inj (Except.ok.inj h)
    exact ⟨result.2, rfl, rfl⟩

/-- **What an insertion drops**: what was filed below the path of the new block. -/
theorem edited_insertBlock {session next : Session} {insertion : Insertion}
    {definition : Catalog.Definition} {path : Path}
    (h : session.insertBlock insertion definition = .ok (path, next)) :
    Edited session (session.registry.dropUnder path) next := by
  obtain ⟨placed, hplace, rfl⟩ := insertBlock_eq_ok h
  have hplaced := edited_place hplace
  exact ⟨congrArg (·.dropUnder path) hplaced.registry, hplaced.config, hplaced.mounts⟩

theorem edited_input? {next : Session} {path : Path} {entered : FieldInput}
    (h : session.input? path entered = some next) : Edited session session.registry next := by
  obtain ⟨value, -, hwrite⟩ := Option.bind_eq_some_iff.mp h
  cases hresult : session.write path value with
  | error e =>
    rw [hresult] at hwrite
    exact absurd hwrite nofun
  | ok written =>
    rw [hresult] at hwrite
    obtain rfl := Option.some.inj hwrite
    exact edited_write hresult

/-! ## Editing as text -/

/-- **What a keystroke does**: the editor goes on, with its mount. -/
theorem edited_inputText (session : Session) (path : Path) (text : String) :
    ∃ state : EditorState, state.Continues (session.editorAt path) ∧
      Edited session (session.registry.setEditor path state) (session.inputText path text).1 := by
  have hself := Edited.refl session
  unfold inputText
  dsimp only
  split
  · exact ⟨_, .refl _, hself.setEditor _ _⟩
  · split
    · refine ⟨_, ?_, hself.setEditor _ _⟩
      exact ⟨rfl, rfl, rfl⟩
    · split
      · refine ⟨_, ?_, hself.setEditor _ _⟩
        exact ⟨rfl, rfl, rfl⟩
      · rename_i written hwrite
        refine ⟨_, ?_, (edited_write hwrite).setEditor _ _⟩
        exact ⟨rfl, rfl, rfl⟩

theorem edited_writeText {next : Session} {path : Path} {state : EditorState} {value : Value}
    (h : session.writeText path state value = .ok next) : Edited session session.registry next := by
  unfold writeText at h
  split at h
  · obtain rfl := Except.ok.inj h
    exact .refl _
  · exact edited_write h

/-- **What a change of the mode does**: the editor goes on, with its mount; or the text stands, and
nothing happens. -/
theorem edited_switchMode (session : Session) (path : Path) (mode : EditMode) :
    (session.switchMode path mode).1 = session ∨
      ∃ state : EditorState, state.Continues (session.editorAt path) ∧
        Edited session (session.registry.setEditor path state) (session.switchMode path mode).1 := by
  have hself := Edited.refl session
  have hsame := EditorState.Continues.refl (session.editorAt path)
  unfold switchMode leaveTextFor
  dsimp only
  split
  · exact .inr ⟨_, hsame, hself.setEditor _ _⟩
  · split
    · exact .inr ⟨_, hsame.showAs _ _, hself.setEditor _ _⟩
    · split
      · refine .inr ⟨_, ?_, hself.setEditor _ _⟩
        exact ⟨rfl, rfl, rfl⟩
      · split
        · exact .inl rfl
        · rename_i written hwrite
          exact .inr ⟨_, hsame.showAs _ _, (edited_writeText hwrite).setEditor _ _⟩

/-! ## Every action -/

/-- **What the declaration of a key does**: at most, a schema is replaced. -/
theorem edited_addProperty (session : Session) (path : Path) (key : String) (kind : Primitive) :
    (session.addProperty path key kind).1 = session ∨
      ∃ schema, Edited session
        { session.registry with cache := session.registry.cache.set path schema }
        (session.addProperty path key kind).1 := by
  unfold addProperty
  dsimp only
  split
  · exact .inl rfl
  · split
    · exact .inl rfl
    · split
      · exact .inr ⟨_, rfl, rfl, rfl⟩
      · exact .inr ⟨_, rfl, rfl, rfl⟩

/-- **What an action does to the registry.** -/
inductive Effect (session : Session) : Action → Registry → Prop where
  | none (action : Action) : Effect session action session.registry
  | dropped {action : Action} {doomed : Path → Bool} (hbelow : DropsBelow doomed) :
      Effect session action (session.registry.dropWhere doomed)
  | wentOn {action : Action} {path : Path} {state : EditorState}
      (hstate : state.Continues (session.editorAt path)) :
      Effect session action (session.registry.setEditor path state)
  | filed (path : Path) (key : String) (kind : Primitive) (schema : Value) :
      Effect session (.addProperty path key kind)
        { session.registry with cache := session.registry.cache.set path schema }
  | rendered (path : Path) : Effect session (.render path) (session.render path).2.registry

theorem edited_after {ε α : Type} {action : Action} {result : Except ε (α × Session)}
    (hnext : ∀ a next, result = .ok (a, next) →
      ∃ registry, Effect session action registry ∧ Edited session registry next) :
    ∃ registry, Effect session action registry ∧ Edited session registry (session.after result) := by
  cases result with
  | error e => exact ⟨_, .none _, .refl session⟩
  | ok found => exact hnext found.1 found.2 rfl

/-- **Every action has one of these effects**, and no other but on the document. -/
theorem edited_act (session : Session) (action : Action) :
    ∃ registry, Effect session action registry ∧ Edited session registry (session.act action) := by
  have hnone : ∃ registry, Effect session action registry ∧ Edited session registry session :=
    ⟨_, .none action, .refl session⟩
  cases action with
  | remove path =>
    rw [act]
    refine edited_after fun removed next hremove => ?_
    rcases edited_remove hremove with ⟨array, index, -, hnext⟩ | ⟨parent, key, -, hnext⟩
    · exact ⟨_, .dropped (dropsBelow_throughItem _ _), hnext⟩
    · exact ⟨_, .dropped (dropsBelow_startsWith _), hnext⟩
  | move array source target =>
    rw [act]
    split
    · rename_i next hmove
      have hnext := edited_move hmove
      split at hnext
      · exact ⟨_, .none _, hnext⟩
      · exact ⟨_, .dropped (dropsBelow_throughItem _ _), hnext⟩
    · exact hnone
  | insert insertion definition =>
    rw [act]
    refine edited_after fun path next hinsert => ?_
    exact ⟨_, .dropped (dropsBelow_startsWith path), edited_insertBlock hinsert⟩
  | append path item =>
    rw [act]
    exact edited_after fun index next happend => ⟨_, .none _, edited_append happend⟩
  | input path entered =>
    rw [act]
    cases hinput : session.input? path entered with
    | none => exact hnone
    | some next => exact ⟨_, .none _, edited_input? hinput⟩
  | inputText path text =>
    rw [act]
    obtain ⟨state, hstate, hnext⟩ := edited_inputText session path text
    exact ⟨_, .wentOn hstate, hnext⟩
  | switchMode path mode =>
    rw [act]
    rcases edited_switchMode session path mode with hsame | ⟨state, hstate, hnext⟩
    · rw [hsame]
      exact hnone
    · exact ⟨_, .wentOn hstate, hnext⟩
  | addProperty path key kind =>
    rw [act]
    rcases edited_addProperty session path key kind with hsame | ⟨schema, hnext⟩
    · rw [hsame]
      exact hnone
    · exact ⟨_, .filed path key kind schema, hnext⟩
  | render path =>
    rw [act]
    exact ⟨_, .rendered path, rfl, rfl, rfl⟩

/-- No action begins a mount. -/
theorem mounts_act (session : Session) (action : Action) :
    (session.act action).mounts = session.mounts := by
  obtain ⟨registry, -, hnext⟩ := edited_act session action
  exact hnext.mounts

/-- **Every action keeps what its effects on the registry keep.** -/
theorem keeps_act (hP : Steady P) (action : Action)
    (hfile : (∀ path key kind, action ≠ .addProperty path key kind) ∨ KeptByFiling P)
    (h : P session.registry) : P (session.act action).registry := by
  obtain ⟨registry, heffect, hnext⟩ := edited_act session action
  rw [hnext.registry]
  cases heffect with
  | none => exact h
  | dropped hbelow => exact hP.drop hbelow h
  | wentOn hstate => exact hP.edit hstate h
  | filed path key kind schema =>
    rcases hfile with hnot | hfile
    · exact absurd rfl (hnot path key kind)
    · exact hfile path schema h
  | rendered path => exact keeps_render path (hP.stable _) session h

end Session

end SchemaForms
