import SchemaForms.Proofs.Cache.Eviction
import SchemaForms.Proofs.Session.Actions
import SchemaForms.Session.Mounts

/-!
# Proofs/Session/Mounting — what mounts do to the registry

Beside what actions do, a mount asks the cache and answers it, and files what it is about with its
editor.  `Session.Begun` lists what the beginning of a mount leads to, and `Mounts.Change` what a step
of many mounts can do.  A property that is `Carried` is
kept by all of it, as long as the beginning of a mount keeps it (`Change.keeps`).
-/

namespace SchemaForms

namespace Session

variable {P : Registry → Prop} {session : Session}

/-- A property of the registry that is kept when the cache makes a turn, when editors go, and when
an editor goes on. -/
structure Carried (P : Registry → Prop) : Prop where
  turn : ∀ {registry : Registry} {cache : Cache}, Cache.Turn registry.cache cache → P registry →
    P { registry with cache := cache }
  forget : ∀ {registry : Registry} (doomed : Path → Bool), P registry →
    P (registry.forgetEditors doomed)
  edit : ∀ {registry : Registry} {path : Path} {state : EditorState},
    state.Continues ((registry.editor? path).getD .initial) → P registry →
      P (registry.setEditor path state)

/-- **What lasts in the cache is carried.** -/
theorem carried_of_lasting {P : Cache → Prop} (h : Cache.Lasting P) :
    Carried fun registry => P registry.cache where
  turn hturn hcache := h hturn hcache
  forget _ hcache := hcache
  edit _ hcache := hcache

theorem Carried.steady (hP : Carried P) : Steady P where
  drop _ h := hP.turn (Cache.turn_evictWhere _ _) (hP.forget _ h)
  seed path schema h := hP.turn (Cache.turn_seed _ path schema) h
  edit := hP.edit

theorem Carried.keptByFiling (hP : Carried P) : KeptByFiling P :=
  fun path schema h => hP.turn (Cache.turn_set _ path schema) h

/-! ## Mounts -/

theorem continues_informed (state : EditorState) (value : Option Value) (outcome : LoadOutcome) :
    (informed state value outcome).Continues state := by
  cases outcome with
  | error e => exact ⟨rfl, rfl, rfl⟩
  | ok found => cases found <;> exact ⟨rfl, rfl, rfl⟩

/-- **What the end of a mount does to its editor**: nothing, or it learns the outcome. -/
theorem settle_eq (session : Session) (path : Path) (epoch : Nat) (outcome : LoadOutcome) :
    (session.settle path epoch outcome).2 = session ∨
      (session.settle path epoch outcome).2 = session.setEditor path
        (informed (session.editorAt path) (session.value? path) outcome) := by
  unfold settle
  split
  · exact .inl rfl
  · rename_i state hfound
    obtain ⟨hstate, -⟩ := Option.filter_eq_some_iff.mp hfound
    have hat : session.editorAt path = state := by rw [editorAt, hstate, Option.getD_some]
    rw [hat]
    exact .inr rfl

/-- The editor of a mount that ends goes on, or nothing happens. -/
theorem settle_cases (session : Session) (path : Path) (epoch : Nat) (outcome : LoadOutcome) :
    (session.settle path epoch outcome).2 = session ∨
      ∃ state : EditorState, state.Continues (session.editorAt path) ∧
        (session.settle path epoch outcome).2 = session.setEditor path state :=
  (settle_eq session path epoch outcome).imp_right fun hnext =>
    ⟨_, continues_informed _ _ outcome, hnext⟩

theorem keeps_settle (hP : Carried P) (path : Path) (epoch : Nat) (outcome : LoadOutcome)
    (h : P session.registry) : P (session.settle path epoch outcome).2.registry := by
  rcases settle_cases session path epoch outcome with hsame | ⟨state, hstate, hnext⟩
  · rw [hsame]
    exact h
  · rw [hnext]
    exact hP.edit hstate h

theorem keeps_answerMount (hP : Carried P) (mount : Mount) (outcome : LoadOutcome)
    (h : P session.registry) : P (session.answerMount mount outcome).2.registry := by
  have hcommitted := hP.turn
    (Cache.turn_commit session.registry.cache mount.path mount.flight.generation outcome) h
  have htold := hP.turn
    (Cache.turn_tell (session.registry.cache.commit mount.path mount.flight.generation outcome)
      mount.flight.ticket (.finished outcome)) hcommitted
  have hfinished : P (session.setCache
      (session.registry.cache.finish mount.path mount.flight outcome)).registry := htold
  exact keeps_settle hP _ _ _ hfinished

theorem keeps_dropMount (hP : Carried P) (mount : Mount) (h : P session.registry) :
    P (session.dropMount mount).registry := by
  have hreleased := hP.turn
    (Cache.turn_release session.registry.cache mount.path mount.flight.generation) h
  have htold := hP.turn
    (Cache.turn_tell (session.registry.cache.release mount.path mount.flight.generation)
      mount.flight.ticket .dropped) hreleased
  exact htold

theorem keeps_beginMount (hP : Carried P) (path : Path) (descriptor : Descriptor)
    (h : P (session.recordMount path descriptor
      (descriptor.blockName? (session.value? path))).registry) :
    P (session.beginMount path descriptor).2.registry := by
  have hrequest := hP.turn (Cache.turn_request _ path) h
  unfold beginMount
  dsimp only
  split
  · exact keeps_settle hP _ _ _ hrequest
  · exact hrequest
  · split
    · exact keeps_answerMount hP _ _ hrequest
    · exact hrequest
    · exact keeps_answerMount hP _ _ hrequest

/-- The end of a mount begins none. -/
theorem mounts_settle (session : Session) (path : Path) (epoch : Nat) (outcome : LoadOutcome) :
    (session.settle path epoch outcome).2.mounts = session.mounts := by
  unfold settle
  split <;> rfl

theorem mounts_answerMount (session : Session) (mount : Mount) (outcome : LoadOutcome) :
    (session.answerMount mount outcome).2.mounts = session.mounts := mounts_settle _ _ _ _

/-- **The beginning of a mount is counted.** -/
theorem mounts_beginMount (session : Session) (path : Path) (descriptor : Descriptor) :
    (session.beginMount path descriptor).2.mounts = session.mounts + 1 := by
  unfold beginMount
  dsimp only
  split
  · exact mounts_settle _ _ _ _
  · rfl
  · split
    · exact mounts_settle _ _ _ _
    · rfl
    · exact mounts_settle _ _ _ _

/-! ## The beginning of a mount -/

/-- The end of a mount leaves the cache to its load. -/
theorem cache_settle (session : Session) (path : Path) (epoch : Nat) (outcome : LoadOutcome) :
    (session.settle path epoch outcome).2.registry.cache = session.registry.cache := by
  rcases settle_cases session path epoch outcome with hsame | ⟨state, -, hnext⟩
  · rw [hsame]
  · rw [hnext]
    rfl

theorem cache_answerMount (session : Session) (mount : Mount) (outcome : LoadOutcome) :
    (session.answerMount mount outcome).2.registry.cache
      = session.registry.cache.finish mount.path mount.flight outcome := cache_settle _ _ _ _

/-- Under a policy that uses schemas again, none is filed for the path. -/
def Lacking (cache : Cache) (path : Path) : Prop :=
  cache.policy = .reuse → cache.peek? path = none

/-- **What the beginning of a mount leads to**: how far the mount gets, and what becomes of the
cache. -/
inductive Begun (session : Session) (path : Path) (descriptor : Descriptor) :
    MountStep → Cache → Prop where
  /-- The schema that is filed is taken, whatever was asked for. -/
  | met {schema : Value} (hfiled : session.registry.cache.peek? path = some schema)
      (mode : EditMode) : Begun session path descriptor (.done mode) session.registry.cache
  /-- The load that is on record is waited for. -/
  | joined {flight : Flight} (hlacks : Lacking session.registry.cache path)
      (hrecord : Table.get? session.registry.cache.inFlight path.key = some flight) :
      Begun session path descriptor (.waits ⟨path, session.mounts + 1, flight⟩)
        session.registry.cache
  /-- The schema at hand is filed, or there is nothing to load. -/
  | ready (hlacks : Lacking session.registry.cache path)
      (hfree : Table.get? session.registry.cache.inFlight path.key = none)
      (hready : descriptor.schema ≠ none ∨ descriptor.blockName? (session.value? path) = none)
      (mode : EditMode) :
      Begun session path descriptor (.done mode)
        ((session.registry.cache.launch path.key).finish path
          (session.registry.cache.nextFlight path.key) (.ok descriptor.schema))
  /-- The catalog is asked for the block. -/
  | asked {name : String} (hlacks : Lacking session.registry.cache path)
      (hfree : Table.get? session.registry.cache.inFlight path.key = none)
      (hschema : descriptor.schema = none)
      (hname : descriptor.blockName? (session.value? path) = some name) :
      Begun session path descriptor
        (.asks ⟨path, session.mounts + 1, session.registry.cache.nextFlight path.key⟩ name)
        (session.registry.cache.launch path.key)

/-- **A mount begins in one of these ways.** -/
theorem begun_beginMount (session : Session) (path : Path) (descriptor : Descriptor) :
    Begun session path descriptor (session.beginMount path descriptor).1
      (session.beginMount path descriptor).2.registry.cache := by
  unfold beginMount
  dsimp only
  rcases Cache.request_cases (session.recordMount path descriptor
    (descriptor.blockName? (session.value? path))).registry.cache path with
    ⟨schema, -, hfiled, hr⟩ | ⟨hlacks, flight, hrecord, hr⟩ | ⟨hlacks, hfree, hr⟩ <;> rw [hr]
  · dsimp only
    rw [cache_settle]
    exact @Begun.met session path descriptor schema hfiled _
  · exact .joined hlacks hrecord
  · dsimp only
    split
    · rename_i schema _ hschema
      rw [cache_answerMount, ← hschema]
      have hgiven : descriptor.schema ≠ none := by
        rw [hschema]
        nofun
      exact @Begun.ready session path descriptor hlacks hfree (.inl hgiven) _
    · rename_i name hschema hname
      exact .asked hlacks hfree hschema hname
    · rename_i hschema hname
      rw [cache_answerMount, ← hschema]
      exact @Begun.ready session path descriptor hlacks hfree (.inr hname) _

/-- **A mount that has to wait has the number of the last one**, and a load of its own only with the
generation given out last. -/
theorem beginMount_cases (session : Session) (path : Path) (descriptor : Descriptor) :
    (∃ mode, (session.beginMount path descriptor).1 = .done mode) ∨
    (∃ flight, (session.beginMount path descriptor).1 = .waits ⟨path, session.mounts + 1, flight⟩) ∨
    (∃ flight name, (session.beginMount path descriptor).1
        = .asks ⟨path, session.mounts + 1, flight⟩ name ∧
      flight.generation
        = Cache.lastGeneration (session.beginMount path descriptor).2.registry.cache.generations
          path.key) := by
  have hbegun := begun_beginMount session path descriptor
  generalize (session.beginMount path descriptor).1 = begun at hbegun ⊢
  generalize (session.beginMount path descriptor).2.registry.cache = cache at hbegun ⊢
  cases hbegun with
  | met _ mode => exact .inl ⟨mode, rfl⟩
  | joined => exact .inr (.inl ⟨_, rfl⟩)
  | ready _ _ _ mode => exact .inl ⟨mode, rfl⟩
  | asked =>
    refine .inr (.inr ⟨_, _, rfl, ?_⟩)
    simp [Cache.launch, Cache.nextFlight]

end Session

/-! ## Steps of many mounts -/

namespace Mounts

variable {mounts next : Mounts} {event : Event}

/-- **What a step does**: nothing, or one move of one mount, or an action. -/
inductive Change (mounts : Mounts) : Event → Mounts → Prop where
  | idle (event : Event) : Change mounts event mounts
  | begun (path : Path) (descriptor : Descriptor) :
      Change mounts (.mount path descriptor)
        ⟨(mounts.session.beginMount path descriptor).2,
          mounts.all ++ [.ofStep (mounts.session.beginMount path descriptor).1]⟩
  | answered {i : Nat} {mount : Mount} {name : String} (found : Except FetchError Catalog.BlockSchema)
      (hattempt : mounts.all[i]? = some (.asks mount name)) :
      Change mounts (.answer i found)
        (mounts.advance i (mounts.session.answerMount mount (Session.loadOutcome found)).2
          (.ended (mounts.session.answerMount mount (Session.loadOutcome found)).1))
  | told {i : Nat} {mount : Mount} {outcome : LoadOutcome}
      (hattempt : mounts.all[i]? = some (.waits mount))
      (houtcome :
        mounts.session.registry.cache.outcome? mount.path mount.flight.ticket = some outcome) :
      Change mounts (.poll i)
        (mounts.advance i (mounts.session.settle mount.path mount.epoch outcome).2
          (.ended (mounts.session.settle mount.path mount.epoch outcome).1))
  | released {i : Nat} {mount : Mount} {name : String}
      (hattempt : mounts.all[i]? = some (.asks mount name)) :
      Change mounts (.giveUp i) (mounts.advance i (mounts.session.dropMount mount) .dropped)
  | left {i : Nat} {mount : Mount} (hattempt : mounts.all[i]? = some (.waits mount)) :
      Change mounts (.giveUp i) (mounts.advance i mounts.session .dropped)
  | acted (action : Session.Action) :
      Change mounts (.act action) { mounts with session := mounts.session.act action }

/-- **A step does one of these things.** -/
theorem change_step (mounts : Mounts) (event : Event) :
    Change mounts event (mounts.step event) := by
  cases event with
  | mount path descriptor => exact .begun path descriptor
  | answer i found =>
    rw [step]
    unfold answer
    split
    · rename_i hattempt
      exact .answered found hattempt
    · exact .idle _
  | poll i =>
    rw [step]
    unfold poll
    split
    · rename_i mount hattempt
      unfold Session.pollMount
      cases houtcome : mounts.session.registry.cache.outcome? mount.path mount.flight.ticket with
      | none => exact .idle _
      | some outcome => exact .told hattempt houtcome
    · exact .idle _
  | giveUp i =>
    rw [step]
    unfold giveUp
    split
    · rename_i hattempt
      exact .released hattempt
    · rename_i hattempt
      exact .left hattempt
    · exact .idle _
  | act action => exact .acted action

/-- **A step keeps what is carried**, if the beginning of a mount does. -/
theorem Change.keeps (h : Change mounts event next) {P : Registry → Prop} (hP : Session.Carried P)
    (hbegin : ∀ path descriptor name, event = .mount path descriptor →
      P (mounts.session.recordMount path descriptor name).registry)
    (hregistry : P mounts.session.registry) : P next.session.registry := by
  cases h with
  | idle => exact hregistry
  | begun path descriptor => exact Session.keeps_beginMount hP path descriptor (hbegin _ _ _ rfl)
  | answered found => exact Session.keeps_answerMount hP _ _ hregistry
  | told => exact Session.keeps_settle hP _ _ _ hregistry
  | released => exact Session.keeps_dropMount hP _ hregistry
  | left => exact hregistry
  | acted action => exact Session.keeps_act hP.steady action (.inr hP.keptByFiling) hregistry

/-- **A step keeps what lasts in the cache.** -/
theorem Change.lasts (h : Change mounts event next) {P : Cache → Prop} (hP : Cache.Lasting P)
    (hcache : P mounts.session.registry.cache) : P next.session.registry.cache :=
  h.keeps (Session.carried_of_lasting hP) (fun _ _ _ _ => hcache) hcache

/-- Mounts are only ever counted. -/
theorem Change.mounts_le (h : Change mounts event next) :
    mounts.session.mounts ≤ next.session.mounts := by
  cases h with
  | idle => exact Nat.le_refl _
  | begun path descriptor =>
    change _ ≤ (mounts.session.beginMount path descriptor).2.mounts
    rw [Session.mounts_beginMount]
    exact Nat.le_succ _
  | answered found => exact Nat.le_of_eq (Session.mounts_answerMount _ _ _).symm
  | told => exact Nat.le_of_eq (Session.mounts_settle _ _ _ _).symm
  | released => exact Nat.le_refl _
  | left => exact Nat.le_refl _
  | acted action => exact Nat.le_of_eq (Session.mounts_act _ action).symm

end Mounts

end SchemaForms
