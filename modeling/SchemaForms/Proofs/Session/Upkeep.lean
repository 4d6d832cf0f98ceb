import SchemaForms.Proofs.Session.Mounting
import SchemaForms.Session.Hydration

/-!
# Proofs/Session/Upkeep — what happens to an editor that nobody works in

Mounts, whenever they begin and end, and hydrations change a session in four ways: the cache makes a
turn, an editor takes note that its mount has begun, an editor learns what became of its schema, and
an editor is rendered.  What each of these keeps is kept by all of it (`Upheld`), whatever the catalog
answers and whatever else is under way.  What a person does changes an editor only by a keystroke or
a change of the mode; any other action may drop it (`Shed.act`).
-/

namespace SchemaForms

namespace Session

/-! ## Actions beside the text -/

/-- A property of the registry that is kept when things are dropped, and whatever becomes of the
cache. -/
structure Shed (P : Registry → Prop) : Prop where
  drop : ∀ {registry : Registry} (doomed : Path → Bool), P registry → P (registry.dropWhere doomed)
  cache : ∀ {registry : Registry} (cache : Cache), P registry → P { registry with cache := cache }

theorem keeps_after {P : Registry → Prop} {session : Session} {ε α : Type}
    {result : Except ε (α × Session)} (h : P session.registry)
    (hnext : ∀ a next, result = .ok (a, next) → P next.registry) :
    P (session.after result).registry := by
  cases result with
  | error e => exact h
  | ok found => exact hnext found.1 found.2 rfl

namespace Shed

variable {P : Registry → Prop} {session : Session} (hP : Shed P)

include hP

theorem render (path : Path) (h : P session.registry) : P (session.render path).2.registry :=
  keeps_render path ⟨fun _ h => hP.drop _ h, fun _ _ h => hP.cache _ h⟩ session h

/-- **An action that is neither a keystroke nor a change of the mode** at most drops editors. -/
theorem act (action : Action) (hkeys : ∀ path text, action ≠ .inputText path text)
    (hmodes : ∀ path mode, action ≠ .switchMode path mode) (h : P session.registry) :
    P (session.act action).registry := by
  cases action with
  | remove path =>
    refine keeps_after h fun removed next hremove => ?_
    rcases edited_remove hremove with ⟨array, index, -, hnext⟩ | ⟨parent, key, -, hnext⟩
    · rw [hnext.registry]
      exact hP.drop _ h
    · rw [hnext.registry]
      exact hP.drop _ h
  | move array source target =>
    rw [Session.act]
    split
    · rename_i next hmove
      rw [(edited_move hmove).registry]
      split
      · exact h
      · exact hP.drop _ h
    · exact h
  | insert insertion definition =>
    refine keeps_after h fun path next hinsert => ?_
    rw [(edited_insertBlock hinsert).registry]
    exact hP.drop _ h
  | append path item =>
    refine keeps_after h fun index next happend => ?_
    rw [(edited_append happend).registry]
    exact h
  | input path entered =>
    rw [Session.act]
    cases hinput : session.input? path entered with
    | none => exact h
    | some next =>
      rw [Option.getD_some, (edited_input? hinput).registry]
      exact h
  | inputText path text => exact absurd rfl (hkeys path text)
  | switchMode path mode => exact absurd rfl (hmodes path mode)
  | addProperty path key kind =>
    rw [Session.act]
    rcases edited_addProperty session path key kind with hsame | ⟨schema, hnext⟩
    · rw [hsame]
      exact h
    · rw [hnext.registry]
      exact hP.cache _ h
  | render path => exact hP.render path h

end Shed

/-! ## Mounts and hydrations -/

/-- A property of sessions that mounts and hydrations keep. -/
structure Upheld (Q : Session → Prop) : Prop where
  cache : ∀ {session : Session} (cache : Cache), Q session → Q (session.setCache cache)
  record : ∀ {session : Session} (path : Path) (descriptor : Descriptor) (name : Option String),
    Q session → Q (session.recordMount path descriptor name)
  inform : ∀ {session : Session} (path : Path) (outcome : LoadOutcome), Q session →
    Q (session.setEditor path (informed (session.editorAt path) (session.value? path) outcome))
  render : ∀ {session : Session} (path : Path), Q session → Q (session.render path).2

namespace Upheld

variable {Q : Session → Prop} {session : Session} {σ : Type} (hQ : Upheld Q)

include hQ

theorem settle (path : Path) (epoch : Nat) (outcome : LoadOutcome) (h : Q session) :
    Q (session.settle path epoch outcome).2 := by
  rcases settle_eq session path epoch outcome with hsame | hnext
  · rw [hsame]
    exact h
  · rw [hnext]
    exact hQ.inform path outcome h

theorem answerMount (mount : Mount) (outcome : LoadOutcome) (h : Q session) :
    Q (session.answerMount mount outcome).2 :=
  hQ.settle mount.path mount.epoch outcome (hQ.cache _ h)

theorem beginMount (path : Path) (descriptor : Descriptor) (h : Q session) :
    Q (session.beginMount path descriptor).2 := by
  have hrequest := hQ.cache
    ((session.recordMount path descriptor (descriptor.blockName? (session.value? path))).registry.cache.request path).2
    (hQ.record path descriptor (descriptor.blockName? (session.value? path)) h)
  unfold Session.beginMount
  dsimp only
  split
  · exact hQ.settle _ _ _ hrequest
  · exact hrequest
  · split
    · exact hQ.answerMount _ _ hrequest
    · exact hrequest
    · exact hQ.answerMount _ _ hrequest

theorem mountNow (source : Catalog.Source σ) (path : Path) (descriptor : Descriptor) (state : σ)
    (h : Q session) : Q (Session.mountNow source path descriptor session state).2.1 := by
  have hbegun := hQ.beginMount path descriptor h
  unfold Session.mountNow
  split
  · rename_i hbegin
    rwa [hbegin] at hbegun
  · rename_i hbegin
    rwa [hbegin] at hbegun
  · rename_i hbegin
    rw [hbegin] at hbegun
    split
    · exact hQ.cache _ hbegun
    · exact hQ.answerMount _ _ hbegun

theorem mountAll (source : Catalog.Source σ) (heads : List ModuleHead) (state : σ)
    (h : Q session) : Q (Session.mountAll source heads session state).2.1 := by
  induction heads generalizing session state with
  | nil => exact h
  | cons head heads ih =>
    have hmounted := hQ.mountNow source head.path (pendingDescriptor head) state h
    rw [Session.mountAll]
    split
    · rename_i hmount
      rw [hmount] at hmounted
      exact ih _ hmounted
    · rename_i hmount
      rwa [hmount] at hmounted

theorem hydrateRounds (source : Catalog.Source σ) (path : Path) (rounds : Nat) (state : σ)
    (h : Q session) : Q (Session.hydrateRounds source path rounds session state).2.1 := by
  induction rounds generalizing session state with
  | zero => exact hQ.render path h
  | succ rounds ih =>
    have hrendered := hQ.render path h
    rw [Session.hydrateRounds]
    dsimp only
    split
    · exact hrendered
    · have hmounted := hQ.mountAll source
        ((session.render path).2.toMount (session.render path).1) state hrendered
      split
      · rename_i hmount
        rw [hmount] at hmounted
        exact ih _ hmounted
      · rename_i hmount
        rwa [hmount] at hmounted

theorem hydrate (source : Catalog.Source σ) (path : Path) (state : σ) (h : Q session) :
    Q (Session.hydrate source path session state).2.1 :=
  hQ.hydrateRounds source path _ state h

end Upheld

end Session

namespace Mounts

variable {Q : Session → Prop} {mounts next : Mounts} {event : Event}

/-- **A step that is not a person's keeps what mounts keep.** -/
theorem Change.upheld (h : Change mounts event next) (hQ : Session.Upheld Q)
    (hother : ∀ action, event ≠ .act action) (hsession : Q mounts.session) : Q next.session := by
  cases h with
  | idle => exact hsession
  | begun path descriptor => exact hQ.beginMount path descriptor hsession
  | answered found => exact hQ.answerMount _ _ hsession
  | told => exact hQ.settle _ _ _ hsession
  | released => exact hQ.cache _ hsession
  | left => exact hsession
  | acted action => exact absurd rfl (hother action)

end Mounts

end SchemaForms
