import SchemaForms.Proofs.Session.AddedKeys
import SchemaForms.Proofs.Store.Padding

/-!
# Proofs/Session/RefusedKeys — what is left of a key that was refused

`Adds` lists what the addition of a key does.  A key is refused when it is empty or already there, and
then nothing happens; but it is also refused when the document takes no value so far behind the end
of a sequence, and by then it is declared (`refused_keys_leave_no_trace`).  A second attempt is
refused as well, because the key that was refused is already there.
-/

namespace SchemaForms.Session

open Document (tooFar?)

variable {session : Session} {path : Path} {key : String} {kind : Primitive}

/-! ## What the addition of a key does -/

/-- The session in which a key is declared in the schema of a module. -/
def declaring (session : Session) (path : Path) (key : String) (kind : Primitive) : Session :=
  session.setCache
    (session.registry.cache.set path (declare (session.ownSchema path) (added key) kind))

/-- The session in which a key has its value as well. -/
def adding (session : Session) (path : Path) (key : String) (kind : Primitive) : Session :=
  { session.declaring path key kind with
    store := session.store.commit
      (Document.write session.store.document (path.child (added key)) kind.default)
      (path.child (added key)) dirtyOnly }

/-- **A key is declared without a value**: nothing speaks against it, but the document takes no value
at its module. -/
structure Lingers (session : Session) (path : Path) (key : String) : Prop where
  named : added key ≠ ""
  undeclared : declares (session.ownSchema path) (added key) = false
  outOfReach : tooFar? (some session.store.document) path ≠ none

instance (session : Session) (path : Path) (key : String) : Decidable (Lingers session path key) :=
  decidable_of_iff (added key ≠ "" ∧ declares (session.ownSchema path) (added key) = false ∧
      tooFar? (some session.store.document) path ≠ none)
    ⟨fun h => ⟨h.1, h.2.1, h.2.2⟩, fun h => ⟨h.named, h.undeclared, h.outOfReach⟩⟩

/-- **What the addition of a key does.** -/
inductive Adds (session : Session) (path : Path) (key : String) (kind : Primitive) :
    Session × Except EditError Unit → Prop where
  | unnamed (hempty : added key = "") :
      Adds session path key kind (session, .error (.validation .emptyKey))
  | known (hnamed : added key ≠ "")
      (hknown : declares (session.ownSchema path) (added key) = true ∨
        (session.value? (path.child (added key))).isSome = true) :
      Adds session path key kind (session, .error (.validation (.duplicateKey (added key))))
  | lingered (h : Lingers session path key) {far : Document.TooFar}
      (hfar : tooFar? (some session.store.document) path = some far) :
      Adds session path key kind (session.declaring path key kind,
        .error (.store (.tooFar (path.child (added key)) far.index far.length)))
  | added (hnamed : added key ≠ "")
      (hundeclared : declares (session.ownSchema path) (added key) = false)
      (hmissing : session.value? (path.child (added key)) = none)
      (hreach : tooFar? (some session.store.document) path = none) :
      Adds session path key kind (session.adding path key kind, .ok ())

/-- **The addition of a key does one of these things.** -/
theorem adds_addProperty (session : Session) (path : Path) (key : String) (kind : Primitive) :
    Adds session path key kind (session.addProperty path key kind) := by
  unfold addProperty
  dsimp only
  split
  · rename_i hempty
    exact .unnamed (String.isEmpty_iff.mp hempty)
  rename_i hnamed
  have hnamed : added key ≠ "" := fun hempty => hnamed (String.isEmpty_iff.mpr hempty)
  split
  · rename_i hknown
    exact .known hnamed (Bool.or_eq_true_iff.mp hknown)
  rename_i hnew
  obtain ⟨hundeclared, hmissing⟩ := not_or.mp (mt Bool.or_eq_true_iff.mpr hnew)
  have hundeclared := Bool.eq_false_iff.mpr hundeclared
  have hmissing := Option.not_isSome_iff_eq_none.mp hmissing
  split
  · rename_i refusal hset
    obtain ⟨far, hfar, rfl⟩ := Store.set_eq_error.mp hset
    rw [Document.tooFar?_child] at hfar
    exact .lingered ⟨hnamed, hundeclared, by simp [hfar]⟩ hfar
  · rename_i store hset
    obtain ⟨hreach, rfl⟩ := Store.set_eq_ok.mp hset
    rw [Document.tooFar?_child] at hreach
    exact .added hnamed hundeclared hmissing hreach

/-- A key that is added was missing. -/
theorem adding_of_ok (hadded : (session.addProperty path key kind).2 = .ok ()) :
    session.value? (path.child (added key)) = none ∧
      (session.addProperty path key kind).1 = session.adding path key kind := by
  have hadds := adds_addProperty session path key kind
  generalize session.addProperty path key kind = outcome at hadds hadded
  cases hadds with
  | unnamed => cases hadded
  | known => cases hadded
  | lingered => cases hadded
  | added _ _ hmissing => exact ⟨hmissing, rfl⟩

/-! ## What is left of a key that was refused -/

/-- A declared key is refused. -/
theorem addProperty_of_declares (hnamed : added key ≠ "")
    (hdeclared : declares (session.ownSchema path) (added key) = true) (kind : Primitive) :
    session.addProperty path key kind
      = (session, .error (.validation (.duplicateKey (added key)))) := by
  have hadds := adds_addProperty session path key kind
  generalize session.addProperty path key kind = outcome at hadds
  cases hadds with
  | unnamed hempty => exact absurd hempty hnamed
  | known => rfl
  | lingered h => exact absurd (hdeclared.symm.trans h.undeclared) nofun
  | added _ hundeclared => exact absurd (hdeclared.symm.trans hundeclared) nofun

/-- A key is declared after it was declared. -/
theorem declares_declaring (session : Session) (path : Path) (key : String) (kind : Primitive) :
    declares ((session.declaring path key kind).ownSchema path) (added key) = true := by
  have hown : (session.declaring path key kind).ownSchema path
      = declare (session.ownSchema path) (added key) kind := by
    change ((session.registry.cache.set path _).peek? path).getD _ = _
    rw [Cache.peek?_set, if_pos rfl, Option.getD_some]
  rw [hown, declares_declare, decide_eq_true rfl, Bool.true_or]

/-- **A key that lingers is refused for its value**, and is declared by then. -/
theorem addProperty_of_lingers (h : Lingers session path key) (kind : Primitive) :
    ∃ far, tooFar? (some session.store.document) path = some far ∧
      session.addProperty path key kind = (session.declaring path key kind,
        .error (.store (.tooFar (path.child (added key)) far.index far.length))) := by
  have hadds := adds_addProperty session path key kind
  generalize session.addProperty path key kind = outcome at hadds
  cases hadds with
  | unnamed hempty => exact absurd hempty h.named
  | known _ hknown =>
    -- where there is a value the check of its path passes
    rcases hknown with hdeclared | hvalue
    · exact absurd (hdeclared.symm.trans h.undeclared) nofun
    · obtain ⟨value, hvalue⟩ := Option.isSome_iff_exists.mp hvalue
      have hreach := Document.tooFar?_of_read? hvalue
      rw [Document.tooFar?_child] at hreach
      exact absurd hreach h.outOfReach
  | lingered _ hfar => exact ⟨_, hfar, rfl⟩
  | added _ _ _ hreach => exact absurd hreach h.outOfReach

/-- **A key that is refused and does not linger is refused at once.** -/
theorem addProperty_of_not_lingers {e : EditError} (h : ¬ Lingers session path key)
    (hrefused : (session.addProperty path key kind).2 = .error e) :
    session.addProperty path key kind = (session, .error e) ∧ ∃ reason, e = .validation reason := by
  have hadds := adds_addProperty session path key kind
  generalize session.addProperty path key kind = outcome at hadds hrefused
  cases hadds with
  | unnamed => cases hrefused; exact ⟨rfl, _, rfl⟩
  | known => cases hrefused; exact ⟨rfl, _, rfl⟩
  | lingered hlingers => exact absurd hlingers h
  | added => cases hrefused

/-- **A refused key leaves no trace, unless it is declared without a value.**  Whatever the reason, the
document, its marks and its watchers are as they were; and so is everything else, so that a second
attempt is refused for the same reason, exactly unless nothing but the document speaks against the
key.  Then the refusal names the first step that leads too far behind the end of a sequence, but the
schema of the module declares the key by now, and a second attempt is refused because it does. -/
theorem refused_keys_leave_no_trace (session : Session) (path : Path) (key : String) (kind : Primitive)
    {e : EditError} (hrefused : (session.addProperty path key kind).2 = .error e) :
    let refused := (session.addProperty path key kind).1
    refused.store = session.store ∧
      (refused = session ↔ ¬ Lingers session path key) ∧
      (refused.addProperty path key kind = (refused, .error e) ↔ ¬ Lingers session path key) ∧
      ((∃ reason, e = .validation reason) ↔ ¬ Lingers session path key) ∧
      (Lingers session path key →
        (∃ far, tooFar? (some session.store.document) path = some far ∧
          e = .store (.tooFar (path.child (added key)) far.index far.length)) ∧
        refused = session.declaring path key kind ∧
        refused.addProperty path key kind
          = (refused, .error (.validation (.duplicateKey (added key))))) := by
  intro refused
  by_cases hlingers : Lingers session path key
  · obtain ⟨far, hfar, houtcome⟩ := addProperty_of_lingers hlingers kind
    have hleft : refused = session.declaring path key kind := congrArg Prod.fst houtcome
    have he : e = .store (.tooFar (path.child (added key)) far.index far.length) :=
      (Except.error.inj ((congrArg Prod.snd houtcome).symm.trans hrefused)).symm
    have hdeclared : declares (refused.ownSchema path) (added key) = true := by
      rw [hleft]
      exact declares_declaring session path key kind
    have hagain := addProperty_of_declares hlingers.named hdeclared kind
    refine ⟨by rw [hleft]; rfl, ⟨fun hsame => ?_, fun h => absurd hlingers h⟩,
      ⟨fun hrepeats => ?_, fun h => absurd hlingers h⟩,
      ⟨?_, fun h => absurd hlingers h⟩,
      fun _ => ⟨⟨far, hfar, he⟩, hleft, hagain⟩⟩
    · rw [hsame, hlingers.undeclared] at hdeclared
      cases hdeclared
    · have hsame := Except.error.inj (congrArg Prod.snd (hagain.symm.trans hrepeats))
      exact absurd (hsame.trans he) nofun
    · rintro ⟨reason, hreason⟩
      exact absurd (he.symm.trans hreason) nofun
  · obtain ⟨houtcome, hreason⟩ := addProperty_of_not_lingers hlingers hrefused
    have hleft : refused = session := congrArg Prod.fst houtcome
    refine ⟨congrArg Session.store hleft, iff_of_true hleft hlingers, iff_of_true ?_ hlingers,
      iff_of_true hreason hlingers, fun h => absurd h hlingers⟩
    rw [hleft]
    exact houtcome

/-- A key that is there already is refused twice, and one whose module lies far behind the end of a
list. -/
theorem refused_keys_leave_no_trace_twice :
    let session := ofDocument .default (.obj [("root", .obj [("name", .null)])])
    let far := (Path.root.child "list").item 2000
    (session.addProperty .root " name " .string).2 = .error (.validation (.duplicateKey "name")) ∧
      ¬ Lingers session .root " name " ∧
      (session.addProperty .root " name " .string).1 = session ∧
      Lingers session far "owner" ∧
      (session.addProperty far "owner" .string).2
        = .error (.store (.tooFar (far.child "owner") 2000 0)) ∧
      (session.addProperty far "owner" .string).1.store = session.store := by
  intro session far
  have hknown : (session.addProperty .root " name " .string).2
      = .error (.validation (.duplicateKey "name")) := by rfl
  have hnot : ¬ Lingers session .root " name " := by decide +kernel
  have hfar : (session.addProperty far "owner" .string).2
      = .error (.store (.tooFar (far.child "owner") 2000 0)) := by rfl
  have hlingers : Lingers session far "owner" := by decide +kernel
  exact ⟨hknown, hnot, (refused_keys_leave_no_trace session .root " name " .string hknown).2.1.mpr hnot,
    hlingers, hfar, (refused_keys_leave_no_trace session far "owner" .string hfar).1⟩

/-- **A refused key that is there the second time**: the same call is refused for another reason, and
the module has a schema that declares a key without a value. -/
theorem refused_keys_linger :
    let session := ofDocument .default (.obj [("root", .emptyObject)])
    let far := (Path.root.child "list").item 2000
    let refused := (session.addProperty far "owner" .string).1
    (session.addProperty far "owner" .string).2
        = .error (.store (.tooFar (far.child "owner") 2000 0)) ∧
      session.registry.cache.contains far = false ∧ refused.registry.cache.contains far = true ∧
      refused.value? far = none ∧
      (refused.addProperty far "owner" .string).2
        = .error (.validation (.duplicateKey "owner")) :=
  ⟨rfl, by decide +kernel, by decide +kernel, by decide +kernel,
    congrArg Prod.snd (addProperty_of_declares (by decide +kernel) (by decide +kernel) _)⟩

end SchemaForms.Session
