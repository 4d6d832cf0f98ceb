import SchemaForms.Proofs.Render.Agreement
import SchemaForms.Proofs.Session.Filing

/-!
# Proofs/Session/AddedKeys — how long a key stays that was added

A key that is added to a module is declared in the schema that is filed for it.  A load that is under
way at the time does not learn of this: its answer takes the place of the schema, and the key goes
with it.  Nothing else takes it away (`added_keys_stay`): mounts that begin later meet the schema, and
keys that are added later are declared beside it.  `Refiled` lists what one step can do to a schema
that is filed.
-/

namespace SchemaForms

namespace Session

variable {session : Session} {path : Path} {schema : Value} {key other : String} {kind : Primitive}

/-! ## Evictions -/

/-- **The schema of a path is evicted**: an action other than the addition of a key takes it away, or
puts another in its place. -/
structure Evicts (session : Session) (path : Path) (action : Action) : Prop where
  other : ∀ place key kind, action ≠ .addProperty place key kind
  changed : (session.act action).registry.cache.peek? path ≠ session.registry.cache.peek? path

/-- A rendering keeps a schema, unless it drops a module at or above its path. -/
theorem stable_filed (place path : Path) (schema : Value) :
    Render.Stable (fun below => place <+: below) fun registry =>
      registry.cache.peek? path = some schema ∨
        ∃ dropped, place <+: dropped ∧ Path.startsWith (Path.parse path.key) dropped = true where
  drop {registry dropped} hdropped h := by
    refine h.elim (fun hfiled => ?_) .inr
    by_cases hbelow : Path.startsWith (Path.parse path.key) dropped = true
    · exact .inr ⟨dropped, hdropped, hbelow⟩
    · refine .inl ?_
      rw [Registry.dropUnder, Registry.peek?_dropWhere, if_neg hbelow]
      exact hfiled
  seed {registry seeded} other _ h := by
    refine h.imp_left fun hfiled => ?_
    change (registry.cache.seed seeded other).peek? path = some schema
    rw [Render.peek?_seed_key, hfiled, Option.getD_some, ite_self]

/-- **What is evicted is dropped**: the action drops the path, with whatever else it drops, or renders a
module and drops one at or above the path. -/
theorem Evicts.drops {action : Action} (h : Evicts session path action)
    (hfiled : session.registry.cache.peek? path = some schema) :
    (∃ doomed, (session.act action).registry = session.registry.dropWhere doomed ∧
      doomed (Path.parse path.key) = true) ∨
    ∃ place dropped, action = .render place ∧ place <+: dropped ∧
      Path.startsWith (Path.parse path.key) dropped = true := by
  obtain ⟨registry, heffect, hnext⟩ := edited_act session action
  have hchanged := h.changed
  rw [hnext.registry] at hchanged ⊢
  cases heffect with
  | none => exact absurd rfl hchanged
  | dropped =>
    rename_i doomed _
    refine .inl ⟨doomed, rfl, Decidable.byContradiction fun hkept => hchanged ?_⟩
    rw [Registry.peek?_dropWhere, if_neg hkept]
  | wentOn => exact absurd rfl hchanged
  | filed place key kind => exact absurd rfl (h.other place key kind)
  | rendered place =>
    rcases keeps_render place (stable_filed place path schema) session (.inl hfiled) with
      hsame | ⟨dropped, hplace, hbelow⟩
    · exact absurd (hsame.trans hfiled.symm) hchanged
    · exact .inr ⟨place, dropped, rfl, hplace, hbelow⟩

/-! ## Declarations -/

/-- The key that a person adds by typing this text. -/
def added (key : String) : String := String.ofList (Text.trim key.toList)

/-- **A declaration adds one key to those that are declared.** -/
theorem declares_declare (schema : Value) (key : String) (kind : Primitive) (other : String) :
    declares (declare schema key kind) other = (decide (key = other) || declares schema other) := by
  unfold declares declare
  dsimp only
  rw [Value.member?, Table.get?_insert, if_pos rfl]
  change Table.contains (Table.insert _ _ _) _ = _
  unfold Table.contains
  rw [Table.get?_insert]
  by_cases hkey : key = other
  · rw [if_pos hkey, decide_eq_true hkey]
    rfl
  · rw [if_neg hkey, decide_eq_false hkey, Bool.false_or]

/-- **What the addition of a key files**: nothing if it is refused, or the schema with the key. -/
theorem cache_addProperty (session : Session) (path : Path) (key : String) (kind : Primitive) :
    ((session.addProperty path key kind).2 ≠ .ok () ∧
      (session.addProperty path key kind).1.registry.cache = session.registry.cache) ∨
    (session.addProperty path key kind).1.registry.cache
      = session.registry.cache.set path (declare (session.ownSchema path) (added key) kind) := by
  unfold addProperty
  dsimp only
  split
  · exact .inl ⟨nofun, rfl⟩
  · split
    · exact .inl ⟨nofun, rfl⟩
    · split
      · exact .inr rfl
      · exact .inr rfl

/-- **A schema that is filed is kept when keys are added, or gets one more.** -/
theorem peek?_addProperty (place : Path) (key : String) (kind : Primitive)
    (hfiled : session.registry.cache.peek? path = some schema) :
    (session.act (.addProperty place key kind)).registry.cache.peek? path = some schema ∨
    (session.act (.addProperty place key kind)).registry.cache.peek? path
      = some (declare schema (added key) kind) := by
  rw [act]
  rcases cache_addProperty session place key kind with ⟨-, hsame⟩ | hset
  · exact .inl ((congrArg (·.peek? path) hsame).trans hfiled)
  · rw [hset, Cache.peek?_set]
    by_cases hkey : place.key = path.key
    · have hplace : session.registry.cache.peek? place = some schema := by
        rw [Cache.peek?, hkey]
        exact hfiled
      rw [if_pos hkey, ownSchema, hplace]
      exact .inr rfl
    · rw [if_neg hkey]
      exact .inl hfiled

end Session

namespace Mounts

variable {mounts next : Mounts} {event : Event} {path : Path} {key : String}

open Session (Evicts added)

/-! ## One step -/

/-- The schema that is filed for the path declares the key. -/
def Declares (mounts : Mounts) (path : Path) (key : String) : Prop :=
  ∃ schema, mounts.filed? path = some schema ∧ Session.declares schema key = true

instance (mounts : Mounts) (path : Path) (key : String) : Decidable (Declares mounts path key) :=
  decidable_of_iff ((mounts.filed? path).any (Session.declares · key) = true)
    (Option.any_eq_true _ _)

/-- **What a step can do to a schema that is filed.** -/
inductive Refiled (mounts : Mounts) (path : Path) (schema : Value) : Event → Option Value → Prop where
  | kept (event : Event) : Refiled mounts path schema event (some schema)
  | declared (place : Path) (key : String) (kind : Primitive) :
      Refiled mounts path schema (.act (.addProperty place key kind))
        (some (Session.declare schema (added key) kind))
  | replaced {i : Nat} {mount : Mount} {name : String} {found : Catalog.BlockSchema}
      (hattempt : mounts.all[i]? = some (.asks mount name)) (hholds : Holds mounts mount path) :
      Refiled mounts path schema (.answer i (.ok found)) (some found.schema)
  | evicted {action : Session.Action} (h : Evicts mounts.session path action) (filed : Option Value) :
      Refiled mounts path schema (.act action) filed

/-- **Every step does one of these things to a schema that is filed.** -/
theorem Change.refiled (h : Change mounts event next) {schema : Value}
    (hpolicy : mounts.session.registry.cache.policy = .reuse)
    (hfiled : mounts.filed? path = some schema) :
    Refiled mounts path schema event (next.filed? path) := by
  have hkept : next.filed? path = mounts.filed? path →
      Refiled mounts path schema event (next.filed? path) := by
    intro hsame
    rw [hsame, hfiled]
    exact .kept event
  cases h with
  | idle => exact hkept rfl
  | begun place descriptor =>
    have hbegun := Session.begun_beginMount mounts.session place descriptor
    exact hkept ((hbegun.peek?_of_filed hpolicy hfiled).trans hfiled.symm)
  | answered found hattempt =>
    rename_i i mount name
    have hanswered := filed?_answered mounts i mount (Session.loadOutcome found)
      (.ended (mounts.session.answerMount mount (Session.loadOutcome found)).1) path
    split at hanswered
    · rename_i hholds
      cases found with
      | error e => exact hkept hanswered
      | ok found =>
        rw [hanswered]
        exact .replaced hattempt hholds
    · exact hkept hanswered
  | told => exact hkept (filed?_told mounts _ _ _ _ path)
  | released => exact hkept (filed?_released mounts _ _ _ path)
  | left => exact hkept rfl
  | acted action =>
    rw [filed?_acted] at hkept ⊢
    by_cases hchanged : (mounts.session.act action).registry.cache.peek? path = mounts.filed? path
    · exact hkept hchanged
    · by_cases hadds : ∃ place key kind, action = .addProperty place key kind
      · obtain ⟨place, key, kind, rfl⟩ := hadds
        rcases Session.peek?_addProperty place key kind hfiled with hsame | hdeclared
        · exact absurd (hsame.trans hfiled.symm) hchanged
        · rw [hdeclared]
          exact .declared place key kind
      · exact .evicted ⟨fun place key kind hadd => hadds ⟨place, key, kind, hadd⟩, hchanged⟩ _

/-- **No step but these takes a declaration away**: an eviction, and an answer that lacks it. -/
theorem Change.declares (h : Change mounts event next)
    (hpolicy : mounts.session.registry.cache.policy = .reuse) (hdeclares : Declares mounts path key)
    (hkept : ∀ action, event = .act action → ¬ Evicts mounts.session path action)
    (hanswers : ∀ {i mount name found}, event = .answer i (.ok found) →
      mounts.all[i]? = some (.asks mount name) → Holds mounts mount path →
        Session.declares found.schema key = true) :
    Declares next path key := by
  obtain ⟨schema, hfiled, hschema⟩ := hdeclares
  have hrefiled := h.refiled hpolicy hfiled
  revert hrefiled
  generalize hnext : next.filed? path = filed
  intro hrefiled
  cases hrefiled with
  | kept => exact ⟨schema, hnext, hschema⟩
  | declared place other kind =>
    exact ⟨_, hnext, by rw [Session.declares_declare, hschema, Bool.or_true]⟩
  | replaced hattempt hholds => exact ⟨_, hnext, hanswers rfl hattempt hholds⟩
  | evicted hevicts => exact absurd hevicts (hkept _ rfl)

/-- The mounts that ask the catalog about the path did so earlier. -/
def Known (earlier : Mounts) (path : Path) (mounts : Mounts) : Prop :=
  ∀ {i : Nat} {mount : Mount} {name : String}, mounts.all[i]? = some (.asks mount name) →
    mount.path.key = path.key → earlier.all[i]? = some (.asks mount name)

/-- An action begins no mount. -/
theorem known_acted (mounts : Mounts) (session : Session) (path : Path) :
    Known mounts path { mounts with session := session } := fun hattempt _ => hattempt

/-- **No mount asks about a path whose schema is filed.** -/
theorem Change.known (h : Change mounts event next) {earlier : Mounts}
    (hpolicy : mounts.session.registry.cache.policy = .reuse) (hdeclares : Declares mounts path key)
    (hknown : Known earlier path mounts) : Known earlier path next := by
  intro i mount name hattempt hkey
  rcases h.asked hattempt with hold | ⟨-, descriptor, -, -, -, hlacks, -, -⟩
  · exact hknown hold hkey
  · obtain ⟨schema, hfiled, -⟩ := hdeclares
    have hmissing := hlacks hpolicy
    rw [Cache.peek?, hkey, ← Cache.peek?] at hmissing
    exact absurd (hfiled.symm.trans hmissing) (Option.some_ne_none _)

/-! ## Over a run -/

/-- **An answer drops a key** from the schema of the path: it is that of a mount that asked earlier,
its load is on record, and its schema does not declare the key. -/
inductive Overwrites (earlier mounts : Mounts) (path : Path) (key : String) : Event → Prop where
  | intro {i : Nat} {mount : Mount} {name : String} {found : Catalog.BlockSchema}
      (hearlier : earlier.all[i]? = some (.asks mount name))
      (hattempt : mounts.all[i]? = some (.asks mount name)) (hholds : Holds mounts mount path)
      (hlacks : Session.declares found.schema key = false) :
      Overwrites earlier mounts path key (.answer i (.ok found))

/-- What an answer that drops a key leaves does not declare it. -/
theorem Overwrites.not_declares {earlier : Mounts} (h : Overwrites earlier mounts path key event) :
    ¬ Declares (mounts.step event) path key := by
  rintro ⟨schema, hfiled, hschema⟩
  cases h with
  | intro hearlier hattempt hholds hlacks =>
    rename_i i mount name found
    rw [step, answer, hattempt] at hfiled
    have hanswered := filed?_answered mounts i mount (Session.loadOutcome (.ok found))
      (.ended (mounts.session.answerMount mount (Session.loadOutcome (.ok found))).1) path
    rw [if_pos hholds] at hanswered
    obtain rfl := Option.some.inj (hanswered.symm.trans hfiled)
    exact Bool.false_ne_true (hlacks.symm.trans hschema)

/-- **A key stays declared over a run** without evictions and without answers that drop it. -/
theorem declares_run {earlier : Mounts} (hpolicy : mounts.session.registry.cache.policy = .reuse)
    (hdeclares : Declares mounts path key) (hknown : Known earlier path mounts) (events : List Event)
    (hkept : ∀ front action back, events = front ++ .act action :: back →
      ¬ Evicts (mounts.run front).session path action)
    (hanswers : ∀ front event back, events = front ++ event :: back →
      ¬ Overwrites earlier (mounts.run front) path key event) :
    Declares (mounts.run events) path key := by
  induction events generalizing mounts with
  | nil => exact hdeclares
  | cons event events ih =>
    have hchange := change_step mounts event
    refine ih (hchange.policy_eq.trans hpolicy) ?_ (hchange.known hpolicy hdeclares hknown) ?_ ?_
    · refine hchange.declares hpolicy hdeclares ?_ ?_
      · rintro action rfl
        exact hkept [] action events rfl
      · rintro i mount name found rfl hattempt hholds
        refine Bool.not_eq_false _ |>.mp fun hlacks => ?_
        exact hanswers [] _ events rfl (.intro (hknown hattempt hholds.1) hattempt hholds hlacks)
    · rintro front action back rfl
      exact hkept (event :: front) action back rfl
    · rintro front later back rfl
      exact hanswers (event :: front) later back rfl

/-- A key that was added is declared. -/
theorem declares_added {kind : Primitive}
    (hadded : (mounts.session.addProperty path key kind).2 = .ok ()) :
    Declares (mounts.step (.act (.addProperty path key kind))) path (added key) := by
  rcases Session.cache_addProperty mounts.session path key kind with ⟨hrefused, -⟩ | hset
  · exact absurd hadded hrefused
  · refine ⟨Session.declare (mounts.session.ownSchema path) (added key) kind, ?_, ?_⟩
    · rw [step, filed?_acted, Session.act, hset, Cache.peek?_set, if_pos rfl]
    · rw [Session.declares_declare, decide_eq_true rfl, Bool.true_or]

/-- **A key that was added stays declared until its path is evicted, if and only if no answer drops it.**
Whatever mounts begin and end and whatever keys are added after it, and in any order: the one thing
that takes it away is the answer to a load that was under way when it was added. -/
theorem added_keys_stay (mounts : Mounts) (hpolicy : mounts.session.registry.cache.policy = .reuse)
    (path : Path) (key : String) (kind : Primitive)
    (hadded : (mounts.session.addProperty path key kind).2 = .ok ()) {begun : Mounts}
    (hbegun : begun = mounts.step (.act (.addProperty path key kind))) (after : List Event)
    (hkept : ∀ front action back, after = front ++ .act action :: back →
      ¬ Evicts (begun.run front).session path action) :
    (∀ front, front <+: after → Declares (begun.run front) path (added key)) ↔
      ∀ front event back, after = front ++ event :: back →
        ¬ Overwrites mounts (begun.run front) path (added key) event := by
  constructor
  · intro hdeclares front event back hafter hoverwrites
    have hprefix : front ++ [event] <+: after := ⟨back, by rw [hafter, List.append_assoc]; rfl⟩
    have hlater := hdeclares _ hprefix
    rw [run_append] at hlater
    exact hoverwrites.not_declares hlater
  · rintro hanswers front ⟨back, rfl⟩
    have hstart : Declares begun path (added key) := hbegun ▸ declares_added hadded
    have hknown : Known mounts path begun := by
      rw [hbegun, step]
      exact known_acted mounts _ path
    have hreuse : begun.session.registry.cache.policy = .reuse := by
      rw [hbegun]
      exact (change_step mounts _).policy_eq.trans hpolicy
    refine declares_run hreuse hstart hknown front ?_ ?_
    · rintro first action rest rfl
      exact hkept first action (rest ++ back) (by simp)
    · rintro first event rest rfl
      exact hanswers first event (rest ++ back) (by simp)

/-- A key is added while the schema of its module is fetched, and the load is given up. -/
theorem added_keys_stay_given_up :
    let path := Path.root.child "trigger"
    let descriptor : Descriptor := ⟨some "state_trigger", none, none⟩
    let mounts := (start .default (.obj [("root", .obj [("trigger", .obj [])])])).run
      [.mount path descriptor]
    let after : List Event := [.mount path descriptor, .giveUp 0]
    mounts.session.registry.cache.isLoading path = true ∧
      Declares ((mounts.step (.act (.addProperty path "owner" .string))).run after) path "owner" := by
  intro path descriptor mounts after
  have hadded : (mounts.session.addProperty path "owner" .string).2 = .ok () := rfl
  have hloading : mounts.session.registry.cache.isLoading path = true := by decide +kernel
  refine ⟨hloading, (added_keys_stay mounts rfl path "owner" .string hadded rfl after ?_).mpr ?_
    after (List.prefix_refl _)⟩
  · intro front action back hafter
    have hmem : Event.act action ∈ after := hafter ▸ List.mem_append_cons_self
    simp [after] at hmem
  · intro front event back hafter hoverwrites
    have hmem : event ∈ after := hafter ▸ List.mem_append_cons_self
    cases hoverwrites
    simp [after] at hmem

/-- The same load is answered, and the key is gone. -/
theorem added_keys_go :
    let path := Path.root.child "trigger"
    let mounts := (start .default (.obj [("root", .obj [("trigger", .obj [])])])).run
      [.mount path ⟨some "state_trigger", none, none⟩]
    let begun := mounts.step (.act (.addProperty path "owner" .string))
    (mounts.session.addProperty path "owner" .string).2 = .ok () ∧
      Declares begun path "owner" ∧
      ¬ Declares (begun.step (.answer 0 (.ok ⟨.emptyObject, []⟩))) path "owner" :=
  ⟨rfl, by decide +kernel, by decide +kernel⟩

end Mounts

end SchemaForms
