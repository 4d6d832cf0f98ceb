import SchemaForms.Proofs.Cache.Records

/-!
# Proofs/Cache/SingleFlight — one load at a time, and one outcome for all who wait

What callers can rely on, whatever happens side by side, is `single_flight`.  Its parts are read off
the invariant `Tracked`: the record of a key says whether its path is loading, the ledger of the
loads says what a call is answered, and the entry that a load leaves says when a path is loaded
again.
-/

namespace SchemaForms.Callers

open Cache (Caller Stage)

variable {callers : Callers}

/-! ## What a call leaves to others -/

/-- The call with this index runs a load of a path that was not evicted since. -/
def Live (callers : Callers) (path : Path) (i : Nat) : Prop :=
  ∃ (caller : Caller) (flight : Flight), callers.Runs i caller flight ∧ caller.stage = .underWay ∧
    caller.path = path ∧ caller.evicted = false

/-- What a call leaves to those who waited for it: the outcome that it returned, or word that it was
given up. -/
def Leaves (owner : Caller) (outcome : LoadOutcome) : Prop :=
  owner.stage = .ended (.finished outcome) ∨
    owner.stage = .ended .dropped ∧ outcome = .error (.abandoned owner.path.key)

theorem leaves_iff {owner : Caller} {outcome : LoadOutcome} :
    Leaves owner outcome ↔ owner.stage.told?.map (Ending.answer owner.path) = some outcome := by
  unfold Leaves
  cases owner.stage with
  | underWay => simp [Stage.told?]
  | noted ending => simp [Stage.told?]
  | ended ending => cases ending <;> simp [Stage.told?, Ending.answer, eq_comm]

/-- **A path is loading exactly when a call runs a load of it that was not evicted.** -/
theorem Tracked.isLoading_iff (h : Tracked callers) {path : Path} (hroot : Path.Rooted path) :
    callers.cache.isLoading path = true ↔ ∃ i, callers.Live path i := by
  unfold Cache.isLoading Table.contains
  rw [Option.isSome_iff_exists]
  constructor
  · rintro ⟨flight, hrecord⟩
    obtain ⟨i, owner, howner, hstage, hkey, hevicted⟩ := h.owned hrecord
    have hpath : owner.path = path := hroot.key_inj hkey
    exact ⟨i, owner, flight, howner, hstage, hpath, hevicted (hpath ▸ hroot)⟩
  · rintro ⟨i, caller, flight, hruns, hstage, rfl, hevicted⟩
    exact ⟨flight, h.recorded hruns hstage hroot hevicted⟩

/-- **No two calls run loads of a path, unless one of them was evicted.** -/
theorem Tracked.live_unique (h : Tracked callers) {path : Path} (hroot : Path.Rooted path)
    {i j : Nat} (hi : callers.Live path i) (hj : callers.Live path j) : i = j := by
  obtain ⟨a, f, ha, hstageA, rfl, hevictedA⟩ := hi
  obtain ⟨b, g, hb, hstageB, hpath, hevictedB⟩ := hj
  have hf := h.recorded ha hstageA hroot hevictedA
  have hg := h.recorded hb hstageB (hpath ▸ hroot) hevictedB
  rw [hpath, hf] at hg
  exact h.tickets ha hb (congrArg Flight.ticket (Option.some.inj hg))

/-- A call that waits is answered once it is known what it waits for. -/
theorem Tracked.poll_iff (h : Tracked callers) {i j : Nat} {caller owner : Caller} {flight : Flight}
    (hcaller : callers.all[i]? = some caller) (hplan : caller.plan = .wait flight)
    (hstage : caller.stage = .underWay) (howner : callers.Runs j owner flight)
    (hpath : owner.path = caller.path) (outcome : LoadOutcome) :
    (callers.step (.poll i)).all[i]? = some (caller.atStage (.ended (.finished outcome))) ↔
      Leaves owner outcome := by
  rw [leaves_iff, hpath, ← h.outcome?_eq howner]
  change (callers.poll i).all[i]? = _ ↔ _
  unfold poll
  simp only [hcaller, hplan, hstage]
  cases hanswer : callers.cache.outcome? caller.path flight.ticket with
  | none =>
    have hne : caller ≠ caller.atStage (.ended (.finished outcome)) := by
      intro heq
      rw [heq] at hstage
      exact absurd hstage nofun
    simp [hcaller, hne]
  | some answer =>
    change (callers.advance i caller callers.cache (.ended (.finished answer))).all[i]? = _ ↔ _
    rw [getElem?_advance_self hcaller]
    simp [Caller.atStage]

/-- **Who waits for a load is answered by the call that runs it.** -/
theorem Tracked.leaves_of_wait (h : Tracked callers) {i : Nat} {caller : Caller} {flight : Flight}
    (hcaller : callers.all[i]? = some caller) (hplan : caller.plan = .wait flight)
    (hroot : Path.Rooted caller.path) :
    ∃ (j : Nat) (owner : Caller), callers.Runs j owner flight ∧ owner.path = caller.path ∧
      (∀ outcome, caller.stage = .ended (.finished outcome) → Leaves owner outcome) ∧
      (caller.stage = .underWay → ∀ outcome,
        (callers.step (.poll i)).all[i]? = some (caller.atStage (.ended (.finished outcome))) ↔
          Leaves owner outcome) := by
  obtain ⟨j, owner, howner, hkey, hanswer⟩ := h.joined hcaller hplan
  have hpath : owner.path = caller.path := hroot.key_inj hkey
  refine ⟨j, owner, howner, hpath, fun outcome hover => ?_, fun hstage outcome => ?_⟩
  · rw [leaves_iff, hpath]
    exact hanswer outcome hover
  · exact h.poll_iff hcaller hplan hstage howner hpath outcome

/-- **A schema that may be used again is not loaded again**, unless its path was evicted. -/
theorem Tracked.not_load (h : Tracked callers) (hpolicy : callers.cache.policy = .reuse) {i : Nat}
    {caller : Caller} {first second : Flight} (hruns : callers.Runs i caller first)
    (hroot : Path.Rooted caller.path) (hevicted : caller.evicted = false)
    (hload : (callers.cache.request caller.path).1 = .load second) :
    ∃ ending, caller.stage.ending? = some ending ∧
      ∀ schema, ending ≠ .finished (.ok (some schema)) := by
  have hnone : Table.get? callers.cache.entries caller.path.key = none ∧
      Table.get? callers.cache.inFlight caller.path.key = none := by
    rcases Cache.request_cases callers.cache caller.path with
      ⟨_, -, -, hr⟩ | ⟨-, _, -, hr⟩ | ⟨hentries, hinFlight, -⟩
    · rw [hr] at hload
      exact absurd hload nofun
    · rw [hr] at hload
      exact absurd hload nofun
    · exact ⟨hentries hpolicy, hinFlight⟩
  cases hending : caller.stage.ending? with
  | none =>
    have hstage : caller.stage = .underWay := by
      cases hstage : caller.stage with
      | underWay => rfl
      | noted ending => simp [hstage, Stage.ending?] at hending
      | ended ending => simp [hstage, Stage.ending?] at hending
    have hrecord := h.recorded hruns hstage hroot hevicted
    exact absurd (hrecord.symm.trans hnone.2) nofun
  | some ending =>
    refine ⟨ending, rfl, ?_⟩
    rintro schema rfl
    have hentry := h.filed hruns hending hroot hevicted
    rw [hnone.1] at hentry
    exact absurd hentry nofun

/-- **Calls share loads, and what comes of them.**  At every moment of every run:

* a path is loading exactly when a call runs a load of it that was not evicted, and there is no more
  than one such call;
* a call that joined a load of its path is answered what the call that runs it returned, or that it
  was given up, as soon as that is known and never otherwise;
* where schemas are used again, a path that was loaded is loaded once more only after an eviction
  that covered it, or after the earlier load ended without a schema. -/
theorem single_flight (policy : CachePolicy) :
    (∀ (events : List Event) (path : Path), Path.Rooted path →
      let now := (start policy).run events
      (now.cache.isLoading path = true ↔ ∃ i, now.Live path i) ∧
        ∀ i j, now.Live path i → now.Live path j → i = j) ∧
    (∀ (events : List Event) (i : Nat) (caller : Caller) (flight : Flight),
      let now := (start policy).run events
      now.all[i]? = some caller → caller.plan = .wait flight → Path.Rooted caller.path →
        ∃ (j : Nat) (owner : Caller), now.Runs j owner flight ∧ owner.path = caller.path ∧
          (∀ outcome, caller.stage = .ended (.finished outcome) → Leaves owner outcome) ∧
          (caller.stage = .underWay → ∀ outcome,
            (now.step (.poll i)).all[i]? = some (caller.atStage (.ended (.finished outcome))) ↔
              Leaves owner outcome)) ∧
    (policy = .reuse → ∀ (before between : List Event) (path : Path) (first second : Flight),
      let began := (start policy).run before
      let now := began.run (.call path :: between)
      Path.Rooted path → (began.cache.request path).1 = .load first →
        (now.cache.request path).1 = .load second →
          (∃ event ∈ between, event.covers path = true) ∨
            ∃ caller ending, now.all[began.all.length]? = some caller ∧
              caller.stage.ending? = some ending ∧
              ∀ schema, ending ≠ .finished (.ok (some schema))) := by
  refine ⟨fun events path hroot => ?_, fun events i caller flight => ?_, ?_⟩
  · have h := (tracked_start policy).run events
    exact ⟨h.isLoading_iff hroot, fun i j => h.live_unique hroot⟩
  · exact ((tracked_start policy).run events).leaves_of_wait
  · rintro rfl before between path first second began now hroot hfirst hsecond
    have h : Tracked now := ((tracked_start .reuse).run before).run _
    have hbegan : (began.step (.call path)).all[began.all.length]?
        = some ⟨path, .load first, .underWay, false⟩ := by
      change (began.all ++ [Caller.new path (began.cache.request path).1])[_]? = _
      rw [hfirst, List.getElem?_concat_length]
      rfl
    obtain ⟨caller, hcaller, hpath, hplan, hevicted⟩ := kept_run hbegan between
    by_cases hcovered : between.any (·.covers path) = true
    · exact .inl (List.any_eq_true.mp hcovered)
    · right
      have hspared : caller.evicted = false := by
        rw [hevicted, Bool.false_or]
        exact Bool.eq_false_iff.mpr hcovered
      have hsame : caller.path = path := hpath
      have hpolicy : now.cache.policy = .reuse := (policy_run _ _).trans (policy_run _ _)
      obtain ⟨ending, hending, hne⟩ := h.not_load hpolicy ⟨hcaller, hplan⟩ (hsame ▸ hroot) hspared
        (hsame ▸ hsecond)
      exact ⟨caller, ending, hcaller, hending, hne⟩

/-- A call that joins a load is answered that there is no schema, and then the path is loaded
again. -/
theorem single_flight_trigger :
    let path := Path.root.child "trigger"
    let now := (start .reuse).run [.call path, .call path, .finish 0 (.ok none), .tell 0, .poll 1]
    (now.cache.isLoading path = true ↔ ∃ i, now.Live path i) ∧
      (∃ (j : Nat) (owner : Caller), now.Runs j owner ⟨1, 0⟩ ∧ Leaves owner (.ok none)) ∧
      (now.cache.request path).1 = .load ⟨2, 1⟩ ∧
      ∃ caller ending, now.all[0]? = some caller ∧ caller.stage.ending? = some ending ∧
        ∀ schema, ending ≠ .finished (.ok (some schema)) := by
  intro path now
  have hroot : Path.Rooted path := by decide
  obtain ⟨hloading, hjoined, hagain⟩ := single_flight .reuse
  have hcaller : now.all[1]? = some ⟨path, .wait ⟨1, 0⟩, .ended (.finished (.ok none)), false⟩ := rfl
  obtain ⟨j, owner, howner, -, hleaves, -⟩ := hjoined _ 1 _ _ hcaller rfl hroot
  have hload : (now.cache.request path).1 = .load ⟨2, 1⟩ := by decide
  have hspared : ¬ ∃ event ∈ ([.call path, .finish 0 (.ok none), .tell 0, .poll 1] : List Event),
      event.covers path = true := by
    simp [Event.covers]
  exact ⟨(hloading _ path hroot).1, ⟨j, owner, howner, hleaves _ rfl⟩, hload,
    (hagain rfl [] _ path _ _ hroot rfl hload).resolve_left hspared⟩

end SchemaForms.Callers
