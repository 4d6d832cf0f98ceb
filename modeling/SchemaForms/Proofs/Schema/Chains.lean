import SchemaForms.Schema.Reference

/-!
# Proofs/Schema/Chains — how far a chain of references is followed

A fragment that consists of a reference leads to another one, and so on: `chain` is the sequence of
these fragments.  It ends at a fragment that is no reference, or whose reference is of no use
(`halt?`).  Resolving comes to the end of the chain, if that is within the limit, and otherwise to a
cycle (`resolve_eq_iff`); so the limit decides whether there is a result and never which one, and a
chain that comes back to one of its fragments has none (`references_are_followed_along_their_chain`).
-/

namespace SchemaForms.Schema

variable {root schema target : Value} {limit hops n : Nat}
  {result : Except RefError (Option Value)}

/-! ## Chains -/

/-- The fragment that the reference of a fragment leads to. -/
def next? (root schema : Value) : Option Value :=
  (reference? schema).bind fun reference => (lookup reference root).toOption.join

/-- The fragment after a number of hops; none, if there are fewer. -/
def chain (root schema : Value) : Nat → Option Value
  | 0 => some schema
  | hops + 1 => (chain root schema hops).bind (next? root)

/-- What a chain that is at a fragment comes to there, unless it goes on. -/
def halt? (root schema : Value) : Option (Except RefError (Option Value)) :=
  match reference? schema with
  | none => some (.ok (some schema))
  | some reference =>
    match lookup reference root with
    | .error e => some (.error e)
    | .ok none => some (.ok none)
    | .ok (some _) => none

/-- **The first hop of a chain leads to a chain.** -/
theorem chain_succ_of_next? (h : next? root schema = some target) (hops : Nat) :
    chain root schema (hops + 1) = chain root target hops := by
  induction hops with
  | zero => rw [chain, chain, chain, Option.bind_some, h]
  | succ hops ih => rw [chain, ih, chain]

/-- **Chains are followed in parts.** -/
theorem chain_add (h : chain root schema hops = some target) (more : Nat) :
    chain root schema (hops + more) = chain root target more := by
  induction more with
  | zero => exact h
  | succ more ih => rw [← Nat.add_assoc, chain, ih, chain]

/-- A chain that got so far got to everything before. -/
theorem chain_isSome_of_le (hle : n ≤ hops) (h : (chain root schema hops).isSome) :
    (chain root schema n).isSome := by
  induction hops with
  | zero => rwa [Nat.le_zero.mp hle]
  | succ hops ih =>
    rcases Nat.le_succ_iff.mp hle with hle | rfl
    · refine ih hle ?_
      obtain ⟨after, hafter⟩ := Option.isSome_iff_exists.mp h
      obtain ⟨before, hbefore, -⟩ := Option.bind_eq_some_iff.mp hafter
      exact Option.isSome_iff_exists.mpr ⟨before, hbefore⟩
    · exact h

/-- **A chain that comes back to a fragment never ends.** -/
theorem chain_isSome_of_returns {i j : Nat} (hij : i < j) (hi : chain root schema i = some target)
    (hj : chain root schema j = some target) (hops : Nat) : (chain root schema hops).isSome := by
  -- One round later the chain is where it was, so it gets as far as it likes.
  have hround : ∀ rounds, chain root schema (i + rounds * (j - i)) = some target := by
    intro rounds
    induction rounds with
    | zero => rwa [Nat.zero_mul]
    | succ rounds ih =>
      rw [Nat.succ_mul, ← Nat.add_assoc, chain_add ih, ← chain_add hi, Nat.add_sub_of_le (Nat.le_of_lt hij),
        hj]
  have hfar : hops ≤ i + hops * (j - i) :=
    Nat.le_trans (Nat.le_mul_of_pos_right hops (Nat.sub_pos_of_lt hij)) (Nat.le_add_left _ _)
  exact chain_isSome_of_le hfar (by rw [hround]; rfl)

/-! ## Where a chain ends -/

theorem halt?_eq_none : halt? root schema = none ↔ ∃ target, next? root schema = some target := by
  unfold halt? next?
  cases reference? schema with
  | none => simp
  | some reference => rcases hlookup : lookup reference root with e | _ | target <;>
      simp [hlookup, Except.toOption]

theorem halt?_eq_found : halt? root schema = some (.ok (some target)) ↔
    reference? schema = none ∧ target = schema := by
  unfold halt?
  cases reference? schema with
  | none => simp [eq_comm]
  | some reference => rcases hlookup : lookup reference root with e | _ | target <;> simp [hlookup]

theorem halt?_eq_nowhere : halt? root schema = some (.ok none) ↔
    ∃ reference, reference? schema = some reference ∧ lookup reference root = .ok none := by
  unfold halt?
  cases reference? schema with
  | none => simp
  | some reference => rcases hlookup : lookup reference root with e | _ | target <;> simp [hlookup]

theorem halt?_eq_error {e : RefError} : halt? root schema = some (.error e) ↔
    ∃ reference, reference? schema = some reference ∧ lookup reference root = .error e := by
  unfold halt?
  cases reference? schema with
  | none => simp
  | some reference => rcases hlookup : lookup reference root with e | _ | target <;> simp [hlookup]

theorem pointer?_eq_none {reference : String} :
    pointer? reference = none ↔ reference.toList.head? ≠ some '#' := by
  unfold pointer?
  split <;> grind [List.head?_eq_some_iff]

/-- **The only references that cannot be looked up are those that are not local.** -/
theorem lookup_eq_error {reference : String} {e : RefError} :
    lookup reference root = .error e ↔
      reference.toList.head? ≠ some '#' ∧ e = .notLocal reference := by
  rw [← pointer?_eq_none]
  unfold lookup
  split <;> grind

/-! ## Resolving -/

theorem resolveWithin_of_halt? (h : halt? root schema = some result) (limit hops : Nat) :
    resolveWithin root limit hops schema = result := by
  unfold halt? at h
  cases hops <;> unfold resolveWithin <;> grind

theorem resolveWithin_zero (h : next? root schema = some target) (limit : Nat) :
    resolveWithin root limit 0 schema = .error (.cycle ((reference? target).getD "") limit) := by
  unfold next? at h
  unfold resolveWithin
  grind [Except.toOption]

theorem resolveWithin_succ (h : next? root schema = some target) (limit hops : Nat) :
    resolveWithin root limit (hops + 1) schema = resolveWithin root limit hops target := by
  unfold next? at h
  rw [resolveWithin]
  grind [Except.toOption]

/-- **A chain that ends within the limit** is followed to its end. -/
theorem resolveWithin_of_chain (hchain : chain root schema n = some target)
    (hhalt : halt? root target = some result) (hle : n ≤ hops) :
    resolveWithin root limit hops schema = result := by
  induction n generalizing schema hops with
  | zero => exact resolveWithin_of_halt? (Option.some.inj hchain ▸ hhalt) limit hops
  | succ n ih =>
    obtain ⟨first, hfirst⟩ : ∃ first, next? root schema = some first :=
      Option.isSome_iff_exists.mp (chain_isSome_of_le (Nat.le_add_left 1 n) (by rw [hchain]; rfl))
    obtain ⟨hops, rfl⟩ := Nat.exists_eq_add_of_le' (Nat.le_trans (Nat.le_add_left 1 n) hle)
    rw [resolveWithin_succ hfirst]
    exact ih ((chain_succ_of_next? hfirst n).symm.trans hchain) (Nat.le_of_succ_le_succ hle)

/-- **A chain that goes on beyond the limit** counts as a cycle. -/
theorem resolveWithin_of_long (h : chain root schema (hops + 1) = some target) :
    resolveWithin root limit hops schema = .error (.cycle ((reference? target).getD "") limit) := by
  induction hops generalizing schema with
  | zero => exact resolveWithin_zero h limit
  | succ hops ih =>
    obtain ⟨first, hfirst⟩ : ∃ first, next? root schema = some first :=
      Option.isSome_iff_exists.mp (chain_isSome_of_le (Nat.le_add_left 1 (hops + 1)) (by rw [h]; rfl))
    rw [resolveWithin_succ hfirst]
    exact ih ((chain_succ_of_next? hfirst (hops + 1)).symm.trans h)

/-- A chain goes on, or it ends. -/
theorem chain_cases (root schema : Value) (hops : Nat) :
    (∃ target, chain root schema (hops + 1) = some target) ∨
      ∃ n ≤ hops, ∃ target result, chain root schema n = some target ∧
        halt? root target = some result := by
  induction hops with
  | zero =>
    rcases hhalt : halt? root schema with _ | result
    · exact .inl (halt?_eq_none.mp hhalt)
    · exact .inr ⟨0, Nat.le_refl 0, schema, result, rfl, hhalt⟩
  | succ hops ih =>
    rcases ih with ⟨target, hchain⟩ | ⟨n, hle, hend⟩
    · rcases hhalt : halt? root target with _ | result
      · obtain ⟨further, hfurther⟩ := halt?_eq_none.mp hhalt
        exact .inl ⟨further, by rw [chain, hchain, Option.bind_some, hfurther]⟩
      · exact .inr ⟨hops + 1, Nat.le_refl _, target, result, hchain, hhalt⟩
    · exact .inr ⟨n, Nat.le_succ_of_le hle, hend⟩

/-- **What resolving comes to**: the end of the chain, or a cycle when there is none within the
limit. -/
theorem resolve_eq_iff {maxDepth : Nat} : resolve maxDepth schema root = result ↔
    (∃ n ≤ maxDepth, ∃ target, chain root schema n = some target ∧
        halt? root target = some result) ∨
      ∃ target, chain root schema (maxDepth + 1) = some target ∧
        result = .error (.cycle ((reference? target).getD "") maxDepth) := by
  constructor
  · rintro rfl
    rcases chain_cases root schema maxDepth with ⟨target, hchain⟩ | ⟨n, hle, target, result, hchain, hhalt⟩
    · exact .inr ⟨target, hchain, resolveWithin_of_long hchain⟩
    · refine .inl ⟨n, hle, target, hchain, hhalt.trans (congrArg some ?_)⟩
      exact (resolveWithin_of_chain hchain hhalt hle).symm
  · rintro (⟨n, hle, target, hchain, hhalt⟩ | ⟨target, hchain, rfl⟩)
    · exact resolveWithin_of_chain hchain hhalt hle
    · exact resolveWithin_of_long hchain

/-- The end of a chain within the limit is no cycle. -/
theorem halt?_ne_cycle {reference : String} {maxDepth : Nat} :
    halt? root schema ≠ some (.error (.cycle reference maxDepth)) := by
  intro hhalt
  obtain ⟨_, -, hlookup⟩ := halt?_eq_error.mp hhalt
  exact absurd (lookup_eq_error.mp hlookup).2 nofun

/-- **References are followed along their chain**, at every limit.  What resolving comes to is told by
the first fragment of the chain that does not lead on, if there is one within the limit: the fragment
itself when it is no reference, nothing when its reference leads nowhere, and an error when its
reference is not local.  Otherwise it is a cycle.  So a higher limit only finds more, a chain that
comes back to one of its fragments is a cycle at every limit, and what was found is found again from
where it is, whatever the root. -/
theorem references_are_followed_along_their_chain (maxDepth : Nat) (schema root : Value) :
    (∀ found, resolve maxDepth schema root = .ok (some found) ↔
      ∃ n ≤ maxDepth, chain root schema n = some found ∧ reference? found = none) ∧
    (resolve maxDepth schema root = .ok none ↔
      ∃ n ≤ maxDepth, ∃ last reference, chain root schema n = some last ∧
        reference? last = some reference ∧ lookup reference root = .ok none) ∧
    (∀ reference, resolve maxDepth schema root = .error (.notLocal reference) ↔
      ∃ n ≤ maxDepth, ∃ last, chain root schema n = some last ∧
        reference? last = some reference ∧ reference.toList.head? ≠ some '#') ∧
    (∀ reference limit, resolve maxDepth schema root = .error (.cycle reference limit) ↔
      limit = maxDepth ∧ ∃ beyond, chain root schema (maxDepth + 1) = some beyond ∧
        reference = (reference? beyond).getD "") ∧
    (∀ higher ≥ maxDepth,
      (∀ reference limit, resolve maxDepth schema root ≠ .error (.cycle reference limit)) →
      resolve higher schema root = resolve maxDepth schema root) ∧
    (∀ i j again, i < j → chain root schema i = some again → chain root schema j = some again →
      ∃ reference, resolve maxDepth schema root = .error (.cycle reference maxDepth)) ∧
    ∀ found, resolve maxDepth schema root = .ok (some found) →
      ∀ depth other, resolve depth found other = .ok (some found) := by
  have hfound : ∀ found, resolve maxDepth schema root = .ok (some found) ↔
      ∃ n ≤ maxDepth, chain root schema n = some found ∧ reference? found = none := by
    intro found
    simp only [resolve_eq_iff, halt?_eq_found]
    grind
  refine ⟨hfound, ?_, fun reference => ?_, fun reference limit => ?_, fun higher hle hnot => ?_,
    fun i j again hij hi hj => ?_, fun found h depth other => ?_⟩
  · simp only [resolve_eq_iff, halt?_eq_nowhere]
    grind
  · simp only [resolve_eq_iff, halt?_eq_error, lookup_eq_error]
    grind
  · simp only [resolve_eq_iff, halt?_ne_cycle]
    grind
  · rcases resolve_eq_iff.mp (rfl : resolve maxDepth schema root = _) with
      ⟨n, hn, target, hchain, hhalt⟩ | ⟨target, -, hcycle⟩
    · exact resolve_eq_iff.mpr (.inl ⟨n, Nat.le_trans hn hle, target, hchain, hhalt⟩)
    · exact absurd hcycle (hnot _ _)
  · obtain ⟨beyond, hbeyond⟩ :=
      Option.isSome_iff_exists.mp (chain_isSome_of_returns hij hi hj (maxDepth + 1))
    exact ⟨_, resolve_eq_iff.mpr (.inr ⟨beyond, hbeyond, rfl⟩)⟩
  · obtain ⟨_, _, _, hdirect⟩ := (hfound found).mp h
    exact resolve_eq_iff.mpr (.inl ⟨0, Nat.zero_le _, found, rfl, halt?_eq_found.mpr ⟨hdirect, rfl⟩⟩)

/-- A chain of three hops, which a higher limit does not change and whose end stands for itself in
another root, and a chain that goes round. -/
theorem references_are_followed_along_their_chain_onwards :
    let reference (pointer : String) : Value := .obj [("$ref", .str pointer)]
    let name : Value := .obj [("type", .str "string")]
    let root : Value := .obj [("first", reference "#/second"), ("second", reference "#name"),
      ("name", name), ("left", reference "#/right"), ("right", reference "#/left")]
    resolve 3 (reference "#/first") root = .ok (some name) ∧
      resolve 9 (reference "#/first") root = resolve 3 (reference "#/first") root ∧
      resolve 0 name .null = .ok (some name) ∧
      chain root (reference "#/left") 2 = some (reference "#/left") ∧
      ∃ looping, resolve 3 (reference "#/left") root = .error (.cycle looping 3) := by
  intro reference name root
  have hfound : resolve 3 (reference "#/first") root = .ok (some name) := by rfl
  obtain ⟨-, -, -, -, hhigher, -, hagain⟩ :=
    references_are_followed_along_their_chain 3 (reference "#/first") root
  obtain ⟨-, -, -, -, -, hloop, -⟩ :=
    references_are_followed_along_their_chain 3 (reference "#/left") root
  refine ⟨hfound, hhigher 9 (by decide) (fun _ _ h => ?_), hagain name hfound 0 .null,
    by decide +kernel, hloop 0 2 (reference "#/left") (by decide) rfl (by decide +kernel)⟩
  rw [hfound] at h
  cases h

end SchemaForms.Schema
