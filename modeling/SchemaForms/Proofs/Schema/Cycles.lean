import SchemaForms.Proofs.Schema.Chains

/-!
# Proofs/Schema/Cycles — what the report of a cycle names

A chain that goes on beyond the limit is reported as a cycle, under the reference of the fragment
where it was given up.  That fragment is reached by the hop behind the last allowed one.  As long as
it is a reference, the report names a reference of the chain; every chain that goes round is reported
that way.  A chain that is just one hop too long ends there at a fragment that is none, and the report
names no reference at all (`cycle_reports_name_references`).
-/

namespace SchemaForms.Schema

variable {root schema fragment target beyond : Value} {maxDepth limit hops n : Nat}
  {reference : String}

/-- A chain meets a reference within a number of hops. -/
def Meets (root schema : Value) (hops : Nat) (reference : String) : Prop :=
  ∃ n ≤ hops, (chain root schema n).bind reference? = some reference

instance : Decidable (Meets root schema hops reference) := by
  unfold Meets
  infer_instance

/-- A chain ends after exactly so many hops, at a fragment that is no reference. -/
def EndsAfter (root schema : Value) (hops : Nat) : Prop :=
  ∃ last, chain root schema hops = some last ∧ reference? last = none

/-! ## References that were followed -/

/-- **A reference that leads on is not empty**, since it is local. -/
theorem ne_empty_of_next? (hreference : reference? fragment = some reference)
    (hnext : next? root fragment = some target) : reference ≠ "" := by
  rintro rfl
  rw [next?, hreference, Option.bind_some] at hnext
  exact absurd hnext nofun

/-- No empty reference is met in front of a further hop. -/
theorem not_meets_empty (h : (chain root schema (hops + 1)).isSome) :
    ¬ Meets root schema hops "" := by
  rintro ⟨n, hle, hmeets⟩
  obtain ⟨fragment, hchain, hreference⟩ := Option.bind_eq_some_iff.mp hmeets
  obtain ⟨target, hfurther⟩ :=
    Option.isSome_iff_exists.mp (chain_isSome_of_le (Nat.succ_le_succ hle) h)
  rw [chain, hchain, Option.bind_some] at hfurther
  exact ne_empty_of_next? hreference hfurther rfl

/-! ## Reports -/

/-- **A cycle is reported under the reference of the fragment one hop beyond the limit.** -/
theorem resolve_eq_cycle_iff : resolve maxDepth schema root = .error (.cycle reference limit) ↔
    limit = maxDepth ∧ ∃ beyond, chain root schema (maxDepth + 1) = some beyond ∧
      reference = (reference? beyond).getD "" := by
  simp only [resolve_eq_iff, halt?_ne_cycle]
  grind

/-- What is reported is met where the chain was given up, or it is nothing. -/
theorem meets_reported (hchain : chain root schema (maxDepth + 1) = some beyond)
    (hnone : reference? beyond ≠ none) :
    Meets root schema (maxDepth + 1) ((reference? beyond).getD "") := by
  obtain ⟨reference, hreference⟩ := Option.ne_none_iff_exists'.mp hnone
  refine ⟨maxDepth + 1, Nat.le_refl _, ?_⟩
  rw [hchain, Option.bind_some, hreference, Option.getD_some]

/-- A chain that ends with the hop beyond the limit never met what is reported. -/
theorem not_meets_reported (hchain : chain root schema (maxDepth + 1) = some beyond)
    (hnone : reference? beyond = none) : ¬ Meets root schema (maxDepth + 1) "" := by
  rintro ⟨n, hle, hmeets⟩
  rcases Nat.le_succ_iff.mp hle with hle | rfl
  · exact not_meets_empty (by rw [hchain]; rfl) ⟨n, hle, hmeets⟩
  · rw [hchain, Option.bind_some, hnone] at hmeets
    cases hmeets

/-! ## One hop more -/

/-- **Resolving goes on from where the chain got to.** -/
theorem resolveWithin_of_reached (hchain : chain root schema n = some target) (limit hops : Nat) :
    resolveWithin root limit (n + hops) schema = resolveWithin root limit hops target := by
  induction n generalizing schema with
  | zero => rw [Nat.zero_add, Option.some.inj hchain]
  | succ n ih =>
    obtain ⟨first, hfirst⟩ : ∃ first, next? root schema = some first :=
      Option.isSome_iff_exists.mp (chain_isSome_of_le (Nat.le_add_left 1 n) (by rw [hchain]; rfl))
    rw [Nat.succ_add, resolveWithin_succ hfirst]
    exact ih ((chain_succ_of_next? hfirst n).symm.trans hchain)

/-- With one hop more, resolving comes to where the chain was given up. -/
theorem resolve_succ_of_reached (hchain : chain root schema (maxDepth + 1) = some beyond) :
    resolve (maxDepth + 1) schema root = resolveWithin root (maxDepth + 1) 0 beyond :=
  resolveWithin_of_reached hchain (maxDepth + 1) 0

theorem resolveWithin_zero_eq_found :
    (∃ found, resolveWithin root limit 0 schema = .ok (some found)) ↔ reference? schema = none := by
  unfold resolveWithin
  split
  · rename_i hnone
    simp [hnone]
  · rename_i hsome
    split <;> simp [hsome]

theorem resolveWithin_zero_eq_notLocal :
    resolveWithin root limit 0 schema = .error (.notLocal "") ↔ reference? schema = some "" := by
  unfold resolveWithin
  split
  · rename_i hnone
    simp [hnone]
  · rename_i other hsome
    split
    · rename_i hlookup
      obtain ⟨hlocal, rfl⟩ := lookup_eq_error.mp hlookup
      simp [hsome]
    · rename_i hlookup
      simp only [hsome, reduceCtorEq, false_iff, Option.some.injEq]
      rintro rfl
      cases hlookup
    · rename_i hlookup
      simp only [hsome, Except.error.injEq, reduceCtorEq, false_iff, Option.some.injEq]
      rintro rfl
      cases hlookup

/-- **What a report of a cycle names.**  It is a reference that the chain met on the way, unless the
chain is exactly one hop longer than the limit allows, so that one hop more would have found its end.
Then it is empty, which otherwise it only is if the chain comes to an empty reference there.  A chain
that goes on from where it was given up, as every chain does that goes round, is reported under a
reference that is not empty. -/
theorem cycle_reports_name_references
    (hcycle : resolve maxDepth schema root = .error (.cycle reference limit)) :
    (Meets root schema (maxDepth + 1) reference ↔ ¬ EndsAfter root schema (maxDepth + 1)) ∧
      (EndsAfter root schema (maxDepth + 1) ↔
        ∃ found, resolve (maxDepth + 1) schema root = .ok (some found)) ∧
      (reference = "" ↔ EndsAfter root schema (maxDepth + 1) ∨
        resolve (maxDepth + 1) schema root = .error (.notLocal "")) ∧
      ((chain root schema (maxDepth + 2)).isSome → reference ≠ "") := by
  obtain ⟨-, beyond, hchain, rfl⟩ := resolve_eq_cycle_iff.mp hcycle
  have hends : EndsAfter root schema (maxDepth + 1) ↔ reference? beyond = none := by
    simp [EndsAfter, hchain]
  have hfurther := resolve_succ_of_reached hchain
  refine ⟨?_, ?_, ?_, fun hgoes => ?_⟩
  · rw [hends]
    constructor
    · intro hmeets hnone
      rw [hnone] at hmeets
      exact not_meets_reported hchain hnone hmeets
    · exact meets_reported hchain
  · rw [hends, hfurther, resolveWithin_zero_eq_found]
  · rw [hends, hfurther, resolveWithin_zero_eq_notLocal]
    cases reference? beyond <;> simp
  · obtain ⟨target, htarget⟩ := Option.isSome_iff_exists.mp hgoes
    rw [chain, hchain, Option.bind_some] at htarget
    have hnone : reference? beyond ≠ none := by
      intro hnone
      rw [next?, hnone] at htarget
      cases htarget
    exact fun hempty => not_meets_empty hgoes (hempty ▸ meets_reported hchain hnone)

/-- A chain that goes round is reported under one of its references, and a chain of two hops under
none when one is allowed. -/
theorem cycle_reports_name_references_round :
    let reference (pointer : String) : Value := .obj [("$ref", .str pointer)]
    let root : Value := .obj [("left", reference "#/right"), ("right", reference "#/left"),
      ("first", reference "#/last"), ("last", .obj [("type", .str "string")])]
    resolve 1 (reference "#/left") root = .error (.cycle "#/left" 1) ∧
      Meets root (reference "#/left") 2 "#/left" ∧
      resolve 1 (reference "#/first") root = .error (.cycle "" 1) ∧
      EndsAfter root (reference "#/first") 2 ∧ ¬ Meets root (reference "#/first") 2 "" := by
  intro reference root
  have hround : resolve 1 (reference "#/left") root = .error (.cycle "#/left" 1) := by rfl
  have hlong : resolve 1 (reference "#/first") root = .error (.cycle "" 1) := by rfl
  obtain ⟨hmeets, -, hempty, -⟩ := cycle_reports_name_references hround
  obtain ⟨hnever, hends, -, -⟩ := cycle_reports_name_references hlong
  have hend : EndsAfter root (reference "#/first") 2 := hends.mpr ⟨_, rfl⟩
  exact ⟨hround, hmeets.mpr fun h => absurd (hempty.mpr (.inl h)) (by decide), hlong, hend,
    fun h => hnever.mp h hend⟩

/-- **A chain of two references is reported under neither of them** when one hop is allowed. -/
theorem overlong_chains_are_reported_without_reference :
    let reference (pointer : String) : Value := .obj [("$ref", .str pointer)]
    let root : Value := .obj [("definitions", .obj [("first", reference "#/definitions/second"),
      ("second", .obj [("type", .str "string")])])]
    let schema := reference "#/definitions/first"
    resolve 1 schema root = .error (.cycle "" 1) ∧
      (RefError.cycle "" 1).message
        = "Schema reference '' exceeded the maximum resolution depth of 1" ∧
      Meets root schema 2 "#/definitions/first" ∧ Meets root schema 2 "#/definitions/second" ∧
      ¬ Meets root schema 2 "" ∧ chain root schema 3 = none :=
  ⟨rfl, by decide +kernel, by decide +kernel, by decide +kernel, by decide +kernel, rfl⟩

end SchemaForms.Schema
