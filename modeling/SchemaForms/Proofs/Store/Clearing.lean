import SchemaForms.Proofs.Path.Regions
import SchemaForms.Proofs.Store.Frame

/-!
# Proofs/Store/Clearing — which marks go when a field is cleared

When a field is cleared, what is dirty at or below it is dropped by its written form, read as a path
again; what is touched or to be validated is dropped at the field itself only.  So the marks of the
first kind are forgotten for every path that is told from all others, and those of the other kinds
below the field stay, for whatever is written there later (`clearing_forgets_marks`).
-/

namespace SchemaForms

open SchemaForms.Path (Fitting HidesFirst Unmistakable OpensWithKey unmistakable_iff)

namespace Path

variable {path other : Path}

/-! ## Paths below a path, as they are read -/

theorem opensWithKey_iff_below (hne : path ≠ []) (hle : path <+: other) :
    OpensWithKey path ↔ OpensWithKey other := by
  obtain ⟨segment, rest, rfl⟩ := List.exists_cons_of_ne_nil hne
  obtain ⟨more, rfl⟩ := hle
  cases segment <;> exact Iff.rfl

/-- A step that is not seen is a key, and none follows it. -/
theorem HidesFirst.opens (h : HidesFirst path) : OpensWithKey path ∧ ¬ OpensWithKey path.tail := by
  have hcons := h.eq_cons
  rw [hcons] at h ⊢
  exact ⟨trivial, h.2⟩

/-- **The written form of a path below another reads as a path below it**, unless its first step is
not seen. -/
theorem reads_below_iff (hne : path ≠ []) (hfits : Fitting other)
    (hbelow : path <+: other) : path <+: parse other.key ↔ ¬ HidesFirst other := by
  constructor
  · intro hreads hhides
    rw [parse_key_of_hidesFirst hfits hhides] at hreads
    have hopens := (opensWithKey_iff_below hne hbelow).mpr hhides.opens.1
    exact hhides.opens.2 ((opensWithKey_iff_below hne hreads).mp hopens)
  · intro hseen
    rwa [parse_key_of_not_hidesFirst hfits hseen]

/-- The written form of any other path reads as a path below it only behind a step that is not seen. -/
theorem reads_below_iff_aside (hfits : Fitting other) (haside : ¬ path <+: other) :
    path <+: parse other.key ↔ HidesFirst other ∧ path <+: other.tail := by
  by_cases hhides : HidesFirst other
  · rw [parse_key_of_hidesFirst hfits hhides]
    exact (and_iff_right hhides).symm
  · rw [parse_key_of_not_hidesFirst hfits hhides]
    exact ⟨fun hreads => absurd hreads haside, fun h => absurd h.1 hhides⟩

/-- A path below another that is written like it is the other. -/
theorem eq_of_key_eq_below (hne : path ≠ []) (hbelow : path <+: other)
    (hkey : other.key = path.key) : other = path :=
  Decidable.byContradiction fun hother => hne
    (eq_nil_of_writtenUnder ⟨other, List.prefix_refl other, hkey⟩ hbelow (Ne.symm hother))

theorem key_ne_key_append {below : Path} (hne : path ≠ []) (hbelow : below ≠ []) :
    path.key ≠ Path.key (path ++ below) := by
  intro hkey
  have hsame := eq_of_key_eq_below hne (List.prefix_append path below) hkey.symm
  exact hbelow (List.append_cancel_left (hsame.trans (List.append_nil path).symm))

theorem Fitting.tail (h : Fitting path) : Fitting path.tail :=
  fun segment hsegment => h segment (List.mem_of_mem_tail hsegment)

theorem Fitting.of_key_eq (h : Fitting path) (hkey : other.key = path.key) : Fitting other := by
  rcases key_eq_iff.mp hkey with rfl | ⟨hhides, rfl⟩ | ⟨-, rfl⟩
  · exact h
  · intro segment hsegment
    rw [hhides.eq_cons] at hsegment
    rcases List.mem_cons.mp hsegment with rfl | htail
    · trivial
    · exact h segment htail
  · exact h.tail

end Path

/-! ## What a set of marks forgets -/

/-- No path at or below `path` is marked any more, and all others are marked as before. -/
structure Forgets (before after : Path → Bool) (path : Path) : Prop where
  gone : ∀ other, Fitting other → path <+: other → after other = false
  kept : ∀ other, Fitting other → ¬ path <+: other → after other = before other

variable {before after : Path → Bool} {path : Path}

/-- Marks that are filed by the written forms of paths: paths that are written alike share theirs. -/
def FiledByKey (marked : Path → Bool) : Prop :=
  ∀ path other : Path, path.key = other.key → marked path = marked other

/-- **Marks are forgotten if what is kept of them is what is not below.** -/
theorem forgets_iff (keep : String → Bool)
    (hafter : ∀ other : Path, after other = (before other && keep other.key)) :
    Forgets before after path ↔ ∀ other, Fitting other → before other = true →
      (keep other.key = false ↔ path <+: other) := by
  constructor
  · intro h other hfits hmarked
    by_cases hbelow : path <+: other
    · have hgone := h.gone other hfits hbelow
      rw [hafter, hmarked, Bool.true_and] at hgone
      exact iff_of_true hgone hbelow
    · have hkept := h.kept other hfits hbelow
      rw [hafter, hmarked, Bool.true_and] at hkept
      exact iff_of_false (by simp [hkept]) hbelow
  · intro h
    refine ⟨fun other hfits hbelow => ?_, fun other hfits haside => ?_⟩
    · rw [hafter]
      cases hmarked : before other with
      | false => rfl
      | true => rw [Bool.true_and, (h other hfits hmarked).mpr hbelow]
    · rw [hafter]
      cases hmarked : before other with
      | false => rfl
      | true =>
        have hkept : keep other.key = true := by simpa using mt (h other hfits hmarked).mp haside
        rw [Bool.true_and, hkept]

/-- **Marks that are dropped where they read as at or below a path are forgotten** exactly if each
path there that is marked is told from all others. -/
theorem forgets_below_iff (hne : path ≠ []) (hfiled : FiledByKey before)
    (hafter : ∀ other : Path,
      after other = (before other && !Path.startsWith (Path.parse other.key) path)) :
    Forgets before after path ↔
      ∀ other, Fitting other → path <+: other → before other = true → Unmistakable other := by
  have hreads : Forgets before after path ↔ ∀ other, Fitting other → before other = true →
      (path <+: Path.parse other.key ↔ path <+: other) := by
    rw [forgets_iff (fun key => !Path.startsWith (Path.parse key) path) hafter]
    simp only [Bool.not_eq_false', Path.startsWith_iff]
  rw [hreads]
  constructor
  · intro h other hfits hbelow hmarked
    have hreads := (h other hfits hmarked).mpr hbelow
    refine unmistakable_iff.mpr ⟨Decidable.byContradiction fun hopens => ?_,
      (Path.reads_below_iff hne hfits hbelow).mp hreads⟩
    -- a path that begins with no key is written like the one with an empty key before it, which is
    -- marked as well, but is not below
    have hkey : Path.key (.key "" :: other) = Path.key other :=
      Path.key_eq_iff.mpr (.inr (.inl ⟨⟨rfl, hopens⟩, rfl⟩))
    have halike := (h _ (hfits.of_key_eq hkey) ((hfiled _ _ hkey).trans hmarked)).mp (hkey ▸ hreads)
    exact hopens ((Path.opensWithKey_iff_below hne hbelow).mp
      ((Path.opensWithKey_iff_below hne halike).mpr trivial))
  · intro h other hfits hmarked
    by_cases hbelow : path <+: other
    · have hseen := (unmistakable_iff.mp (h other hfits hbelow hmarked)).2
      exact iff_of_true ((Path.reads_below_iff hne hfits hbelow).mpr hseen) hbelow
    · rw [Path.reads_below_iff_aside hfits hbelow]
      refine iff_of_false (fun ⟨hhides, htail⟩ => ?_) hbelow
      have hkey : Path.key other = Path.key other.tail :=
        Path.key_eq_iff.mpr (.inr (.inl ⟨hhides, rfl⟩))
      have hopens := unmistakable_iff.mp
        (h other.tail hfits.tail htail ((hfiled _ _ hkey).symm.trans hmarked))
      exact hhides.opens.2 hopens.1

/-- **Marks that are dropped at a path alone are forgotten** exactly if no path below it is marked,
and it is itself told from all others, if it is marked. -/
theorem forgets_at_iff (hne : path ≠ []) (hfiled : FiledByKey before)
    (hafter : ∀ other : Path, after other = (before other && decide (other.key ≠ path.key))) :
    Forgets before after path ↔
      ∀ other, Fitting other → path <+: other → before other = true →
        other = path ∧ Unmistakable other := by
  have hreads : Forgets before after path ↔ ∀ other, Fitting other → before other = true →
      (other.key = path.key ↔ path <+: other) := by
    rw [forgets_iff (fun key => decide (key ≠ path.key)) hafter]
    simp only [decide_eq_false_iff_not, Decidable.not_not]
  rw [hreads]
  constructor
  · intro h other hfits hbelow hmarked
    obtain rfl := Path.eq_of_key_eq_below hne hbelow ((h other hfits hmarked).mpr hbelow)
    refine ⟨rfl, fun alike hkey => ?_⟩
    have hmarkedAlike := (hfiled alike other hkey).trans hmarked
    exact Path.eq_of_key_eq_below hne ((h alike (hfits.of_key_eq hkey) hmarkedAlike).mp hkey) hkey
  · intro h other hfits hmarked
    constructor
    · intro hkey
      have hown := h path (hfits.of_key_eq hkey.symm) (List.prefix_refl path)
        ((hfiled _ _ hkey).symm.trans hmarked)
      obtain rfl := hown.2 other hkey
      exact List.prefix_refl other
    · intro hbelow
      rw [(h other hfits hbelow hmarked).1]

namespace Store

variable {store next : Store} {parent other below : Path} {step : Segment}
  {container document : Value} {options : WriteOptions}

/-! ## Clearing a field -/

/-- **A field is cleared in any container of its kind.** -/
theorem isSome_cleared? (hparent : store.get? parent = some container)
    (hstep : step.leadsInto container = true) :
    (store.cleared? (parent ++ [step])).isSome = true := by
  rw [cleared?, Path.splitLast?_eq_some.mpr rfl]
  cases step with
  | key key => cases container with
    | obj members => simp only [hparent, Option.isSome_some]
    | _ => exact absurd hstep nofun
  | index i => cases container with
    | arr items => simp only [hparent, Option.isSome_some]
    | _ => exact absurd hstep nofun

theorem contains_filter (keys : List String) (keep : String → Bool) (key : String) :
    (keys.filter keep).contains key = (keys.contains key && keep key) := by
  rw [Bool.eq_iff_iff]
  simp [List.mem_filter]

theorem isDirty_reset (h : store.cleared? path = some document) (other : Path) :
    (store.reset path).isDirty other
      = (store.isDirty other && !Path.startsWith (Path.parse other.key) path) := by
  simp only [reset, h, isDirty]
  exact contains_filter _ _ _

theorem isTouched_reset (h : store.cleared? path = some document) (other : Path) :
    (store.reset path).isTouched other
      = (store.isTouched other && decide (other.key ≠ path.key)) := by
  simp only [reset, h, isTouched]
  exact contains_filter _ _ _

theorem isRequested_reset (h : store.cleared? path = some document) (other : Path) :
    (store.reset path).isRequested other
      = (store.isRequested other && decide (other.key ≠ path.key)) := by
  simp only [reset, h, isRequested]
  exact contains_filter _ _ _

/-- A write at a path leaves the marks of a path below it as they are. -/
theorem marks_set_below {value : Value} (hne : path ≠ []) (hbelow : below ≠ [])
    (h : store.set path value options = .ok next) :
    next.isDirty (path ++ below) = store.isDirty (path ++ below) ∧
      next.isTouched (path ++ below) = store.isTouched (path ++ below) ∧
      next.isRequested (path ++ below) = store.isRequested (path ++ below) := by
  have hkey := Path.key_ne_key_append hne hbelow
  obtain ⟨-, rfl⟩ := set_eq_ok.mp h
  exact ⟨Flags.contains_mark_of_ne _ _ hkey, Flags.contains_mark_of_ne _ _ hkey,
    Flags.contains_mark_of_ne _ _ hkey⟩

/-- **What is written into a field that was cleared starts out** with none of its parts dirty, and
with the other marks that were there before. -/
theorem marks_set_reset {value : Value} (hne : path ≠ [])
    (hcleared : store.cleared? path = some document) (hbelow : below ≠ [])
    (h : (store.reset path).set path value options = .ok next) :
    (Unmistakable (path ++ below) → Fitting (path ++ below) →
        next.isDirty (path ++ below) = false) ∧
      next.isTouched (path ++ below) = store.isTouched (path ++ below) ∧
      next.isRequested (path ++ below) = store.isRequested (path ++ below) := by
  have hkey := (Path.key_ne_key_append hne hbelow).symm
  obtain ⟨hdirty, htouched, hrequested⟩ := marks_set_below hne hbelow h
  rw [hdirty, htouched, hrequested, isDirty_reset hcleared, isTouched_reset hcleared,
    isRequested_reset hcleared]
  refine ⟨fun hapart hfits => ?_, by simp [hkey], by simp [hkey]⟩
  have hreads := (Path.reads_below_iff hne hfits (List.prefix_append path below)).mpr
    (unmistakable_iff.mp hapart).2
  rw [Path.startsWith_iff.mpr hreads, Bool.not_true, Bool.and_false]

/-- **Which marks a cleared field forgets.**  What is dirty at or below it is forgotten, as far as no
other path is written like one that is dirty there.  What is touched or to be validated is forgotten
exactly if it is the field itself, told from all others; below the field these marks outlive it, and
a value that is written there later starts out with them. -/
theorem clearing_forgets_marks (hparent : store.get? parent = some container)
    (hstep : step.leadsInto container = true) :
    let path := parent ++ [step]
    (Forgets store.isDirty (store.reset path).isDirty path ↔
      ∀ other, Fitting other → path <+: other → store.isDirty other = true →
        Unmistakable other) ∧
    (Forgets store.isTouched (store.reset path).isTouched path ↔
      ∀ other, Fitting other → path <+: other → store.isTouched other = true →
        other = path ∧ Unmistakable other) ∧
    (Forgets store.isRequested (store.reset path).isRequested path ↔
      ∀ other, Fitting other → path <+: other → store.isRequested other = true →
        other = path ∧ Unmistakable other) ∧
    ∀ value options next, (store.reset path).set path value options = .ok next →
      ∀ below, below ≠ [] →
        (Unmistakable (path ++ below) → Fitting (path ++ below) →
          next.isDirty (path ++ below) = false) ∧
        next.isTouched (path ++ below) = store.isTouched (path ++ below) ∧
        next.isRequested (path ++ below) = store.isRequested (path ++ below) := by
  intro path
  have hne : path ≠ [] := by simp [path]
  obtain ⟨document, hcleared⟩ := Option.isSome_iff_exists.mp (isSome_cleared? hparent hstep)
  exact ⟨forgets_below_iff hne (fun _ _ hkey => by simp [isDirty, hkey]) (isDirty_reset hcleared),
    forgets_at_iff hne (fun _ _ hkey => by simp [isTouched, hkey]) (isTouched_reset hcleared),
    forgets_at_iff hne (fun _ _ hkey => by simp [isRequested, hkey]) (isRequested_reset hcleared),
    fun value options next hset below hbelow => marks_set_reset hne hcleared hbelow hset⟩

/-- A field that was touched itself, with a part that is dirty: clearing it forgets all. -/
theorem clearing_forgets_marks_own :
    let trigger := Path.root.child "trigger"
    let expression := trigger.child "expression"
    let store : Store := ⟨.obj [("root", .obj [("trigger", .obj [("expression", .str "x")])])],
      ⟨[expression.key], [trigger.key], [trigger.key]⟩, []⟩
    (store.reset trigger).get? trigger = none ∧
      Forgets store.isDirty (store.reset trigger).isDirty trigger ∧
      Forgets store.isTouched (store.reset trigger).isTouched trigger ∧
      Forgets store.isRequested (store.reset trigger).isRequested trigger := by
  intro trigger expression store
  let container : Value := .obj [("trigger", .obj [("expression", .str "x")])]
  have hparent : store.get? Path.root = some container := rfl
  have hstep : Segment.leadsInto (.key "trigger") container = true := rfl
  have hseen : ∀ other : Path, trigger <+: other → Unmistakable other := by
    rintro _ ⟨rest, rfl⟩
    exact unmistakable_iff.mpr ⟨trivial, fun h => absurd h.1 (by decide)⟩
  have hown : ∀ other : Path, [trigger.key].contains other.key = true → other = trigger := by
    intro other hmarked
    have hkey : other.key = trigger.key := by simpa using hmarked
    exact Path.key_inj_of_root ⟨_, rfl⟩ hkey
  obtain ⟨hdirty, htouched, hrequested, -⟩ := clearing_forgets_marks hparent hstep
  exact ⟨by decide, hdirty.mpr fun other _ hbelow _ => hseen other hbelow,
    htouched.mpr fun other _ hbelow hmarked => ⟨hown other hmarked, hseen other hbelow⟩,
    hrequested.mpr fun other _ hbelow hmarked => ⟨hown other hmarked, hseen other hbelow⟩⟩

/-- **Marks outlive their field**: what was touched below a field that is cleared stays touched, and
so does the same part of what is written there later; and a field that is written like another can
stay dirty itself. -/
theorem marks_outlive_their_field :
    let trigger := Path.root.child "trigger"
    let expression := trigger.child "expression"
    let store := (Store.ofDocument (.obj [("root", .obj [("trigger", .emptyObject)])])).edit
      (.set expression (.str "x") .interactive)
    let later := (store.reset trigger).edit (.set trigger (.obj [("expression", .str "y")]) .silent)
    let unseen := (Store.ofDocument (.obj [("", .null)])).edit (.set [.key ""] .null .interactive)
    ¬ Forgets store.isTouched (store.reset trigger).isTouched trigger ∧
      ¬ Forgets store.isRequested (store.reset trigger).isRequested trigger ∧
      later.get? expression = some (.str "y") ∧ later.isTouched expression = true ∧
      later.isRequested expression = true ∧
      ¬ Forgets unseen.isDirty (unseen.reset [.key ""]).isDirty [.key ""] := by
  intro trigger expression store later unseen
  have hbelow : trigger <+: expression := List.prefix_append _ _
  have hfits : Fitting expression := by decide
  refine ⟨fun h => ?_, fun h => ?_, by decide, by decide, by decide, fun h => ?_⟩
  · exact absurd (h.gone expression hfits hbelow) (by decide)
  · exact absurd (h.gone expression hfits hbelow) (by decide)
  · exact absurd (h.gone [.key ""] (by decide) (List.prefix_refl _)) (by decide)

end Store

end SchemaForms
