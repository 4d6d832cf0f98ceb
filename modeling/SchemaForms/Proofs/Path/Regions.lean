import SchemaForms.Proofs.Path.Collisions

/-!
# Proofs/Path/Regions — what is written like a path or one below it

What belongs to the paths at and below a path is filed under their written forms, and so it is found
by all paths that are written alike.  The regions of two keys of an object, or of two elements of a
sequence, stay apart all the same (`key_eq_of_writtenUnder`, `index_eq_of_writtenUnder`), and a path
is not in the region of one below it, unless it is empty (`eq_nil_of_writtenUnder`).
-/

namespace SchemaForms.Path

variable {path other base below : Path}

/-- All indices of a path are words. -/
def Fitting (path : Path) : Prop := ∀ segment ∈ path, Fits segment

instance (path : Path) : Decidable (Fitting path) :=
  inferInstanceAs (Decidable (∀ segment ∈ path, Fits segment))

theorem Fitting.child (h : Fitting path) (key : String) : Fitting (path.child key) := by
  intro segment hsegment
  rcases List.mem_append.mp hsegment with hpath | hkey
  · exact h segment hpath
  · obtain rfl := List.mem_singleton.mp hkey
    trivial

theorem Fitting.item (h : Fitting path) {i : Nat} (hi : i < Numeral.unsignedBound) :
    Fitting (path.item i) := by
  intro segment hsegment
  rcases List.mem_append.mp hsegment with hpath | hindex
  · exact h segment hpath
  · obtain rfl := List.mem_singleton.mp hindex
    exact hi

/-! ## What a written form reads as -/

/-- **The written form of a path is read as a path that is written alike**, and no longer. -/
theorem parse_key_spec (h : Fitting path) :
    key (parse path.key) = path.key ∧ (parse path.key).length ≤ path.length := by
  by_cases hhides : HidesFirst path
  · rw [parse_key_of_hidesFirst h hhides]
    refine ⟨(key_eq_iff.mpr (.inr (.inl ⟨hhides, rfl⟩))).symm, ?_⟩
    rw [List.length_tail]
    exact Nat.sub_le _ _
  · rw [parse_key_of_not_hidesFirst h hhides]
    exact ⟨rfl, Nat.le_refl _⟩

theorem HidesFirst.extended (h : HidesFirst base) (hlong : base.tail ≠ []) (hle : base <+: below) :
    HidesFirst below := by
  obtain ⟨rest, rfl⟩ := hle
  rcases base with _ | ⟨segment, _ | ⟨text | i, tail⟩⟩
  · exact h.elim
  · exact absurd rfl hlong
  · rw [h.eq_cons] at h
    exact absurd trivial h.2
  · rw [h.eq_cons]
    exact ⟨rfl, id⟩

/-- No written form is read as a path with a first step that is not seen. -/
theorem HidesFirst.not_prefix_parse_key (h : HidesFirst base) (hlong : base.tail ≠ [])
    (hpath : Fitting path) : ¬ base <+: parse path.key := by
  intro hle
  by_cases hhides : HidesFirst path
  · rw [parse_key_of_hidesFirst hpath hhides, h.eq_cons] at hle
    obtain ⟨rest, hrest⟩ := hle
    rw [hhides.eq_cons, ← hrest] at hhides
    exact hhides.2 trivial
  · rw [parse_key_of_not_hidesFirst hpath hhides] at hle
    exact hhides (h.extended hlong hle)

/-! ## Regions -/

/-- Whether a path is written like `base` or a path below it. -/
def WrittenUnder (base path : Path) : Prop := ∃ other : Path, base <+: other ∧ other.key = path.key

theorem writtenUnder_self (path : Path) : WrittenUnder path path :=
  ⟨path, List.prefix_refl path, rfl⟩

theorem WrittenUnder.widen (h : WrittenUnder below path) (hle : base <+: below) :
    WrittenUnder base path :=
  have ⟨other, hother, hkey⟩ := h
  ⟨other, hle.trans hother, hkey⟩

theorem writtenUnder_of_parse (hpath : Fitting path) (h : base <+: parse path.key) :
    WrittenUnder base path := ⟨parse path.key, h, (parse_key_spec hpath).1⟩

/-- **A path is not in the region of one below it**, unless it is empty. -/
theorem eq_nil_of_writtenUnder (h : WrittenUnder below base) (hle : base <+: below)
    (hne : base ≠ below) : base = [] := by
  obtain ⟨other, hother, hkey⟩ := h
  have hlength : base.length < below.length :=
    Nat.lt_of_le_of_ne hle.length_le fun heq => hne (hle.eq_of_length heq)
  have hlonger := hother.length_le
  rcases key_eq_iff.mp hkey with rfl | ⟨hhides, htail⟩ | ⟨hhides, htail⟩
  · omega
  · -- The other path is this one behind a step that is not seen, so this one would begin with it.
    have hcons := hhides.eq_cons
    rw [htail] at hcons
    rw [hcons] at hhides
    rcases base with _ | ⟨segment, rest⟩
    · rfl
    · obtain ⟨more, hmore⟩ := hle.trans hother
      rw [hcons] at hmore
      obtain rfl := (List.cons.inj hmore).1
      exact absurd trivial hhides.2
  · rw [← htail, List.length_tail] at hlonger
    omega

/-- **Steps of one kind from a path lead to regions apart.** -/
theorem segment_eq_of_writtenUnder {s t : Segment} (hs : WrittenUnder (base ++ [s]) path)
    (ht : WrittenUnder (base ++ [t]) path) (hkind : OpensWithKey [s] ↔ OpensWithKey [t]) :
    s = t := by
  -- The two paths begin alike, so neither can have a step in front that is not seen.
  have hnone : ∀ {s t : Segment} {front back : Path}, base ++ [s] <+: front → base ++ [t] <+: back →
      (OpensWithKey [s] ↔ OpensWithKey [t]) → ¬ Doubles front back := by
    rintro s t _ _ ⟨x, rfl⟩ ⟨y, rfl⟩ hkind ⟨hhides, htail⟩
    have hcons := hhides.eq_cons
    rw [hcons, htail] at hhides
    rcases base with _ | ⟨segment, rest⟩
    · obtain rfl := (List.cons.inj hcons).1
      exact hhides.2 (by cases t <;> simp_all [OpensWithKey])
    · obtain rfl := (List.cons.inj hcons).1
      exact hhides.2 trivial
  obtain ⟨front, hfront, hkeyFront⟩ := hs
  obtain ⟨back, hback, hkeyBack⟩ := ht
  rcases key_eq_iff.mp (hkeyFront.trans hkeyBack.symm) with rfl | hdoubles | hdoubles
  · have hsame := (List.prefix_of_prefix_length_le hfront hback (by simp)).eq_of_length (by simp)
    exact (List.cons.inj (List.append_cancel_left hsame)).1
  · exact absurd hdoubles (hnone hfront hback hkind)
  · exact absurd hdoubles (hnone hback hfront hkind.symm)

theorem key_eq_of_writtenUnder {a b : String} (ha : WrittenUnder (base.child a) path)
    (hb : WrittenUnder (base.child b) path) : a = b :=
  Segment.key.inj (segment_eq_of_writtenUnder ha hb Iff.rfl)

theorem index_eq_of_writtenUnder {i j : Nat} (hi : WrittenUnder (base.item i) path)
    (hj : WrittenUnder (base.item j) path) : i = j :=
  Segment.index.inj (segment_eq_of_writtenUnder hi hj Iff.rfl)

/-! ## Legible paths -/

/-- A path that is told from all others by its written form, and read back from it. -/
structure Legible (path : Path) : Prop where
  fitting : Fitting path
  unmistakable : Unmistakable path

instance (path : Path) : Decidable (Legible path) :=
  decidable_of_iff (Fitting path ∧ Unmistakable path) ⟨fun h => ⟨h.1, h.2⟩, fun h => ⟨h.1, h.2⟩⟩

theorem Legible.parse_key (h : Legible path) : parse path.key = path :=
  parse_key_of_not_hidesFirst h.fitting (unmistakable_iff.mp h.unmistakable).2

/-- **A path with a first key that is not empty is legible**, whatever comes behind it. -/
theorem legible_of_first_key {text : String} {rest : Path} (htext : text ≠ "")
    (hfits : Fitting (.key text :: rest)) : Legible (.key text :: rest) :=
  ⟨hfits, unmistakable_iff.mpr ⟨trivial, fun hhides => htext hhides.1⟩⟩

theorem Rooted.legible (h : Rooted path) : Legible path := by
  obtain ⟨rest, rfl⟩ := h.exists_eq
  exact legible_of_first_key (by decide) h.fits

end SchemaForms.Path
