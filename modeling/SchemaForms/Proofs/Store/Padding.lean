import SchemaForms.Proofs.Store.Frame
import SchemaForms.Proofs.Store.Refusals

/-!
# Proofs/Store/Padding — the check before a write foresees the walk

The check reads the old document, while the walk to the slot changes it as it goes.  Wherever the
walk has come, it stands at what the old document holds there, or at null (`along_eq`); so it meets
the sequences that the check sees, and empty ones behind the first thing that is missing or of
another kind (`items_along`).

The main statement `check_foresees_the_walk` says that the check fails exactly for the first step
that would put too many nulls before its slot, and how little a walk adds that the check lets pass.
-/

namespace SchemaForms

open Document (itemsAt tooFar? TooFar maxPadding)

variable {document node value : Value} {above rest path : Path} {step : Segment} {i : Nat}
  {far : TooFar}

/-! ## The walk -/

namespace Walk

/-- What the walk makes of a value for a step is what a write of the child that is there makes. -/
theorem opened_eq_write (node : Value) (step : Segment) :
    opened node step
      = Document.write node [step] ((Document.read? node [step]).getD .null) := by
  cases step with
  | key key =>
    have hread : Document.read? node [.key key] = Table.get? (node.asMembers?.getD []) key := by
      simp [Document.member?_eq_get?]
    rw [Document.write_key, Document.write_nil, hread, opened]
    cases hfound : Table.get? (node.asMembers?.getD []) key with
    | none => simp [Table.contains, hfound]
    | some member => simp [Table.contains, hfound, Table.insert_of_get? hfound]
  | index i =>
    have hslot : (Document.padTo (node.asItems?.getD []) i)[i]?
        = some ((Document.read? node [.index i]).getD .null) := by
      simp [Document.getElem?_padTo, Document.item?_eq_getElem?]
    obtain ⟨hlt, hslot⟩ := List.getElem?_eq_some_iff.mp hslot
    rw [Document.write_index, Document.write_nil, opened, ← hslot, List.set_getElem_self]

/-- One step of the walk is the walk in one piece done one step further. -/
theorem next_reach (document : Value) (above : Path) (step : Segment) :
    next ⟨Document.reach document above, above⟩ step
      = ⟨Document.reach document (above ++ [step]), above ++ [step]⟩ := by
  have hhere : here ⟨Document.reach document above, above⟩
      = (Document.read? document above).getD .null := by
    rw [here, Document.read?_reach, Option.getD_some]
  rw [next, hhere, opened_eq_write, Document.write_reach,
    Document.reach_eq_write document (above ++ [step]), Document.write_append,
    Document.getD_read?_getD, Document.read?_append]

/-- **The walk comes to its slot**, and makes of the document on the way what a walk in one piece
makes of it. -/
theorem along_eq (document : Value) (path : Path) :
    along document path = ⟨Document.reach document path, path⟩ := by
  have hfrom : ∀ above : Path, path.foldl next ⟨Document.reach document above, above⟩
      = ⟨Document.reach document (above ++ path), above ++ path⟩ := by
    induction path with
    | nil => simp
    | cons step path ih => intro above; rw [List.foldl_cons, next_reach, ih]; simp
  exact hfrom []

theorem place_along (document : Value) (path : Path) : (along document path).place = path := by
  rw [along_eq]

theorem here_along (document : Value) (path : Path) :
    (along document path).here = (Document.read? document path).getD .null := by
  rw [here, along_eq, Document.read?_reach, Option.getD_some]

theorem items_eq_here (walk : Walk) : walk.items = walk.here.asItems?.getD [] := by
  rw [items, itemsAt, here]
  cases Document.read? walk.document walk.place <;> rfl

/-- **The walk meets the sequences of the old document**, and empty ones where there is none. -/
theorem items_along (document : Value) (path : Path) :
    (along document path).items = itemsAt document path := by
  rw [items_eq_here, here_along, itemsAt]
  cases Document.read? document path <;> rfl

/-- When the walk is over, the sequence in its slot is the old one. -/
theorem itemsAt_along (document : Value) (path : Path) :
    itemsAt (along document path).document path = itemsAt document path := by
  have hitems := items_along document path
  rwa [items, place_along] at hitems

end Walk

/-! ## The check -/

namespace Document

/-- The check of a path is that of its first step, and then that of the rest below it. -/
theorem tooFar?_cons (node : Value) (step : Segment) (rest : Path) :
    tooFar? (some node) (step :: rest)
      = (tooFar? (some node) [step]).or (tooFar? (some (childAt node step)) rest) := by
  -- below a child that is missing the check sees what it sees below null
  have hchild : ∀ found : Option Value,
      tooFar? found rest = tooFar? (some (found.getD .null)) rest := by
    intro found
    cases found with
    | some child => rfl
    | none => rcases rest with _ | ⟨key | i, rest⟩ <;> rfl
  cases step with
  | key key => simp [tooFar?, hchild (node.member? key), childAt]
  | index i =>
    simp only [tooFar?, childAt]
    split <;> simp [hchild (node.item? i)]

/-- **The check of a path goes down in two parts.** -/
theorem tooFar?_append (node : Value) (above rest : Path) :
    tooFar? (some node) (above ++ rest) = (tooFar? (some node) above).or
      (tooFar? (some ((read? node above).getD .null)) rest) := by
  induction above generalizing node with
  | nil => simp [tooFar?]
  | cons step above ih =>
    rw [List.cons_append, tooFar?_cons, ih, tooFar?_cons node step above, Option.or_assoc, childAt,
      getD_read?_getD, ← read?_append, List.singleton_append]

/-- A key below a path is never too far. -/
theorem tooFar?_child (node : Value) (path : Path) (key : String) :
    tooFar? (some node) (path.child key) = tooFar? (some node) path := by
  rw [Path.child, tooFar?_append]
  exact Option.or_none

/-- **A path that leads to a value is not too far.** -/
theorem tooFar?_of_read? (h : read? node path = some value) : tooFar? (some node) path = none := by
  induction path generalizing node with
  | nil => rfl
  | cons step path ih =>
    cases step with
    | key key =>
      obtain ⟨child, hchild, hrest⟩ := Option.bind_eq_some_iff.mp h
      rw [tooFar?, Option.bind_some, hchild]
      exact ih hrest
    | index i =>
      obtain ⟨child, hchild, hrest⟩ := Option.bind_eq_some_iff.mp h
      have hlength : i - ((node.asItems?).map List.length).getD 0 = 0 := by
        cases node with
        | arr items =>
          obtain ⟨hlt, -⟩ := List.getElem?_eq_some_iff.mp hchild
          exact Nat.sub_eq_zero_of_le (Nat.le_of_lt hlt)
        | _ => cases hchild
      rw [tooFar?, Option.bind_some, Option.bind_some, hlength, hchild]
      exact ih hrest

/-- **What the check finds is the first step that it finds on its own.** -/
theorem tooFar?_eq_some_iff : tooFar? (some node) path = some far ↔
    ∃ above step rest, path = above ++ step :: rest ∧ tooFar? (some node) above = none ∧
      tooFar? (some ((read? node above).getD .null)) [step] = some far := by
  constructor
  · intro h
    induction path generalizing node with
    | nil => exact absurd h nofun
    | cons step path ih =>
      rw [tooFar?_cons] at h
      cases hfirst : tooFar? (some node) [step] with
      | some found =>
        rw [hfirst, Option.some_or] at h
        exact ⟨[], step, path, rfl, rfl, by simpa [hfirst] using h⟩
      | none =>
        rw [hfirst, Option.none_or] at h
        obtain ⟨above, turn, rest, rfl, hnone, hsome⟩ := ih h
        refine ⟨step :: above, turn, rest, rfl, ?_, ?_⟩
        · rw [tooFar?_cons, hfirst, Option.none_or, hnone]
        · rwa [childAt, getD_read?_getD, ← read?_append] at hsome
  · rintro ⟨above, step, rest, rfl, hnone, hsome⟩
    rw [tooFar?_append, hnone, Option.none_or, tooFar?_cons, hsome, Option.some_or]

end Document

namespace Walk

/-- On its own a step is found if the walk that stands before it would put too many nulls. -/
theorem tooFar?_here_eq_some (walk : Walk) : tooFar? (some walk.here) [step] = some far ↔
    maxPadding < walk.gap step ∧ ∃ i, step = .index i ∧ far = ⟨i, walk.items.length⟩ := by
  cases step with
  | key key => simp [tooFar?, gap]
  | index i =>
    have hlength : ((walk.here.asItems?).map List.length).getD 0 = walk.items.length := by
      rw [items_eq_here]
      cases walk.here.asItems? <;> rfl
    simp [tooFar?, gap, hlength, eq_comm]

theorem tooFar?_here_eq_none (walk : Walk) :
    tooFar? (some walk.here) [step] = none ↔ walk.gap step ≤ maxPadding := by
  rw [← Nat.not_lt, Option.eq_none_iff_forall_ne_some]
  constructor
  · intro hnone hlt
    cases step with
    | key key => exact absurd hlt (Nat.not_lt_zero _)
    | index i => exact hnone _ ((tooFar?_here_eq_some walk).mpr ⟨hlt, i, rfl, rfl⟩)
  · intro hnear far hsome
    exact hnear ((tooFar?_here_eq_some walk).mp hsome).1

/-- **The check passes if the walk is near its slot at every step.** -/
theorem tooFar?_eq_none_iff : tooFar? (some document) path = none ↔
    ∀ above step rest, path = above ++ step :: rest →
      (along document above).gap step ≤ maxPadding := by
  constructor
  · rintro hnone above step rest rfl
    rw [Document.tooFar?_append, ← here_along, Document.tooFar?_cons, Option.or_eq_none_iff,
      Option.or_eq_none_iff] at hnone
    exact (tooFar?_here_eq_none _).mp hnone.2.1
  · intro hnear
    rw [Option.eq_none_iff_forall_ne_some]
    intro far hsome
    obtain ⟨above, step, rest, hpath, -, hstep⟩ := Document.tooFar?_eq_some_iff.mp hsome
    rw [← here_along] at hstep
    exact absurd (hnear above step rest hpath)
      (Nat.not_le.mpr ((tooFar?_here_eq_some _).mp hstep).1)

/-- **A path all of whose elements are there is not too far**, whatever keys are missing on it. -/
theorem tooFar?_of_elements
    (h : ∀ (above : Path) i, above.item i <+: path →
      (Document.read? document (above.item i)).isSome) :
    tooFar? (some document) path = none := by
  refine tooFar?_eq_none_iff.mpr ?_
  rintro above (key | i) rest rfl
  · exact Nat.zero_le _
  · obtain ⟨element, helement⟩ := Option.isSome_iff_exists.mp (h above i ⟨rest, by simp [Path.item]⟩)
    -- the path that leads to the element ends with this step, and passes the check as a whole
    exact tooFar?_eq_none_iff.mp (Document.tooFar?_of_read? helement) above (.index i) [] rfl

/-- **The check names the first step at which the walk is too far from its slot.** -/
theorem tooFar?_eq_some_iff : tooFar? (some document) path = some far ↔
    ∃ above i rest, path = above ++ .index i :: rest ∧
      maxPadding < (along document above).gap (.index i) ∧
      (∀ nearer step beyond, above = nearer ++ step :: beyond →
        (along document nearer).gap step ≤ maxPadding) ∧
      far = ⟨i, (along document above).items.length⟩ := by
  rw [Document.tooFar?_eq_some_iff]
  constructor
  · rintro ⟨above, step, rest, hpath, hnear, hstep⟩
    rw [← here_along] at hstep
    obtain ⟨hlt, i, rfl, rfl⟩ := (tooFar?_here_eq_some _).mp hstep
    exact ⟨above, i, rest, hpath, hlt, tooFar?_eq_none_iff.mp hnear, rfl⟩
  · rintro ⟨above, i, rest, hpath, hlt, hnear, rfl⟩
    have hstep := (tooFar?_here_eq_some _).mpr ⟨hlt, i, rfl, rfl⟩
    rw [here_along] at hstep
    exact ⟨above, .index i, rest, hpath, tooFar?_eq_none_iff.mpr hnear, hstep⟩

/-! ## What the walk adds -/

/-- A sequence that ends before the slot gets the nulls in between, and one for the slot. -/
theorem padTo_of_le {items : List Value} (h : items.length ≤ i) : Document.padTo items i
    = items ++ (List.replicate (i - items.length) .null ++ [.null]) := by
  rw [Document.padTo, ← List.replicate_succ', Nat.succ_sub h]

/-- **A step that leads behind the end of a sequence puts its nulls there**, and one for the slot. -/
theorem itemsAt_next {walk : Walk} (h : walk.items.length ≤ i) :
    itemsAt (walk.next (.index i)).document walk.place
      = walk.items ++ (List.replicate (walk.gap (.index i)) .null ++ [.null]) := by
  rw [next, itemsAt, Document.read?_write_self, opened, ← items_eq_here]
  exact padTo_of_le h

/-- A step makes a sequence longer by its nulls and the slot, or leaves it as long as it is. -/
theorem length_padTo_le (walk : Walk) (i : Nat) :
    (Document.padTo walk.items i).length ≤ walk.items.length + (walk.gap (.index i) + 1) := by
  by_cases hle : walk.items.length ≤ i
  · rw [padTo_of_le hle]
    simp [gap]
  · rw [Document.padTo_of_lt (Nat.lt_of_not_le hle)]
    exact Nat.le_add_right _ _

/-- What stands above the end of a walk when it is over: the container that its step there needs, in
which only the slot of the step was entered. -/
theorem length_itemsAt_along (document : Value) (above : Path) (step : Segment) (rest : Path) :
    (itemsAt (along document (above ++ step :: rest)).document above).length
      ≤ (itemsAt document above).length + ((along document above).gap step + 1) := by
  rw [along_eq, Document.reach_eq_write, itemsAt, Document.read?_write_above, Option.bind_some,
    ← here_along, ← items_along]
  cases step with
  | key key => exact Nat.zero_le _
  | index i =>
    rw [Document.write_index, ← items_eq_here]
    change ((Document.padTo _ i).set i _).length ≤ _
    rw [List.length_set]
    exact length_padTo_le _ i

/-- **A walk that the check lets pass adds little to each sequence on its path.** -/
theorem length_itemsAt_along_le (hpasses : tooFar? (some document) path = none)
    (hleads : above <+: path) : (itemsAt (along document path).document above).length
      ≤ (itemsAt document above).length + (maxPadding + 1) := by
  obtain ⟨rest, rfl⟩ := hleads
  cases rest with
  | nil =>
    rw [List.append_nil, itemsAt_along]
    exact Nat.le_add_right _ _
  | cons step rest =>
    have hnear := tooFar?_eq_none_iff.mp hpasses above step rest rfl
    have hgrown := length_itemsAt_along document above step rest
    omega

/-- The index behind a slot that is near is a word, as the length of a sequence in memory is below
`signedBound`. -/
theorem lt_unsignedBound_of_gap_le {walk : Walk} (hnear : walk.gap (.index i) ≤ maxPadding)
    (hlength : walk.items.length < Numeral.signedBound) : i + 1 < Numeral.unsignedBound := by
  have hslot : i - walk.items.length ≤ maxPadding := hnear
  have hbound : Numeral.signedBound + maxPadding < Numeral.unsignedBound := by decide
  omega

end Walk

namespace Store

open Walk (along)

theorem checkPadding_eq_error {store : Store} {refusal : StoreError} :
    store.checkPadding path = .error refusal ↔
      ∃ far, tooFar? (some store.document) path = some far ∧
        refusal = .tooFar path far.index far.length := by
  unfold checkPadding
  cases tooFar? (some store.document) path <;> simp [eq_comm]

/-- A value is refused only where the check fails. -/
theorem set_eq_error {store : Store} {options : WriteOptions} {refusal : StoreError} :
    store.set path value options = .error refusal ↔
      ∃ far, tooFar? (some store.document) path = some far ∧
        refusal = .tooFar path far.index far.length := by
  rw [← checkPadding_eq_error]
  unfold Store.set
  cases store.checkPadding path <;> simp [bind, Except.bind]

/-- **The check before a write foresees the walk to its slot.**  It fails exactly if somewhere on the
walk a step would put more than `maxPadding` nulls between the end of the sequence that the walk
meets there and the slot of the step, and names the first such step and the length of that sequence.
If it passes, no sequence on the path grows by more than these nulls and the slot; and as a sequence
in memory has fewer than `signedBound` elements, the index behind each slot is still a word. -/
theorem check_foresees_the_walk (store : Store) (path : Path) :
    ((InPlace.reach path).run store
      = .ok () { store with document := (along store.document path).document }) ∧
    (∀ above i rest, path = above ++ .index i :: rest →
      (along store.document above).items.length ≤ i →
      itemsAt ((along store.document above).next (.index i)).document above
        = (along store.document above).items
          ++ (List.replicate ((along store.document above).gap (.index i)) .null ++ [.null])) ∧
    (store.checkPadding path = .ok () ↔ ∀ above step rest, path = above ++ step :: rest →
      (along store.document above).gap step ≤ maxPadding) ∧
    (∀ refusal, store.checkPadding path = .error refusal ↔
      ∃ above i rest, path = above ++ .index i :: rest ∧
        maxPadding < (along store.document above).gap (.index i) ∧
        (∀ nearer step beyond, above = nearer ++ step :: beyond →
          (along store.document nearer).gap step ≤ maxPadding) ∧
        refusal = .tooFar path i (along store.document above).items.length) ∧
    (store.checkPadding path = .ok () →
      (∀ above, above <+: path → (itemsAt (along store.document path).document above).length
        ≤ (itemsAt store.document above).length + (maxPadding + 1)) ∧
      ∀ above i rest, path = above ++ .index i :: rest →
        (along store.document above).items.length < Numeral.signedBound →
          i + 1 < Numeral.unsignedBound) := by
  simp only [checkPadding_eq_ok, checkPadding_eq_error]
  refine ⟨?_, fun above i rest _ hend => ?_, Walk.tooFar?_eq_none_iff, fun refusal => ?_,
    fun hpasses => ⟨fun above => Walk.length_itemsAt_along_le hpasses, ?_⟩⟩
  · rw [InPlace.run_reach, Walk.along_eq]
  · rw [← Walk.itemsAt_next hend, Walk.place_along]
  · constructor
    · rintro ⟨far, hfar, rfl⟩
      obtain ⟨above, i, rest, hpath, hlt, hnear, rfl⟩ := Walk.tooFar?_eq_some_iff.mp hfar
      exact ⟨above, i, rest, hpath, hlt, hnear, rfl⟩
    · rintro ⟨above, i, rest, hpath, hlt, hnear, rfl⟩
      exact ⟨_, Walk.tooFar?_eq_some_iff.mpr ⟨above, i, rest, hpath, hlt, hnear, rfl⟩, rfl⟩
  · intro above i rest hpath
    exact Walk.lt_unsignedBound_of_gap_le
      (Walk.tooFar?_eq_none_iff.mp hpasses above (.index i) rest hpath)

/-- A path that just reaches its first slot, and from there goes too far into a sequence that the
walk made itself; without its last step it passes. -/
theorem check_foresees_the_walk_made :
    let list := Path.root.child "list"
    let made := (list.item 1025).child "a"
    let store := Store.ofDocument (.obj [("root", .obj [("list", .arr [.null])])])
    (∃ above i rest, made.item 2000 = above ++ .index i :: rest ∧
      maxPadding < (along store.document above).gap (.index i) ∧
      StoreError.tooFar (made.item 2000) 2000 0
        = .tooFar (made.item 2000) i (along store.document above).items.length) ∧
      (itemsAt (along store.document made).document list).length ≤ 1026 := by
  intro list made store
  have hrefused : store.checkPadding (made.item 2000) = .error (.tooFar _ 2000 0) := rfl
  have hpasses : store.checkPadding made = .ok () := rfl
  obtain ⟨-, -, -, hrefusals, -⟩ := check_foresees_the_walk store (made.item 2000)
  obtain ⟨-, -, -, -, hgrown⟩ := check_foresees_the_walk store made
  obtain ⟨above, i, rest, hpath, hfar, -, hrefusal⟩ := (hrefusals _).mp hrefused
  exact ⟨⟨above, i, rest, hpath, hfar, hrefusal⟩, (hgrown hpasses).1 list ⟨_, rfl⟩⟩

end Store

end SchemaForms
