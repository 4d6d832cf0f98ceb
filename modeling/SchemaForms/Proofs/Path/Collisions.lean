import SchemaForms.Proofs.Path.RoundTrip
import SchemaForms.Session.Registry
import SchemaForms.Store.Basic

/-!
# Proofs/Path/Collisions — paths that are written alike

The first key of a path is written without a separator.  So a path that begins with an empty key is
written like the path without it, unless another key follows, whose separator shows the first one.
No other two paths are written alike (`key_eq_iff`), and whatever is filed by path is kept apart for
all others (`written_forms_tell_paths_apart`).
-/

namespace SchemaForms

namespace Path

/-- Whether the first step of a path is a key. -/
def OpensWithKey : Path → Prop
  | .key _ :: _ => True
  | _ => False

instance : DecidablePred OpensWithKey := by
  intro path
  unfold OpensWithKey
  split <;> infer_instance

/-- Whether the first step of a path is not seen in its written form: an empty key that no other key
follows. -/
def HidesFirst : Path → Prop
  | .key text :: rest => text = "" ∧ ¬ OpensWithKey rest
  | _ => False

instance : DecidablePred HidesFirst := by
  intro path
  unfold HidesFirst
  split <;> infer_instance

/-- Whether `path` is `other` behind a step that is not seen. -/
def Doubles (path other : Path) : Prop := HidesFirst path ∧ path.tail = other

instance (path other : Path) : Decidable (Doubles path other) := by
  unfold Doubles
  infer_instance

theorem HidesFirst.eq_cons {path : Path} (h : HidesFirst path) : path = .key "" :: path.tail := by
  rcases path with _ | ⟨text | i, rest⟩
  · exact h.elim
  · rw [h.1, List.tail_cons]
  · exact h.elim

/-! ## Which paths are written alike -/

/-- The key in front of the first separator, which is empty if there is none, and the steps behind. -/
def opening : Path → String × Path
  | .key text :: rest => (text, rest)
  | path => ("", path)

theorem keyChars_eq_opening (path : Path) :
    path.keyChars = escape (opening path).1.toList ++ (opening path).2.flatMap segmentText := by
  rcases path with _ | ⟨text | i, rest⟩ <;> rfl

/-- **The written form tells what is in front of the first separator and what is behind.** -/
theorem key_eq_iff_opening {path other : Path} :
    path.key = other.key ↔ opening path = opening other := by
  constructor
  · intro hkey
    have hchars : path.keyChars = other.keyChars := String.ofList_injective hkey
    rw [keyChars_eq_opening, keyChars_eq_opening] at hchars
    obtain ⟨hfront, hback⟩ :=
      escape_append_inj (opensStep_flatMap _) (opensStep_flatMap _) hchars
    exact Prod.ext (String.toList_injective hfront) (flatMap_segmentText_inj hback)
  · intro hopening
    rw [key, key, keyChars_eq_opening, keyChars_eq_opening, hopening]

/-- **Two paths are written alike only if they differ by a step that is not seen.** -/
theorem key_eq_iff {path other : Path} :
    path.key = other.key ↔ path = other ∨ Doubles path other ∨ Doubles other path := by
  rw [key_eq_iff_opening]
  rcases path with _ | ⟨text | i, rest⟩ <;> rcases other with _ | ⟨text' | j, rest'⟩ <;>
    grind [opening, Doubles, HidesFirst, OpensWithKey]

/-- No other path is written like this one. -/
def Unmistakable (path : Path) : Prop := ∀ other : Path, other.key = path.key → other = path

/-- **A path is told from all others** if it begins with a key that is seen. -/
theorem unmistakable_iff {path : Path} :
    Unmistakable path ↔ OpensWithKey path ∧ ¬ HidesFirst path := by
  constructor
  · intro h
    refine ⟨Decidable.byContradiction fun hopens => ?_, fun hhides => ?_⟩
    · have hlonger := h (.key "" :: path) (key_eq_iff.mpr (.inr (.inl ⟨⟨rfl, hopens⟩, rfl⟩)))
      exact absurd hlonger (List.cons_ne_self _ _)
    · have hshorter := h path.tail (key_eq_iff.mpr (.inr (.inr ⟨hhides, rfl⟩)))
      exact absurd (hhides.eq_cons.trans (congrArg _ hshorter)).symm (List.cons_ne_self _ _)
  · rintro ⟨hopens, hseen⟩ other hkey
    rcases key_eq_iff.mp hkey with rfl | ⟨hhides, rfl⟩ | ⟨hhides, -⟩
    · rfl
    · rw [hhides.eq_cons] at hhides
      exact absurd hopens hhides.2
    · exact absurd hhides hseen

instance : DecidablePred Unmistakable := fun _ => decidable_of_iff _ unmistakable_iff.symm

/-! ## Which paths read back -/

/-- A path whose first step is seen reads back. -/
theorem parse_key_of_not_hidesFirst {path : Path} (hfits : ∀ segment ∈ path, Fits segment)
    (hseen : ¬ HidesFirst path) : parse path.key = path := by
  obtain hback | ⟨rest, rfl, -, hnokey⟩ := parse_key_or hfits
  · exact hback
  · refine absurd ⟨rfl, ?_⟩ hseen
    rcases rest with _ | ⟨text | i, tail⟩
    · exact id
    · exact absurd rfl (hnokey text tail)
    · exact id

/-- A step that is not seen is lost. -/
theorem parse_key_of_hidesFirst {path : Path} (hfits : ∀ segment ∈ path, Fits segment)
    (hhides : HidesFirst path) : parse path.key = path.tail := by
  have htail : ¬ HidesFirst path.tail := by
    rcases path with _ | ⟨text | i, _ | ⟨text' | j, rest⟩⟩
    all_goals simp_all [HidesFirst, OpensWithKey]
  have hkey : path.key = Path.key path.tail := key_eq_iff.mpr (.inr (.inl ⟨hhides, rfl⟩))
  rw [hkey, parse_key_of_not_hidesFirst (fun s hs => hfits s (List.mem_of_mem_tail hs)) htail]

theorem parse_key_eq_self_iff {path : Path} (hfits : ∀ segment ∈ path, Fits segment) :
    parse path.key = path ↔ ¬ HidesFirst path := by
  refine ⟨fun hback hhides => ?_, parse_key_of_not_hidesFirst hfits⟩
  have hlost : path.tail = path := (parse_key_of_hidesFirst hfits hhides).symm.trans hback
  have hlength := congrArg List.length (hhides.eq_cons.trans (congrArg _ hlost))
  simp at hlength

end Path

/-! ## What is filed by path -/

/-- A mark on one field is none on another. -/
theorem Flags.contains_mark_of_ne (wanted : Bool) (keys : List String) {key other : String}
    (h : key ≠ other) : (mark wanted key keys).contains other = keys.contains other := by
  unfold mark
  split <;> simp [Ne.symm h]

/-- Nothing that is filed for `path` is found for `other`. -/
structure FiledApart (path other : Path) : Prop where
  schema : ∀ (cache : Cache) (schema : Value),
    (cache.set path schema).peek? other = cache.peek? other
  load : ∀ cache : Cache, (cache.launch path.key).isLoading other = cache.isLoading other
  editor : ∀ (registry : Registry) (state : EditorState),
    (registry.setEditor path state).editor? other = registry.editor? other
  dirty : ∀ (store : Store) (document : Value) (options : WriteOptions),
    (store.commit document path options).isDirty other = store.isDirty other
  touched : ∀ (store : Store) (document : Value) (options : WriteOptions),
    (store.commit document path options).isTouched other = store.isTouched other
  requested : ∀ (store : Store) (document : Value) (options : WriteOptions),
    (store.commit document path options).isRequested other = store.isRequested other

/-- **Things are filed apart exactly for paths that are not written alike.** -/
theorem filedApart_iff {path other : Path} : FiledApart path other ↔ path.key ≠ other.key := by
  constructor
  · intro h hkey
    have hfound := h.schema (.empty .reuse) .null
    simp [Cache.peek?, Cache.set, hkey, Table.get?_insert] at hfound
    simp [Cache.empty, Table.get?] at hfound
  · intro hne
    refine ⟨fun cache schema => ?_, fun cache => ?_, fun registry state => ?_, ?_, ?_, ?_⟩
    · simp [Cache.peek?, Cache.set, Table.get?_insert, hne]
    · simp [Cache.isLoading, Cache.launch, Table.contains, Table.get?_insert, hne]
    · rw [Registry.editor?_setEditor, if_neg hne]
    all_goals exact fun store document options => Flags.contains_mark_of_ne _ _ hne

namespace Path

/-- **The written form of a path tells it from all others**, and reads back, unless it begins with a
step that is not seen; and then it is confused with the path behind that step and with no other. -/
theorem written_forms_tell_paths_apart (path other : Path) :
    ((∀ segment ∈ path, Fits segment) → (parse path.key = path ↔ ¬ HidesFirst path)) ∧
      (path.key = other.key ↔ path = other ∨ Doubles path other ∨ Doubles other path) ∧
      (FiledApart path other ↔ path ≠ other ∧ ¬ Doubles path other ∧ ¬ Doubles other path) := by
  refine ⟨parse_key_eq_self_iff, key_eq_iff, ?_⟩
  rw [filedApart_iff, Ne, key_eq_iff, not_or, not_or]

/-- Empty keys that are seen, keys made of structural characters, and a key next to an index. -/
theorem written_forms_tell_paths_apart_escaped :
    let path : Path := [.key "", .key "[0].", .index 0, .key ""]
    let other : Path := [.key "", .key "[0]", .key "", .index 0]
    parse path.key = path ∧ path.key ≠ other.key ∧ FiledApart path other := by
  intro path other
  obtain ⟨hback, hkey, hfiled⟩ := written_forms_tell_paths_apart path other
  exact ⟨(hback (by decide)).mpr (by decide), fun h => absurd (hkey.mp h) (by decide),
    hfiled.mpr (by decide)⟩

/-- **Empty keys in front collide**: one on its own is read as no step, and one in front of an index
is written like the index, so that the two share what is filed. -/
theorem empty_keys_in_front_collide :
    parse (key [.key ""]) ≠ [.key ""] ∧
      parse (key [.key "", .index 0]) ≠ [.key "", .index 0] ∧
      key [.key "", .index 0] = key [.index 0] ∧
      ¬ FiledApart [.key "", .index 0] [.index 0] := by
  have hkey : key [.key "", .index 0] = key [.index 0] := rfl
  exact ⟨by decide +kernel, by decide +kernel, hkey, fun h => filedApart_iff.mp h hkey⟩

end Path

end SchemaForms
