import SchemaForms.Proofs.Decimal.Notation
import SchemaForms.Proofs.Path.Regions
import SchemaForms.Schema.Reference
import SchemaForms.Store.Document

/-!
# Proofs/Schema/Pointers — references reach every part of a root

`referenceTo` writes the place of a part as a reference: its steps between slashes, with the two
characters that mean something in a pointer escaped.  A reader splits the text before it takes the
escapes back, so no slash of a key may be left (`slash_not_mem_writtenStep`), and it takes them back
in two rounds, so the first must not make an escape for the second (`unescape_escapeKey`).  Hence
every part is found by its reference (`references_reach_every_part`), but for the member of the root
with an empty key: its pointer is empty, too, and the empty pointer is the root.
-/

namespace SchemaForms.Schema

/-! ## Pointers in writing -/

/-- A character of a key as a pointer writes it. -/
def escapeChar (c : Char) : List Char :=
  if c = '~' then ['~', '0'] else if c = '/' then ['~', '1'] else [c]

/-- A key as a pointer writes it: `~0` is a tilde, `~1` a slash. -/
def escapeKey (key : List Char) : List Char := key.flatMap escapeChar

/-- A step as a pointer writes it. -/
def writtenStep : Segment → List Char
  | .key key => escapeKey key.toList
  | .index i => Decimal.natText i

/-- The pointer to the value at a path. -/
def pointerTo (path : Path) : List Char := ['/'].intercalate (path.map writtenStep)

/-- The reference to the value at a path. -/
def referenceTo (path : Path) : String := String.ofList ('#' :: '/' :: pointerTo path)

/-! ## Escapes are taken back -/

/-- A text without a tilde has no escapes. -/
theorem replaceEscape_of_not_mem {digit c : Char} {text : List Char} (h : '~' ∉ text) :
    replaceEscape digit c text = text := by
  induction text with
  | nil => rfl
  | cons d rest ih =>
    obtain ⟨hd, hrest⟩ := not_or.mp (mt List.mem_cons.mpr h)
    rw [replaceEscape, ih hrest]
    rintro _ _ rfl
    exact absurd rfl hd

/-- The first round takes the slashes back and leaves the tildes escaped. -/
theorem replaceEscape_slash (key : List Char) : replaceEscape '1' '/' (escapeKey key)
    = key.flatMap fun c => if c = '~' then ['~', '0'] else [c] := by
  induction key with
  | nil => rfl
  | cons c rest ih =>
    rw [escapeKey] at ih ⊢
    rw [List.flatMap_cons, List.flatMap_cons, escapeChar]
    by_cases htilde : c = '~'
    · simp [htilde, replaceEscape, ih]
    · by_cases hslash : c = '/'
      · simp [hslash, replaceEscape, ih]
      · simp [htilde, hslash, replaceEscape, ih]

/-- The second round takes the tildes back. -/
theorem replaceEscape_tilde (key : List Char) : replaceEscape '0' '~'
    (key.flatMap fun c => if c = '~' then ['~', '0'] else [c]) = key := by
  induction key with
  | nil => rfl
  | cons c rest ih =>
    rw [List.flatMap_cons]
    by_cases htilde : c = '~'
    · simp [htilde, replaceEscape, ih]
    · simp [htilde, replaceEscape, ih]

/-- **An escaped key is taken back**, whatever it is made of. -/
theorem unescape_escapeKey (key : List Char) : unescape (escapeKey key) = key := by
  rw [unescape, replaceEscape_slash, replaceEscape_tilde]

theorem unescape_natText (i : Nat) : unescape (Decimal.natText i) = Decimal.natText i := by
  have htilde : '~' ∉ Decimal.natText i := Decimal.not_mem_natText (by decide) i
  rw [unescape, replaceEscape_of_not_mem htilde, replaceEscape_of_not_mem htilde]

/-! ## Steps are told apart -/

/-- **No slash is left in a step.** -/
theorem slash_not_mem_writtenStep (step : Segment) : '/' ∉ writtenStep step := by
  cases step with
  | index i => exact Decimal.not_mem_natText (by decide) i
  | key key =>
    intro hslash
    obtain ⟨c, -, hc⟩ := List.mem_flatMap.mp hslash
    unfold escapeChar at hc
    split at hc
    · simp at hc
    · split at hc
      · simp at hc
      · rename_i hne
        exact hne (List.mem_singleton.mp hc).symm

/-- **The steps of a pointer are told apart** by the slashes between them. -/
theorem splitOn_pointerTo {path : Path} (hne : path ≠ []) :
    (pointerTo path).splitOn '/' = path.map writtenStep := by
  refine List.splitOn_intercalate '/' (fun part hpart => ?_) (by simpa using hne)
  obtain ⟨step, -, rfl⟩ := List.mem_map.mp hpart
  exact slash_not_mem_writtenStep step

theorem writtenStep_eq_nil {step : Segment} : writtenStep step = [] ↔ step = .key "" := by
  cases step with
  | index i => simp [writtenStep, Decimal.natText_ne_nil]
  | key key =>
    rw [writtenStep, escapeKey, List.flatMap_eq_nil_iff, Segment.key.injEq,
      ← String.toList_eq_nil_iff, List.eq_nil_iff_forall_not_mem]
    refine forall_congr' fun c => imp_congr_right fun _ => iff_false_intro ?_
    unfold escapeChar
    split
    · exact List.cons_ne_nil _ _
    · split <;> exact List.cons_ne_nil _ _

/-- **Only the member of the root with an empty key has an empty pointer.** -/
theorem pointerTo_ne_nil {path : Path} (hne : path ≠ []) (hkey : path ≠ [.key ""]) :
    pointerTo path ≠ [] := by
  intro hnil
  have hsplit : [[]] = path.map writtenStep := by
    rw [← splitOn_pointerTo hne, hnil, List.splitOn_nil]
  obtain ⟨step, rfl, hstep⟩ := List.map_eq_singleton_iff.mp hsplit.symm
  exact hkey (congrArg (fun step => [step]) (writtenStep_eq_nil.mp hstep))

/-! ## Parts are found -/

theorem pointer?_referenceTo (path : Path) :
    pointer? (referenceTo path) = some (pointerTo path) := by
  rw [referenceTo, pointer?, String.toList_ofList]
  rfl

/-- **A reference is looked up part by part**, unless its pointer is empty. -/
theorem lookup_of_pointer? {reference : String} {pointer : List Char}
    (h : pointer? reference = some pointer) (hne : pointer ≠ []) (root : Value) :
    lookup reference root = .ok (follow root ((pointer.splitOn '/').map unescape)) := by
  rw [lookup, h]
  cases pointer with
  | nil => exact absurd rfl hne
  | cons c rest => rfl

theorem lookup_referenceTo {root : Value} {path : Path} (hne : path ≠ [])
    (hkey : path ≠ [.key ""]) : lookup (referenceTo path) root
      = .ok (follow root (path.map fun step => unescape (writtenStep step))) := by
  rw [lookup_of_pointer? (pointer?_referenceTo path) (pointerTo_ne_nil hne hkey),
    splitOn_pointerTo hne, List.map_map]
  rfl

/-- A written step leads where the step leads. -/
theorem step?_writtenStep {node child : Value} {step : Segment} (hfits : Path.Fits step)
    (hchild : Document.read? node [step] = some child) :
    step? node (unescape (writtenStep step)) = some child := by
  cases step with
  | key key =>
    cases node with
    | obj members =>
      rw [writtenStep, unescape_escapeKey, step?, String.ofList_toList]
      simpa [Document.read?, Value.member?] using hchild
    | _ => exact absurd hchild nofun
  | index i =>
    cases node with
    | arr items =>
      rw [writtenStep, unescape_natText, step?, Numeral.index?_natText hfits, Option.bind_some]
      simpa [Document.read?, Value.item?] using hchild
    | _ => exact absurd hchild nofun

/-- **What a path leads to is found along its written steps.** -/
theorem follow_writtenSteps {root found : Value} {path : Path} (hfits : path.Fitting)
    (hfound : Document.read? root path = some found) :
    follow root (path.map fun step => unescape (writtenStep step)) = some found := by
  induction path generalizing root with
  | nil => exact hfound
  | cons step rest ih =>
    obtain ⟨hstep, hrest⟩ := List.forall_mem_cons.mp hfits
    obtain ⟨child, hchild, hbelow⟩ : ∃ child, Document.read? root [step] = some child ∧
        Document.read? child rest = some found := by
      cases step <;> simpa [Document.read?, Option.bind_eq_some_iff] using hfound
    rw [List.map_cons, follow, List.foldlM_cons, step?_writtenStep hstep hchild]
    exact ih hrest hbelow

/-- **References reach every part of a root.**  The steps that lead to a part, written one after the
other with their keys escaped and their indices in digits, make up a reference that leads to it; only
the member of the root with an empty key is out of reach, as its reference is one to the root.  Every
key is what is read of the key as it was escaped. -/
theorem references_reach_every_part (root : Value) :
    (∀ (path : Path) (found : Value), path.Fitting → path ≠ [] → path ≠ [.key ""] →
      Document.read? root path = some found → lookup (referenceTo path) root = .ok (some found)) ∧
    lookup (referenceTo [.key ""]) root = .ok (some root) ∧
    ∀ key : List Char, unescape (escapeKey key) = key := by
  refine ⟨fun path found hfits hne hkey hfound => ?_, rfl, unescape_escapeKey⟩
  rw [lookup_referenceTo hne hkey, follow_writtenSteps hfits hfound]

/-- Keys that hold slashes, tildes, written escapes and nothing at all, around an index. -/
theorem references_reach_every_part_escaped :
    let path : Path := [.key "", .key "a/b", .index 1, .key "~1~01/", .key ""]
    let root := Value.obj [("", .obj [("a/b", .arr [.null,
      .obj [("/1", .bool false), ("~1~01/", .obj [("", .bool true)])]])])]
    referenceTo path = "#//a~1b/1/~01~001~1/" ∧
      lookup (referenceTo path) root = .ok (some (.bool true)) := by
  intro path root
  obtain ⟨hreach, -, -⟩ := references_reach_every_part root
  exact ⟨by decide +kernel, hreach path (.bool true) (by decide) (by decide) (by decide) rfl⟩

end SchemaForms.Schema
