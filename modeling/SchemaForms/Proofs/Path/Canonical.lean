import SchemaForms.Proofs.Path.Regions

/-!
# Proofs/Path/Canonical — the normal form of a text that denotes a path

Every text denotes a path, however malformed it is, and many texts denote the same one: a bracket may
be left open, a backslash may stand before a character that needs none, an index may have a sign or
zeros in front.  Writing the denoted path down brings a text to its normal form, because the reader
makes no step that does not fit a word (`fitting_parse`), and writing and reading only ever lose an
empty key in front (`written_forms_are_normal`).
-/

namespace SchemaForms

/-- An index that is read fits a word. -/
theorem Numeral.lt_of_index? {digits : List Char} {n : Nat} (h : index? digits = some n) :
    n < unsignedBound := by
  unfold index? at h
  split at h <;> exact decide_eq_true_iff.mp (Option.filter_eq_some_iff.mp h).2

namespace Path

variable {path : Path} {text : String}

/-! ## What is read fits -/

theorem Fitting.append {other : Path} (h : Fitting path) (hother : Fitting other) :
    Fitting (path ++ other) := fun segment hsegment =>
  (List.mem_append.mp hsegment).elim (h segment) (hother segment)

theorem fitting_key (key : String) : Fitting [.key key] :=
  List.forall_mem_singleton.mpr trivial

/-- What stands in brackets is an index that fits, or a key. -/
theorem fitting_bracketSegment (digits : List Char) : Fitting [bracketSegment digits] := by
  unfold bracketSegment
  split
  · rename_i hindex
    exact List.forall_mem_singleton.mpr (Numeral.lt_of_index? hindex)
  · exact fitting_key _

theorem fitting_readText {done : Path} (h : Fitting done) (current : List Char) (started : Bool)
    (c : Char) : Fitting (readText done current started c).1 := by
  unfold readText
  split
  · exact h
  · split
    · exact h.append (fitting_key _)
    · split
      · split
        · exact h.append (fitting_key _)
        · exact h
      · exact h

/-- **One character more**: the steps that are read still fit. -/
theorem fitting_readChar {state : Path × Reading} (h : Fitting state.1) (c : Char) :
    Fitting (readChar state c).1 := by
  obtain ⟨done, reading⟩ := state
  cases reading with
  | text current started => exact fitting_readText h current started c
  | escaped current => exact h
  | bracket digits =>
    rw [readChar]
    split
    · exact h.append (fitting_bracketSegment digits)
    · exact h
  | afterBracket =>
    rw [readChar]
    split
    · exact h
    · exact fitting_readText h [] false c

theorem fitting_readChars {state : Path × Reading} (h : Fitting state.1) (text : List Char) :
    Fitting (readChars state text).1 := by
  induction text generalizing state with
  | nil => exact h
  | cons c text ih => exact ih (fitting_readChar h c)

/-- What is closed at the end fits, too. -/
theorem fitting_finish {state : Path × Reading} (h : Fitting state.1) : Fitting (finish state) := by
  obtain ⟨done, reading⟩ := state
  cases reading with
  | text current started =>
    rw [finish]
    split
    · exact h.append (fitting_key _)
    · exact h
  | escaped current => exact h.append (fitting_key _)
  | bracket digits => exact h.append (fitting_bracketSegment digits)
  | afterBracket => exact h

/-- **Every text denotes a path whose indices are words.** -/
theorem fitting_parse (text : String) : Fitting (parse text) := by
  have hnothing : Fitting [] := List.forall_mem_nil _
  exact fitting_finish (fitting_readChars hnothing text.toList)

/-! ## Normal forms -/

/-- A text that is written as what it denotes. -/
def IsNormal (text : String) : Prop := (parse text).key = text

theorem isNormal_key (h : Fitting path) : IsNormal path.key := (parse_key_spec h).1

/-- **The texts in normal form are the written forms of paths.** -/
theorem isNormal_iff : IsNormal text ↔ ∃ path, Fitting path ∧ path.key = text := by
  constructor
  · exact fun h => ⟨parse text, fitting_parse text, h⟩
  · rintro ⟨path, hfits, rfl⟩
    exact isNormal_key hfits

theorem not_opensWithKey_iff :
    ¬ OpensWithKey path ↔ path = [] ∨ ∃ i rest, path = .index i :: rest := by
  rcases path with _ | ⟨text | i, rest⟩ <;> simp [OpensWithKey]

/-- A first step is not seen if it is an empty key and the last step, or an index comes behind it. -/
theorem hidesFirst_iff :
    HidesFirst path ↔ path = [.key ""] ∨ ∃ i rest, path = .key "" :: .index i :: rest := by
  constructor
  · intro h
    have hcons := h.eq_cons
    rw [hcons] at h
    obtain htail | ⟨i, rest, htail⟩ := not_opensWithKey_iff.mp h.2
    · exact .inl (htail ▸ hcons)
    · exact .inr ⟨i, rest, htail ▸ hcons⟩
  · rintro (rfl | ⟨i, rest, rfl⟩) <;> exact ⟨rfl, id⟩

/-- **A path is not read back** exactly if its first step is not seen. -/
theorem parse_key_ne_self_iff (h : Fitting path) : parse path.key ≠ path ↔ HidesFirst path := by
  rw [Ne, parse_key_eq_self_iff h, Decidable.not_not]

/-- **Written forms are normal.**  What is read from the written form of a path is written alike.  It
is the path itself, except for a path that begins with an empty key which is its last step or has an
index behind it; that one is read without its first step.  So whatever a text is, the path that it
denotes is written in normal form, and the texts in normal form are just the written forms of paths. -/
theorem written_forms_are_normal :
    (∀ path : Path, Fitting path →
      (parse path.key).key = path.key ∧
      (parse path.key ≠ path ↔
        path = [.key ""] ∨ ∃ i rest, path = .key "" :: .index i :: rest) ∧
      (parse path.key ≠ path → path = .key "" :: parse path.key)) ∧
    (∀ text, (parse (parse text).key).key = (parse text).key) ∧
    ∀ text, (parse text).key = text ↔ ∃ path, Fitting path ∧ path.key = text := by
  refine ⟨fun path hfits => ⟨isNormal_key hfits, ?_, fun hdiffers => ?_⟩,
    fun text => isNormal_key (fitting_parse text), fun text => isNormal_iff⟩
  · rw [parse_key_ne_self_iff hfits, hidesFirst_iff]
  · have hhides := (parse_key_ne_self_iff hfits).mp hdiffers
    rw [parse_key_of_hidesFirst hfits hhides]
    exact hhides.eq_cons

/-- An empty key in front of an index is lost, and one in front of a key is not; a text with a stray
escape, a signed index and an open bracket comes to its normal form. -/
theorem written_forms_are_normal_malformed :
    let lost : Path := [.key "", .index 7, .key "a.b"]
    let kept : Path := [.key "", .key "", .index 7]
    let text := "\\a..[+007]x[1"
    (parse lost.key).key = lost.key ∧ lost = .key "" :: parse lost.key ∧ parse kept.key = kept ∧
      (parse text).key = "a..[7].x[1]" ∧ IsNormal "a..[7].x[1]" ∧ ¬ IsNormal text := by
  intro lost kept text
  obtain ⟨hpaths, htexts, -⟩ := written_forms_are_normal
  obtain ⟨hlost, hdiffers, hfirst⟩ := hpaths lost (by decide)
  obtain ⟨-, hsame, -⟩ := hpaths kept (by decide)
  have htext : (parse text).key = "a..[7].x[1]" := by decide +kernel
  refine ⟨hlost, hfirst (hdiffers.mpr (.inr ⟨7, _, rfl⟩)), ?_, htext, htext ▸ htexts text, ?_⟩
  · refine Decidable.byContradiction fun hne => ?_
    obtain hsingle | ⟨i, rest, hindex⟩ := hsame.mp hne
    · exact absurd hsingle (by decide)
    · exact absurd (List.cons.inj (List.cons.inj hindex).2).1 nofun
  · rw [IsNormal, htext]
    decide

end Path

end SchemaForms
