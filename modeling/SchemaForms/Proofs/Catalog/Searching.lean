import SchemaForms.Catalog.Picker
import SchemaForms.Proofs.Text.Sigmas

/-!
# Proofs/Catalog/Searching — what a picker finds

A picker looks for the lower case of its query in the lower case of what an entry says, and shows the
entries where it is found, in their order (`mem_visible_iff`).  A part of a text that is typed as it
stands is found at its place exactly if its capital sigmas have the same form there as in the query
(`literal_parts_are_found`); all other characters do.
-/

namespace SchemaForms.Catalog

/-- What an entry says: its label, its name and its description, if it has one. -/
def Definition.texts (definition : Definition) : List String :=
  definition.displayLabel :: definition.name :: definition.description.toList

namespace Picker

open Text (KeepsForms lowercase lowerPart meetsCased)

variable {picker : Picker} {entry : Definition} {part : List Char}

/-- What is looked for: the query without the blanks around it. -/
def sought (picker : Picker) : List Char := Text.trim picker.query.toList

/-! ## What is shown -/

/-- **A needle occurs where the text has it as a part.** -/
theorem occurs_iff {text : List Char} : occurs part text = true ↔ part <:+: text := by
  induction text with
  | nil => rw [occurs, List.isEmpty_iff, List.infix_nil]
  | cons c rest ih =>
    rw [occurs, Bool.or_eq_true, ih, List.isPrefixOf_iff_prefix, List.infix_cons_iff]

theorem shows_iff : shows part entry = true ↔
    ∃ text ∈ entry.texts, part <:+: lowercase text.toList := by
  unfold shows mentions Definition.texts
  cases entry.description <;> simp [occurs_iff, or_assoc]

/-- **The entries that a picker shows** are those that say what is sought, if case is left aside. -/
theorem mem_visible_iff : entry ∈ picker.visible ↔ entry ∈ picker.entries ∧
    ∃ text ∈ entry.texts, lowercase picker.sought <:+: lowercase text.toList := by
  unfold visible
  dsimp only
  split
  · rename_i hempty
    have hnil : lowercase picker.sought = [] := List.isEmpty_iff.mp hempty
    refine (and_iff_left ?_).symm
    exact ⟨_, List.mem_cons_self, hnil ▸ List.nil_infix⟩
  · rw [List.mem_filter, shows_iff]
    rfl

theorem visible_sublist (picker : Picker) : picker.visible.Sublist picker.entries := by
  unfold visible
  dsimp only
  split
  · exact List.Sublist.refl _
  · exact List.filter_sublist

theorem visible_of_sought_nil (h : picker.sought = []) : picker.visible = picker.entries := by
  have hneedle : needle picker.query = [] := Text.lowercase_eq_nil.mpr h
  rw [visible, hneedle]
  rfl

/-- **A part of what an entry says is found** if its sigmas keep their forms. -/
theorem mem_visible_of_keepsForms (hentry : entry ∈ picker.entries) {text : String}
    (htext : text ∈ entry.texts) {before after : List Char}
    (hpart : text.toList = before ++ picker.sought ++ after)
    (hkeeps : KeepsForms before.reverse after picker.sought) : entry ∈ picker.visible := by
  refine mem_visible_iff.mpr ⟨hentry, text, htext, ?_⟩
  rw [hpart, Text.lowercase_append, Text.lowerPart_eq_iff.mpr hkeeps]
  exact List.infix_append _ _ _

/-- **Parts of what an entry says are found.**  A picker shows some of its entries in their order,
and all of them if nothing is sought.  It shows an entry exactly if the lower case of what is sought is
a part of the lower case of one of its texts.  What is sought as it stands in a text is such a part at
its place exactly if each capital sigma has the form there that it has in what is sought.  So the
entry is shown, if there is no capital sigma in it, and if no cased character comes right before or
behind its place. -/
theorem literal_parts_are_found (picker : Picker) :
    picker.visible.Sublist picker.entries ∧
    (picker.sought = [] → picker.visible = picker.entries) ∧
    (∀ entry, entry ∈ picker.visible ↔ entry ∈ picker.entries ∧
      ∃ text ∈ entry.texts, lowercase picker.sought <:+: lowercase text.toList) ∧
    ∀ entry ∈ picker.entries, ∀ text ∈ entry.texts, ∀ before after : List Char,
      text.toList = before ++ picker.sought ++ after →
      (lowerPart before.reverse after picker.sought = lowercase picker.sought ↔
        KeepsForms before.reverse after picker.sought) ∧
      (KeepsForms before.reverse after picker.sought → entry ∈ picker.visible) ∧
      ('Σ' ∉ picker.sought → entry ∈ picker.visible) ∧
      (meetsCased before.reverse = false → meetsCased after = false → entry ∈ picker.visible) := by
  refine ⟨picker.visible_sublist, visible_of_sought_nil, fun entry => mem_visible_iff, ?_⟩
  intro entry hentry text htext before after hpart
  have hfound : KeepsForms before.reverse after picker.sought → entry ∈ picker.visible :=
    mem_visible_of_keepsForms hentry htext hpart
  exact ⟨Text.lowerPart_eq_iff, hfound, fun hnone => hfound (Text.keepsForms_of_not_mem hnone),
    fun hbefore hafter => hfound (Text.keepsForms_of_apart hbefore hafter)⟩

/-- A whole word that ends with a sigma is found, also with blanks around it, and so is a part with a
letter whose lower case is two characters. -/
theorem literal_parts_are_found_between_words :
    let entry := { Definition.named "roadAction" with
      label := some "Η ΟΔΟΣ", description := some "ΟΔΟΣ in İstanbul" }
    let picker (query : String) : Picker := ⟨.action, [.named "otherAction", entry], query, none⟩
    (picker " ").visible = (picker " ").entries ∧ entry ∈ (picker " ΟΔΟΣ ").visible ∧
      entry ∈ (picker "İst").visible := by
  intro entry picker
  obtain ⟨-, hall, -⟩ := literal_parts_are_found (picker " ")
  obtain ⟨-, -, -, hword⟩ := literal_parts_are_found (picker " ΟΔΟΣ ")
  obtain ⟨-, -, -, hletter⟩ := literal_parts_are_found (picker "İst")
  obtain ⟨-, -, -, hapart⟩ :=
    hword entry (by decide) "Η ΟΔΟΣ" (by decide) "Η ".toList [] (by decide)
  obtain ⟨-, -, hplain, -⟩ :=
    hletter entry (by decide) "ΟΔΟΣ in İstanbul" (by decide) "ΟΔΟΣ in ".toList "anbul".toList
      (by decide)
  exact ⟨hall (by decide), hapart (by decide) (by decide), hplain (by decide)⟩

/-- **A sigma inside a word is not found at the end of a query**: the entry is shown for its label up to
the sigma and for its whole label, but not for the part in between, which ends with the sigma. -/
theorem parts_that_end_with_a_sigma_are_missed :
    let entry := { Definition.named "roadAction" with label := some "ΟΔΟΣΑ" }
    let picker (query : String) : Picker := ⟨.action, [entry], query, none⟩
    (picker "ΟΔΟΣ").sought <:+: entry.displayLabel.toList ∧
      (picker "ΟΔΟ").visible = [entry] ∧ (picker "ΟΔΟΣ").visible = [] ∧
      (picker "ΟΔΟΣΑ").visible = [entry] := by
  decide +kernel

end Picker

end SchemaForms.Catalog
