import SchemaForms.Proofs.Yaml.Scalars
import SchemaForms.Value.Integral

/-!
# Proofs/Yaml/Characters — written texts hold allowed characters only

A reader refuses a text with a character that YAML does not allow, wherever it stands.  The writer
escapes every such character: what it writes as itself is printable (`isAllowed_of_isPrintable`), and
the rest of its text is visible ASCII.
-/

namespace SchemaForms.Yaml

/-- A text with allowed characters only. -/
def Clean (text : List Char) : Prop := text.all isAllowed = true

instance (text : List Char) : Decidable (Clean text) := inferInstanceAs (Decidable (_ = true))

theorem clean_iff {text : List Char} : Clean text ↔ ∀ c ∈ text, isAllowed c = true :=
  List.all_eq_true

@[simp] theorem clean_nil : Clean [] := rfl

@[simp] theorem clean_cons {c : Char} {text : List Char} :
    Clean (c :: text) ↔ isAllowed c = true ∧ Clean text := by
  simp [clean_iff]

@[simp] theorem clean_append {front back : List Char} :
    Clean (front ++ back) ↔ Clean front ∧ Clean back := by
  simp [clean_iff, or_imp, forall_and]

@[simp] theorem clean_pad (n : Nat) : Clean (pad n) :=
  clean_iff.mpr fun _ hc => List.eq_of_mem_replicate hc ▸ rfl

theorem isAllowed_of_isPrintable {c : Char} (h : Style.isPrintable c = true) : isAllowed c = true := by
  have hvalid : c.toNat < 0xD800 ∨ 0xDFFF < c.toNat ∧ c.toNat < 0x110000 := c.valid
  simp only [Style.isPrintable, isAllowed, Bool.or_eq_true, Bool.and_eq_true, beq_iff_eq,
    decide_eq_true_eq] at h ⊢
  omega

theorem IsVisible.isAllowed {c : Char} (h : IsVisible c) : isAllowed c = true := by
  have hvisible : 0x20 ≤ c.toNat ∧ c.toNat ≤ 0x7E := h
  simp only [Yaml.isAllowed, Bool.or_eq_true, Bool.and_eq_true, beq_iff_eq, decide_eq_true_eq]
  omega

theorem clean_of_isPrintable {text : List Char} (h : ∀ c ∈ text, Style.isPrintable c = true) :
    Clean text := clean_iff.mpr fun c hc => isAllowed_of_isPrintable (h c hc)

/-! ## Scalars -/

theorem clean_doubleQuotedChar (c : Char) : Clean (doubleQuotedChar c) := by
  rw [doubleQuotedChar]
  split
  · have hescape : Clean (escapeText c) :=
      clean_iff.mpr fun d hd => ((escapes_escapeText c).visible d hd).isAllowed
    simpa using ⟨by decide, hescape⟩
  · rename_i hplain
    have hprintable : Style.isPrintable c = true := by simp_all
    simpa using isAllowed_of_isPrintable hprintable

theorem clean_singleQuotedBody {indent : Nat} {text : List Char} (h : Clean text) (fresh : Bool) :
    Clean (singleQuotedBody indent fresh text) := by
  induction text generalizing fresh with
  | nil => cases fresh <;> simp [singleQuotedBody]
  | cons c text ih =>
    obtain ⟨hc, htext⟩ := clean_cons.mp h
    have hself : Clean (if c = '\'' then ['\'', '\''] else [c]) := by
      split
      · decide
      · simpa using hc
    rw [singleQuotedBody]
    cases fresh <;> split <;> simp [hc, hself, ih htext]

theorem clean_literalBody {indent : Nat} {text : List Char} (h : Clean text) (fresh : Bool) :
    Clean (literalBody indent fresh text) := by
  induction text generalizing fresh with
  | nil => simp [literalBody]
  | cons c text ih =>
    obtain ⟨hc, htext⟩ := clean_cons.mp h
    rw [literalBody]
    cases fresh <;> split <;> simp [hc, ih htext]

theorem clean_closeLine {text : List Char} (h : Clean text) : Clean (closeLine text) := by
  rw [closeLine]
  split
  · exact h
  · exact clean_append.mpr ⟨h, by decide⟩

theorem clean_literalHeader (text : List Char) : Clean (literalHeader text) := by
  rw [literalHeader, clean_cons, clean_append]
  refine ⟨by decide, ?_, ?_⟩
  · split <;> decide
  · repeat' split
    all_goals decide

theorem clean_inlineText (text : List Char) (asKey : Bool) (indent : Nat) :
    Clean (inlineText (Style.ofText text asKey) indent text) := by
  have hdouble : Clean ('"' :: (text.flatMap doubleQuotedChar ++ ['"'])) := by
    refine clean_cons.mpr ⟨by decide, clean_append.mpr ⟨clean_iff.mpr fun d hd => ?_, by decide⟩⟩
    obtain ⟨c, -, hd⟩ := List.mem_flatMap.mp hd
    exact clean_iff.mp (clean_doubleQuotedChar c) d hd
  cases hstyle : Style.ofText text asKey with
  | plain => exact clean_of_isPrintable (unquoted_of_style hstyle).1.printable
  | single =>
    have htext := clean_of_isPrintable (lined_of_style hstyle).printable
    simpa [inlineText] using ⟨by decide, clean_singleQuotedBody htext false, by decide⟩
  | double => exact hdouble
  | literal => exact hdouble

theorem clean_stringText (indent : Nat) (text : List Char) : Clean (stringText indent text) := by
  rw [stringText]
  by_cases hstyle : Style.ofText text false = .literal
  · have htext := clean_of_isPrintable (printable_of_style hstyle).2
    simpa [hstyle] using
      ⟨clean_literalHeader text, by decide, clean_closeLine (clean_literalBody htext true)⟩
  · simpa [hstyle] using ⟨clean_inlineText text false indent, by decide⟩

theorem clean_intText (n : Int) : Clean (Decimal.intText n) :=
  clean_of_isPrintable (unquoted_intText n).printable

/-! ## Nodes -/

theorem clean_gap (place : Place) : Clean place.gap := by
  cases place <;> decide

theorem clean_keyText (indent : Nat) (key : List Char) : Clean (keyText indent key).1 := by
  rw [keyText]
  split
  · simpa using ⟨clean_inlineText key true _, by decide⟩
  · simpa using ⟨by decide, by decide, clean_stringText _ key, by decide⟩

mutual

/-- **The text of a node is clean**, wherever it stands. -/
theorem clean_nodeText : (v : Value) → v.Integral → (outer : Nat) → (place : Place) →
    Clean (nodeText outer place v)
  | .null, _, outer, place => clean_append.mpr ⟨clean_gap place, by decide⟩
  | .bool true, _, outer, place => clean_append.mpr ⟨clean_gap place, by decide⟩
  | .bool false, _, outer, place => clean_append.mpr ⟨clean_gap place, by decide⟩
  | .num (.int n), _, outer, place =>
    clean_append.mpr ⟨clean_append.mpr ⟨clean_gap place, clean_intText n⟩, by decide⟩
  | .num (.float _), h, _, _ => absurd h nofun
  | .str s, _, outer, place => clean_append.mpr ⟨clean_gap place, clean_stringText _ _⟩
  | .arr [], _, outer, place => clean_append.mpr ⟨clean_gap place, by decide⟩
  | .arr (item :: items), h, outer, place => by
    have hitems := clean_itemsText (item :: items) (Value.areIntegral_iff.mp h)
    cases place
    · exact hitems _ _
    · exact clean_cons.mpr ⟨by decide, hitems _ _⟩
    · exact clean_cons.mpr ⟨by decide, hitems _ _⟩
  | .obj [], _, outer, place => clean_append.mpr ⟨clean_gap place, by decide⟩
  | .obj (member :: members), h, outer, place => by
    have hmembers := clean_membersText (member :: members) (Value.haveIntegral_iff.mp h)
    cases place
    · exact hmembers _ _
    · exact clean_cons.mpr ⟨by decide, hmembers _ _⟩
    · exact clean_cons.mpr ⟨by decide, hmembers _ _⟩

theorem clean_itemsText : (items : List Value) → (∀ item ∈ items, item.Integral) →
    (indent : Nat) → (inLine : Bool) → Clean (itemsText indent inLine items)
  | [], _, _, _ => clean_nil
  | item :: items, h, indent, inLine => by
    obtain ⟨hitem, hitems⟩ := List.forall_mem_cons.mp h
    have hnode := clean_nodeText item hitem indent .entry
    have hrest := clean_itemsText items hitems indent false
    rw [itemsText]
    cases inLine <;> simpa using ⟨by decide, hnode, hrest⟩

theorem clean_membersText : (members : List (String × Value)) →
    (∀ member ∈ members, member.2.Integral) →
    (indent : Nat) → (inLine : Bool) → Clean (membersText indent inLine members)
  | [], _, _, _ => clean_nil
  | (key, value) :: members, h, indent, inLine => by
    obtain ⟨hvalue, hmembers⟩ := List.forall_mem_cons.mp h
    have hnode := clean_nodeText value hvalue indent
    have hrest := clean_membersText members hmembers indent false
    rw [membersText]
    cases inLine <;> simpa using ⟨clean_keyText indent key.toList, hnode _, hrest⟩

end

end SchemaForms.Yaml
