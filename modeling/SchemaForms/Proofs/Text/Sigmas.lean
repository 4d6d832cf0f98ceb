import SchemaForms.Text.Lowercase

/-!
# Proofs/Text/Sigmas — the lower case of a part of a text

Lower case goes character by character, but for the capital sigma: it depends on the cased characters
next to it whether a sigma ends a word, and on that which form it gets.  So the lower case of a text
is put together from its parts (`lowercase_append`), but a part may look different there than on its
own.  It does not if every sigma in it keeps its form (`lowerPart_eq_iff`), which only what stands
next to the part can change, and only for a sigma with nothing cased in between (`keepsForms_iff`).
-/

namespace SchemaForms.Text

variable {before after front back part : List Char}

/-! ## Parts -/

/-- Whether a capital sigma ends a word; `before` is what comes before it, last character first. -/
def endsWord (before after : List Char) : Bool := meetsCased before && !meetsCased after

/-- The form of a capital sigma in lower case. -/
def sigmaForm (before after : List Char) : Char := if endsWord before after then 'ς' else 'σ'

/-- Lower case of a part of a text; `before` is what comes before it, last character first, and
`after` what comes behind it. -/
def lowerPart (before after : List Char) : List Char → List Char
  | [] => []
  | c :: rest =>
    (if c = 'Σ' then [sigmaForm before (rest ++ after)] else lowerChar c) ++
      lowerPart (c :: before) after rest

/-- **The lower case of a text is that of its parts**, each in its place. -/
theorem lowerRest_append (before part after : List Char) :
    lowerRest before (part ++ after)
      = lowerPart before after part ++ lowerRest (part.reverse ++ before) after := by
  induction part generalizing before with
  | nil => rfl
  | cons c rest ih =>
    rw [List.cons_append, lowerRest, lowerPart, ih, List.reverse_cons, List.append_assoc,
      List.append_assoc]
    rfl

/-- A text on its own is a part of itself. -/
theorem lowercase_eq (text : List Char) : lowercase text = lowerPart [] [] text := by
  have happend := lowerRest_append [] text []
  rw [List.append_nil, lowerRest, List.append_nil] at happend
  exact happend

theorem lowercase_append (before part after : List Char) :
    lowercase (before ++ part ++ after) = lowerPart [] (part ++ after) before ++
      lowerPart before.reverse after part ++ lowerRest (part.reverse ++ before.reverse) after := by
  rw [lowercase, List.append_assoc, lowerRest_append, lowerRest_append, List.append_nil,
    List.append_assoc]

theorem lowerChar_ne_nil (c : Char) : lowerChar c ≠ [] := by
  unfold lowerChar
  split
  · exact List.cons_ne_nil _ _
  · split
    · exact List.cons_ne_nil _ _
    · split <;> exact List.cons_ne_nil _ _

theorem lowercase_eq_nil {text : List Char} : lowercase text = [] ↔ text = [] := by
  cases text with
  | nil => exact iff_of_true rfl rfl
  | cons c rest =>
    refine iff_of_false (fun h => ?_) (List.cons_ne_nil _ _)
    have himage := (List.append_eq_nil_iff.mp h).1
    split at himage
    · cases himage
    · exact lowerChar_ne_nil c himage

/-! ## Sigmas that keep their form -/

/-- **Every capital sigma in a part of a text has the form that it has in the part alone.** -/
def KeepsForms (before after part : List Char) : Prop :=
  ∀ front back, part = front ++ 'Σ' :: back →
    endsWord (front.reverse ++ before) (back ++ after) = endsWord front.reverse back

theorem sigmaForm_eq_iff {x y : List Char} :
    sigmaForm before after = sigmaForm x y ↔ endsWord before after = endsWord x y := by
  unfold sigmaForm
  cases endsWord before after <;> cases endsWord x y <;> decide

/-- Two places of a part give it the same lower case if its sigmas have the same form in both. -/
theorem lowerPart_congr_iff {x y : List Char} :
    lowerPart before after part = lowerPart x y part ↔ ∀ front back, part = front ++ 'Σ' :: back →
      endsWord (front.reverse ++ before) (back ++ after)
        = endsWord (front.reverse ++ x) (back ++ y) := by
  induction part generalizing before x with
  | nil => simp [lowerPart]
  | cons c rest ih =>
    have hcons : (∀ front back, c :: rest = front ++ 'Σ' :: back →
          endsWord (front.reverse ++ before) (back ++ after)
            = endsWord (front.reverse ++ x) (back ++ y)) ↔
        (c = 'Σ' → endsWord before (rest ++ after) = endsWord x (rest ++ y)) ∧
          lowerPart (c :: before) after rest = lowerPart (c :: x) y rest := by
      rw [ih]
      constructor
      · intro h
        refine ⟨fun hc => h [] rest (hc ▸ rfl), fun front back hrest => ?_⟩
        simpa using h (c :: front) back (hrest ▸ rfl)
      · rintro ⟨hfirst, hrest⟩ front back hpart
        rcases front with _ | ⟨d, front⟩
        · obtain ⟨rfl, rfl⟩ := List.cons.inj hpart
          exact hfirst rfl
        · obtain ⟨rfl, hback⟩ := List.cons.inj hpart
          simpa using hrest front back hback
    rw [hcons, lowerPart, lowerPart]
    split
    · rename_i hc
      simp [hc, sigmaForm_eq_iff]
    · rename_i hc
      simp [hc]

/-- **A part looks in its place as it does alone** exactly if its sigmas keep their forms. -/
theorem lowerPart_eq_iff : lowerPart before after part = lowercase part ↔
    KeepsForms before after part := by
  simp only [lowercase_eq, lowerPart_congr_iff, List.append_nil, KeepsForms]

/-- A part without a capital sigma looks everywhere as it does alone. -/
theorem keepsForms_of_not_mem (h : 'Σ' ∉ part) : KeepsForms before after part := by
  rintro front back rfl
  exact absurd (List.mem_append_right front List.mem_cons_self) h

/-! ## What changes the form of a sigma -/

/-- Whether no character of a text has any bearing on the case of what is next to it. -/
def Bearingless (text : List Char) : Prop := ∀ c ∈ text, caseIgnorable.contains c.toNat = true

instance : DecidablePred Bearingless := fun text =>
  inferInstanceAs (Decidable (∀ c ∈ text, caseIgnorable.contains c.toNat = true))

theorem meetsCased_cons (c : Char) (text : List Char) : meetsCased (c :: text)
    = if caseIgnorable.contains c.toNat then meetsCased text else cased.contains c.toNat := by
  unfold meetsCased
  by_cases hc : caseIgnorable.contains c.toNat = true <;> simp [hc]

/-- **Only through a text without bearing on case** is it seen what comes behind. -/
theorem meetsCased_append (front back : List Char) : meetsCased (front ++ back)
    = if Bearingless front then meetsCased back else meetsCased front := by
  induction front with
  | nil =>
    have hnil : Bearingless [] := List.forall_mem_nil _
    rw [if_pos hnil, List.nil_append]
  | cons c front ih =>
    have hcons : Bearingless (c :: front) ↔
        caseIgnorable.contains c.toNat = true ∧ Bearingless front := List.forall_mem_cons
    rw [List.cons_append, meetsCased_cons, meetsCased_cons, ih]
    by_cases hc : caseIgnorable.contains c.toNat = true <;> simp [hcons, hc]

theorem meetsCased_of_bearingless (h : Bearingless front) : meetsCased front = false := by
  have happend := meetsCased_append front []
  rwa [if_pos h, List.append_nil] at happend

theorem bearingless_reverse : Bearingless front.reverse ↔ Bearingless front := by
  simp [Bearingless]

/-- **Which sigmas change their form**: one that the part has no cased character before, if there is
one right before the part and the sigma ends a word; and one that ends a word in the part, if nothing
behind it in the part has a bearing on case and a cased character comes right behind the part. -/
theorem keepsForms_iff : KeepsForms before after part ↔ ∀ front back, part = front ++ 'Σ' :: back →
    ¬ (Bearingless front ∧ meetsCased before ∧ ¬ meetsCased (back ++ after)) ∧
      ¬ (meetsCased front.reverse ∧ Bearingless back ∧ meetsCased after) := by
  refine forall_congr' fun front => forall_congr' fun back => imp_congr_right fun _ => ?_
  unfold endsWord
  rw [meetsCased_append front.reverse before]
  by_cases hfront : Bearingless front
  · have halone := meetsCased_of_bearingless (bearingless_reverse.mpr hfront)
    simp [hfront, bearingless_reverse, halone]
  · rw [if_neg (mt bearingless_reverse.mp hfront), meetsCased_append back after]
    by_cases hback : Bearingless back
    · have halone := meetsCased_of_bearingless hback
      cases meetsCased front.reverse <;> simp [hfront, hback, halone]
    · simp [hfront, hback]

/-- **A part keeps its forms between words**: if no cased character stands right before or behind. -/
theorem keepsForms_of_apart (hbefore : meetsCased before = false)
    (hafter : meetsCased after = false) : KeepsForms before after part := by
  rw [keepsForms_iff]
  rintro front back -
  simp [hbefore, hafter]

end SchemaForms.Text
