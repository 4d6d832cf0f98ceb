import SchemaForms.Proofs.Yaml.Characters
import SchemaForms.Proofs.Yaml.Marks

/-!
# Proofs/Yaml/Tokens — the tokens of a written value

The lexer turns the text of a value into the tokens of its tree (`nodeTokens`), whatever follows the
text, as long as it is no part of it (`readsNode`).  What is inside a sequence or a mapping is read at
the column at which its entries begin; the sequence at the column of its key is not opened at all.
-/

namespace SchemaForms.Yaml

mutual

/-- The tokens of a node. -/
def nodeTokens (place : Place) : Value → List Token
  | .null => [.scalar true ['n', 'u', 'l', 'l']]
  | .bool true => [.scalar true ['t', 'r', 'u', 'e']]
  | .bool false => [.scalar true ['f', 'a', 'l', 's', 'e']]
  | .num n => [.scalar true (numberText n)]
  | .str s => [.scalar (Lexer.isPlain s.toList false) s.toList]
  | .arr [] => [.flowSequenceStart, .flowSequenceEnd]
  | .arr (item :: items) =>
    if place = .value then itemTokens (item :: items)
    else .blockSequenceStart :: (itemTokens (item :: items) ++ [.blockEnd])
  | .obj [] => [.flowMappingStart, .flowMappingEnd]
  | .obj (member :: members) =>
    .blockMappingStart :: (memberTokens (member :: members) ++ [.blockEnd])

/-- The tokens of the entries of a sequence. -/
def itemTokens : List Value → List Token
  | [] => []
  | item :: items => .blockEntry :: (nodeTokens .entry item ++ itemTokens items)

/-- The tokens of the entries of a mapping. -/
def memberTokens : List (String × Value) → List Token
  | [] => []
  | (key, value) :: members =>
    Lexer.keyTokens key.toList ++ (nodeTokens (Lexer.valuePlace key.toList) value ++
      memberTokens members)

end

namespace Lexer

section Nodes

variable {outer indent column : Nat} {nest : Nest} {allowed : Bool} {place : Place}
  {text tail : List Char}

/-! ## What stands where a node stands -/

/-- A node on its line stands to the right of the collection it belongs to. -/
theorem Stands.exists_gap (h : Stands outer nest column allowed place) :
    ∃ n, place.gap = pad n ∧ nest.indent < column + n := by
  cases place with
  | top => exact ⟨0, rfl, by obtain ⟨hindent, -⟩ := h; omega⟩
  | entry => exact ⟨1, rfl, by obtain ⟨hindent, hcolumn, -⟩ := h; omega⟩
  | value => exact ⟨1, rfl, by obtain ⟨hindent, hcolumn⟩ := h; omega⟩

theorem Stands.scalarIndent (h : Stands outer nest column allowed place) :
    place.scalarIndent outer = (max nest.indent 0).toNat + 2 := by
  cases place with
  | top =>
    rw [h.1]
    rfl
  | entry => simp [Place.scalarIndent, h.1]
  | value => simp [Place.scalarIndent, h.1]

/-- The end of a line behind a key. -/
theorem reaches_newline {n : Nat} {x : List Char} (hx : Begins x) :
    Reaches ⟨'\n' :: (pad n ++ x), column, nest, allowed⟩ ⟨pad n ++ x, 0, nest, true⟩ :=
  fun _ _ => ⟨_, _, leads_of_settle (settle_closed hx (passing_none _)) (Nat.le_succ _)⟩

/-! ## Nodes and entries -/

/-- **The lexer reads a value's text as the tokens of the value**, wherever it stands. -/
def ReadsNode (v : Value) : Prop :=
  ∀ {outer : Nat} {nest : Nest} {column : Nat} {allowed : Bool} {place : Place} {tail : List Char},
    Stands outer nest column allowed place → Lands nest.indent tail →
    Reaches ⟨nodeText outer place v ++ tail, column, nest, allowed⟩
      ⟨tail, 0, nest.push (nodeTokens place v), true⟩

/-- The lexer reads further entries of a sequence. -/
def ReadsItems (items : List Value) : Prop :=
  ∀ {indent : Nat} {nest : Nest} {tail : List Char}, nest.indent = indent → Lands indent tail →
    Reaches ⟨itemsText indent false items ++ tail, 0, nest, true⟩
      ⟨tail, 0, nest.push (itemTokens items), true⟩

/-- The lexer reads further entries of a mapping. -/
def ReadsMembers (members : List (String × Value)) : Prop :=
  ∀ {indent : Nat} {nest : Nest} {tail : List Char}, nest.indent = indent → Lands indent tail →
    Reaches ⟨membersText indent false members ++ tail, 0, nest, true⟩
      ⟨tail, 0, nest.push (memberTokens members), true⟩

/-! ## Scalars -/

/-- A word stands for a node on its line. -/
theorem reaches_word (hword : Unquoted text) (h : Stands outer nest column allowed place)
    (htail : Lands nest.indent tail) :
    Reaches ⟨place.gap ++ (text ++ '\n' :: tail), column, nest, allowed⟩
      ⟨tail, 0, nest.push [.scalar true text], true⟩ := by
  obtain ⟨n, hgap, hcolumn⟩ := h.exists_gap
  rw [hgap]
  exact reaches_plain hword n hcolumn htail

theorem readsNode_null : ReadsNode .null := by
  intro outer nest column allowed place tail h htail
  have hword : Unquoted ['n', 'u', 'l', 'l'] := unquoted_of_allowsPlain nofun (by decide)
  simpa [nodeText, nodeTokens] using reaches_word hword h htail

theorem readsNode_bool (b : Bool) : ReadsNode (.bool b) := by
  intro outer nest column allowed place tail h htail
  cases b with
  | false =>
    have hword : Unquoted ['f', 'a', 'l', 's', 'e'] := unquoted_of_allowsPlain nofun (by decide)
    simpa [nodeText, nodeTokens] using reaches_word hword h htail
  | true =>
    have hword : Unquoted ['t', 'r', 'u', 'e'] := unquoted_of_allowsPlain nofun (by decide)
    simpa [nodeText, nodeTokens] using reaches_word hword h htail

theorem readsNode_int (n : Int) : ReadsNode (.num (.int n)) := by
  intro outer nest column allowed place tail h htail
  simpa [nodeText, nodeTokens, numberText] using reaches_word (unquoted_intText n) h htail

theorem readsNode_str (s : String) : ReadsNode (.str s) := by
  intro outer nest column allowed place tail h htail
  obtain ⟨n, hgap, hcolumn⟩ := h.exists_gap
  rw [nodeText, nodeTokens, hgap, List.append_assoc]
  exact reaches_stringText h.scalarIndent n hcolumn htail

/-! ## Sequences -/

theorem readsNode_nil : ReadsNode (.arr []) := by
  intro outer nest column allowed place tail h htail
  obtain ⟨n, hgap, hcolumn⟩ := h.exists_gap
  simpa [nodeText, nodeTokens, hgap] using Brackets.sequence.reaches n hcolumn htail

theorem readsItems_nil : ReadsItems [] := fun _ _ => Reaches.refl _

/-- A mark or a key is parted from the node behind it. -/
theorem startsGap_nodeText (hplace : place ≠ .top) (outer : Nat) (v : Value) (tail : List Char) :
    startsGap (nodeText outer place v ++ tail) = true := by
  have hgap : place.gap = [' '] := by cases place <;> simp_all [Place.gap]
  cases v with
  | null => simp [nodeText, hgap, startsGap, isGap, isBlank]
  | bool b => cases b <;> simp [nodeText, hgap, startsGap, isGap, isBlank]
  | num n => simp [nodeText, hgap, startsGap, isGap, isBlank]
  | str s => simp [nodeText, hgap, startsGap, isGap, isBlank]
  | arr items =>
    cases items with
    | nil => simp [nodeText, hgap, startsGap, isGap, isBlank]
    | cons item items => cases place <;> simp_all [nodeText, startsGap, isGap, isBlank, isBreak]
  | obj members =>
    cases members with
    | nil => simp [nodeText, hgap, startsGap, isGap, isBlank]
    | cons member members => cases place <;> simp_all [nodeText, startsGap, isGap, isBlank, isBreak]

theorem itemsText_cons (indent : Nat) (item : Value) (items : List Value) :
    itemsText indent false (item :: items) = pad indent ++ itemsText indent true (item :: items) := by
  simp [itemsText]

theorem begins_itemsText (indent : Nat) (item : Value) (items : List Value) (x : List Char) :
    Begins (itemsText indent true (item :: items) ++ x) := by
  simp only [itemsText, if_true, List.nil_append, List.cons_append]
  exact ⟨rfl, by decide, by decide⟩

/-- Further entries of a sequence stand at its column. -/
theorem lands_itemsText (items : List Value) (h : Lands indent tail) :
    Lands indent (itemsText indent false items ++ tail) := by
  cases items with
  | nil => exact h
  | cons item items =>
    rw [itemsText_cons, List.append_assoc]
    exact .line indent (Int.le_refl _) (begins_itemsText indent item items tail)

variable {item : Value} {items : List Value}

/-- An entry opens the sequence, unless it is open at its column, and further entries follow. -/
theorem ReadsNode.reaches_items (hitem : ReadsNode item) (hitems : ReadsItems items) (n : Nat)
    (hindent : nest.indent ≤ indent) (hcolumn : column + n = indent) (htail : Lands indent tail) :
    Reaches ⟨pad n ++ (itemsText indent true (item :: items) ++ tail), column, nest, true⟩
      ⟨tail, 0, (nest.enter indent .blockSequenceStart).push (itemTokens (item :: items)), true⟩ := by
  have hnest : ∀ tokens, ((nest.enter indent .blockSequenceStart).push tokens).indent = indent :=
    fun _ => Nest.indent_enter hindent _
  have hhyphen := reaches_hyphen n (startsGap_nodeText (by decide : Place.entry ≠ .top) indent item
    (itemsText indent false items ++ tail)) hindent hcolumn
  have hstands : Stands indent ((nest.enter indent .blockSequenceStart).push [.blockEntry])
      (indent + 1) true .entry := ⟨hnest _, rfl, rfl⟩
  have hnode := hitem hstands ((hnest _).symm ▸ lands_itemsText items htail)
  have hrest := hitems (hnest (.blockEntry :: nodeTokens .entry item)) htail
  rw [Nest.push_push] at hnode hrest
  simp only [itemsText, itemTokens, if_true, List.nil_append, List.append_assoc, List.cons_append]
  exact (hhyphen.trans hnode).trans hrest

theorem readsItems_cons (hitem : ReadsNode item) (hitems : ReadsItems items) :
    ReadsItems (item :: items) := by
  intro indent nest tail hindent htail
  have hreaches := hitem.reaches_items hitems indent (Int.le_of_eq hindent) (Nat.zero_add indent) htail
  rw [Nest.enter_of_eq hindent] at hreaches
  rwa [itemsText_cons, List.append_assoc]

/-- A collection that an entry opens is closed by what follows the collection around it. -/
theorem reaches_enter_close (htail : Lands nest.indent tail) (hindent : nest.indent < indent)
    (start : Token) (tokens : List Token) :
    Reaches ⟨tail, 0, (nest.enter indent start).push tokens, true⟩
      ⟨tail, 0, nest.push (start :: (tokens ++ [.blockEnd])), true⟩ := by
  rw [Nest.enter_of_lt hindent]
  simpa [Nest.push] using reaches_close htail hindent (by omega)

/-- A sequence of its own is read with its entries and closed behind them. -/
theorem ReadsNode.reaches_sequence (hitem : ReadsNode item) (hitems : ReadsItems items) (n : Nat)
    (hindent : nest.indent < indent) (hcolumn : column + n = indent)
    (htail : Lands nest.indent tail) :
    Reaches ⟨pad n ++ (itemsText indent true (item :: items) ++ tail), column, nest, true⟩
      ⟨tail, 0, nest.push (.blockSequenceStart :: (itemTokens (item :: items) ++ [.blockEnd])), true⟩ :=
  (hitem.reaches_items hitems n (Int.le_of_lt hindent) hcolumn (htail.mono (Int.le_of_lt hindent))).trans
    (reaches_enter_close htail hindent _ _)

/-- **A sequence is read with its entries.**  Behind a key it begins in the next line, at the column of
the key. -/
theorem readsNode_items (hitem : ReadsNode item) (hitems : ReadsItems items) :
    ReadsNode (.arr (item :: items)) := by
  intro outer nest column allowed place tail h htail
  cases place with
  | top =>
    obtain ⟨hindent, rfl, rfl⟩ := h
    exact hitem.reaches_sequence hitems 0 (by omega) rfl htail
  | entry =>
    obtain ⟨hindent, rfl, rfl⟩ := h
    exact hitem.reaches_sequence hitems 1 (by omega) rfl htail
  | value =>
    obtain ⟨hindent, -⟩ := h
    have hreaches := hitem.reaches_items hitems outer (Int.le_of_eq hindent) (Nat.zero_add outer)
      (hindent ▸ htail)
    rw [Nest.enter_of_eq hindent] at hreaches
    simp only [nodeText, nodeTokens, itemsText_cons, List.cons_append, List.append_assoc, if_true]
    exact (reaches_newline (begins_itemsText outer item items tail)).trans hreaches

/-! ## Mappings -/

theorem readsNode_empty : ReadsNode (.obj []) := by
  intro outer nest column allowed place tail h htail
  obtain ⟨n, hgap, hcolumn⟩ := h.exists_gap
  simpa [nodeText, nodeTokens, hgap] using Brackets.mapping.reaches n hcolumn htail

theorem readsMembers_nil : ReadsMembers [] := fun _ _ => Reaches.refl _

theorem valuePlace_eq (indent : Nat) (key : List Char) : (keyText indent key).2 = valuePlace key := by
  rw [keyText, valuePlace]
  split <;> rfl

/-- The text of an entry behind the spaces in front of it. -/
theorem membersText_first (indent : Nat) (member : String × Value) (members : List (String × Value)) :
    membersText indent true (member :: members) = (keyText indent member.1.toList).1 ++
      (nodeText indent (valuePlace member.1.toList) member.2 ++ membersText indent false members) := by
  simp [membersText, valuePlace_eq]

theorem membersText_cons (indent : Nat) (member : String × Value) (members : List (String × Value)) :
    membersText indent false (member :: members)
      = pad indent ++ membersText indent true (member :: members) := by
  simp [membersText]

theorem begins_membersText (indent : Nat) (member : String × Value) (members : List (String × Value))
    (x : List Char) : Begins (membersText indent true (member :: members) ++ x) := by
  rw [membersText_first, List.append_assoc]
  exact begins_keyText _ _ _

/-- Further entries of a mapping stand at its column. -/
theorem lands_membersText (members : List (String × Value)) (h : Lands indent tail) :
    Lands indent (membersText indent false members ++ tail) := by
  cases members with
  | nil => exact h
  | cons member members =>
    rw [membersText_cons, List.append_assoc]
    exact .line indent (Int.le_refl _) (begins_membersText indent member members tail)

variable {member : String × Value} {members : List (String × Value)}

/-- An entry opens the mapping, unless it is open at its column, and further entries follow. -/
theorem ReadsNode.reaches_members (hvalue : ReadsNode member.2) (hmembers : ReadsMembers members)
    (n : Nat) (hindent : nest.indent ≤ indent) (hcolumn : column + n = indent)
    (htail : Lands indent tail) :
    Reaches ⟨pad n ++ (membersText indent true (member :: members) ++ tail), column, nest, true⟩
      ⟨tail, 0, (nest.enter indent .blockMappingStart).push (memberTokens (member :: members)),
        true⟩ := by
  have hnest : ∀ tokens, ((nest.enter indent .blockMappingStart).push tokens).indent = indent :=
    fun _ => Nest.indent_enter hindent _
  have hplace : valuePlace member.1.toList ≠ .top := by
    rw [valuePlace]
    split <;> decide
  obtain ⟨column', allowed', hstands, hkey⟩ := exists_reaches_key member.1.toList n
    (startsGap_nodeText hplace indent member.2 (membersText indent false members ++ tail)) hindent
    hcolumn
  have hnode := hvalue hstands ((hnest _).symm ▸ lands_membersText members htail)
  have hrest := hmembers (hnest (keyTokens member.1.toList ++
    nodeTokens (valuePlace member.1.toList) member.2)) htail
  rw [Nest.push_push] at hnode hrest
  rw [membersText_first, memberTokens, ← List.append_assoc (keyTokens _)]
  simp only [List.append_assoc] at hrest hnode ⊢
  exact (hkey.trans hnode).trans hrest

theorem readsMembers_cons (hvalue : ReadsNode member.2) (hmembers : ReadsMembers members) :
    ReadsMembers (member :: members) := by
  intro indent nest tail hindent htail
  have hreaches := hvalue.reaches_members hmembers indent (Int.le_of_eq hindent) (Nat.zero_add indent)
    htail
  rw [Nest.enter_of_eq hindent] at hreaches
  rwa [membersText_cons, List.append_assoc]

/-- A mapping is read with its entries and closed behind them. -/
theorem ReadsNode.reaches_mapping (hvalue : ReadsNode member.2) (hmembers : ReadsMembers members)
    (n : Nat) (hindent : nest.indent < indent) (hcolumn : column + n = indent)
    (htail : Lands nest.indent tail) :
    Reaches ⟨pad n ++ (membersText indent true (member :: members) ++ tail), column, nest, true⟩
      ⟨tail, 0, nest.push (.blockMappingStart :: (memberTokens (member :: members) ++ [.blockEnd])),
        true⟩ :=
  (hvalue.reaches_members hmembers n (Int.le_of_lt hindent) hcolumn
    (htail.mono (Int.le_of_lt hindent))).trans (reaches_enter_close htail hindent _ _)

/-- **A mapping is read with its entries.**  Behind a key it begins in the next line. -/
theorem readsNode_members (hvalue : ReadsNode member.2) (hmembers : ReadsMembers members) :
    ReadsNode (.obj (member :: members)) := by
  intro outer nest column allowed place tail h htail
  cases place with
  | top =>
    obtain ⟨hindent, rfl, rfl⟩ := h
    exact hvalue.reaches_mapping hmembers 0 (by omega) rfl htail
  | entry =>
    obtain ⟨hindent, rfl, rfl⟩ := h
    exact hvalue.reaches_mapping hmembers 1 (by omega) rfl htail
  | value =>
    obtain ⟨hindent, -⟩ := h
    have hreaches := hvalue.reaches_mapping hmembers (outer + 2) (by omega) (Nat.zero_add _) htail
    simp only [nodeText, membersText_cons, List.cons_append, List.append_assoc]
    exact (reaches_newline (begins_membersText (outer + 2) member members tail)).trans hreaches

end Nodes

mutual

/-- **Every node is read as its tokens.** -/
theorem readsNode : (v : Value) → v.Integral → ReadsNode v
  | .null, _ => readsNode_null
  | .bool b, _ => readsNode_bool b
  | .num (.int n), _ => readsNode_int n
  | .num (.float _), h => absurd h nofun
  | .str s, _ => readsNode_str s
  | .arr [], _ => readsNode_nil
  | .arr (item :: items), h =>
    have hitems := List.forall_mem_cons.mp (Value.areIntegral_iff.mp h)
    readsNode_items (readsNode item hitems.1) (readsItems items hitems.2)
  | .obj [], _ => readsNode_empty
  | .obj ((key, value) :: members), h =>
    have hall : ∀ member ∈ (key, value) :: members, member.2.Integral :=
      Value.haveIntegral_iff.mp h
    have hmembers := List.forall_mem_cons.mp hall
    readsNode_members (readsNode value hmembers.1) (readsMembers members hmembers.2)

theorem readsItems : (items : List Value) → (∀ item ∈ items, item.Integral) → ReadsItems items
  | [], _ => readsItems_nil
  | item :: items, h =>
    readsItems_cons (readsNode item (List.forall_mem_cons.mp h).1)
      (readsItems items (List.forall_mem_cons.mp h).2)

theorem readsMembers : (members : List (String × Value)) →
    (∀ member ∈ members, member.2.Integral) → ReadsMembers members
  | [], _ => readsMembers_nil
  | (_, value) :: members, h =>
    readsMembers_cons (readsNode value (List.forall_mem_cons.mp h).1)
      (readsMembers members (List.forall_mem_cons.mp h).2)

end

/-- At the end of the text, the tokens are what was found. -/
theorem run_end (tokens : List Token) (fuel index line : Nat) :
    run (fuel + 1) (Station.lexer ⟨[], 0, Nest.empty.push tokens, true⟩ index line) = .ok tokens := by
  have hsettle : settle (block ⟨pad 0 ++ [], index, line, 0⟩ (Nest.empty.push tokens) none true)
      = .ok (block ⟨[], index, line, 0⟩ (Nest.empty.push tokens) none true) :=
    (settle_pad (x := []) 0 trivial (passing_none _)).trans
      (congrArg _ (unroll_of_le (Int.le_refl _)))
  rw [run_succ, Station.lexer, show ([] : List Char) = pad 0 ++ [] from rfl, hsettle]
  simp [Except.bind, Except.map, clearPlace, setPlace, block, Nest.push, Nest.empty]

/-- **The whole text of a value is read as its tokens.** -/
theorem run_nodeText {v : Value} (hv : v.Integral) :
    run ((nodeText 0 .top v).length + 1) (.start (nodeText 0 .top v)) = .ok (nodeTokens .top v) := by
  have hstands : Stands 0 Nest.empty 0 true .top := ⟨rfl, rfl, rfl⟩
  obtain ⟨index, line, rounds, hrounds, hrun⟩ := readsNode v hv hstands .end 0 0
  rw [List.append_nil] at hrounds hrun
  have hfuel : (nodeText 0 .top v).length - rounds + 1 + rounds = (nodeText 0 .top v).length + 1 := by
    simp only [Station.lexer, block] at hrounds
    omega
  rw [← hfuel]
  exact (hrun _).trans (run_end _ _ _ _)

end Lexer

/-- **A written value is read as its tokens.** -/
theorem ofText_nodeText {v : Value} (hv : v.Integral) :
    Token.ofText (nodeText 0 .top v) = .ok (nodeTokens .top v) :=
  (if_pos (clean_nodeText v hv 0 .top)).trans (Lexer.run_nodeText hv)

end SchemaForms.Yaml
