import SchemaForms.Proofs.Yaml.Tokens
import SchemaForms.Yaml.Event

/-!
# Proofs/Yaml/Events — the events of a written value

The grammar takes the tokens of a value as its events (`parses`), whatever tokens follow.  A sequence
at the column of its key has no end of its own: it goes on as long as there are entries, so that what
follows must not begin with one (`Ends`).  What is written has neither anchors nor tags (`Bare`), which
is why events and the steps of a document are the same list.
-/

namespace SchemaForms.Yaml

/-- An event without anchors and tags. -/
inductive Bare where
  | scalar (plain : Bool) (text : List Char)
  | sequenceStart
  | sequenceEnd
  | mappingStart
  | mappingEnd

/-- The event of a document. -/
def Bare.event : Bare → Event
  | .scalar plain text => .scalar ⟨none, none⟩ plain text
  | .sequenceStart => .sequenceStart ⟨none, none⟩
  | .sequenceEnd => .sequenceEnd
  | .mappingStart => .mappingStart ⟨none, none⟩
  | .mappingEnd => .mappingEnd

mutual

/-- The events of a node. -/
def nodeBares : Value → List Bare
  | .null => [.scalar true ['n', 'u', 'l', 'l']]
  | .bool true => [.scalar true ['t', 'r', 'u', 'e']]
  | .bool false => [.scalar true ['f', 'a', 'l', 's', 'e']]
  | .num n => [.scalar true (numberText n)]
  | .str s => [.scalar (Lexer.isPlain s.toList false) s.toList]
  | .arr items => .sequenceStart :: (itemBares items ++ [.sequenceEnd])
  | .obj members => .mappingStart :: (memberBares members ++ [.mappingEnd])

/-- The events of the entries of a sequence. -/
def itemBares : List Value → List Bare
  | [] => []
  | item :: items => nodeBares item ++ itemBares items

/-- The events of the entries of a mapping. -/
def memberBares : List (String × Value) → List Bare
  | [] => []
  | (key, value) :: members =>
    .scalar (Lexer.isPlain key.toList (isSimpleKey key.toList)) key.toList ::
      (nodeBares value ++ memberBares members)

end

namespace Event

section Grammar

variable {handles : Handles} {inner : Bool} {fuel : Nat} {place : Place} {rest tokens : List Token}

/-! ## How the tokens of a node begin -/

/-- Whether a token can be the first of a node at a place. -/
def Opens (place : Place) : Token → Prop
  | .scalar _ _ | .flowSequenceStart | .flowMappingStart | .blockSequenceStart
  | .blockMappingStart => True
  | .blockEntry => place = .value
  | _ => False

theorem exists_opens (place : Place) (v : Value) :
    ∃ token rest, nodeTokens place v = token :: rest ∧ Opens place token := by
  cases v with
  | null => exact ⟨_, _, rfl, trivial⟩
  | bool b => cases b <;> exact ⟨_, _, rfl, trivial⟩
  | num n => exact ⟨_, _, rfl, trivial⟩
  | str s => exact ⟨_, _, rfl, trivial⟩
  | arr items =>
    cases items with
    | nil => exact ⟨_, _, rfl, trivial⟩
    | cons item items =>
      by_cases hplace : place = .value
      · exact ⟨.blockEntry, _, by rw [nodeTokens, if_pos hplace, itemTokens], hplace⟩
      · exact ⟨.blockSequenceStart, _, by rw [nodeTokens, if_neg hplace], trivial⟩
  | obj members =>
    cases members with
    | nil => exact ⟨_, _, rfl, trivial⟩
    | cons member members => exact ⟨_, _, rfl, trivial⟩

/-- An entry of a sequence does not end before its node. -/
theorem endsEntry_nodeTokens (v : Value) (rest : List Token) :
    endsEntry (nodeTokens .entry v ++ rest) = false ∧
      endsInnerEntry (nodeTokens .entry v ++ rest) = false := by
  obtain ⟨token, more, htokens, hopens⟩ := exists_opens .entry v
  rw [htokens]
  cases token <;> first | exact ⟨rfl, rfl⟩ | exact hopens.elim | exact absurd hopens nofun

/-- A part of a mapping does not end before its node. -/
theorem endsPart_nodeTokens (place : Place) (v : Value) (rest : List Token) :
    endsPart (nodeTokens place v ++ rest) = false := by
  obtain ⟨token, more, htokens, hopens⟩ := exists_opens place v
  rw [htokens]
  cases token <;> first | exact hopens.elim | rfl

/-! ## What the grammar takes -/

/-- What may follow a node: a sequence at the column of its key needs a parent that allows it, and
goes on with any further entry. -/
def Ends (place : Place) (inner : Bool) (rest : List Token) : Prop :=
  place = .value → inner = true ∧ ∀ more, rest ≠ .blockEntry :: more

/-- The grammar takes the tokens of a node as its events. -/
def Parses (handles : Handles) (v : Value) : Prop :=
  ∀ (inner : Bool) (place : Place) (fuel : Nat) (rest : List Token),
    2 * (nodeTokens place v).length + 2 ≤ fuel → Ends place inner rest →
    node handles true inner fuel (nodeTokens place v ++ rest)
      = .ok ((nodeBares v).map Bare.event, rest)

/-- The grammar takes the tokens of entries, in a sequence of its own and in one at the column of its
key. -/
def ParsesItems (handles : Handles) (items : List Value) : Prop :=
  ∀ (fuel : Nat) (rest : List Token), 2 * (itemTokens items).length + 1 ≤ fuel →
    blockItems handles fuel (itemTokens items ++ .blockEnd :: rest)
      = .ok ((itemBares items).map Bare.event ++ [.sequenceEnd], rest) ∧
    ((∀ more, rest ≠ .blockEntry :: more) → innerItems handles fuel (itemTokens items ++ rest)
      = .ok ((itemBares items).map Bare.event ++ [.sequenceEnd], rest))

/-- The grammar takes the tokens of the entries of a mapping. -/
def ParsesMembers (handles : Handles) (members : List (String × Value)) : Prop :=
  ∀ (fuel : Nat) (rest : List Token), 2 * (memberTokens members).length + 1 ≤ fuel →
    blockPairs handles fuel (memberTokens members ++ .blockEnd :: rest)
      = .ok ((memberBares members).map Bare.event ++ [.mappingEnd], rest)

theorem node_scalar (plain : Bool) (text : List Char) (hfuel : 0 < fuel) :
    node handles true inner fuel (.scalar plain text :: rest)
      = .ok ([.scalar ⟨none, none⟩ plain text], rest) := by
  obtain ⟨fuel, rfl⟩ := Nat.exists_eq_add_one.mpr hfuel
  simp [node, readProperties]

/-- A node of one scalar. -/
theorem parses_scalar {v : Value} {plain : Bool} {text : List Char}
    (htokens : ∀ place, nodeTokens place v = [.scalar plain text])
    (hbares : nodeBares v = [.scalar plain text]) : Parses handles v := by
  intro inner place fuel rest hfuel hends
  rw [htokens, hbares]
  exact node_scalar plain text (by omega)

/-! ## Sequences -/

theorem parses_nil : Parses handles (.arr []) := by
  intro inner place fuel rest hfuel hends
  simp only [nodeTokens, List.length_cons, List.length_nil] at hfuel ⊢
  obtain ⟨fuel, rfl⟩ := Nat.exists_eq_add_of_le' (by omega : 2 ≤ fuel)
  simp [node, readProperties, flowItems, before, Except.map, nodeBares, itemBares, Bare.event]

theorem parsesItems_nil : ParsesItems handles [] := by
  intro fuel rest hfuel
  obtain ⟨fuel, rfl⟩ := Nat.exists_eq_add_one.mpr (by omega : 0 < fuel)
  refine ⟨rfl, fun hrest => ?_⟩
  cases rest with
  | nil => rfl
  | cons token rest => cases token <;> first | rfl | exact absurd rfl (hrest rest)

variable {item : Value} {items : List Value}

theorem parsesItems_cons (hitem : Parses handles item) (hitems : ParsesItems handles items) :
    ParsesItems handles (item :: items) := by
  intro fuel rest hfuel
  simp only [itemTokens, List.length_cons, List.length_append] at hfuel
  obtain ⟨fuel, rfl⟩ := Nat.exists_eq_add_one.mpr (by omega : 0 < fuel)
  have hnode : ∀ more, node handles true false fuel (nodeTokens .entry item ++ more)
      = .ok ((nodeBares item).map Bare.event, more) := fun more =>
    hitem false .entry fuel more (by omega) (absurd · (by decide))
  obtain ⟨hblock, hinner⟩ := hitems fuel rest (by omega)
  simp only [itemTokens, itemBares, List.cons_append, List.append_assoc, blockItems, innerItems,
    endsEntry_nodeTokens, hnode, List.map_append]
  refine ⟨?_, fun hrest => ?_⟩
  · simp [hblock, before, Except.map]
  · simp [hinner hrest, before, Except.map]

/-- **A sequence is taken with its entries**, at the column of its key without a beginning. -/
theorem parses_items (hitems : ParsesItems handles (item :: items)) :
    Parses handles (.arr (item :: items)) := by
  intro inner place fuel rest hfuel hends
  obtain ⟨fuel, rfl⟩ := Nat.exists_eq_add_one.mpr (by omega : 0 < fuel)
  by_cases hplace : place = .value
  · obtain ⟨rfl, hrest⟩ := hends hplace
    simp only [nodeTokens, if_pos hplace] at hfuel ⊢
    have hinner := (hitems fuel rest (by omega)).2 hrest
    simp only [itemTokens, List.cons_append, List.append_assoc] at hinner ⊢
    simp [node, readProperties, hinner, before, Except.map, nodeBares, Bare.event]
  · simp only [nodeTokens, if_neg hplace, List.length_cons, List.length_append] at hfuel ⊢
    have hblock := (hitems fuel rest (by omega)).1
    simp [node, readProperties, hblock, before, Except.map, nodeBares, Bare.event]

/-! ## Mappings -/

theorem parses_empty : Parses handles (.obj []) := by
  intro inner place fuel rest hfuel hends
  simp only [nodeTokens, List.length_cons, List.length_nil] at hfuel ⊢
  obtain ⟨fuel, rfl⟩ := Nat.exists_eq_add_of_le' (by omega : 2 ≤ fuel)
  simp [node, readProperties, flowPairs, before, Except.map, nodeBares, memberBares, Bare.event]

theorem parsesMembers_nil : ParsesMembers handles [] := by
  intro fuel rest hfuel
  obtain ⟨fuel, rfl⟩ := Nat.exists_eq_add_one.mpr (by omega : 0 < fuel)
  rfl

/-- The tokens behind the value of a key do not begin an entry of a sequence. -/
theorem ends_memberTokens (place : Place) (members : List (String × Value)) (rest : List Token) :
    Ends place true (memberTokens members ++ .blockEnd :: rest) := by
  refine fun _ => ⟨rfl, fun more => ?_⟩
  rcases members with - | ⟨member, members⟩
  · exact nofun
  · simp [memberTokens, Lexer.keyTokens]

variable {value : Value} {members : List (String × Value)}

theorem parsesMembers_cons (key : String) (hvalue : Parses handles value)
    (hmembers : ParsesMembers handles members) : ParsesMembers handles ((key, value) :: members) := by
  intro fuel rest hfuel
  simp only [memberTokens, Lexer.keyTokens, List.length_cons, List.length_append,
    List.length_nil] at hfuel
  obtain ⟨fuel, rfl⟩ := Nat.exists_eq_add_of_le' (by omega : 2 ≤ fuel)
  have hnode := hvalue true (Lexer.valuePlace key.toList) fuel _ (by omega)
    (ends_memberTokens _ members rest)
  have hpairs := hmembers fuel rest (by omega)
  have hkey : ∀ plain more, endsPart (.scalar plain key.toList :: more) = false := fun _ _ => rfl
  simp only [memberTokens, Lexer.keyTokens, memberBares, List.cons_append, List.append_assoc,
    List.nil_append, blockPairs, blockValue, hkey, node_scalar _ _ (Nat.succ_pos _),
    endsPart_nodeTokens, hnode, hpairs]
  simp [before, Except.map, Bare.event]

/-- **A mapping is taken with its entries.** -/
theorem parses_members {member : String × Value}
    (hmembers : ParsesMembers handles (member :: members)) :
    Parses handles (.obj (member :: members)) := by
  intro inner place fuel rest hfuel hends
  obtain ⟨fuel, rfl⟩ := Nat.exists_eq_add_one.mpr (by omega : 0 < fuel)
  simp only [nodeTokens, List.length_cons, List.length_append] at hfuel ⊢
  have hpairs := hmembers fuel rest (by omega)
  simp [node, readProperties, hpairs, before, Except.map, nodeBares, Bare.event]

end Grammar

mutual

/-- **The grammar takes the tokens of every value as its events.** -/
theorem parses (handles : Handles) : (v : Value) → Parses handles v
  | .null => parses_scalar (fun _ => rfl) rfl
  | .bool true => parses_scalar (fun _ => rfl) rfl
  | .bool false => parses_scalar (fun _ => rfl) rfl
  | .num _ => parses_scalar (fun _ => rfl) rfl
  | .str _ => parses_scalar (fun _ => rfl) rfl
  | .arr [] => parses_nil
  | .arr (item :: items) => parses_items (parsesItems handles (item :: items))
  | .obj [] => parses_empty
  | .obj (member :: members) => parses_members (parsesMembers handles (member :: members))

theorem parsesItems (handles : Handles) : (items : List Value) → ParsesItems handles items
  | [] => parsesItems_nil
  | item :: items => parsesItems_cons (parses handles item) (parsesItems handles items)

theorem parsesMembers (handles : Handles) :
    (members : List (String × Value)) → ParsesMembers handles members
  | [] => parsesMembers_nil
  | (key, value) :: members =>
    parsesMembers_cons key (parses handles value) (parsesMembers handles members)

end

/-- **The tokens of a value are a document of its events.** -/
theorem ofTokens_nodeTokens (v : Value) :
    ofTokens (nodeTokens .top v) = .ok ((nodeBares v).map Bare.event) := by
  have hnode := parses defaultHandles v false .top (4 * (nodeTokens .top v).length + 8) []
    (by omega) nofun
  obtain ⟨token, more, htokens, hopens⟩ := exists_opens .top v
  rw [List.append_nil] at hnode
  have hempty : (nodeTokens .top v).isEmpty = false := by rw [htokens]; rfl
  have hstart : startsPrologue (nodeTokens .top v) = false := by
    rw [htokens]
    cases token <;> first | rfl | exact hopens.elim
  simp only [ofTokens, hempty, hstart, hnode, bind, Except.bind]
  rfl

end Event

end SchemaForms.Yaml
