import SchemaForms.Proofs.Schema.Chains
import SchemaForms.Proofs.Schema.Pointers
import SchemaForms.Proofs.Schema.Proper

/-!
# Proofs/Schema/Definitions — references keep their meaning inside nested modules

The schema of an object inside a module is the root of the references inside it, in place of the
schema of the module.  It is made in one of two ways, and both carry the named fragments of the outer
root along (`sameDefinitions_nested`).  So what a reference into the named fragments leads to is the
same at any depth, and with it every chain of such references and its end
(`references_keep_their_meaning`).
-/

namespace SchemaForms.Schema

variable {root inner outer schema fragment object : Value} {keyword reference : String}
  {maxDepth : Nat}

/-! ## References into the named fragments -/

/-- A reference that leads through a keyword for named fragments. -/
def NamesDefinition (reference : String) : Prop :=
  ∃ keyword ∈ definitionKeywords, ("#/" ++ keyword ++ "/").toList <+: reference.toList

instance (reference : String) : Decidable (NamesDefinition reference) :=
  inferInstanceAs (Decidable (∃ keyword ∈ definitionKeywords, _ <+: _))

/-- Two roots with the same named fragments. -/
def SameDefinitions (a b : Value) : Prop :=
  ∀ keyword ∈ definitionKeywords, a.member? keyword = b.member? keyword

theorem SameDefinitions.trans (h : SameDefinitions inner outer) (h' : SameDefinitions outer root) :
    SameDefinitions inner root := fun keyword hkeyword =>
  (h keyword hkeyword).trans (h' keyword hkeyword)

/-- A keyword for named fragments is a member of the root, whatever the root is. -/
theorem step?_keyword (hkeyword : keyword ∈ definitionKeywords) (root : Value) :
    step? root (unescape keyword.toList) = root.member? keyword := by
  have hplain : ∀ keyword ∈ definitionKeywords, unescape keyword.toList = keyword.toList ∧
      Numeral.index? keyword.toList = none := by decide
  obtain ⟨hkey, hindex⟩ := hplain keyword hkeyword
  rw [hkey]
  cases root with
  | obj members => rw [step?, String.ofList_toList, Value.member?]
  | arr items => rw [step?, hindex]; rfl
  | _ => rfl

/-- **A reference into the named fragments depends on the root only by the keyword.** -/
theorem lookup_keyword (hkeyword : keyword ∈ definitionKeywords)
    (hleads : ("#/" ++ keyword ++ "/").toList <+: reference.toList) :
    ∃ rest, ∀ root, lookup reference root
      = .ok ((root.member? keyword).bind fun named => follow named rest) := by
  obtain ⟨rest, hrest⟩ := hleads
  have hpointer : pointer? reference = some (keyword.toList ++ '/' :: rest) := by
    rw [pointer?, ← hrest]
    simp
  have hslash : ∀ keyword ∈ definitionKeywords, '/' ∉ keyword.toList := by decide
  refine ⟨(rest.splitOn '/').map unescape, fun root => ?_⟩
  rw [lookup_of_pointer? hpointer (by simp),
    List.splitOn_append_cons_self_of_not_mem (hslash keyword hkeyword), List.map_cons, follow,
    List.foldlM_cons, step?_keyword hkeyword]
  rfl

/-- **Roots with the same named fragments agree on the references into them.** -/
theorem lookup_eq_of_sameDefinitions (h : SameDefinitions inner outer)
    (hnames : NamesDefinition reference) : lookup reference inner = lookup reference outer := by
  obtain ⟨keyword, hkeyword, hleads⟩ := hnames
  obtain ⟨rest, hlookup⟩ := lookup_keyword hkeyword hleads
  rw [hlookup, hlookup, h keyword hkeyword]

/-! ## Chains of such references -/

/-- A chain whose references all lead into the named fragments of the root. -/
def KeepsToDefinitions (root schema : Value) : Prop :=
  ∀ hops fragment reference, chain root schema hops = some fragment →
    reference? fragment = some reference → NamesDefinition reference

/-- A chain stays among fragments that do not lead out of them. -/
theorem keepsToDefinitions_of_closed {fragments : List Value} (hstart : schema ∈ fragments)
    (hnext : ∀ fragment ∈ fragments, ∀ target ∈ next? root fragment, target ∈ fragments)
    (hnames : ∀ fragment ∈ fragments, ∀ reference ∈ reference? fragment,
      NamesDefinition reference) : KeepsToDefinitions root schema := by
  have hamong : ∀ hops, ∀ fragment ∈ chain root schema hops, fragment ∈ fragments := by
    intro hops
    induction hops with
    | zero => exact fun fragment hfragment => Option.some.inj hfragment ▸ hstart
    | succ hops ih =>
      intro fragment hfragment
      obtain ⟨before, hbefore, hstep⟩ := Option.bind_eq_some_iff.mp hfragment
      exact hnext before (ih before hbefore) fragment hstep
  exact fun hops fragment reference hfragment hreference =>
    hnames fragment (hamong hops fragment hfragment) reference hreference

/-- Where roots agree on a reference, they agree on what a fragment leads to and where it ends. -/
theorem hop_eq (h : ∀ reference, reference? fragment = some reference →
    lookup reference inner = lookup reference outer) :
    next? inner fragment = next? outer fragment ∧ halt? inner fragment = halt? outer fragment := by
  unfold next? halt?
  cases hreference : reference? fragment with
  | none => exact ⟨rfl, rfl⟩
  | some reference => simp [h reference hreference]

section

variable (h : SameDefinitions inner outer) (hkeeps : KeepsToDefinitions outer schema)

include h hkeeps

/-- **Such a chain is the same in both roots.** -/
theorem chain_eq_of_sameDefinitions (hops : Nat) :
    chain inner schema hops = chain outer schema hops := by
  induction hops with
  | zero => rfl
  | succ hops ih =>
    rw [chain, chain, ih]
    cases hfragment : chain outer schema hops with
    | none => rfl
    | some fragment =>
      exact (hop_eq fun reference hreference =>
        lookup_eq_of_sameDefinitions h (hkeeps hops fragment reference hfragment hreference)).1

/-- **Such a chain comes to the same in both roots**, at every limit. -/
theorem resolve_eq_of_sameDefinitions (maxDepth : Nat) :
    resolve maxDepth schema inner = resolve maxDepth schema outer := by
  have hchain := chain_eq_of_sameDefinitions h hkeeps
  rw [resolve_eq_iff]
  rcases resolve_eq_iff.mp (rfl : resolve maxDepth schema outer = _) with
    ⟨n, hle, target, htarget, hhalt⟩ | ⟨target, htarget, hcycle⟩
  · refine .inl ⟨n, hle, target, (hchain n).trans htarget, ?_⟩
    exact (hop_eq fun reference hreference =>
      lookup_eq_of_sameDefinitions h (hkeeps n target reference htarget hreference)).2.trans hhalt
  · exact .inr ⟨target, (hchain _).trans htarget, hcycle⟩

end

/-! ## Schemas inside schemas -/

/-- A keyword that the overlay does not have is that of the base. -/
theorem get?_foldl_insert_of_eq_none {overlay : List (String × Value)} {key : String}
    (h : Table.get? overlay key = none) (base : List (String × Value)) :
    Table.get? (overlay.foldl (fun merged entry => Table.insert merged entry.1 entry.2) base) key
      = Table.get? base key := by
  induction overlay generalizing base with
  | nil => rfl
  | cons entry overlay ih =>
    obtain ⟨other, value⟩ := entry
    rw [Table.get?] at h
    split at h
    · cases h
    · rename_i hother
      rw [List.foldl_cons, ih h, Table.get?_insert, if_neg hother]

/-- **What is merged into a root keeps the root's named fragments**, if it has none of its own. -/
theorem sameDefinitions_merge (root : Value)
    (hown : ∀ keyword ∈ definitionKeywords, object.member? keyword = none) :
    SameDefinitions (merge root object) root := by
  intro keyword hkeyword
  have hnone : Table.get? (keywordsOf object) keyword = none :=
    (get?_keywordsOf object keyword).trans (hown keyword hkeyword)
  rw [← get?_keywordsOf root]
  exact get?_foldl_insert_of_eq_none hnone (keywordsOf root)

/-- **An object without declared keys takes the named fragments of the root along.** -/
theorem sameDefinitions_freeFormWithin (maxDepth : Nat) (additional : Additional) (root : Value) :
    SameDefinitions (freeFormWithin maxDepth additional root) root := by
  intro keyword hkeyword
  have hcases : keyword = "definitions" ∨ keyword = "$defs" := by
    simpa [definitionKeywords] using hkeyword
  change Table.get? (definitionsOf root ++ [("additionalProperties", _)]) keyword = _
  rcases hcases with rfl | rfl <;> cases hdefinitions : root.member? "definitions" <;>
    cases hdefs : root.member? "$defs" <;>
    simp [definitionsOf, definitionKeywords, Table.get?, hdefinitions, hdefs]

theorem sameDefinitions_nested (maxDepth : Nat) (shape : ObjectShape) (root : Value)
    (hown : ∀ keyword ∈ definitionKeywords, object.member? keyword = none) :
    SameDefinitions (nested maxDepth shape object root) root := by
  unfold nested
  split
  · exact sameDefinitions_freeFormWithin maxDepth shape.additional root
  · exact sameDefinitions_merge root hown

/-- **The schemas of the modules inside a module**, at any depth.  In each, a fragment that describes
an object, be it that of a key or that of the elements of a sequence, leads to the schema that
`Render.openField` and `Render.array` hand to a module further inside, as long as the object has no
named fragments of its own. -/
inductive Inside (maxDepth : Nat) (root : Value) : Value → Prop where
  | self : Inside maxDepth root root
  | deeper {outer fragment object : Value} {shape : ObjectShape}
      (houter : Inside maxDepth root outer)
      (hobject : resolve maxDepth fragment outer = .ok (some object))
      (hshape : Node.classify (some object) = .object shape)
      (hown : ∀ keyword ∈ definitionKeywords, object.member? keyword = none) :
      Inside maxDepth root (nested maxDepth shape object outer)

/-- **Every module inside a module has the named fragments of the outermost one.** -/
theorem Inside.sameDefinitions (h : Inside maxDepth root inner) : SameDefinitions inner root := by
  induction h with
  | self => exact fun _ _ => rfl
  | deeper _ _ _ hown ih => exact (sameDefinitions_nested maxDepth _ _ hown).trans ih

/-- **References keep their meaning inside nested modules.**  In the schema of a module at any depth
inside another, a fragment whose references all lead into the named fragments of the outermost schema
stands for what it stands for there, at every limit: for the same fragment, for nothing, or for the
same cycle; and it comes there along the same chain. -/
theorem references_keep_their_meaning (h : Inside maxDepth root inner)
    (hkeeps : KeepsToDefinitions root schema) (limit : Nat) :
    resolve limit schema inner = resolve limit schema root ∧
      ∀ hops, chain inner schema hops = chain root schema hops :=
  ⟨resolve_eq_of_sameDefinitions h.sameDefinitions hkeeps limit,
    chain_eq_of_sameDefinitions h.sameDefinitions hkeeps⟩

/-- A list of rules, each with labels under any keys: the labels of a rule are a module inside a
module of the root.  What is looked up there is a flag by way of another name, nothing, and a name
that goes round. -/
theorem references_keep_their_meaning_around :
    let reference (pointer : String) : Value := .obj [("$ref", .str pointer)]
    let flag : Value := .obj [("type", .str "boolean")]
    let labels : Value := .obj [("additionalProperties", reference "#/definitions/alias")]
    let rule : Value := .obj [("properties", .obj [("labels", labels)])]
    let root : Value := .obj [
      ("properties", .obj [("rules", .obj [("items", reference "#/definitions/rule")])]),
      ("definitions", .obj [("rule", rule), ("alias", reference "#/$defs/flag"),
        ("left", reference "#/$defs/right")]),
      ("$defs", .obj [("flag", flag), ("right", reference "#/definitions/left")])]
    ∃ inner, Inside 4 root inner ∧
      inner.member? "additionalProperties" = some flag ∧
      resolve 4 (reference "#/definitions/alias") inner = .ok (some flag) ∧
      resolve 4 (reference "#/definitions/none") inner = .ok none ∧
      resolve 4 (reference "#/definitions/left") inner = .error (.cycle "#/$defs/right" 4) := by
  intro reference flag labels rule root
  have hrule : resolve 4 (reference "#/definitions/rule") root = .ok (some rule) := rfl
  have hinRule : Inside 4 root (merge root rule) := .deeper .self hrule rfl (by decide)
  have hlabels : resolve 4 labels (merge root rule) = .ok (some labels) := rfl
  have hinLabels := Inside.deeper hinRule hlabels rfl (by decide)
  -- None of these fragments leads out of them, though two lead to each other.
  let fragments := [reference "#/definitions/alias", reference "#/definitions/none",
    reference "#/definitions/left", reference "#/$defs/right", reference "#/$defs/flag", flag]
  have hkeeps : ∀ schema ∈ fragments, KeepsToDefinitions root schema := fun schema hschema =>
    keepsToDefinitions_of_closed hschema (by decide +kernel) (by decide +kernel)
  refine ⟨_, hinLabels, rfl, ?_, ?_, ?_⟩
  · rw [(references_keep_their_meaning hinLabels (hkeeps _ (by simp [fragments])) 4).1]
    rfl
  · rw [(references_keep_their_meaning hinLabels (hkeeps _ (by simp [fragments])) 4).1]
    rfl
  · rw [(references_keep_their_meaning hinLabels (hkeeps _ (by simp [fragments])) 4).1]
    rfl

end SchemaForms.Schema
