import SchemaForms.Proofs.Session.Inserting
import SchemaForms.Proofs.Session.Serving

/-!
# Proofs/Session/Naming — a block is found again by its name

The name of a block is its base with the suffix of its kind, and a document holds the base only.  So a
name comes back from an instance exactly if it follows this convention; any other name comes back with
one suffix more, and the block that is mounted is another one (`names_round_trip`).
-/

namespace SchemaForms

namespace Catalog

variable {name base : String} {category : Category}

/-- **The convention for names**: a base, which is not empty, and the suffix of the kind. -/
def Conventional (name : String) (category : Category) : Prop :=
  ∃ base, base ≠ "" ∧ name = blockName base category

theorem suffix_ne_empty (category : Category) : category.suffix ≠ "" := by
  cases category <;> decide

/-- A name with its suffix is another name. -/
theorem blockName_ne_self (base : String) (category : Category) :
    blockName base category ≠ base := by
  intro h
  have hchars := congrArg String.toList h
  rw [blockName, String.toList_append, List.append_right_eq_self, String.toList_eq_nil_iff] at hchars
  exact suffix_ne_empty category hchars

/-- **A base that got its suffix is found again.** -/
theorem baseName_blockName (hbase : base ≠ "") (category : Category) :
    baseName (blockName base category) category = base := by
  have htake : (blockName base category).toList.take
      ((blockName base category).toList.length - category.suffix.toList.length) = base.toList := by
    rw [blockName, String.toList_append, List.length_append, Nat.add_sub_cancel, List.take_left]
  have hlong : base.toList.isEmpty = false := by simpa using hbase
  unfold baseName
  dsimp only
  rw [htake, hlong, blockName, String.toList_append]
  simp

/-- A name that does not follow the convention stays. -/
theorem baseName_of_not_conventional (h : ¬ Conventional name category) :
    baseName name category = name := by
  unfold baseName
  dsimp only
  split
  · rename_i hsplit
    let front := name.toList.take (name.toList.length - category.suffix.toList.length)
    obtain ⟨hlong, happend⟩ : front ≠ [] ∧ front ++ category.suffix.toList = name.toList := by
      simpa [front] using hsplit
    refine absurd ⟨String.ofList front, by simpa using hlong, ?_⟩ h
    rw [← String.toList_inj, blockName, String.toList_append, String.toList_ofList, happend]
  · rfl

/-- The convention can be read off the base, which is another text than the name. -/
theorem conventional_iff : Conventional name category ↔ baseName name category ≠ name := by
  constructor
  · rintro ⟨base, hbase, rfl⟩ hsame
    rw [baseName_blockName hbase] at hsame
    exact blockName_ne_self base category hsame.symm
  · intro hne
    exact Classical.byContradiction fun h => hne (baseName_of_not_conventional h)

instance (name : String) (category : Category) : Decidable (Conventional name category) :=
  decidable_of_iff _ conventional_iff.symm

/-! ## Instances -/

/-- An instance names the block by its base, if there is one. -/
theorem nameFromInstance?_newInstance (definition : Definition) (category : Category) :
    nameFromInstance? (definition.newInstance category) category =
      if (baseName definition.name category).isEmpty then none
      else some (blockName (baseName definition.name category) category) := by
  have hmember : (definition.newInstance category).member? category.tag
      = some (.str (baseName definition.name category)) := by
    rw [Definition.newInstance, Value.member?, Table.get?, if_pos rfl]
  rw [nameFromInstance?, hmember]
  rfl

variable {definition : Definition}

/-- **A name that follows the convention comes back.** -/
theorem nameFromInstance?_of_conventional (h : Conventional definition.name category) :
    nameFromInstance? (definition.newInstance category) category = some definition.name := by
  obtain ⟨base, hbase, hname⟩ := h
  rw [nameFromInstance?_newInstance, hname, baseName_blockName hbase, if_neg]
  simpa using hbase

/-- **Any other name comes back with one suffix more.** -/
theorem nameFromInstance?_of_not_conventional (h : ¬ Conventional definition.name category)
    (hname : definition.name ≠ "") :
    nameFromInstance? (definition.newInstance category) category
      = some (definition.name ++ category.suffix) := by
  rw [nameFromInstance?_newInstance, baseName_of_not_conventional h, if_neg]
  · rfl
  · simpa using hname

/-- No block is named by an instance without a name. -/
theorem nameFromInstance?_of_empty (hname : definition.name = "") (category : Category) :
    nameFromInstance? (definition.newInstance category) category = none := by
  have hplain : ¬ Conventional definition.name category := by
    rw [hname]
    cases category <;> decide
  rw [nameFromInstance?_newInstance, baseName_of_not_conventional hplain, hname]
  rfl

/-- **A name comes back exactly if it follows the convention.** -/
theorem nameFromInstance?_eq_name_iff :
    nameFromInstance? (definition.newInstance category) category = some definition.name ↔
      Conventional definition.name category := by
  refine ⟨fun hback => Decidable.byContradiction fun h => ?_, nameFromInstance?_of_conventional⟩
  by_cases hname : definition.name = ""
  · rw [nameFromInstance?_of_empty hname] at hback
    cases hback
  · rw [nameFromInstance?_of_not_conventional h hname] at hback
    exact blockName_ne_self _ category (Option.some.inj hback)

end Catalog

namespace Session

open Catalog (Conventional Definition baseName blockName nameFromInstance?)

variable {session next : Session} {insertion : Insertion} {definition : Definition} {path : Path}

/-- An insertion puts the instance at the path that it answers with. -/
theorem value?_insertBlock (h : session.insertBlock insertion definition = .ok (path, next)) :
    next.value? path = some (definition.newInstance insertion.category) := by
  obtain ⟨placed, hplace, rfl⟩ := insertBlock_eq_ok h
  exact (placed_place hplace).get?

/-- **Names go there and back.**  A base that got the suffix of its kind is found again.  A definition
is named by its instance exactly if its name follows the convention; any other name comes back with one
suffix more, and an empty one not at all.  So a block that was inserted is mounted under its own name,
whenever that is, exactly if its name follows the convention. -/
theorem names_round_trip (category : Category) :
    (∀ base, base ≠ "" → baseName (blockName base category) category = base) ∧
    ∀ definition : Definition,
      let named := nameFromInstance? (definition.newInstance category) category
      (named = some definition.name ↔ Conventional definition.name category) ∧
      (definition.name ≠ "" → ¬ Conventional definition.name category →
        named = some (definition.name ++ category.suffix)) ∧
      (definition.name = "" → named = none) ∧
      ∀ (session next : Session) (target : Path) (isArray : Bool) (path : Path),
        session.insertBlock ⟨category, target, isArray⟩ definition = .ok (path, next) →
        ∀ later : Session, later.value? path = next.value? path →
          let mounted := (later.beginMount path (.block category)).2.blockName? path
          mounted = named ∧
            (mounted = some definition.name ↔ Conventional definition.name category) := by
  refine ⟨fun base hbase => Catalog.baseName_blockName hbase category, fun definition => ?_⟩
  intro named
  have hown : named = some definition.name ↔ Conventional definition.name category :=
    Catalog.nameFromInstance?_eq_name_iff
  refine ⟨hown, fun hname h => Catalog.nameFromInstance?_of_not_conventional h hname,
    fun hname => Catalog.nameFromInstance?_of_empty hname category, ?_⟩
  intro session next target isArray path hinsert later hlater mounted
  have hmounted : mounted = named := by
    have hvalue := hlater.trans (value?_insertBlock hinsert)
    exact (blockName?_beginMount later path (.block category)).trans (by rw [hvalue]; rfl)
  exact ⟨hmounted, hmounted ▸ hown⟩

/-- A name that repeats the suffix follows the convention, and the suffix alone does not: both are
mounted under the same name, which is that of the former. -/
theorem names_round_trip_repeated :
    let list := Path.root.child "actions"
    let session := ofDocument .default (.obj [("root", .obj [])])
    let repeated := Definition.named "ActionAction"
    let bare := Definition.named "Action"
    baseName (blockName "Action" .action) .action = "Action" ∧
    Conventional "ActionAction" .action ∧ ¬ Conventional "Action" .action ∧
    nameFromInstance? (bare.newInstance .action) .action = some ("Action" ++ "Action") ∧
    nameFromInstance? ((Definition.named "").newInstance .action) .action = none ∧
    (∃ next, session.insertBlock ⟨.action, list, true⟩ repeated = .ok (list.item 0, next) ∧
      (next.beginMount (list.item 0) (.block .action)).2.blockName? (list.item 0)
        = some "ActionAction") ∧
    ∃ next, session.insertBlock ⟨.action, list, true⟩ bare = .ok (list.item 0, next) ∧
      (next.beginMount (list.item 0) (.block .action)).2.blockName? (list.item 0)
        ≠ some "Action" := by
  intro list session repeated bare
  obtain ⟨hbase, hdefinition⟩ := names_round_trip .action
  have hrepeated : Conventional "ActionAction" .action := by decide
  have hbare : ¬ Conventional "Action" .action := by decide
  have hinserted : session.insertBlock ⟨.action, list, true⟩ repeated = .ok (list.item 0, _) := rfl
  have hinsertedBare : session.insertBlock ⟨.action, list, true⟩ bare = .ok (list.item 0, _) := rfl
  obtain ⟨-, -, -, hmounted⟩ := hdefinition repeated
  obtain ⟨-, hlonger, -, hmountedBare⟩ := hdefinition bare
  refine ⟨hbase "Action" (by decide), hrepeated, hbare, hlonger (by decide) hbare,
    (hdefinition (.named "")).2.2.1 rfl, ⟨_, hinserted, ?_⟩, _, hinsertedBare, ?_⟩
  · exact (hmounted _ _ _ _ _ hinserted _ rfl).2.mpr hrepeated
  · exact fun hown => hbare ((hmountedBare _ _ _ _ _ hinsertedBare _ rfl).2.mp hown)

end Session

end SchemaForms
