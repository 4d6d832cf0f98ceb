import SchemaForms.Proofs.Render.Modules

/-!
# Proofs/Render/Fields — every rendering is sound

The elements of a sequence are modules at different indices, and a field is at most one module.  So
a field is sound beneath the module that it belongs to, whatever levels are left (`sound_field`);
the induction is on these levels.
-/

namespace SchemaForms.Render

open Schema (Node Proper)
open Session (Hosted)
open Value (Regular)

variable {setting : Setting} {depth : Nat} {region : Path → Prop} {registry : Registry}
  {base steps : Path} {host : Value}

/-! ## Widgets that are no modules -/

namespace Setting

theorem allGood_leaf {widget : Widget} (hlevels : widget.levels depth = [(depth, widget)])
    (hgood : setting.Good region registry depth widget) :
    setting.AllGood region registry depth widget := by
  intro entry hentry
  rw [hlevels] at hentry
  obtain rfl := List.mem_singleton.mp hentry
  exact hgood

theorem allGood_scalar (kind : Primitive) (options : Option (List String)) (path : Path)
    (value : Option Value) :
    setting.AllGood region registry depth (scalar kind options path value) := by
  cases kind <;> cases options <;> exact allGood_leaf rfl trivial

/-- A list is as it should be if its elements are. -/
theorem allGood_list {widget : Widget} {items : List Widget}
    (hlevels : widget.levels depth = (depth, widget) :: Widget.levelsOfItems depth items)
    (hgood : setting.Good region registry depth widget)
    (h : ∀ item ∈ items, setting.AllGood region registry depth item) :
    setting.AllGood region registry depth widget := by
  intro entry hentry
  rw [hlevels] at hentry
  rcases List.mem_cons.mp hentry with rfl | hbelow
  · exact hgood
  · obtain ⟨item, hitem, hentry⟩ := Widget.mem_levelsOfItems.mp hbelow
    exact h item hitem entry hentry

theorem allGood_filledSlot {block : Widget} (path : Path) (category : Category)
    (h : setting.AllGood region registry depth block) :
    setting.AllGood region registry depth (.filledSlot path category block) := by
  intro entry hentry
  rcases List.mem_cons.mp hentry with rfl | hbelow
  · trivial
  · exact h entry hbelow

end Setting

/-- A rendering of a single widget that is no module is sound. -/
theorem sound_widget (region : Path → Prop) (h : setting.Keeps registry) {widget : Widget}
    (hgood : setting.AllGood region registry depth widget) :
    Sound setting depth region (fun widget => [widget]) (pure widget) registry :=
  sound_pure region h fun other hother => by
    obtain rfl := List.mem_singleton.mp hother
    exact hgood

/-! ## Sequences -/

/-- The place of a module with a given subject. -/
def Subject.place : Subject → Place
  | .object schema _ => .inline schema
  | .block category _ => .block category

theorem placed_of_placeAt {path : Path} {title : Option String} {subject : Subject}
    {removable : Bool}
    (hbase : Path.Rooted base) (hhost : registry.cache.peek? base = some host)
    (hplace : placeAt setting.view.maxRefDepth host steps = some (Subject.place subject))
    (hproper : ∀ schema isItem, subject = .object schema isItem → Proper schema)
    (hpath : path = base ++ steps) : setting.Placed registry ⟨title, path, subject, removable⟩ := by
  have hhosted : Hosted setting.view.maxRefDepth registry path (Subject.place subject) :=
    ⟨base, steps, host, hpath, hbase, hhost, hplace⟩
  cases subject with
  | object schema isItem => exact ⟨hproper schema isItem rfl, .inr hhosted⟩
  | block category given => exact hhosted

theorem beneath_item {path : Path} {i : Nat} (h : (base ++ steps).item i <+: path) :
    Beneath base steps path := by
  have hbelow : Beneath base (steps ++ [.index i]) path := by
    refine beneath_of_le_append (by simp) ?_
    rw [← List.append_assoc]
    exact h
  exact ⟨(List.prefix_append _ _).trans h, hbelow.2⟩

section

variable (hnext : SoundField setting (depth + 1) (setting.fieldAt depth))
  (hdocument : Regular setting.view.document) (h : setting.Keeps registry) (hbase : Path.Rooted base)
  (hhost : registry.cache.peek? base = some host) (hpath : Path.Rooted (base ++ steps))

include hnext hdocument h hbase hhost hpath

/-- **The modules of a sequence are sound** beneath the module that holds the sequence. -/
theorem sound_itemModules (key : String) {subject : Subject}
    (hplace : ∀ i, placeAt setting.view.maxRefDepth host (steps ++ [.index i])
      = some (Subject.place subject))
    (hproper : ∀ schema isItem, subject = .object schema isItem → Proper schema) :
    Sound setting depth (Beneath base steps) (fun items => items.flatMap fun item => [item])
      (itemModules setting.view (setting.fieldAt depth) key (base ++ steps) subject) registry := by
  let indices := List.range (itemCount setting.view (base ++ steps))
  have hdisjoint : indices.Pairwise fun i j => ∀ path, (base ++ steps).item i <+: path →
      ¬ (base ++ steps).item j <+: path := by
    refine List.nodup_range.imp fun {i j} hne path hi hj => ?_
    have hsame : (base ++ steps).item i = (base ++ steps).item j :=
      (List.prefix_of_prefix_length_le hi hj (by simp [Path.item])).eq_of_length (by simp [Path.item])
    exact hne (Segment.index.inj (List.cons.inj (List.append_cancel_left hsame)).1)
  have hitem : ∀ i ∈ indices, ∀ registry, setting.Keeps registry →
      registry.cache.peek? base = some host →
        Sound setting depth (fun path => (base ++ steps).item i <+: path) (fun item => [item])
          (module setting.view (setting.fieldAt depth)
            ⟨some s!"{key}[{i}]", (base ++ steps).item i, subject, true⟩) registry := by
    intro i hi registry h hhost
    have hword := lt_of_lt_itemCount hdocument (List.mem_range.mp hi)
    exact sound_module ⟨_, (base ++ steps).item i, subject, true⟩ hnext hdocument
      (rooted_item hpath hword) h
      (placed_of_placeAt hbase hhost (hplace i) hproper (List.append_assoc _ _ _))
  refine (sound_mapM hbase indices (fun i _ => downward_le ((base ++ steps).item i))
    (fun i _ hbelow => ?_) hdisjoint hitem registry h hhost).mono ?_
  · exact not_beneath_self base steps (beneath_item hbelow)
  · rintro path ⟨i, -, hbelow⟩
    exact beneath_item hbelow

/-- **A list of modules is sound**, too. -/
theorem sound_moduleList (key : String) (subject : Subject)
    (hplace : ∀ i, placeAt setting.view.maxRefDepth host (steps ++ [.index i])
      = some (Subject.place subject))
    (hproper : ∀ schema isItem, subject = .object schema isItem → Proper schema)
    (list : List Widget → Widget)
    (hlevels : ∀ items, (list items).levels depth
      = (depth, list items) :: Widget.levelsOfItems depth items)
    (hgood : ∀ items registry, setting.Good (Beneath base steps) registry depth (list items)) :
    Sound setting depth (Beneath base steps) (fun widget => [widget])
      (itemModules setting.view (setting.fieldAt depth) key (base ++ steps) subject >>= fun items =>
        pure (list items)) registry := by
  have hitems := sound_itemModules hnext hdocument h hbase hhost hpath key hplace hproper
  refine hitems.map list fun items hall widget hwidget => ?_
  obtain rfl := List.mem_singleton.mp hwidget
  exact Setting.allGood_list (hlevels items) (hgood items _) fun item hitem =>
    hall item (List.mem_flatMap.mpr ⟨item, hitem, List.mem_singleton_self _⟩)

/-- **The control for a sequence is sound** beneath the module that holds the sequence. -/
theorem sound_array (key : String) {items : Option Value} (hregular : Regular (items.getD .null))
    (hitem : ∀ i place, placeOf setting.view.maxRefDepth host (items.getD .null) = some place →
      placeAt setting.view.maxRefDepth host (steps ++ [.index i]) = some place) :
    Sound setting depth (Beneath base steps) (fun widget => [widget])
      (array setting.view (setting.fieldAt depth) key items host (base ++ steps)) registry := by
  unfold array
  dsimp only
  split
  · rename_i category hclass
    have hplace := placeOf_of_block hclass
    exact sound_moduleList hnext hdocument h hbase hhost hpath key (.block category none)
      (fun i => hitem i _ hplace) (fun schema isItem hsubject => by cases hsubject)
      (.blockList _ category) (fun _ => rfl) fun _ _ => trivial
  · refine sound_widget _ h (Setting.allGood_list rfl trivial fun item hmem => ?_)
    obtain ⟨i, -, rfl⟩ := List.mem_map.mp hmem
    exact Setting.allGood_scalar _ _ _ _
  · rename_i shape hclass
    have hplace := placeOf_of_object hclass
    have hproper := proper_of_placeOf (h.proper hbase hhost) hregular hplace
    refine sound_moduleList hnext hdocument h hbase hhost hpath key (.object _ true)
      (fun i => hitem i _ hplace) (fun schema isItem hsubject => ?_) (.objectList _ _) (fun _ => rfl)
      fun _ _ => trivial
    obtain ⟨rfl, -⟩ := Subject.object.inj hsubject
    exact hproper
  · exact sound_widget _ h (Setting.allGood_leaf rfl trivial)
  · exact sound_widget _ h (Setting.allGood_leaf rfl trivial)

/-! ## Fields -/

/-- **A module that a fragment asks for is sound** beneath the module that the fragment belongs
to. -/
theorem sound_fieldModule {fragment : Value} (title : Option String) (subject : Subject)
    (removable : Bool) (hcovers : Covers setting.view.maxRefDepth host steps fragment)
    (hplace : placeOf setting.view.maxRefDepth host fragment = some (Subject.place subject)) :
    Sound setting depth (Beneath base steps) (fun widget => [widget])
      (module setting.view (setting.fieldAt depth) ⟨title, base ++ steps, subject, removable⟩)
      registry := by
  have hself := hcovers.self _ hplace
  have hproper : ∀ schema isItem, subject = .object schema isItem → Proper schema := by
    rintro schema isItem rfl
    exact proper_of_placeOf (h.proper hbase hhost) hcovers.regular hplace
  have hmodule := sound_module ⟨title, base ++ steps, subject, removable⟩ hnext hdocument hpath h
    (placed_of_placeAt hbase hhost hself hproper rfl)
  -- A fragment that is a module leads away from the module that it belongs to.
  exact hmodule.mono fun path hle => beneath_of_le_append (Session.steps_ne_nil hself) hle

end

/-- **The control for a fragment is sound**, if those of the next level are. -/
theorem sound_openField (hnext : SoundField setting (depth + 1) (setting.fieldAt depth))
    (hdocument : Regular setting.view.document) :
    SoundField setting depth (openField setting.view (setting.fieldAt depth)) := by
  intro registry base steps host fragment key h hbase hhost hpath hcovers
  unfold openField
  dsimp only
  split
  · exact sound_widget _ h (Setting.allGood_leaf rfl trivial)
  · rename_i resolved hresolved
    have htarget : target? setting.view.maxRefDepth host fragment = resolved := by
      rw [target?, hresolved]
      rfl
    subst htarget
    split
    · rename_i items hclass
      have hregular := regular_items (h.proper hbase hhost).regular hcovers.regular hclass
      refine sound_array hnext hdocument h hbase hhost hpath key hregular fun i place hplace => ?_
      refine hcovers.item i place ?_
      rw [itemPlaceOf, hclass]
      exact hplace
    · rename_i category hclass
      split
      · exact sound_widget _ h (Setting.allGood_leaf rfl trivial)
      · have hblock := sound_fieldModule hnext hdocument h hbase hhost hpath (some key)
          (.block category none) true hcovers (placeOf_of_block hclass)
        refine hblock.map _ fun block hgood widget hwidget => ?_
        obtain rfl := List.mem_singleton.mp hwidget
        exact Setting.allGood_filledSlot _ _ (hgood block (List.mem_singleton_self _))
    · rename_i shape hclass
      exact sound_fieldModule hnext hdocument h hbase hhost hpath (some key) (.object _ false) false
        hcovers (placeOf_of_object hclass)
    · exact sound_widget _ h (Setting.allGood_scalar _ _ _ _)
    · exact sound_widget _ h (Setting.allGood_leaf rfl trivial)

/-- **Every field is sound**, whatever levels are left. -/
theorem sound_field (hdocument : Regular setting.view.document) (depth : Nat) :
    SoundField setting (depth + 1) (setting.fieldAt depth) := by
  refine Setting.fieldAt_induction (motive := fun depth => SoundField setting (depth + 1))
    (fun depth => ?_) (fun depth hnext => sound_openField hnext hdocument) depth
  intro registry base steps host fragment key h hbase hhost hpath hcovers
  exact sound_widget _ h (Setting.allGood_leaf rfl trivial)

end SchemaForms.Render
