import SchemaForms.Proofs.Path.Collisions
import SchemaForms.Proofs.Session.TextModes
import SchemaForms.Proofs.Store.Edits

/-!
# Proofs/Session/OpenTexts — what an open text stands for

An editor in a text mode holds the text of a value.  Nothing renews it when the value is written by
another way, so that it stands for the document only as long as none of three things happens
(`Disturbs`): the value is written by another way, a keystroke is refused by the document, or the text
was written out of a value that it does not read as.  Each of them, when it happens, leaves the text
behind; a keystroke that is taken over, or the text mode opened anew, brings the two together again.
-/

namespace SchemaForms

namespace EditorState

variable {state : EditorState} {value : Option Value}

/-- **The text stands for a value**: it reads as the value, or a complaint says that it cannot be read.
A form stands for whatever there is. -/
def StandsFor (state : EditorState) (value : Option Value) : Prop :=
  ∀ format, state.mode = .text format →
    match format.read state.text with
    | .ok found => found = value.getD .null
    | .error _ => state.parseError ≠ none

/-- The text was written out of a value and does not read as it, without a complaint. -/
def Illegible (state : EditorState) (value : Option Value) : Prop :=
  ∃ format, state.mode = .text format ∧ state.text = format.write (value.getD .null) ∧
    state.parseError = none ∧ format.read state.text ≠ .ok (value.getD .null)

theorem standsFor_of_structured (h : state.mode = .structured) (value : Option Value) :
    state.StandsFor value := fun _ hmode => absurd (h.symm.trans hmode) nofun

/-- A text stands for what it reads as. -/
theorem standsFor_of_read {format : Format} {found : Value} (hmode : state.mode = .text format)
    (hread : format.read state.text = .ok found) :
    state.StandsFor value ↔ found = value.getD .null := by
  constructor
  · intro h
    have hstands := h format hmode
    rwa [hread] at hstands
  · intro hfound other hother
    obtain rfl := EditMode.text.inj (hmode.symm.trans hother)
    simpa only [hread] using hfound

/-- A text with a complaint about it stands for anything. -/
theorem standsFor_of_unread {format : Format} {e : ParseError} (hmode : state.mode = .text format)
    (hread : format.read state.text = .error e) (herror : state.parseError ≠ none) :
    state.StandsFor value := by
  intro other hother
  obtain rfl := EditMode.text.inj (hmode.symm.trans hother)
  simpa only [hread] using herror

/-- A text without a complaint reads as the value that it stands for. -/
theorem StandsFor.read_eq (h : state.StandsFor value) {format : Format}
    (hmode : state.mode = .text format) (hquiet : state.parseError = none) :
    format.read state.text = .ok (value.getD .null) := by
  have hread := h format hmode
  split at hread
  · rename_i found hfound
    rw [hfound, hread]
  · exact absurd hquiet hread

theorem Illegible.not_standsFor (h : state.Illegible value) : ¬ state.StandsFor value := by
  obtain ⟨format, hmode, -, hquiet, hread⟩ := h
  exact fun hstands => hread (hstands.read_eq hmode hquiet)

/-- The text stands for a value, or was at least written out of it. -/
def Carries (state : EditorState) (value : Option Value) : Prop :=
  state.StandsFor value ∨ state.Illegible value

/-- A text that is taken from a value stands for it, if it can be read. -/
theorem carries_enterText (state : EditorState) (format : Format) (value : Option Value) :
    (state.enterText format value).Carries value := by
  by_cases hread : format.read (format.write (value.getD .null)) = .ok (value.getD .null)
  · left
    rintro _ ⟨⟩
    simp only [enterText, hread]
  · exact .inr ⟨format, rfl, rfl, rfl, hread⟩

theorem carries_showAs (state : EditorState) (mode : EditMode) (value : Option Value) :
    (Session.showAs state mode value).Carries value := by
  cases mode with
  | structured => exact .inl (standsFor_of_structured rfl value)
  | text format => exact carries_enterText state format value

/-- A text stands for null as it does for nothing. -/
theorem Carries.of_getD_eq {other : Option Value} (h : state.Carries value)
    (heq : value.getD .null = other.getD .null) : state.Carries other := by
  simpa only [Carries, StandsFor, Illegible, heq] using h

theorem Carries.informed (h : state.Carries value) (outcome : LoadOutcome) :
    (Session.informed state value outcome).Carries value := by
  cases outcome with
  | error e => exact carries_enterText _ _ _
  | ok found =>
    cases found with
    | none => exact carries_enterText _ _ _
    | some schema => exact h

end EditorState

open EditorState

namespace Session

variable {session before after : Session} {path : Path}

/-- The editor at a path stands for the value there. -/
def InStep (session : Session) (path : Path) : Prop :=
  (session.editorAt path).StandsFor (session.value? path)

/-! ## Mounts and hydrations -/

/-- The value at a path is this one, and the editor there carries it. -/
def Shows (path : Path) (value : Option Value) (session : Session) : Prop :=
  session.value? path = value ∧ (session.editorAt path).Carries value

theorem shed_carries (path : Path) (value : Option Value) :
    Shed fun registry => (registry.stateAt path).Carries value where
  drop doomed h := by
    rw [Registry.stateAt, Registry.editor?_dropWhere]
    split
    · exact .inl (standsFor_of_structured rfl value)
    · exact h
  cache _ h := h

/-- **Mounts and hydrations leave the value alone**, and the text, or take it from the value. -/
theorem upheld_shows (hown : path.Unmistakable) (value : Option Value) :
    Upheld (Shows path value) where
  cache _ h := h
  record {session} other descriptor name h := by
    refine ⟨h.1, ?_⟩
    change ((session.setEditor other _).editorAt path).Carries value
    rw [editorAt_setEditor]
    split
    · rename_i hkey
      obtain rfl := hown other hkey
      exact h.2
    · exact h.2
  inform {session} other outcome h := by
    refine ⟨h.1, ?_⟩
    rw [editorAt_setEditor]
    split
    · rename_i hkey
      obtain rfl := hown other hkey
      rw [h.1]
      exact h.2.informed outcome
    · exact h.2
  render other h := ⟨h.1, (shed_carries path value).render other h.2⟩

/-! ## Falling behind -/

/-- **The value is written by another way**, and the text that stood for it stays. -/
structure Overtaken (before after : Session) (path : Path) : Prop where
  state : after.editorAt path = before.editorAt path
  reads : ∃ format found, (before.editorAt path).mode = .text format ∧
    format.read (before.editorAt path).text = .ok found
  value : (after.value? path).getD .null ≠ (before.value? path).getD .null

/-- An editor that goes on as it was is in step, unless its value was written by another way. -/
theorem inStep_or_overtaken (h : before.InStep path)
    (hsame : after.editorAt path = before.editorAt path) :
    after.InStep path ∨ Overtaken before after path := by
  by_cases hvalue : (after.value? path).getD .null = (before.value? path).getD .null
  · left
    intro format hmode
    have hread := h format (hsame ▸ hmode)
    rw [hsame, hvalue]
    exact hread
  by_cases hreads : ∃ format found, (before.editorAt path).mode = .text format ∧
      format.read (before.editorAt path).text = .ok found
  · exact .inr ⟨hsame, hreads, hvalue⟩
  · left
    intro format hmode
    rw [hsame] at hmode ⊢
    have hread := h format hmode
    cases hfound : format.read (before.editorAt path).text with
    | ok found => exact absurd ⟨format, found, hmode, hfound⟩ hreads
    | error e => rwa [hfound] at hread

theorem Overtaken.not_inStep (h : Overtaken before after path) (hbefore : before.InStep path) :
    ¬ after.InStep path := by
  intro hafter
  obtain ⟨hsame, ⟨format, found, hmode, hfound⟩, hvalue⟩ := h
  have hold := hbefore format hmode
  have hnew := hafter format (hsame ▸ hmode)
  rw [hsame] at hnew
  rw [hfound] at hold hnew
  exact hvalue (hnew.symm.trans hold)

/-- **A keystroke is refused by the document**, though it can be read, and as another value than the
one that is there. -/
structure Balks (session : Session) (path : Path) (text : String) : Prop where
  reads : ∃ format found, (session.editorAt path).mode = .text format ∧
    format.read text = .ok found ∧ found ≠ (session.value? path).getD .null
  refused : ∃ e, (session.inputText path text).2 = .error (.store e)

/-! ## Actions -/

theorem value?_write {value : Value} {next : Session} (h : session.write path value = .ok next) :
    next.value? path = some value := by
  obtain ⟨-, rfl⟩ := write_eq_ok.mp h
  exact Document.read?_write_self _ _ _

/-- An action beside the text leaves the editor as it was, or drops it. -/
theorem inStep_act {action : Action} (hkeys : ∀ typed text, action ≠ .inputText typed text)
    (hmodes : ∀ switched mode, action ≠ .switchMode switched mode) (h : session.InStep path) :
    (session.act action).InStep path ∨ Overtaken session (session.act action) path := by
  have hshed : Shed fun registry => registry.stateAt path = session.editorAt path ∨
      registry.stateAt path = .initial :=
    { drop := fun {registry} doomed hkept => by
        rw [Registry.stateAt, Registry.editor?_dropWhere]
        split
        · exact .inr rfl
        · exact hkept
      cache := fun _ hkept => hkept }
  have hnow : session.registry.stateAt path = session.editorAt path ∨
      session.registry.stateAt path = .initial := .inl rfl
  rcases hshed.act action hkeys hmodes hnow with hsame | hdropped
  · exact inStep_or_overtaken h hsame
  · left
    intro format hmode
    exact standsFor_of_structured (congrArg EditorState.mode hdropped) _ format hmode

theorem inStep_setEditor {state : EditorState} :
    (session.setEditor path state).InStep path ↔ state.StandsFor (session.value? path) := by
  rw [InStep, editorAt_setEditor, if_pos rfl]
  rfl

/-- **A keystroke that is taken over** brings text and document together. -/
theorem inStep_of_taken {text : String} (h : (session.inputText path text).2 = .ok ()) :
    (session.inputText path text).1.InStep path := by
  have hkeystroke := keystroke_inputText session path text
  generalize session.inputText path text = result at h hkeystroke
  cases hkeystroke with
  | idle hmode => exact inStep_setEditor.mpr (standsFor_of_structured hmode _)
  | unread | refused => exact absurd h nofun
  | @taken format value next hmode hread hwrite =>
    have hstands : StandsFor { session.editorAt path with
        text := text, parseError := none, baseline := some text } (some value) ↔ value = value :=
      standsFor_of_read hmode hread
    rw [inStep_setEditor, value?_write hwrite, hstands]

/-- **A keystroke** leaves the editor in step, unless the document refuses it. -/
theorem inStep_inputText_iff (h : session.InStep path) (text : String) :
    (session.inputText path text).1.InStep path ↔ ¬ Balks session path text := by
  have hkeystroke := keystroke_inputText session path text
  generalize hresult : session.inputText path text = result at hkeystroke
  cases hkeystroke with
  | idle hmode =>
    refine iff_of_true (inStep_setEditor.mpr h) fun hbalks => ?_
    obtain ⟨format, found, hformat, -⟩ := hbalks.reads
    exact absurd (hmode.symm.trans hformat) nofun
  | @unread format e hmode hread =>
    refine iff_of_true (inStep_setEditor.mpr (standsFor_of_unread hmode hread nofun)) fun hbalks => ?_
    obtain ⟨other, found, hformat, hok, -⟩ := hbalks.reads
    obtain rfl := EditMode.text.inj (hmode.symm.trans hformat)
    exact absurd (hread.symm.trans hok) nofun
  | @refused format value hmode hread e =>
    have hstands : StandsFor { session.editorAt path with text := text } (session.value? path) ↔
        value = (session.value? path).getD .null := standsFor_of_read hmode hread
    rw [inStep_setEditor, hstands]
    constructor
    · rintro rfl hbalks
      obtain ⟨other, found, hformat, hok, hne⟩ := hbalks.reads
      obtain rfl := EditMode.text.inj (hmode.symm.trans hformat)
      exact hne (Except.ok.inj (hok.symm.trans hread))
    · intro hnot
      refine Classical.byContradiction fun hne => hnot ⟨⟨format, value, hmode, hread, hne⟩, e, ?_⟩
      rw [hresult]
  | taken =>
    have htaken : (session.inputText path text).2 = .ok () := by rw [hresult]
    refine iff_of_true (hresult ▸ inStep_of_taken htaken) fun hbalks => ?_
    obtain ⟨e, he⟩ := hbalks.refused
    exact absurd (htaken.symm.trans he) nofun

/-- A switch elsewhere leaves an editor as it was. -/
theorem editorAt_switchMode_of_ne {switched : Path} (hkey : switched.key ≠ path.key)
    (mode : EditMode) :
    (session.switchMode switched mode).1.editorAt path = session.editorAt path := by
  have hswitch := switch_switchMode session switched mode
  generalize session.switchMode switched mode = result at hswitch ⊢
  cases hswitch with
  | stays | opened | unread | kept => rw [editorAt_setEditor, if_neg hkey]
  | refused => rfl
  | written hmode hread hbaseline hwrite =>
    rw [editorAt_setEditor, if_neg hkey, editorAt, editor?, (edited_write hwrite).registry]
    rfl

/-- **A switch** leaves the editor in step, or with a text that does not read as the value. -/
theorem inStep_switchMode_self (h : session.InStep path) (mode : EditMode) :
    (session.switchMode path mode).1.InStep path ∨
      ((session.switchMode path mode).1.editorAt path).Illegible
        ((session.switchMode path mode).1.value? path) := by
  have hshown : ∀ (next : Session) (state : EditorState), state.Carries (next.value? path) →
      (next.setEditor path state).InStep path ∨
        ((next.setEditor path state).editorAt path).Illegible
          ((next.setEditor path state).value? path) := by
    intro next state hcarries
    rw [inStep_setEditor, editorAt_setEditor, if_pos rfl]
    exact hcarries
  have hswitch := switch_switchMode session path mode
  generalize session.switchMode path mode = result at hswitch ⊢
  cases hswitch with
  | stays => exact .inl (inStep_setEditor.mpr h)
  | opened => exact hshown _ _ (carries_showAs _ _ _)
  | unread hmode hread =>
    exact .inl (inStep_setEditor.mpr (standsFor_of_unread hmode hread nofun))
  | @kept format value hmode hread =>
    have hvalue : value = (session.value? path).getD .null := (standsFor_of_read hmode hread).mp h
    exact hshown _ _ ((carries_showAs _ mode (some value)).of_getD_eq hvalue)
  | refused => exact .inl h
  | written hmode hread hbaseline hwrite =>
    refine hshown _ _ ?_
    rw [value?_write hwrite]
    exact carries_showAs _ _ _

/-- An action leaves the editor in step, or its text behind. -/
theorem inStep_act_cases (hown : path.Unmistakable) (h : session.InStep path) (action : Action) :
    (session.act action).InStep path ∨ Overtaken session (session.act action) path ∨
      (∃ text, action = .inputText path text ∧ Balks session path text) ∨
      ((session.act action).editorAt path).Illegible ((session.act action).value? path) := by
  by_cases hkeys : ∃ typed text, action = .inputText typed text
  · obtain ⟨typed, text, rfl⟩ := hkeys
    by_cases hkey : typed.key = path.key
    · obtain rfl := hown typed hkey
      by_cases hbalks : Balks session typed text
      · exact .inr (.inr (.inl ⟨text, rfl, hbalks⟩))
      · exact .inl ((inStep_inputText_iff h text).mpr hbalks)
    · exact (inStep_or_overtaken h (editorAt_inputText_of_ne hkey text)).imp_right .inl
  by_cases hmodes : ∃ switched mode, action = .switchMode switched mode
  · obtain ⟨switched, mode, rfl⟩ := hmodes
    by_cases hkey : switched.key = path.key
    · obtain rfl := hown switched hkey
      exact (inStep_switchMode_self h mode).imp_right fun hillegible => .inr (.inr hillegible)
    · exact (inStep_or_overtaken h (editorAt_switchMode_of_ne hkey mode)).imp_right .inl
  · exact (inStep_act (fun typed text heq => hkeys ⟨typed, text, heq⟩)
      (fun switched mode heq => hmodes ⟨switched, mode, heq⟩) h).imp_right .inl

end Session

namespace Mounts

open Session (InStep)

variable {σ : Type} {source : Catalog.Source σ} {path : Path} {before after : Session}
  {request : Request}

/-- **What leaves an open text behind**: its value is written by another way, the document refuses a
keystroke in it, or it is taken from a value that it does not read as. -/
inductive Disturbs (path : Path) (before after : Session) : Request → Prop where
  | overtaken (request : Request) (h : Session.Overtaken before after path) :
      Disturbs path before after request
  | balked {text : String} (h : Session.Balks before path text) :
      Disturbs path before after (.type path text)
  | illegible (request : Request) (h : (after.editorAt path).Illegible (after.value? path)) :
      Disturbs path before after request

/-- **One request**: an editor that is in step stays so exactly if the request does not disturb it. -/
theorem inStep_serve_iff (hown : path.Unmistakable) {reached : Mounts × σ}
    (h : reached.1.session.InStep path) (request : Request) :
    (serve source reached request).1.session.InStep path ↔
      ¬ Disturbs path reached.1.session (serve source reached request).1.session request := by
  constructor
  · intro hnext hdisturbs
    cases hdisturbs with
    | overtaken _ hovertaken => exact hovertaken.not_inStep h hnext
    | balked hbalks => exact (Session.inStep_inputText_iff h _).mp hnext hbalks
    | illegible _ hillegible => exact hillegible.not_standsFor hnext
  · intro hquiet
    have hshown : Session.Shows path (reached.1.session.value? path)
        (serve source reached request).1.session →
          (serve source reached request).1.session.InStep path := by
      rintro ⟨hvalue, hstands | hillegible⟩
      · rwa [InStep, hvalue]
      · exact absurd (.illegible _ (hvalue ▸ hillegible)) hquiet
    have hshows : Session.Shows path (reached.1.session.value? path) reached.1.session :=
      ⟨rfl, .inl h⟩
    match request with
    | .hydrate other => exact hshown ((Session.upheld_shows hown _).hydrate source other _ hshows)
    | .watch _ => exact hshown hshows
    | .step event =>
      by_cases hact : ∃ action, event = .act action
      · obtain ⟨action, rfl⟩ := hact
        obtain hnext | hovertaken | ⟨text, rfl, hbalks⟩ | hillegible :=
          Session.inStep_act_cases hown h action
        · exact hnext
        · exact absurd (.overtaken _ hovertaken) hquiet
        · exact absurd (.balked hbalks) hquiet
        · exact absurd (.illegible _ hillegible) hquiet
      · exact hshown ((change_step _ event).upheld (Session.upheld_shows hown _)
          (fun action heq => hact ⟨action, heq⟩) hshows)

/-! ## Runs -/

/-- The session after a run of requests. -/
def sessionAfter (source : Catalog.Source σ) (first : Mounts × σ) (run : List Request) : Session :=
  (served source first run).1.session

theorem sessionAfter_concat (source : Catalog.Source σ) (first : Mounts × σ) (run : List Request)
    (request : Request) : sessionAfter source first (run ++ [request])
      = (serve source (served source first run) request).1.session := by
  rw [sessionAfter, served_append]
  rfl

/-- **An editor fell behind**: a request of the run disturbed it, and it was not in step since. -/
def FellBehind (source : Catalog.Source σ) (first : Mounts × σ) (run : List Request)
    (path : Path) : Prop :=
  ∃ early request late, run = early ++ request :: late ∧
    Disturbs path (sessionAfter source first early)
      (sessionAfter source first (early ++ [request])) request ∧
    ∀ middle, middle <+: late →
      ¬ (sessionAfter source first (early ++ request :: middle)).InStep path

variable {first : Mounts × σ} {run : List Request}

/-- What fell behind and is not in step again stays behind. -/
theorem FellBehind.concat (h : FellBehind source first run path) (request : Request)
    (hbehind : ¬ (sessionAfter source first (run ++ [request])).InStep path) :
    FellBehind source first (run ++ [request]) path := by
  obtain ⟨early, disturbing, late, rfl, hdisturbs, hsince⟩ := h
  refine ⟨early, disturbing, late ++ [request], by simp, hdisturbs, fun middle hmiddle => ?_⟩
  rcases List.prefix_concat_iff.mp hmiddle with rfl | hbefore
  · simpa using hbehind
  · exact hsince middle hbefore

/-- **A run**: an editor that is in step at first is in step at the end, or fell behind. -/
theorem inStep_or_fellBehind (hown : path.Unmistakable) {done : List Request}
    (hdone : (sessionAfter source first done).InStep path ∨ FellBehind source first done path)
    (run : List Request) : (sessionAfter source first (done ++ run)).InStep path ∨
      FellBehind source first (done ++ run) path := by
  induction run generalizing done with
  | nil => rwa [List.append_nil]
  | cons request run ih =>
    rw [List.append_cons]
    refine ih ?_
    by_cases hnext : (sessionAfter source first (done ++ [request])).InStep path
    · exact .inl hnext
    · right
      rcases hdone with hstep | hbehind
      · refine ⟨done, request, [], rfl, ?_, fun middle hmiddle => ?_⟩
        · rw [sessionAfter_concat] at hnext ⊢
          exact Classical.not_not.mp fun hquiet =>
            hnext ((inStep_serve_iff hown hstep request).mpr hquiet)
        · rwa [List.prefix_nil.mp hmiddle]
      · exact hbehind.concat request hnext

/-- **What an open text stands for.**  After any run, an editor in a text mode without a complaint
holds a text that reads as the value at its path, unless it fell behind and was not in step since: its
value was written by another way, the document refused a keystroke, or the text was taken from a value
that it does not read as.  Each of these does leave the text behind, nothing else does, and a keystroke
that is taken over brings the two together. -/
theorem open_texts_stand_for_the_document (source : Catalog.Source σ) (config : Config)
    (document : Value) (state : σ) (run : List Request) {path : Path}
    (hown : path.Unmistakable) :
    let first := (start config document, state)
    let after := sessionAfter source first
    (FellBehind source first run path ∨
      ∀ format, ((after run).editorAt path).mode = .text format →
        ((after run).editorAt path).parseError = none →
          format.read ((after run).editorAt path).text
            = .ok (((after run).value? path).getD .null)) ∧
    ((after run).InStep path → ∀ request, (after (run ++ [request])).InStep path ↔
      ¬ Disturbs path (after run) (after (run ++ [request])) request) ∧
    ∀ text, ((after run).inputText path text).2 = .ok () →
      (after (run ++ [.type path text])).InStep path := by
  intro first after
  have hstart : (after []).InStep path := standsFor_of_structured rfl _
  refine ⟨?_, fun hstep request => ?_, fun text htaken => ?_⟩
  · rcases inStep_or_fellBehind hown (.inl hstart) run with hstep | hbehind
    · exact .inr fun format hmode hquiet => hstep.read_eq hmode hquiet
    · exact .inl hbehind
  · rw [show after (run ++ [request]) = _ from sessionAfter_concat source first run request]
    exact inStep_serve_iff hown hstep request
  · rw [show after (run ++ [.type path text]) = _ from sessionAfter_concat source first run _]
    exact Session.inStep_of_taken htaken

/-- The text of a field is typed into, and reads as the value; then another value is written to the
field, and it does not. -/
theorem open_texts_stand_for_the_document_typed :
    let name := Path.root.child "name"
    let document := Value.obj [("root", .obj [("name", .str "a")])]
    let after := sessionAfter Catalog.empty.source (start .default document, ())
    let taken := [Request.step (.act (.switchMode name (.text .json))), .type name "\"b\""]
    let written := Request.step (.act (.input name (.text "c")))
    (after taken).InStep name ∧
      Disturbs name (after taken) (after (taken ++ [written])) written := by
  intro name document after taken written
  have hown : name.Unmistakable := by decide
  have hread : Format.json.read "\"b\"" = .ok (.str "b") := rfl
  obtain ⟨-, -, htaken⟩ := open_texts_stand_for_the_document Catalog.empty.source .default document ()
    [.step (.act (.switchMode name (.text .json)))] hown
  have hstep : (after taken).InStep name := htaken "\"b\"" rfl
  obtain ⟨-, hexact, -⟩ := open_texts_stand_for_the_document Catalog.empty.source .default document ()
    taken hown
  refine ⟨hstep, Classical.not_not.mp fun hquiet => ?_⟩
  have hnext := (hexact hstep written).mpr hquiet
  have hmode : ((after (taken ++ [written])).editorAt name).mode = .text .json := by decide +kernel
  have htext : ((after (taken ++ [written])).editorAt name).text = "\"b\"" := by decide +kernel
  have hvalue := (standsFor_of_read hmode (htext ▸ hread)).mp hnext
  exact absurd hvalue (by decide +kernel)

/-- **Open texts that fall behind**, each without a complaint.  A member is written while the text of
its object is open, and the next keystroke in the text undoes it; a keystroke is refused since its
element is too far behind the end of the list; a number is shown by a text that reads as another. -/
theorem open_texts_fall_behind :
    let name := Path.root.child "name"
    let far := (Path.root.child "list").item 2000
    let document := Value.obj [("root", .obj [("name", .str "a")])]
    let after := sessionAfter Catalog.empty.source (start .default document, ())
    let shown (run : List Request) (path : Path) := ((after run).editorAt path).shownText?
    let openText (path : Path) := Request.step (.act (.switchMode path (.text .json)))
    let overtaken := [openText Path.root, .step (.act (.input name (.text "b")))]
    let balked := [openText far, .type far "1"]
    let digits := "0.009900990099009901"
    let rounded := [Request.step (.act (.input name (.number digits))), openText name]
    let text := "\x7b\n  \"name\": \"a\"\n\x7d"
    (shown overtaken Path.root = some (.json, text, none) ∧
      (after overtaken).value? name = some (.str "b") ∧
      (after (overtaken ++ [.type Path.root (text ++ " ")])).value? name = some (.str "a")) ∧
    (shown balked far = some (.json, "1", none) ∧ (after balked).value? far = none) ∧
    (shown rounded name = some (.json, digits, none) ∧
      (Format.json.read digits).toOption ≠ (after rounded).value? name) := by
  intro name far document after shown openText overtaken balked digits rounded text
  exact ⟨⟨by decide +kernel, by decide +kernel, by decide +kernel⟩,
    ⟨by decide +kernel, by decide +kernel⟩, ⟨by decide +kernel, by decide +kernel⟩⟩

end Mounts

end SchemaForms
