import SchemaForms.Proofs.Session.Upkeep

/-!
# Proofs/Session/TextModes — leaving a text mode writes nothing

A change of the mode writes the text of an editor only if the text can be read and is not the
baseline: if it is `Unwritten`.  A keystroke writes what can be read at once and makes it the
baseline, so a text comes to be unwritten only by a keystroke that the document refuses
(`unwritten_serve`), and nothing else brings it about.  Hence, whatever was done before and whoever
has subscribed to a path, switching modes leaves document, marks and feeds alone
(`switching_writes_nothing`).
-/

namespace SchemaForms

/-- A text that can be read and is not the baseline: what the next change of the mode writes. -/
def EditorState.Unwritten (state : EditorState) : Prop :=
  ∃ format value, state.mode = .text format ∧ format.read state.text = .ok value ∧
    state.baseline ≠ some state.text

namespace EditorState

variable {state : EditorState}

theorem not_unwritten_initial : ¬ initial.Unwritten := by
  rintro ⟨format, value, hmode, -, -⟩
  exact absurd hmode nofun

/-- A text that was just taken from the document is the baseline. -/
theorem not_unwritten_enterText (format : Format) (value : Option Value) :
    ¬ (state.enterText format value).Unwritten := by
  rintro ⟨_, _, -, -, hbaseline⟩
  exact hbaseline rfl

theorem not_unwritten_leaveText : ¬ state.leaveText.Unwritten := by
  rintro ⟨format, value, hmode, -, -⟩
  exact absurd hmode nofun

theorem not_unwritten_showAs (mode : EditMode) (value : Option Value) :
    ¬ (Session.showAs state mode value).Unwritten := by
  cases mode with
  | structured => exact not_unwritten_leaveText
  | text format => exact not_unwritten_enterText format value

/-- An editor that learns what became of its schema goes on with its text, or shows the value. -/
theorem Unwritten.of_informed {value : Option Value} {outcome : LoadOutcome}
    (h : (Session.informed state value outcome).Unwritten) : state.Unwritten := by
  cases outcome with
  | error e => exact absurd h (not_unwritten_enterText _ _)
  | ok found =>
    cases found with
    | none => exact absurd h (not_unwritten_enterText _ _)
    | some schema => exact h

end EditorState

open EditorState

namespace Registry

/-- The state of an editor, as far as it is filed. -/
def stateAt (registry : Registry) (path : Path) : EditorState :=
  (registry.editor? path).getD .initial

/-- **No text comes to be unwritten** between two registries. -/
def Settles (before after : Registry) : Prop :=
  ∀ path, (after.stateAt path).Unwritten → (before.stateAt path).Unwritten

variable {before registry : Registry}

theorem Settles.dropWhere (h : Settles before registry) (doomed : Path → Bool) :
    Settles before (registry.dropWhere doomed) := by
  intro path hunwritten
  rw [stateAt, editor?_dropWhere] at hunwritten
  split at hunwritten
  · exact absurd hunwritten not_unwritten_initial
  · exact h path hunwritten

theorem Settles.setEditor (h : Settles before registry) {path : Path} {state : EditorState}
    (hstate : state.Unwritten → (registry.stateAt path).Unwritten) :
    Settles before (registry.setEditor path state) := by
  intro other hunwritten
  refine h other ?_
  rw [stateAt, editor?_setEditor] at hunwritten
  split at hunwritten
  · rename_i hkey
    have hsame : registry.stateAt path = registry.stateAt other := by
      rw [stateAt, editor?, hkey]
      rfl
    rw [← hsame]
    exact hstate hunwritten
  · exact hunwritten

/-- The cache has no part in it. -/
theorem Settles.setCache (h : Settles before registry) (cache : Cache) :
    Settles before { registry with cache := cache } := h

end Registry

namespace Session

variable {session : Session} {before : Registry}

open Registry (Settles)

/-! ## Mounts and hydrations -/

theorem shed_settles (before : Registry) : Shed (Settles before) where
  drop doomed h := h.dropWhere doomed
  cache cache h := h.setCache cache

/-- Mounts and hydrations leave no text unwritten. -/
theorem upheld_settles (before : Registry) :
    Upheld fun session => Settles before session.registry where
  cache cache h := h.setCache cache
  -- the text and the baseline of the editor stay
  record _ _ _ h := h.setEditor fun hunwritten => hunwritten
  inform _ _ h := h.setEditor Unwritten.of_informed
  render path h := (shed_settles before).render path h

/-! ## Watching -/

/-- The session after a reader has subscribed to a path. -/
def watched (session : Session) (path : Path) : Session :=
  { session with store := (session.store.watch path).2 }

/-! ## Switching modes -/

variable {path : Path} {mode : EditMode}

/-- **What switching modes does**: nothing; or the editor goes on, keeps its text with a complaint
about it, or has its text written and is shown in the other mode. -/
inductive Switch (session : Session) (path : Path) (mode : EditMode) :
    Session × Except EditError Unit → Prop where
  | stays (hmode : (session.editorAt path).mode = mode) :
      Switch session path mode (session.setEditor path (session.editorAt path), .ok ())
  | opened (hmode : (session.editorAt path).mode = .structured) :
      Switch session path mode
        (session.setEditor path (showAs (session.editorAt path) mode (session.value? path)), .ok ())
  | unread {format : Format} {e : ParseError} (hmode : (session.editorAt path).mode = .text format)
      (hread : format.read (session.editorAt path).text = .error e) :
      Switch session path mode
        (session.setEditor path { session.editorAt path with parseError := some e },
          .error (.parse e))
  | kept {format : Format} {value : Value} (hmode : (session.editorAt path).mode = .text format)
      (hread : format.read (session.editorAt path).text = .ok value)
      (hbaseline : (session.editorAt path).baseline = some (session.editorAt path).text) :
      Switch session path mode
        (session.setEditor path (showAs (session.editorAt path) mode (some value)), .ok ())
  | refused {format : Format} {value : Value} (hmode : (session.editorAt path).mode = .text format)
      (hread : format.read (session.editorAt path).text = .ok value) (e : StoreError) :
      Switch session path mode (session, .error (.store e))
  | written {format : Format} {value : Value} {next : Session}
      (hmode : (session.editorAt path).mode = .text format)
      (hread : format.read (session.editorAt path).text = .ok value)
      (hbaseline : (session.editorAt path).baseline ≠ some (session.editorAt path).text)
      (hwrite : session.write path value = .ok next) :
      Switch session path mode
        (next.setEditor path (showAs (session.editorAt path) mode (some value)), .ok ())

theorem switch_switchMode (session : Session) (path : Path) (mode : EditMode) :
    Switch session path mode (session.switchMode path mode) := by
  unfold switchMode leaveTextFor writeText
  dsimp only
  split
  · rename_i hmode
    exact .stays hmode
  · split
    · rename_i hmode
      exact .opened hmode
    · rename_i format hmode
      split
      · rename_i e hread
        exact .unread hmode hread
      · rename_i value hread
        by_cases hbaseline : (session.editorAt path).baseline = some (session.editorAt path).text
        · rw [if_pos hbaseline]
          exact .kept hmode hread hbaseline
        · rw [if_neg hbaseline]
          cases hwrite : session.write path value with
          | error e => exact .refused hmode hread e
          | ok next => exact .written hmode hread hbaseline hwrite

theorem editorAt_setEditor (session : Session) (path other : Path) (state : EditorState) :
    (session.setEditor path state).editorAt other
      = if path.key = other.key then state else session.editorAt other := by
  have hfound := session.registry.editor?_setEditor path other state
  change ((session.registry.setEditor path state).editor? other).getD .initial = _
  rw [hfound]
  split <;> rfl

/-- **Switching modes writes only what is unwritten.** -/
theorem store_switchMode (h : ¬ (session.editorAt path).Unwritten) (mode : EditMode) :
    (session.switchMode path mode).1.store = session.store := by
  have hswitch := switch_switchMode session path mode
  generalize session.switchMode path mode = result at hswitch ⊢
  cases hswitch with
  | stays | opened | unread | kept | refused => rfl
  | written hmode hread hbaseline => exact absurd ⟨_, _, hmode, hread, hbaseline⟩ h

/-- **What a switch that is refused leaves as it was.** -/
structure Refused (before after : Session) (path : Path) : Prop where
  mode : (after.editorAt path).mode = (before.editorAt path).mode
  text : (after.editorAt path).text = (before.editorAt path).text
  baseline : (after.editorAt path).baseline = (before.editorAt path).baseline
  store : after.store = before.store

theorem refused_switchMode {e : EditError} (h : (session.switchMode path mode).2 = .error e) :
    Refused session (session.switchMode path mode).1 path := by
  have hswitch := switch_switchMode session path mode
  generalize session.switchMode path mode = result at h hswitch ⊢
  cases hswitch with
  | stays | opened | kept | written => exact absurd h nofun
  | @unread _ e =>
    have hat := editorAt_setEditor session path path
      { session.editorAt path with parseError := some e }
    rw [if_pos rfl] at hat
    exact ⟨by rw [hat], by rw [hat], by rw [hat], rfl⟩
  | refused => exact ⟨rfl, rfl, rfl, rfl⟩

theorem settles_switchMode (session : Session) (path : Path) (mode : EditMode) :
    Settles session.registry (session.switchMode path mode).1.registry := by
  have hself : Settles session.registry session.registry := fun _ h => h
  have hswitch := switch_switchMode session path mode
  generalize session.switchMode path mode = result at hswitch ⊢
  cases hswitch with
  | stays | unread => exact hself.setEditor fun h => h
  | opened | kept => exact hself.setEditor fun h => absurd h (not_unwritten_showAs _ _)
  | refused => exact hself
  | @written _ _ next _ _ _ hwrite =>
    have hnext : Settles session.registry next.registry := by
      rw [(edited_write hwrite).registry]
      exact hself
    exact hnext.setEditor fun h => absurd h (not_unwritten_showAs _ _)

/-- Switches modes one after the other. -/
def switchModes (session : Session) (switches : List (Path × EditMode)) : Session :=
  switches.foldl (fun session (path, mode) => (session.switchMode path mode).1) session

/-- **Where no text is unwritten, no chain of switches writes.** -/
theorem store_switchModes (switches : List (Path × EditMode)) (session : Session)
    (h : ∀ switch ∈ switches, ¬ (session.editorAt switch.1).Unwritten) :
    (session.switchModes switches).store = session.store := by
  induction switches generalizing session with
  | nil => rfl
  | cons switch switches ih =>
    have hhead := h switch List.mem_cons_self
    have htail : ∀ later ∈ switches,
        ¬ ((session.switchMode switch.1 switch.2).1.editorAt later.1).Unwritten :=
      fun later hlater hunwritten => h later (List.mem_cons_of_mem _ hlater)
        (settles_switchMode session switch.1 switch.2 later.1 hunwritten)
    exact (ih _ htail).trans (store_switchMode hhead switch.2)

/-! ## Keystrokes and other actions -/

/-- **What a keystroke does**: nothing in a form; or the editor has the new text, and a complaint about
it, or the document refuses it or takes it over. -/
inductive Keystroke (session : Session) (path : Path) (text : String) :
    Session × Except EditError Unit → Prop where
  | idle (hmode : (session.editorAt path).mode = .structured) :
      Keystroke session path text (session.setEditor path (session.editorAt path), .ok ())
  | unread {format : Format} {e : ParseError} (hmode : (session.editorAt path).mode = .text format)
      (hread : format.read text = .error e) :
      Keystroke session path text
        (session.setEditor path { session.editorAt path with text := text, parseError := some e },
          .error (.parse e))
  | refused {format : Format} {value : Value} (hmode : (session.editorAt path).mode = .text format)
      (hread : format.read text = .ok value) (e : StoreError) :
      Keystroke session path text
        (session.setEditor path { session.editorAt path with text := text }, .error (.store e))
  | taken {format : Format} {value : Value} {next : Session}
      (hmode : (session.editorAt path).mode = .text format) (hread : format.read text = .ok value)
      (hwrite : session.write path value = .ok next) :
      Keystroke session path text
        (next.setEditor path { session.editorAt path with
          text := text, parseError := none, baseline := some text }, .ok ())

theorem keystroke_inputText (session : Session) (path : Path) (text : String) :
    Keystroke session path text (session.inputText path text) := by
  unfold inputText
  dsimp only
  split
  · rename_i hmode
    exact .idle hmode
  · rename_i format hmode
    split
    · rename_i e hread
      exact .unread hmode hread
    · rename_i value hread
      split
      · rename_i e hwrite
        exact .refused hmode hread e
      · rename_i next hwrite
        exact .taken hmode hread hwrite

/-- **A keystroke leaves its text unwritten** only if the document refuses it. -/
theorem unwritten_inputText_self {text : String}
    (h : ((session.inputText path text).1.editorAt path).Unwritten) :
    ∃ e, (session.inputText path text).2 = .error (.store e) := by
  have hkeystroke := keystroke_inputText session path text
  generalize session.inputText path text = result at h hkeystroke ⊢
  cases hkeystroke <;> rw [editorAt_setEditor, if_pos rfl] at h <;>
    obtain ⟨format, value, hformat, hok, hbaseline⟩ := h
  case idle hmode => exact absurd (hmode.symm.trans hformat) nofun
  case unread hmode hread =>
    obtain rfl := EditMode.text.inj (hmode.symm.trans hformat)
    exact absurd (hread.symm.trans hok) nofun
  case refused e => exact ⟨e, rfl⟩
  case taken => exact absurd rfl hbaseline

/-- A keystroke elsewhere leaves an editor as it was. -/
theorem editorAt_inputText_of_ne {typed : Path} (hkey : typed.key ≠ path.key) (text : String) :
    (session.inputText typed text).1.editorAt path = session.editorAt path := by
  have hkeystroke := keystroke_inputText session typed text
  generalize session.inputText typed text = result at hkeystroke ⊢
  cases hkeystroke <;> rw [editorAt_setEditor, if_neg hkey]
  case taken hwrite =>
    rw [editorAt, editor?, (edited_write hwrite).registry]
    rfl

/-- Editors whose paths are written alike are one. -/
theorem editorAt_eq_of_key {other : Path} (hkey : path.key = other.key) :
    session.editorAt path = session.editorAt other := by
  rw [editorAt, editor?, Registry.editor?, hkey]
  rfl

/-- **A text is unwritten after a keystroke** only if the keystroke was refused, or if it was so
before and another editor was typed into. -/
theorem unwritten_inputText {other : Path} {text : String}
    (h : ((session.inputText path text).1.editorAt other).Unwritten) :
    (path.key = other.key ∧ ∃ e, (session.inputText path text).2 = .error (.store e)) ∨
      path.key ≠ other.key ∧ (session.editorAt other).Unwritten := by
  by_cases hkey : path.key = other.key
  · rw [← editorAt_eq_of_key hkey] at h
    exact .inl ⟨hkey, unwritten_inputText_self h⟩
  · rw [editorAt_inputText_of_ne hkey] at h
    exact .inr ⟨hkey, h⟩

/-- **An action that is no keystroke leaves no text unwritten.** -/
theorem settles_act (session : Session) (action : Action)
    (hkeys : ∀ typed text, action ≠ .inputText typed text) :
    Settles session.registry (session.act action).registry := by
  by_cases hmodes : ∃ path mode, action = .switchMode path mode
  · obtain ⟨path, mode, rfl⟩ := hmodes
    exact settles_switchMode session path mode
  · exact (shed_settles _).act action hkeys (fun path mode heq => hmodes ⟨path, mode, heq⟩)
      fun _ h => h

end Session

/-! ## Runs -/

namespace Mounts

open Session (Action)

variable {σ : Type} {source : Catalog.Source σ} {first : Mounts × σ} {path : Path}

/-- What is asked of a session, while any number of mounts may be under way. -/
inductive Request where
  | step (event : Event)
  | hydrate (path : Path)
  /-- A reader subscribes to a path. -/
  | watch (path : Path)

/-- A keystroke. -/
def Request.type (path : Path) (text : String) : Request := .step (.act (.inputText path text))

/-- Whether a request is a keystroke in the editor at a path. -/
def Request.TypesInto (path : Path) : Request → Prop
  | .step (.act (.inputText typed _)) => typed.key = path.key
  | _ => False

/-- What a request leads to, with a catalog that answers hydrations. -/
def serve (source : Catalog.Source σ) (reached : Mounts × σ) : Request → Mounts × σ
  | .step event => (reached.1.step event, reached.2)
  | .hydrate path =>
    let (_, session, state) := reached.1.session.hydrate source path reached.2
    ({ reached.1 with session := session }, state)
  | .watch path => ({ reached.1 with session := reached.1.session.watched path }, reached.2)

/-- What a run of requests leads to. -/
def served (source : Catalog.Source σ) (first : Mounts × σ) (run : List Request) : Mounts × σ :=
  run.foldl (serve source) first

theorem served_append (source : Catalog.Source σ) (first : Mounts × σ) (front back : List Request) :
    served source first (front ++ back) = served source (served source first front) back :=
  List.foldl_append

/-- **The last keystroke in an editor was refused by the document**, though its text could be
read. -/
def RefusedLast (source : Catalog.Source σ) (first : Mounts × σ) (run : List Request)
    (path : Path) : Prop :=
  ∃ before typed text after e, run = before ++ .type typed text :: after ∧ typed.key = path.key ∧
    (∀ request ∈ after, ¬ request.TypesInto path) ∧
    ((served source first before).1.session.inputText typed text).2 = .error (.store e)

/-- Nothing but a keystroke makes another keystroke the last. -/
theorem RefusedLast.concat {run : List Request} (h : RefusedLast source first run path)
    {request : Request} (hother : ¬ request.TypesInto path) :
    RefusedLast source first (run ++ [request]) path := by
  obtain ⟨before, typed, text, after, e, rfl, hkey, hafter, hrefused⟩ := h
  refine ⟨before, typed, text, after ++ [request], e, by simp, hkey, ?_, hrefused⟩
  intro later hlater
  rcases List.mem_append.mp hlater with hold | hnew
  · exact hafter later hold
  · rwa [List.mem_singleton.mp hnew]

/-- A step that is no keystroke leaves no text unwritten. -/
theorem settles_step (mounts : Mounts) (event : Event)
    (hkeys : ∀ typed text, event ≠ .act (.inputText typed text)) :
    Registry.Settles mounts.session.registry (mounts.step event).session.registry := by
  cases event with
  | act action => exact Session.settles_act _ action fun typed text heq => hkeys typed text (by rw [heq])
  | _ => exact (change_step mounts _).upheld (Session.upheld_settles _) nofun fun _ h => h

/-- **One request**: a text that is unwritten afterwards was so before, or is what the document
refused just now. -/
theorem unwritten_serve {reached : Mounts × σ} {request : Request}
    (h : ((serve source reached request).1.session.editorAt path).Unwritten) :
    (∃ typed text e, request = .type typed text ∧ typed.key = path.key ∧
        (reached.1.session.inputText typed text).2 = .error (.store e)) ∨
      ¬ request.TypesInto path ∧ (reached.1.session.editorAt path).Unwritten := by
  match request with
  | .hydrate other =>
    have hhydrated := (Session.upheld_settles reached.1.session.registry).hydrate source other
      reached.2 fun _ h => h
    exact .inr ⟨id, hhydrated path h⟩
  | .watch other => exact .inr ⟨id, h⟩
  | .step event =>
    by_cases hkeys : ∃ typed text, event = .act (.inputText typed text)
    · obtain ⟨typed, text, rfl⟩ := hkeys
      obtain ⟨hkey, e, hrefused⟩ | ⟨hkey, hold⟩ := Session.unwritten_inputText h
      · exact .inl ⟨typed, text, e, rfl, hkey, hrefused⟩
      · exact .inr ⟨hkey, hold⟩
    · refine .inr ⟨?_, settles_step reached.1 event (fun typed text heq => hkeys ⟨typed, text, heq⟩)
        path h⟩
      unfold Request.TypesInto
      split
      · rename_i typed text heq
        exact absurd ⟨typed, text, Request.step.inj heq⟩ hkeys
      · exact id

/-- **A run of requests**: as long as a text is unwritten only if the last keystroke was refused, it
stays so. -/
theorem refusedLast_append {done : List Request}
    (hdone : ∀ path, ((served source first done).1.session.editorAt path).Unwritten →
      RefusedLast source first done path) (run : List Request) (path : Path)
    (h : ((served source first (done ++ run)).1.session.editorAt path).Unwritten) :
    RefusedLast source first (done ++ run) path := by
  induction run generalizing done with
  | nil =>
    rw [List.append_nil] at h ⊢
    exact hdone path h
  | cons request run ih =>
    rw [List.append_cons] at h ⊢
    refine ih (fun other hother => ?_) h
    rw [served_append] at hother
    obtain ⟨typed, text, e, rfl, hkey, hrefused⟩ | ⟨hkeys, hold⟩ := unwritten_serve hother
    · exact ⟨done, typed, text, [], e, rfl, hkey, nofun, hrefused⟩
    · exact (hdone other hold).concat hkeys

/-- **A text is unwritten only if the last keystroke in it was refused**, whatever was done. -/
theorem refusedLast_of_unwritten (config : Config) (document : Value) (state : σ)
    (run : List Request)
    (h : ((served source (start config document, state) run).1.session.editorAt path).Unwritten) :
    RefusedLast source (start config document, state) run path := by
  have hstart : ∀ path, ((served source (start config document, state) []).1.session.editorAt
      path).Unwritten → RefusedLast source (start config document, state) [] path :=
    fun path hinitial => absurd hinitial not_unwritten_initial
  exact refusedLast_append hstart run path h

/-- **Switching modes writes nothing.**  Whatever was done to a session before, any chain of switches
leaves the document, the marks and the feeds of all who watch a path as they are, as long as no editor
in it was last typed into with a text that the document refused; and a switch that is refused leaves
the mode, the text and the baseline of its editor, too. -/
theorem switching_writes_nothing (source : Catalog.Source σ) (config : Config) (document : Value)
    (state : σ) (run : List Request) :
    let first := (start config document, state)
    let session := (served source first run).1.session
    (∀ switches : List (Path × EditMode),
      (∀ switch ∈ switches, ¬ RefusedLast source first run switch.1) →
        (session.switchModes switches).store = session.store) ∧
    ∀ path mode e, (session.switchMode path mode).2 = .error e →
      Session.Refused session (session.switchMode path mode).1 path := by
  intro first session
  refine ⟨fun switches htaken => ?_, fun path mode e => Session.refused_switchMode⟩
  refine Session.store_switchModes switches session fun switch hswitch hunwritten => ?_
  exact htaken switch hswitch (refusedLast_of_unwritten config document state run hunwritten)

/-- A field is watched, and its text is open while another value is written to it; the text is left,
the value stays, and the watch that has seen the write is not told of another one.  The text of a field
without a value is opened and left, and it still has none. -/
theorem switching_writes_nothing_elsewhere :
    let name := Path.root.child "name"
    let missing := Path.root.child "missing"
    let document := Value.obj [("root", .obj [("name", .str "a")])]
    let run := [Request.watch name, .step (.act (.switchMode name (.text .json))),
      .step (.act (.input name (.text "b")))]
    let session := (served Catalog.empty.source (start .default document, ()) run).1.session
    let left := session.switchModes [(name, .structured), (missing, .text .yaml),
      (missing, .structured)]
    let watch := Watch.markSeen ⟨0, name, 0⟩ session.store.feeds
    (session.editorAt name).mode = .text .json ∧ (left.editorAt name).mode = .structured ∧
      left.value? name = some (.str "b") ∧ left.value? missing = none ∧
      watch.seen = 1 ∧ watch.current left.store.feeds = some (.str "b") ∧
      watch.hasChanged left.store.feeds = false := by
  intro name missing document run session left watch
  obtain ⟨hswitches, -⟩ := switching_writes_nothing Catalog.empty.source .default document () run
  have hstore : left.store = session.store := by
    refine hswitches _ fun switch _ => ?_
    rintro ⟨before, typed, text, after, e, hrun, -⟩
    have htyped : Request.type typed text ∈ run := by
      rw [hrun]
      simp
    simp [run, Request.type] at htyped
  rw [Session.value?, Session.value?, hstore]
  exact ⟨by decide +kernel, by decide +kernel, by decide +kernel, by decide +kernel,
    by decide +kernel, by decide +kernel, by decide +kernel⟩

end Mounts

end SchemaForms
