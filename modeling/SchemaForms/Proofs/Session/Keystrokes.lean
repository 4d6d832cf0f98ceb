import Mathlib.Data.List.Induction
import SchemaForms.Proofs.Session.TextModes
import SchemaForms.Proofs.Store.Padding

/-!
# Proofs/Session/Keystrokes — the document holds the last text that could be read

A keystroke that can be read writes its value over the one of the keystroke before, and one that
cannot leaves the document alone.  So after any number of them the document is as if only the last
that could be read had been typed (`Typed.inputText`), while the editor shows the last one of all,
with a complaint about it or in step with the document (`showing_inputText`).  Hence the text mode
can be left exactly if the last text can be read, and then nothing is written any more
(`the_last_readable_text_counts`).
-/

namespace SchemaForms

/-- Writes a value, if there is one. -/
def Document.overwrite (document : Value) (path : Path) (found : Option Value) : Value :=
  (found.map (Document.write document path)).getD document

namespace Document

variable {document value : Value} {path : Path}

/-- **The last of two writes counts**, if there is one. -/
theorem overwrite_overwrite (document : Value) (path : Path) (first last : Option Value) :
    overwrite (overwrite document path first) path last
      = overwrite document path (last.or first) := by
  cases last with
  | none => rfl
  | some value =>
    cases first with
    | none => rfl
    | some old => exact write_write document old value path

theorem read?_overwrite (document : Value) (path : Path) (found : Option Value) :
    read? (overwrite document path found) path = found.or (read? document path) := by
  cases found with
  | none => rfl
  | some value => exact read?_write_self document value path

/-- Where a path was near, it stays so: it leads to a value then. -/
theorem tooFar?_overwrite (h : tooFar? (some document) path = none) (found : Option Value) :
    tooFar? (some (overwrite document path found)) path = none := by
  cases found with
  | none => exact h
  | some value => exact tooFar?_of_read? (read?_write_self document value path)

end Document

namespace EditorState

/-- What an editor shows after a keystroke that the document did not refuse. -/
structure Showing (state : EditorState) (format : Format) (last : String) : Prop where
  mode : state.mode = .text format
  text : state.text = last
  complaint : ∀ e, state.parseError = some e ↔ format.read last = .error e
  baseline : ∀ value, format.read last = .ok value → state.baseline = some last

/-- Such a keystroke leaves nothing unwritten. -/
theorem Showing.not_unwritten {state : EditorState} {format : Format} {last : String}
    (h : state.Showing format last) : ¬ state.Unwritten := by
  rintro ⟨_, value, hmode, hread, hbaseline⟩
  obtain rfl := EditMode.text.inj (h.mode.symm.trans hmode)
  rw [h.text] at hread hbaseline
  exact hbaseline (h.baseline value hread)

end EditorState

namespace Session

open Document (overwrite)

variable {session before : Session} {path : Path} {format : Format} {text : String}
  {found : Option Value} {value : Value}

/-- Types texts into an editor, one after the other. -/
def inputTexts (session : Session) (path : Path) (texts : List String) : Session :=
  texts.foldl (fun session text => (session.inputText path text).1) session

/-- The value of the last text that can be read. -/
def lastRead? (format : Format) (texts : List String) : Option Value :=
  (texts.filterMap fun text => (format.read text).toOption).getLast?

theorem inputTexts_concat (session : Session) (path : Path) (texts : List String) (text : String) :
    session.inputTexts path (texts ++ [text])
      = ((session.inputTexts path texts).inputText path text).1 := by
  rw [inputTexts, List.foldl_append]
  rfl

theorem lastRead?_concat (format : Format) (texts : List String) (text : String) :
    lastRead? format (texts ++ [text])
      = (format.read text).toOption.or (lastRead? format texts) := by
  rw [lastRead?, List.filterMap_append, List.getLast?_append]
  cases hread : (format.read text).toOption <;> simp [hread, lastRead?]

/-! ## One keystroke -/

theorem write_of_near (hnear : session.store.checkPadding path = .ok ()) (value : Value) :
    ∃ written, session.write path value = .ok written ∧
      written.store.document = Document.write session.store.document path value :=
  ⟨_, write_eq_ok.mpr ⟨hnear, rfl⟩, rfl⟩

theorem inputText_of_error {e : ParseError} (hmode : (session.editorAt path).mode = .text format)
    (hread : format.read text = .error e) : session.inputText path text
      = (session.setEditor path { session.editorAt path with text := text, parseError := some e },
          .error (.parse e)) := by
  simp [inputText, hmode, hread]

theorem inputText_of_ok {next : Session} (hmode : (session.editorAt path).mode = .text format)
    (hread : format.read text = .ok value) (hwrite : session.write path value = .ok next) :
    session.inputText path text = (next.setEditor path { session.editorAt path with
      text := text, parseError := none, baseline := some text }, .ok ()) := by
  simp [inputText, hmode, hread, hwrite]

/-- **What one keystroke makes of the document**: it writes what can be read. -/
theorem document_inputText (hmode : (session.editorAt path).mode = .text format)
    (hnear : session.store.checkPadding path = .ok ()) (text : String) :
    (session.inputText path text).1.store.document
      = overwrite session.store.document path (format.read text).toOption := by
  cases hread : format.read text with
  | error e =>
    rw [inputText_of_error hmode hread]
    rfl
  | ok value =>
    obtain ⟨written, hwrite, hdocument⟩ := write_of_near hnear value
    rw [inputText_of_ok hmode hread hwrite]
    exact hdocument

/-- **What the editor shows after one keystroke.** -/
theorem showing_inputText (hmode : (session.editorAt path).mode = .text format)
    (hnear : session.store.checkPadding path = .ok ()) (text : String) :
    ((session.inputText path text).1.editorAt path).Showing format text := by
  cases hread : format.read text with
  | error e =>
    rw [inputText_of_error hmode hread, editorAt_setEditor, if_pos rfl]
    exact ⟨hmode, rfl, fun other => by simp [hread], fun value => by simp [hread]⟩
  | ok value =>
    obtain ⟨written, hwrite, -⟩ := write_of_near hnear value
    rw [inputText_of_ok hmode hread hwrite, editorAt_setEditor, if_pos rfl]
    exact ⟨hmode, rfl, fun other => by simp [hread], fun _ _ => rfl⟩

/-! ## Any number of keystrokes -/

/-- **Where typing has brought a session**: the editor is still in its text mode, its path is still
near, and the document holds what was found in the texts. -/
structure Typed (before : Session) (path : Path) (format : Format) (found : Option Value)
    (after : Session) : Prop where
  mode : (after.editorAt path).mode = .text format
  near : after.store.checkPadding path = .ok ()
  document : after.store.document = overwrite before.store.document path found

/-- **One keystroke more.** -/
theorem Typed.inputText (h : Typed before path format found session) (text : String) :
    Typed before path format ((format.read text).toOption.or found)
      (session.inputText path text).1 := by
  have hdocument := document_inputText h.mode h.near text
  refine ⟨(showing_inputText h.mode h.near text).mode, ?_, ?_⟩
  · rw [Store.checkPadding_eq_ok, hdocument]
    exact Document.tooFar?_overwrite (Store.checkPadding_eq_ok.mp h.near) _
  · rw [hdocument, h.document, Document.overwrite_overwrite]

/-- **Any number of keystrokes.** -/
theorem typed_inputTexts (hmode : (session.editorAt path).mode = .text format)
    (hnear : session.store.checkPadding path = .ok ()) (texts : List String) :
    Typed session path format (lastRead? format texts) (session.inputTexts path texts) := by
  induction texts using List.reverseRecOn with
  | nil => exact ⟨hmode, hnear, rfl⟩
  | append_singleton texts text ih =>
    rw [inputTexts_concat, lastRead?_concat]
    exact ih.inputText text

/-! ## Leaving the text mode -/

/-- **A text that can be read and is written already can be left**, and no other. -/
theorem switchMode_eq_ok_iff (hmode : (session.editorAt path).mode = .text format)
    (hwritten : ¬ (session.editorAt path).Unwritten) :
    (session.switchMode path .structured).2 = .ok () ↔
      ∃ value, format.read (session.editorAt path).text = .ok value := by
  have hleaves : (session.editorAt path).mode ≠ .structured := by rw [hmode]; exact nofun
  unfold switchMode leaveTextFor writeText
  dsimp only
  rw [if_neg hleaves]
  cases hread : format.read (session.editorAt path).text with
  | error e => simp [hmode, hread]
  | ok value =>
    have hbaseline : (session.editorAt path).baseline = some (session.editorAt path).text := by
      by_contra hne
      exact hwritten ⟨format, value, hmode, hread, hne⟩
    simp [hmode, hread, hbaseline]

/-- **The document holds the last text that could be read**, however many texts are typed into an
editor, and the editor shows the last one of all.  Every path reads as after one write of that value,
or as before if no text could be read.  There is a complaint exactly if the last text cannot be read;
if it can, the text mode can be left, and leaving it or trying to writes nothing. -/
theorem the_last_readable_text_counts (session : Session) (path : Path) (format : Format)
    (hmode : (session.editorAt path).mode = .text format)
    (hnear : session.store.checkPadding path = .ok ()) (texts : List String) (last : String) :
    let typed := session.inputTexts path (texts ++ [last])
    let found := lastRead? format (texts ++ [last])
    let left := typed.switchMode path .structured
    typed.value? path = found.or (session.value? path) ∧
    (∀ value, found = some value → ∃ written, session.write path value = .ok written ∧
      ∀ other, typed.value? other = written.value? other) ∧
    (found = none → ∀ other, typed.value? other = session.value? other) ∧
    (typed.editorAt path).Showing format last ∧
    (left.2 = .ok () ↔ ∃ value, format.read last = .ok value) ∧
    left.1.store = typed.store := by
  intro typed found left
  have htyped : Typed session path format found typed := typed_inputTexts hmode hnear _
  have hearlier : Typed session path format (lastRead? format texts) _ :=
    typed_inputTexts hmode hnear texts
  have hlast : typed = ((session.inputTexts path texts).inputText path last).1 :=
    inputTexts_concat session path texts last
  have hshowing : (typed.editorAt path).Showing format last := by
    rw [hlast]
    exact showing_inputText hearlier.mode hearlier.near last
  refine ⟨?_, fun value hfound => ?_, fun hfound other => ?_, hshowing, ?_,
    store_switchMode hshowing.not_unwritten .structured⟩
  · change Document.read? typed.store.document path = _
    rw [htyped.document]
    exact Document.read?_overwrite session.store.document path found
  · obtain ⟨written, hwrite, hdocument⟩ := write_of_near hnear value
    refine ⟨written, hwrite, fun other => ?_⟩
    change Document.read? typed.store.document other = Document.read? written.store.document other
    rw [htyped.document, hfound, hdocument]
    rfl
  · change Document.read? typed.store.document other = Document.read? session.store.document other
    rw [htyped.document, hfound]
    rfl
  · have hleaves := switchMode_eq_ok_iff htyped.mode hshowing.not_unwritten
    rwa [hshowing.text] at hleaves

/-- A text that can be read, one that cannot, the number seven, and one more that cannot be read:
the document holds seven, its other values are as they were, and the text mode cannot be left. -/
theorem the_last_readable_text_counts_seven :
    let name := Path.root.child "name"
    let note := Path.root.child "note"
    let document := Value.obj [("root", .obj [("name", .str "a"), ("note", .str "b")])]
    let session := ((ofDocument .default document).switchMode name (.text .json)).1
    let typed := session.inputTexts name (["true", "[", "7"] ++ ["7,"])
    typed.value? name = some (.num (.int 7)) ∧ typed.value? note = some (.str "b") ∧
      (typed.editorAt name).text = "7," ∧ (typed.switchMode name .structured).2 ≠ .ok () := by
  intro name note document session typed
  have hfound : lastRead? .json (["true", "[", "7"] ++ ["7,"]) = some (.num (.int 7)) := by
    decide +kernel
  have hlast : ∀ value, Format.json.read "7," ≠ .ok value := by
    intro value hread
    have hnone : (Format.json.read "7,").toOption = none := by decide +kernel
    rw [hread] at hnone
    exact absurd hnone nofun
  obtain ⟨hvalue, hwritten, -, hshowing, hleaves, -⟩ := the_last_readable_text_counts session name
    .json (by decide +kernel) (by decide +kernel) ["true", "[", "7"] "7,"
  obtain ⟨written, hwrite, hother⟩ := hwritten _ hfound
  refine ⟨?_, ?_, hshowing.text, fun hleft => ?_⟩
  · rw [hvalue, hfound]
    rfl
  · rw [hother note]
    cases hwrite
    decide +kernel
  · obtain ⟨value, hread⟩ := hleaves.mp hleft
    exact hlast value hread

end Session

end SchemaForms
