import SchemaForms.Proofs.Json.RoundTrip
import SchemaForms.Proofs.Session.OpenTexts
import SchemaForms.Proofs.Yaml.Documents

/-!
# Proofs/Session/TextForms — a text mode shows what reads back

Both text forms are written so that the reader gives the value back, as long as its numbers are
integers of a word and it does not nest too deep (`Format.read_write`).  So an editor that comes to a
text mode shows a text that reads as the value at its path, and going through the other form and back
brings nothing new to the document.
-/

namespace SchemaForms

open Value (Legible)

namespace Format

/-- **A text that was written for a value reads as it**, in either form. -/
theorem read_write {v : Value} (format : Format) (hv : v.Legible (Json.depthLimit - 1)) :
    format.read (format.write v) = .ok v := by
  cases format with
  | json => exact congrArg (Except.mapError ParseError.json) (Json.parse_pretty hv)
  | yaml =>
    exact congrArg (Except.mapError ParseError.yaml) (Yaml.parse_write (hv.mono (by decide)))

end Format

namespace Session

open EditorState

variable {session : Session} {path : Path} {format : Format} {v : Value}

/-- An editor shows a value as text: in the mode, with a text that reads as the value at its path. -/
structure Displays (session : Session) (path : Path) (format : Format) (v : Value) : Prop where
  mode : (session.editorAt path).mode = .text format
  baseline : (session.editorAt path).baseline = some (session.editorAt path).text
  reads : format.read (session.editorAt path).text = .ok v

/-- An editor that takes a text from a value displays it, if the text reads back. -/
theorem displays_enterText (session : Session) (path : Path) (state : EditorState)
    {value : Option Value} (hread : format.read (format.write (value.getD .null)) = .ok v) :
    (session.setEditor path (state.enterText format value)).Displays path format v := by
  have hstate : (session.setEditor path (state.enterText format value)).editorAt path
      = state.enterText format value := by rw [editorAt_setEditor, if_pos rfl]
  refine ⟨?_, ?_, ?_⟩ <;> rw [hstate]
  · rfl
  · rfl
  · exact hread

/-- What takes an editor to another mode: a switch, and the end of the load of its schema, which may
bring none. -/
inductive Turns (session : Session) (path : Path) : Session → Prop where
  | switch (mode : EditMode) : Turns session path (session.switchMode path mode).1
  | settle (epoch : Nat) (outcome : LoadOutcome) :
      Turns session path (session.settle path epoch outcome).2

variable {before after : Session}

/-- **A switch to a text mode**: an editor that is in step with the value at its path displays it. -/
theorem displays_switchMode (hstep : before.InStep path) (hvalue : (before.value? path).getD .null = v)
    (hread : format.read (format.write v) = .ok v) {mode : EditMode}
    (hmode : (before.editorAt path).mode ≠ .text format)
    (hturned : ((before.switchMode path mode).1.editorAt path).mode = .text format) :
    (before.switchMode path mode).1.Displays path format v ∧
      ((before.switchMode path mode).1.value? path).getD .null = v := by
  -- whatever the editor shows in the other mode is the value
  have hshown : ∀ (next : Session) (value : Option Value), value.getD .null = v →
      ((next.setEditor path (showAs (before.editorAt path) mode value)).editorAt path).mode
        = .text format →
      (next.setEditor path (showAs (before.editorAt path) mode value)).Displays path format v := by
    intro next value hsame hnext
    rw [editorAt_setEditor, if_pos rfl] at hnext
    cases mode with
    | structured => exact absurd hnext nofun
    | text other =>
      obtain rfl := EditMode.text.inj hnext
      exact displays_enterText _ _ _ (hsame ▸ hread)
  have hswitch := switch_switchMode before path mode
  generalize before.switchMode path mode = result at hswitch hturned ⊢
  cases hswitch with
  | stays | unread =>
    rw [editorAt_setEditor, if_pos rfl] at hturned
    exact absurd hturned hmode
  | refused => exact absurd hturned hmode
  | opened => exact ⟨hshown _ _ hvalue hturned, hvalue⟩
  | @kept other value hother hfound =>
    have hsame : value = v := ((standsFor_of_read hother hfound).mp hstep).trans hvalue
    exact ⟨hshown _ _ hsame hturned, hvalue⟩
  | @written other value next hother hfound hbaseline hwrite =>
    have hsame : value = v := ((standsFor_of_read hother hfound).mp hstep).trans hvalue
    refine ⟨hshown _ _ hsame hturned, ?_⟩
    exact (congrArg (Option.getD · .null) (value?_write hwrite)).trans hsame

/-- **The end of a load**: without a schema the value is displayed as JSON. -/
theorem displays_settle (hvalue : (before.value? path).getD .null = v)
    (hread : Format.json.read (Format.json.write v) = .ok v)
    (hmode : (before.editorAt path).mode ≠ .text .json) {epoch : Nat} {outcome : LoadOutcome}
    (hturned : ((before.settle path epoch outcome).2.editorAt path).mode = .text .json) :
    (before.settle path epoch outcome).2.Displays path .json v ∧
      ((before.settle path epoch outcome).2.value? path).getD .null = v := by
  have hread' : Format.json.read (Format.json.write ((before.value? path).getD .null)) = .ok v := by
    rw [hvalue, hread]
  rw [settle] at hturned ⊢
  cases hfound : (before.editor? path).filter (·.epoch = epoch) with
  | none =>
    rw [hfound] at hturned
    exact absurd hturned hmode
  | some state =>
    rw [hfound] at hturned
    have hstate : before.editorAt path = state := by
      rw [editorAt, (Option.filter_eq_some_iff.mp hfound).1]
      rfl
    rcases outcome with e | - | schema
    · exact ⟨displays_enterText _ _ _ hread', hvalue⟩
    · exact ⟨displays_enterText _ _ _ hread', hvalue⟩
    · rw [editorAt_setEditor, if_pos rfl] at hturned
      exact absurd hturned (hstate ▸ hmode)

theorem Turns.displays (h : Turns before path after) (hstep : before.InStep path)
    (hvalue : (before.value? path).getD .null = v)
    (hread : Format.json.read (Format.json.write v) = .ok v)
    (hmode : (before.editorAt path).mode ≠ .text .json)
    (hturned : (after.editorAt path).mode = .text .json) :
    after.Displays path .json v ∧ (after.value? path).getD .null = v := by
  cases h with
  | switch mode => exact displays_switchMode hstep hvalue hread hmode hturned
  | settle epoch outcome => exact displays_settle hvalue hread hmode hturned

/-- **Going on to another form** from a text that is the baseline writes nothing, and the value of the
text is displayed. -/
theorem Displays.switchMode {other : Format} (h : session.Displays path format v)
    (hne : other ≠ format) (hread : other.read (other.write v) = .ok v) :
    let switched := session.switchMode path (.text other)
    switched.2 = .ok () ∧ switched.1.store = session.store ∧ switched.1.Displays path other v := by
  intro switched
  have hmode : ¬ EditMode.text format = .text other := fun hsame => hne (EditMode.text.inj hsame).symm
  have hswitched : switched
      = (session.setEditor path ((session.editorAt path).enterText other (some v)), .ok ()) := by
    simp only [switched, Session.switchMode, h.mode, if_neg hmode, leaveTextFor, h.reads, writeText,
      if_pos h.baseline, showAs]
  rw [hswitched]
  exact ⟨rfl, rfl, displays_enterText _ _ _ hread⟩

/-- **JSON text reads back.**  For a value without a key twice in an object, with integers of a word
only and no more than 127 containers open at once, the reader takes the written text as exactly the
value.  So whenever an editor comes to the JSON mode, from the form or from a YAML text that stands for
the document, its text reads as the value at its path; from the form it always gets there. -/
theorem json_text_reads_back {v : Value} (hregular : v.Regular) (hintegral : v.Integral)
    (hdepth : v.depth ≤ 127) :
    Format.json.read (Format.json.write v) = .ok v ∧
    ∀ (session : Session) (path : Path), (session.value? path).getD .null = v →
      session.InStep path → (session.editorAt path).mode ≠ .text .json →
      (∀ after, Turns session path after → (after.editorAt path).mode = .text .json →
        (after.value? path).getD .null = v ∧
          Format.json.read (after.editorAt path).text = .ok v) ∧
      ((session.editorAt path).mode = .structured →
        let switched := session.switchMode path (.text .json)
        switched.2 = .ok () ∧ switched.1.store = session.store ∧
          (switched.1.editorAt path).mode = .text .json) := by
  have hread := Format.read_write .json ⟨hregular, hintegral, hdepth⟩
  refine ⟨hread, fun session path hvalue hstep hmode => ⟨fun after hturns hturned => ?_, ?_⟩⟩
  · obtain ⟨hdisplays, hstored⟩ := hturns.displays hstep hvalue hread hmode hturned
    exact ⟨hstored, hdisplays.reads⟩
  · intro hform switched
    have hswitched : switched = (session.setEditor path
        ((session.editorAt path).enterText .json (session.value? path)), .ok ()) := by
      simp only [switched, Session.switchMode, hform, reduceCtorEq, if_false, showAs]
    rw [hswitched]
    exact ⟨rfl, rfl, (displays_enterText _ _ _ (hvalue ▸ hread)).mode⟩

/-- Keys and strings that need escapes, the first and the last integer of a word, and empty
containers. -/
def intricate : Value :=
  .obj [("\u00010\"\\", .str "\u2028😀\n"), ("", .arr [.obj [], .arr [], .null, .bool true]),
    ("a", .arr [.num (.int (-9223372036854775808)), .num (.int 18446744073709551615)])]

/-- A form is switched to JSON. -/
theorem json_text_reads_back_intricate :
    let session := ofDocument .default (.obj [("root", intricate)])
    let switched := session.switchMode Path.root (.text .json)
    Format.json.read (Format.json.write intricate) = .ok intricate ∧ switched.2 = .ok () ∧
      Format.json.read (switched.1.editorAt Path.root).text = .ok intricate := by
  intro session switched
  obtain ⟨hread, hshown⟩ := json_text_reads_back (v := intricate) (by decide) (by decide) (by decide)
  obtain ⟨hturns, hform⟩ := hshown session Path.root rfl (standsFor_of_structured rfl _) nofun
  obtain ⟨hok, -, hmode⟩ := hform rfl
  exact ⟨hread, hok, (hturns switched.1 (.switch _) hmode).2⟩

/-- **YAML text reads back.**  For a value without a key twice in an object, with integers of a word
only and no more than 100 containers open at once, the reader takes the written text as exactly the
value, strings as strings.  So whenever an editor shows such a value as JSON and nothing is typed, going
to YAML and back succeeds, leaves document, marks and watches alone, and ends with a text that reads as
the value. -/
theorem yaml_text_reads_back {v : Value} (hregular : v.Regular) (hintegral : v.Integral)
    (hdepth : v.depth ≤ 100) :
    Format.yaml.read (Format.yaml.write v) = .ok v ∧
    ∀ (session : Session) (path : Path), (session.editorAt path).mode = .text .json →
      Format.json.read (session.editorAt path).text = .ok v →
      (session.editorAt path).baseline = some (session.editorAt path).text →
      let there := session.switchMode path (.text .yaml)
      let back := there.1.switchMode path (.text .json)
      there.2 = .ok () ∧ back.2 = .ok () ∧
      there.1.store = session.store ∧ back.1.store = session.store ∧
      (there.1.editorAt path).mode = .text .yaml ∧
      Format.yaml.read (there.1.editorAt path).text = .ok v ∧
      (back.1.editorAt path).mode = .text .json ∧
      Format.json.read (back.1.editorAt path).text = .ok v := by
  have hlegible : v.Legible (Json.depthLimit - 1) :=
    ⟨hregular, hintegral, Nat.le_trans hdepth (by decide)⟩
  refine ⟨Format.read_write .yaml hlegible, ?_⟩
  intro session path hmode hread hbaseline there back
  have hdisplays : session.Displays path .json v := ⟨hmode, hbaseline, hread⟩
  obtain ⟨hthere, hstore, hyaml⟩ :=
    hdisplays.switchMode (by decide : Format.yaml ≠ .json) (Format.read_write .yaml hlegible)
  obtain ⟨hback, hstore', hjson⟩ :=
    hyaml.switchMode (by decide : Format.json ≠ .yaml) (Format.read_write .json hlegible)
  exact ⟨hthere, hback, hstore, hstore'.trans hstore, hyaml.mode, hyaml.reads, hjson.mode,
    hjson.reads⟩

/-- Strings that look like other values or hold marks of YAML, as keys and as values, with sequences
and mappings inside each other. -/
def deceptive : Value :=
  .obj [("no: # 1", .str "0x1F"),
    ("- a", .arr [.arr [.str "null", .num (.int (-1))], .obj [("?", .str "")]]),
    ("line\nfeed", .arr [.str " two\n\n lines \n", .str "~", .arr []]),
    ("1.0", .obj [("", .str "---")])]

/-- An editor that shows them as JSON goes to YAML and back. -/
theorem yaml_text_reads_back_deceptive :
    let start := ofDocument .default (.obj [("root", deceptive)])
    let shown := (start.switchMode Path.root (.text .json)).1
    Format.yaml.read (Format.yaml.write deceptive) = .ok deceptive ∧
      let there := shown.switchMode Path.root (.text .yaml)
      let back := there.1.switchMode Path.root (.text .json)
      there.2 = .ok () ∧ back.2 = .ok () ∧
      there.1.store = shown.store ∧ back.1.store = shown.store ∧
      (there.1.editorAt Path.root).mode = .text .yaml ∧
      Format.yaml.read (there.1.editorAt Path.root).text = .ok deceptive ∧
      (back.1.editorAt Path.root).mode = .text .json ∧
      Format.json.read (back.1.editorAt Path.root).text = .ok deceptive := by
  intro start shown
  have hjson : Format.json.read (Format.json.write deceptive) = .ok deceptive :=
    Format.read_write .json (by decide)
  have hshown : shown.Displays Path.root .json deceptive := displays_enterText _ _ _ hjson
  obtain ⟨hread, hswitched⟩ :=
    yaml_text_reads_back (v := deceptive) (by decide) (by decide) (by decide)
  exact ⟨hread, hswitched shown Path.root hshown.mode hshown.reads hshown.baseline⟩

end Session

end SchemaForms
