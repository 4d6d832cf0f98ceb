import SchemaForms.Path.Key
import SchemaForms.Proofs.Decimal.Notation

/-!
# Proofs/Path/RoundTrip — the written form of a path reads back

The reader is a run of a small automaton.  Between two steps of a path it stands in a state that is
`Settled`: what it would close at the end of the text is exactly the steps read so far.  Each
written step leads from such a state to the next, so `parse_key` follows by going along the path.
It holds of every path whose first step cannot be mistaken for nothing; the paths below the root are
among them, and no other path has the written form of one of these (`Rooted.key_inj`).
-/

namespace SchemaForms.Path

/-! ## Paths that can be filed -/

/-- A step whose index, if it is one, fits a word. -/
def Fits : Segment → Prop
  | .key _ => True
  | .index i => i < Numeral.unsignedBound

instance (segment : Segment) : Decidable (Fits segment) := by
  cases segment <;> unfold Fits <;> infer_instance

/-- A path of the edited document: it leads through the root, and its indices fit a word. -/
structure Rooted (path : Path) : Prop where
  under : root <+: path
  fits : ∀ segment ∈ path, Fits segment

instance (path : Path) : Decidable (Rooted path) :=
  decidable_of_iff (root <+: path ∧ ∀ segment ∈ path, Fits segment)
    ⟨fun h => ⟨h.1, h.2⟩, fun h => ⟨h.under, h.fits⟩⟩

theorem rooted_root : Rooted root := by decide

/-- A path below the root begins with its key. -/
theorem Rooted.exists_eq {path : Path} (h : Rooted path) : ∃ rest, path = .key "root" :: rest := by
  obtain ⟨rest, hrest⟩ := h.under
  exact ⟨rest, hrest.symm⟩

/-! ## Reading what was written -/

/-- The reader stands between two steps. -/
def Settled : Path × Reading → Prop
  | (_, .text _ started) => started = true
  | (_, .afterBracket) => True
  | _ => False

/-- Reads characters one after the other. -/
def readChars (state : Path × Reading) (text : List Char) : Path × Reading :=
  text.foldl readChar state

theorem readChars_append (state : Path × Reading) (front back : List Char) :
    readChars state (front ++ back) = readChars (readChars state front) back :=
  List.foldl_append

/-- The first written character of a key is read as the character; from then on there is a key, even
where there was none before. -/
theorem readChars_escape_cons (done : Path) (current : List Char) (started : Bool) (c : Char)
    (rest : List Char) :
    readChars (done, .text current started) (escape (c :: rest))
      = readChars (done, .text (current ++ [c]) true) (escape rest) := by
  by_cases hc : isStructural c
  · simp [readChars, escape, hc, readChar, readText]
  · have hne : c ≠ '\\' ∧ c ≠ '.' ∧ c ≠ '[' := by
      refine ⟨?_, ?_, ?_⟩ <;> rintro rfl <;> exact hc rfl
    simp [readChars, escape, hc, readChar, readText, hne]

/-- **An escaped key reads as its characters**, whatever was read of the key before. -/
theorem readChars_escape (done : Path) (text current : List Char) :
    readChars (done, .text current true) (escape text) = (done, .text (current ++ text) true) := by
  induction text generalizing current with
  | nil => simp [readChars, escape]
  | cons c rest ih =>
    rw [readChars_escape_cons, ih, List.append_assoc]
    rfl

/-- Characters in brackets are collected up to the closing one. -/
theorem readChars_digits (done : Path) (text digits : List Char) (h : ']' ∉ text) :
    readChars (done, .bracket digits) text = (done, .bracket (digits ++ text)) := by
  induction text generalizing digits with
  | nil => simp [readChars]
  | cons c rest ih =>
    have hc : c ≠ ']' := fun hc => h (hc ▸ List.mem_cons_self)
    have hrest : ']' ∉ rest := fun hr => h (List.mem_cons_of_mem _ hr)
    have hstep : readChars (done, .bracket digits) (c :: rest)
        = readChars (done, .bracket (digits ++ [c])) rest := by
      simp [readChars, readChar, hc]
    rw [hstep, ih _ hrest, List.append_assoc]
    rfl

/-- A separator closes what was open and begins a key. -/
theorem readChar_dot {state : Path × Reading} (h : Settled state) :
    readChar state '.' = (finish state, .text [] true) := by
  obtain ⟨done, reading⟩ := state
  cases reading with
  | text current started =>
    obtain rfl : started = true := h
    simp [readChar, readText, finish]
  | escaped current => exact h.elim
  | bracket digits => exact h.elim
  | afterBracket => simp [readChar, finish]

/-- A bracket closes what was open. -/
theorem readChar_open {state : Path × Reading} (h : Settled state) :
    readChar state '[' = (finish state, .bracket []) := by
  obtain ⟨done, reading⟩ := state
  cases reading with
  | text current started =>
    obtain rfl : started = true := h
    simp [readChar, readText, finish]
  | escaped current => exact h.elim
  | bracket digits => exact h.elim
  | afterBracket => simp [readChar, readText, finish]

/-- **A written step is read as that step.** -/
theorem readChars_segmentText {state : Path × Reading} (h : Settled state) {segment : Segment}
    (hfits : Fits segment) :
    Settled (readChars state (segmentText segment)) ∧
      finish (readChars state (segmentText segment)) = finish state ++ [segment] := by
  cases segment with
  | key text =>
    have hread : readChars state (segmentText (.key text))
        = (finish state, .text text.toList true) := by
      change readChars (readChar state '.') (escape text.toList) = _
      rw [readChar_dot h, readChars_escape, List.nil_append]
    rw [hread]
    exact ⟨rfl, by simp [finish]⟩
  | index i =>
    have hclose : ']' ∉ Decimal.natText i := Decimal.not_mem_natText (by decide) i
    have hread : readChars state (segmentText (.index i))
        = (finish state ++ [.index i], .afterBracket) := by
      change readChars (readChar state '[') (Decimal.natText i ++ [']']) = _
      rw [readChar_open h, readChars_append, readChars_digits _ _ _ hclose, List.nil_append]
      have hindex : bracketSegment (Decimal.natText i) = .index i := by
        rw [bracketSegment, Numeral.index?_natText hfits]
      simp [readChars, readChar, hindex]
    rw [hread]
    exact ⟨trivial, rfl⟩

/-- **Written steps are read one after the other.** -/
theorem readChars_flatMap {state : Path × Reading} (h : Settled state) {path : Path}
    (hfits : ∀ segment ∈ path, Fits segment) :
    Settled (readChars state (path.flatMap segmentText)) ∧
      finish (readChars state (path.flatMap segmentText)) = finish state ++ path := by
  induction path generalizing state with
  | nil => exact ⟨h, by simp [readChars]⟩
  | cons segment rest ih =>
    obtain ⟨hsettled, hfinish⟩ :=
      readChars_segmentText h (hfits segment List.mem_cons_self)
    obtain ⟨hlast, hrest⟩ := ih hsettled fun s hs => hfits s (List.mem_cons_of_mem _ hs)
    rw [List.flatMap_cons, readChars_append]
    refine ⟨hlast, ?_⟩
    rw [hrest, hfinish, List.append_assoc]
    rfl

theorem finish_readChars_flatMap {state : Path × Reading} (h : Settled state) {path : Path}
    (hfits : ∀ segment ∈ path, Fits segment) :
    finish (readChars state (path.flatMap segmentText)) = finish state ++ path :=
  (readChars_flatMap h hfits).2

/-- A path may begin with a key, as long as the key is not empty. -/
theorem readChars_escape_start {text : List Char} (h : text ≠ []) :
    readChars ([], .text [] false) (escape text) = ([], .text text true) := by
  cases text with
  | nil => exact absurd rfl h
  | cons c rest =>
    rw [readChars_escape_cons, readChars_escape]
    rfl

/-- **The written form of a path reads back**, when its first step is a key that is not empty. -/
theorem parse_key_cons {text : String} {rest : Path} (htext : text ≠ "")
    (hfits : ∀ segment ∈ rest, Fits segment) :
    parse (key (.key text :: rest)) = .key text :: rest := by
  have hchars : text.toList ≠ [] := by
    intro h
    exact htext (String.toList_eq_nil_iff.mp h)
  rw [parse, key, String.toList_ofList, ofChars]
  change finish (readChars _ (keyChars _)) = _
  rw [keyChars, readChars_append, readChars_escape_start hchars]
  have hsettled : Settled ([], .text text.toList true) := rfl
  rw [finish_readChars_flatMap hsettled hfits]
  simp [finish]

/-- **The written form of a path of the document reads back.** -/
theorem Rooted.parse_key {path : Path} (h : Rooted path) : parse path.key = path := by
  obtain ⟨rest, rfl⟩ := h.exists_eq
  exact parse_key_cons (by decide) fun s hs => h.fits s (List.mem_cons_of_mem _ hs)

/-! ## Other paths

A written path may begin with nothing: an empty key in front of an index, or on its own, is not seen
by the reader.  What it reads instead does not begin with a key. -/

/-- In front of a key the reader takes nothing for an empty key. -/
theorem readChars_start_key (text : String) (rest : Path) :
    readChars ([], .text [] false) ((Segment.key text :: rest).flatMap segmentText)
      = readChars ([], .text [] true) ((Segment.key text :: rest).flatMap segmentText) := rfl

/-- In front of an index the reader takes nothing for nothing. -/
theorem readChars_start_index (i : Nat) (rest : Path) :
    readChars ([], .text [] false) ((Segment.index i :: rest).flatMap segmentText)
      = readChars ([], .afterBracket) ((Segment.index i :: rest).flatMap segmentText) := rfl

/-- **What the written form of a path reads as**: the path, or all of it but an empty key in front. -/
theorem parse_key_or {path : Path} (hfits : ∀ segment ∈ path, Fits segment) :
    parse path.key = path ∨
      ∃ rest, path = .key "" :: rest ∧ parse path.key = rest ∧
        ∀ text tail, rest ≠ .key text :: tail := by
  have hparse : parse path.key = finish (readChars ([], .text [] false) path.keyChars) := by
    rw [parse, key, String.toList_ofList, ofChars]
    rfl
  have hclosed : Settled ([], .afterBracket) := trivial
  rcases path with _ | ⟨text | i, rest⟩
  · exact .inl (by decide)
  · have hrest : ∀ segment ∈ rest, Fits segment := fun s hs => hfits s (List.mem_cons_of_mem _ hs)
    by_cases htext : text = ""
    · subst htext
      rcases rest with _ | ⟨next | i, tail⟩
      · refine .inr ⟨[], rfl, by decide, fun text below h => ?_⟩
        cases h
      · left
        rw [hparse, keyChars]
        change finish (readChars ([], .text [] false) ((Segment.key next :: tail).flatMap _)) = _
        have hsettled : Settled ([], .text [] true) := rfl
        rw [readChars_start_key, finish_readChars_flatMap hsettled hrest]
        rfl
      · refine .inr ⟨.index i :: tail, rfl, ?_, fun text below h => ?_⟩
        · rw [hparse, keyChars]
          change finish (readChars ([], .text [] false) ((Segment.index i :: tail).flatMap _)) = _
          rw [readChars_start_index, finish_readChars_flatMap hclosed hrest]
          rfl
        · cases h
    · exact .inl (parse_key_cons htext hrest)
  · left
    rw [hparse, keyChars, readChars_start_index, finish_readChars_flatMap hclosed hfits]
    rfl

/-- **Whether a path is below another is seen from its written form**, if the other is one of the
document. -/
theorem Rooted.prefix_parse_key_iff {path below : Path} (h : Rooted path)
    (hfits : ∀ segment ∈ below, Fits segment) : path <+: parse below.key ↔ path <+: below := by
  obtain hsame | ⟨rest, rfl, hrest, hnokey⟩ := parse_key_or hfits
  · rw [hsame]
  · obtain ⟨tail, rfl⟩ := h.exists_eq
    rw [hrest]
    constructor
    · rintro ⟨more, rfl⟩
      exact absurd rfl (hnokey "root" (tail ++ more))
    · rintro ⟨more, hmore⟩
      simp at hmore

/-- **So it is if the other is below one of the document**, whatever its last index is. -/
theorem Rooted.below_parse_key_iff {above path below : Path} (h : Rooted above)
    (hpath : above <+: path) (hfits : ∀ segment ∈ below, Fits segment) :
    path <+: parse below.key ↔ path <+: below := by
  have hsame : above <+: below → parse below.key = below := fun hbelow =>
    Rooted.parse_key ⟨h.under.trans hbelow, hfits⟩
  constructor
  · intro hread
    have hbelow := (h.prefix_parse_key_iff hfits).mp (hpath.trans hread)
    rwa [hsame hbelow] at hread
  · intro hwritten
    rwa [hsame (hpath.trans hwritten)]

/-! ## What is read stays read -/

theorem readText_extends (done : Path) (current : List Char) (started : Bool) (c : Char) :
    done <+: (readText done current started c).1 := by
  unfold readText
  split
  · exact List.prefix_refl _
  · split
    · exact List.prefix_append _ _
    · split
      · cases started <;> simp
      · exact List.prefix_refl _

theorem readChar_extends (state : Path × Reading) (c : Char) :
    state.1 <+: (readChar state c).1 := by
  obtain ⟨done, reading⟩ := state
  cases reading with
  | text current started => exact readText_extends done current started c
  | escaped current => exact List.prefix_refl _
  | bracket digits =>
    rw [readChar]
    split
    · exact List.prefix_append _ _
    · exact List.prefix_refl _
  | afterBracket =>
    rw [readChar]
    split
    · exact List.prefix_refl _
    · exact readText_extends done [] false c

theorem readChars_extends (state : Path × Reading) (text : List Char) :
    state.1 <+: (readChars state text).1 := by
  induction text generalizing state with
  | nil => exact List.prefix_refl _
  | cons c text ih => exact (readChar_extends state c).trans (ih _)

theorem finish_extends (state : Path × Reading) : state.1 <+: finish state := by
  obtain ⟨done, reading⟩ := state
  cases reading with
  | text current started => cases started <;> simp [finish]
  | escaped current => exact List.prefix_append _ _
  | bracket digits => exact List.prefix_append _ _
  | afterBracket => exact List.prefix_refl _

/-- What is closed between two steps is not opened again. -/
theorem finish_prefix {state : Path × Reading} (h : Settled state) (rest : Path) :
    finish state <+: finish (readChars state (rest.flatMap segmentText)) := by
  cases rest with
  | nil => exact List.prefix_refl _
  | cons segment rest =>
    have hopened : ∃ c text, (segment :: rest).flatMap segmentText = c :: text ∧
        (readChar state c).1 = finish state := by
      cases segment with
      | key key => exact ⟨'.', _, rfl, by rw [readChar_dot h]⟩
      | index i => exact ⟨'[', _, rfl, by rw [readChar_open h]⟩
    obtain ⟨c, text, htext, hfirst⟩ := hopened
    rw [htext, ← hfirst]
    exact (readChars_extends (readChar state c) text).trans (finish_extends _)

/-- **What is below a path of the document reads as such**, even if its own indices do not fit. -/
theorem Rooted.prefix_parse_key {path below : Path} (h : Rooted path) (hbelow : path <+: below) :
    path <+: parse below.key := by
  obtain ⟨rest, rfl⟩ := hbelow
  obtain ⟨tail, rfl⟩ := h.exists_eq
  have htail : ∀ segment ∈ tail, Fits segment := fun s hs => h.fits s (List.mem_cons_of_mem _ hs)
  have hstart : readChars ([], .text [] false) (escape "root".toList)
      = ([], .text "root".toList true) := readChars_escape_start (by decide)
  have hfirst : Settled ([], .text "root".toList true) := rfl
  obtain ⟨hsettled, hfinish⟩ := readChars_flatMap hfirst htail
  have hread : parse (Path.key (.key "root" :: tail ++ rest)) = finish (readChars
      (readChars ([], .text "root".toList true) (tail.flatMap segmentText))
        (rest.flatMap segmentText)) := by
    rw [parse, key, String.toList_ofList, ofChars]
    change finish (readChars _ (keyChars (.key "root" :: (tail ++ rest)))) = _
    rw [keyChars, List.flatMap_append, readChars_append, readChars_append, hstart]
  rw [hread]
  have hprefix := finish_prefix hsettled rest
  rw [hfinish] at hprefix
  exact hprefix

/-! ## No two paths of the document are written alike

The reader only inverts the writing of indices that fit a word, while every path has a written form.
So the comparison with an arbitrary path goes by the written forms themselves: a step ends where the
next one begins, which no character inside it can do. -/

/-- A text that is over or goes on with a new step. -/
def OpensStep : List Char → Prop
  | [] => True
  | c :: _ => c = '.' ∨ c = '['

theorem opensStep_flatMap (path : Path) : OpensStep (path.flatMap segmentText) := by
  cases path with
  | nil => trivial
  | cons segment rest => cases segment <;> simp [OpensStep, segmentText]

theorem isStructural_of_opensStep {c : Char} {text : List Char} (h : OpensStep (c :: text)) :
    isStructural c = true := by
  rcases h with rfl | rfl <;> rfl

/-- What is escaped does not open a step. -/
theorem not_opensStep_escape (c : Char) (text : List Char) (rest : List Char) :
    ¬ OpensStep (escape (c :: text) ++ rest) := by
  by_cases hc : isStructural c
  · simp [escape, hc, OpensStep]
  · simp only [escape, hc, Bool.false_eq_true, if_false, List.cons_append]
    exact fun h => hc (isStructural_of_opensStep h)

/-- **An escaped key ends where the next step begins.** -/
theorem escape_append_inj {a b x y : List Char} (hx : OpensStep x) (hy : OpensStep y)
    (h : escape a ++ x = escape b ++ y) : a = b ∧ x = y := by
  induction a generalizing b with
  | nil =>
    cases b with
    | nil => exact ⟨rfl, h⟩
    | cons d b => exact absurd (h ▸ hx) (not_opensStep_escape d b y)
  | cons c a ih =>
    cases b with
    | nil => exact absurd (h.symm ▸ hy) (not_opensStep_escape c a x)
    | cons d b =>
      have hcd : c = d ∧ escape a ++ x = escape b ++ y := by
        by_cases hc : isStructural c <;> by_cases hd : isStructural d <;>
          simp only [escape, hc, hd, if_true, Bool.false_eq_true, if_false, List.cons_append,
            List.cons.injEq] at h
        · exact h.2
        · exact absurd rfl (h.1 ▸ hd)
        · exact absurd rfl (h.1 ▸ hc)
        · exact h
      obtain ⟨rfl, hrest⟩ := hcd
      obtain ⟨rfl, hxy⟩ := ih hrest
      exact ⟨rfl, hxy⟩

/-- The digits of a written index are what stands before its bracket. -/
theorem takeWhile_natText (n : Nat) (rest : List Char) :
    (Decimal.natText n ++ ']' :: rest).takeWhile (· != ']') = Decimal.natText n := by
  have hdigits : ∀ c ∈ Decimal.natText n, (c != ']') = true := by
    intro c hc
    refine bne_iff_ne.mpr ?_
    rintro rfl
    exact Decimal.not_mem_natText (by decide) n hc
  rw [List.takeWhile_append_of_pos hdigits]
  simp

/-- A written index ends at its bracket. -/
theorem natText_append_inj {m n : Nat} {x y : List Char}
    (h : Decimal.natText m ++ ']' :: x = Decimal.natText n ++ ']' :: y) : m = n ∧ x = y := by
  have htext : Decimal.natText m = Decimal.natText n := by
    rw [← takeWhile_natText m x, h, takeWhile_natText]
  have hread := Numeral.natural?_natText m
  rw [htext, Numeral.natural?_natText n] at hread
  rw [htext] at h
  exact ⟨(Option.some.inj hread).symm, (List.cons.inj (List.append_cancel_left h)).2⟩

/-- **Written steps tell which steps they are.** -/
theorem flatMap_segmentText_inj {p q : Path}
    (h : p.flatMap segmentText = q.flatMap segmentText) : p = q := by
  induction p generalizing q with
  | nil =>
    cases q with
    | nil => rfl
    | cons t q => cases t <;> simp [segmentText] at h
  | cons s p ih =>
    cases q with
    | nil => cases s <;> simp [segmentText] at h
    | cons t q =>
      cases s with
      | key a =>
        cases t with
        | key b =>
          simp only [List.flatMap_cons, segmentText, List.cons_append, List.cons.injEq,
            true_and] at h
          obtain ⟨hab, hrest⟩ :=
            escape_append_inj (opensStep_flatMap p) (opensStep_flatMap q) h
          rw [String.toList_injective hab, ih hrest]
        | index j => simp [segmentText] at h
      | index i =>
        cases t with
        | key b => simp [segmentText] at h
        | index j =>
          simp only [List.flatMap_cons, segmentText, List.cons_append, List.append_assoc,
            List.nil_append, List.cons.injEq, true_and] at h
          obtain ⟨rfl, hrest⟩ := natText_append_inj h
          rw [ih hrest]

/-- **No other path is written like one that leads through the root.** -/
theorem key_inj_of_root {path other : Path} (h : root <+: path) (hkey : other.key = path.key) :
    other = path := by
  obtain ⟨rest, rfl⟩ := h
  have hchars : other.keyChars = escape "root".toList ++ rest.flatMap segmentText :=
    String.ofList_injective hkey
  -- A path that begins with an index, or with an empty key, is not written with an `r` in front.
  cases other with
  | nil => simp [keyChars, escape, isStructural] at hchars
  | cons segment tail =>
    cases segment with
    | index i => simp [keyChars, segmentText, escape, isStructural] at hchars
    | key text =>
      obtain ⟨htext, htail⟩ :=
        escape_append_inj (opensStep_flatMap tail) (opensStep_flatMap rest) hchars
      rw [String.toList_injective htext, flatMap_segmentText_inj htail]
      rfl

/-- **No other path is written like a path of the document.** -/
theorem Rooted.key_inj {path other : Path} (h : Rooted path) (hkey : other.key = path.key) :
    other = path := key_inj_of_root h.under hkey

end SchemaForms.Path
