import SchemaForms.Proofs.Url.Encoding

/-!
# Proofs/Url/Putting — putting segments behind a path

Plain segments are put behind each other (`foldl_of_opens`), if the path has something to put them
behind or the first of them can stand there alone.  Conversely, a path with exactly the given segments
behind comes out only if they are plain (`plain_of_foldl`) and can be put there (`opens_of_foldl`):
whatever is put on a path decodes to what a segment may hold (`Grown.foldl`, `leads_of_puts`), and no
text makes a path longer by more than a segment (`length_foldl_le`).
-/

namespace SchemaForms

namespace Url

open Percent (encode decodeText? decodeText?_encode inSegment)

variable {isFile special : Bool} {path : List Segment} {text : List Char}

theorem inSegment_percent (special : Bool) : inSegment special '%' = true := by cases special <;> rfl

theorem inSegment_slash (special : Bool) : inSegment special '/' = true := by cases special <;> rfl

/-! ## What a base takes -/

/-- The segments of a path, without one empty segment at its end. -/
def trunk (path : List Segment) : List Segment :=
  if path.getLast? = some [] then path.dropLast else path

/-- A text that can be a segment: it is no dots, and a URL may hold each of its characters. -/
structure Plain (text : List Char) : Prop where
  dot : text ≠ ['.']
  dots : text ≠ ['.', '.']
  kept : ∀ c ∈ text, isDropped c = false

instance : DecidablePred Plain := fun text =>
  decidable_of_iff (text ≠ ['.'] ∧ text ≠ ['.', '.'] ∧ text.any isDropped = false)
    ⟨fun h => ⟨h.1, h.2.1, fun c hc => Bool.eq_false_iff.mpr (List.any_eq_false.mp h.2.2 c hc)⟩,
      fun h => ⟨h.dot, h.dots, List.any_eq_false.mpr fun c hc => Bool.eq_false_iff.mp (h.kept c hc)⟩⟩

/-- Whether a text is a drive with a bar, which is not its one spelling. -/
def IsBarred : List Char → Prop
  | [a, '|'] => isLetter a = true
  | _ => False

instance : DecidablePred IsBarred := by
  intro text
  unfold IsBarred
  split <;> infer_instance

/-- Whether a list of segments can be put behind a path.  A slash alone gives way to the first
segment, and so does an empty segment that nothing is in front of. -/
def Opens (isFile : Bool) (path : List Segment) : List (List Char) → Prop
  | [] => path ≠ [[]]
  | first :: rest => path ≠ [[], []] ∧
      (trunk path = [] → (first = [] → rest = []) ∧ (isFile = true → ¬ IsBarred first))

instance (isFile : Bool) (path : List Segment) : DecidablePred (Opens isFile path) := by
  intro texts
  unfold Opens
  split <;> infer_instance

/-! ## What is put on a path -/

/-- A path of at most `n` segments, with segments behind them that satisfy `Q`. -/
def Grown (n : Nat) (Q : Segment → Prop) (path : List Segment) : Prop :=
  ∃ front back, path = front ++ back ∧ front.length ≤ n ∧ ∀ segment ∈ back, Q segment

variable {n : Nat} {Q : Segment → Prop}

theorem grown_nil : Grown n Q [] := ⟨[], [], rfl, Nat.zero_le n, nofun⟩

theorem Grown.concat (h : Grown n Q path) {segment : Segment} (hsegment : Q segment) :
    Grown n Q (path ++ [segment]) := by
  obtain ⟨front, back, rfl, hlength, hback⟩ := h
  refine ⟨front, back ++ [segment], List.append_assoc _ _ _, hlength, fun other hother => ?_⟩
  rcases List.mem_append.mp hother with hold | hnew
  · exact hback other hold
  · exact List.mem_singleton.mp hnew ▸ hsegment

theorem Grown.dropLast (h : Grown n Q path) : Grown n Q path.dropLast := by
  obtain ⟨front, back, rfl, hlength, hback⟩ := h
  rcases List.eq_nil_or_concat back with rfl | ⟨init, last, rfl⟩
  · rw [List.append_nil]
    refine ⟨front.dropLast, [], (List.append_nil _).symm, ?_, nofun⟩
    rw [List.length_dropLast]
    exact Nat.le_trans (Nat.sub_le _ _) hlength
  · rw [List.concat_eq_append] at hback
    rw [List.concat_eq_append, ← List.append_assoc, List.dropLast_concat]
    exact ⟨front, init, rfl, hlength, fun segment hsegment =>
      hback segment (List.mem_append_left _ hsegment)⟩

theorem Grown.suffix (h : Grown n Q path) {rest : List Segment} (hrest : rest <:+ path) :
    Grown n Q rest := by
  obtain ⟨dropped, rfl⟩ := hrest
  obtain ⟨front, back, heq, hlength, hback⟩ := h
  have hdrop := congrArg (List.drop dropped.length) heq
  rw [List.drop_left, List.drop_append] at hdrop
  refine ⟨_, _, hdrop, ?_, fun segment hsegment => hback segment (List.mem_of_mem_drop hsegment)⟩
  rw [List.length_drop]
  exact Nat.le_trans (Nat.sub_le _ _) hlength

/-- The end of a path that has grown behind at least as many segments. -/
theorem Grown.mem {front back : List Segment} (h : Grown n Q (front ++ back))
    (hlength : n ≤ front.length) : ∀ segment ∈ back, Q segment := by
  obtain ⟨front', back', heq, hlength', hback'⟩ := h
  rcases List.append_eq_append_iff.mp heq with ⟨more, rfl, rfl⟩ | ⟨more, rfl, rfl⟩
  · rw [List.length_append] at hlength'
    obtain rfl : more = [] := List.length_eq_zero_iff.mp (by omega)
    exact hback'
  · exact fun segment hsegment => hback' segment (List.mem_append_right _ hsegment)

/-- Whether a move puts a segment on a path. -/
def Move.Puts : Move → Segment → Prop
  | .enter segment, put => put = segment ∨ (isDrive segment = true ∧ put = driveName segment)
  | .enterBehind drive segment, put => put = drive ∨ put = segment
  | .stay, _ | .up, _ => False

/-- **The last move puts nothing on a path but its segments**, or else an empty one. -/
theorem Grown.arrive {walk : Walk} {move : Move} (h : Grown n Q walk.behind.reverse)
    (hempty : Q []) (hputs : ∀ segment, move.Puts segment → Q segment) :
    Grown n Q (walk.arrive isFile move).behind.reverse := by
  cases move with
  | stay =>
    change Grown n Q ([] :: walk.behind).reverse
    rw [List.reverse_cons]
    exact h.concat hempty
  | up =>
    change Grown n Q ([] :: Walk.leave walk.behind).reverse
    rw [List.reverse_cons]
    refine Grown.concat ?_ hempty
    cases hbehind : walk.behind with
    | nil => exact grown_nil
    | cons last rest =>
      rw [hbehind, List.reverse_cons] at h
      rw [Walk.leave]
      split
      · rw [List.reverse_cons]
        exact h
      · have hinit := h.dropLast
        rwa [List.dropLast_concat] at hinit
  | enter segment =>
    change Grown n Q (walk.follow isFile (.enter segment)).behind.reverse
    rw [Walk.follow]
    split
    · rename_i hdrive
      rw [Bool.and_eq_true, Bool.and_eq_true] at hdrive
      exact grown_nil.concat (hputs _ (.inr ⟨hdrive.2, rfl⟩))
    · rw [List.reverse_cons]
      exact h.concat (hputs _ (.inl rfl))
  | enterBehind drive segment =>
    change Grown n Q (segment :: drive :: walk.behind).reverse
    rw [List.reverse_cons, List.reverse_cons]
    exact (h.concat (hputs _ (.inl rfl))).concat (hputs _ (.inr rfl))

theorem Grown.ofWalk {walk : Walk} (h : Grown n Q walk.behind.reverse) (hempty : Q []) :
    Grown n Q (walk.path isFile) := by
  unfold Walk.path
  dsimp only
  split
  · split
    · exact grown_nil.concat hempty
    · exact h.suffix (List.dropWhile_suffix _)
  · exact h

/-- **Adding a segment puts nothing on a path but what its text asks for.** -/
theorem Grown.addSegment (h : Grown n Q path) (hempty : Q [])
    (hputs : ∀ atRoot segment,
      (Move.ofText atRoot (inSegment special) text).Puts segment → Q segment) :
    Grown n Q (addSegment isFile special path text) := by
  have hopen : Grown n Q (openPath path) := by
    unfold openPath
    split
    · exact grown_nil
    · exact h
  unfold Url.addSegment
  split
  · exact h
  · refine Grown.ofWalk (Grown.arrive ?_ hempty (hputs _)) hempty
    rwa [Walk.ofPath, List.reverse_reverse]

theorem Grown.foldl (texts : List (List Char)) (h : Grown n Q path) (hempty : Q [])
    (hputs : ∀ text ∈ texts, ∀ atRoot segment,
      (Move.ofText atRoot (inSegment special) text).Puts segment → Q segment) :
    Grown n Q (texts.foldl (Url.addSegment isFile special) path) := by
  induction texts generalizing path with
  | nil => exact h
  | cons text texts ih =>
    exact ih (h.addSegment hempty (hputs text List.mem_cons_self))
      fun other hother => hputs other (List.mem_cons_of_mem _ hother)

/-- A path has grown behind its segments, but for an empty one at the end. -/
theorem grown_dropEmptyLast (hempty : Q []) (path : List Segment) :
    Grown (trunk path).length Q (dropEmptyLast path) := by
  unfold trunk dropEmptyLast
  by_cases hlast : path.getLast? = some []
  · rw [if_pos hlast]
    split
    · exact ⟨_, [], (List.append_nil _).symm, Nat.le_refl _, nofun⟩
    · obtain ⟨init, rfl⟩ := List.getLast?_eq_some_iff.mp hlast
      rw [List.dropLast_concat]
      exact ⟨init, [[]], rfl, Nat.le_refl _, by simpa using hempty⟩
  · rw [if_neg hlast, if_neg fun h => hlast h.2]
    exact ⟨path, [], (List.append_nil _).symm, Nat.le_refl _, nofun⟩

/-! ## What segments decode to -/

theorem not_isDropped_of_mem_kept {c : Char} (hc : c ∈ kept text) : isDropped c = false := by
  simpa using (List.mem_filter.mp hc).2

theorem kept_eq_self (h : ∀ c ∈ text, isDropped c = false) : kept text = text := by
  rw [kept, List.filter_eq_self]
  exact fun c hc => by rw [h c hc]; rfl

/-- A text of which nothing is dropped is in one piece. -/
theorem not_isParted (h : ∀ c ∈ text, isDropped c = false) : isParted text = false := by
  rw [isParted, Option.any_eq_false]
  intro c hc
  have hmem := List.mem_of_mem_drop (List.mem_of_mem_head? hc)
  rw [h c ((List.dropWhile_suffix _).mem hmem)]

theorem ofSegment_dots {segment : Segment} (h : segment = ['.'] ∨ segment = ['.', '.']) :
    Move.ofSegment segment ≠ .enter segment := by
  rcases h with rfl | rfl <;> decide

theorem ofSegment_cases (segment : Segment) :
    Move.ofSegment segment = .stay ∨ Move.ofSegment segment = .up ∨
      Move.ofSegment segment = .enter segment := by
  unfold Move.ofSegment
  split
  · exact .inl rfl
  · split
    · exact .inr (.inl rfl)
    · exact .inr (.inr rfl)

/-- A drive decodes to itself. -/
theorem decodeText?_drive {a b : Char} (h : isLetter a = true) (hb : b ≠ '%') :
    decodeText? [a, b] = some [a, b] := by
  have hletter : a ≠ '%' := by
    rintro rfl
    exact absurd h (by decide)
  refine Percent.decodeText?_of_decode ?_
  rw [Percent.decode_cons hletter, Percent.decode_cons hb]
  simp [Percent.decode]

theorem not_isDropped_of_isLetter {a : Char} (h : isLetter a = true) : isDropped a = false := by
  refine Bool.eq_false_iff.mpr fun hdropped => ?_
  simp only [isDropped, Bool.or_eq_true, decide_eq_true_eq] at hdropped
  rcases hdropped with (rfl | rfl) | rfl <;> exact absurd h (by decide)

/-- The letter of a drive. -/
theorem exists_of_isDrive {segment : Segment} (h : isDrive segment = true) :
    ∃ a b, segment = [a, b] ∧ isLetter a = true ∧ (b = ':' ∨ b = '|') := by
  rcases segment with _ | ⟨a, _ | ⟨b, _ | ⟨c, rest⟩⟩⟩
  · exact absurd h (by decide)
  · simp [isDrive, beginsWithDrive] at h
  · simp [isDrive, beginsWithDrive] at h
    exact ⟨a, b, rfl, h⟩
  · simp [isDrive] at h

theorem exists_of_isBarred {text : List Char} (h : IsBarred text) :
    ∃ a, text = [a, '|'] ∧ isLetter a = true := by
  unfold IsBarred at h
  split at h
  · exact ⟨_, rfl, h⟩
  · exact h.elim

/-- Letters are never encoded. -/
theorem inSegment_of_isLetter {c : Char} (h : isLetter c = true) : inSegment special c = false := by
  have hlt : c.toNat < 128 := by
    have hval : c.toNat = c.val.toNat := rfl
    change (decide (c.val ≥ 'A'.val ∧ c.val ≤ 'Z'.val) ||
      decide (c.val ≥ 'a'.val) && decide (c.val ≤ 'z'.val)) = true at h
    simp only [Bool.or_eq_true, Bool.and_eq_true, decide_eq_true_eq, ge_iff_le,
      UInt32.le_iff_toNat_le] at h
    have hupper : 'Z'.val.toNat = 90 := rfl
    have hlower : 'z'.val.toNat = 122 := rfl
    omega
  have hall : ∀ special : Bool, ∀ n : Fin 128, isLetter (Char.ofNat n) = true →
      inSegment special (Char.ofNat n) = false := by decide
  have hc := hall special ⟨c.toNat, hlt⟩
  rw [Char.ofNat_toNat] at hc
  exact hc h

/-- What a text can decode to that a path holds because of `text`. -/
structure Leads (text decoded : List Char) : Prop where
  kept : ∀ c ∈ decoded, isDropped c = false
  dots : (∀ c ∈ text, isDropped c = false) → decoded ≠ ['.'] ∧ decoded ≠ ['.', '.']

theorem leads_drive {a : Char} (h : isLetter a = true) : Leads text [a, ':'] where
  kept := by simpa [not_isDropped_of_isLetter h] using by decide
  dots _ := by simp

/-- **What is put on a path decodes** to a text that a URL may hold, and to dots only if something was
dropped. -/
theorem leads_of_puts {atRoot : Bool} {segment : Segment}
    (h : (Move.ofText atRoot (inSegment special) text).Puts segment) :
    ∃ decoded, decodeText? segment = some decoded ∧ Leads text decoded := by
  have hpercent := inSegment_percent special
  have hwhole : (Move.ofSegment (encode (inSegment special) (Url.kept text))).Puts segment →
      ∃ decoded, decodeText? segment = some decoded ∧ Leads text decoded := by
    intro hputs
    rcases ofSegment_cases (encode (inSegment special) (Url.kept text)) with hmove | hmove | hmove
    · rw [hmove] at hputs
      exact hputs.elim
    · rw [hmove] at hputs
      exact hputs.elim
    · rw [hmove] at hputs
      rcases hputs with rfl | ⟨hdrive, rfl⟩
      · refine ⟨_, decodeText?_encode hpercent _, fun c => not_isDropped_of_mem_kept, fun hkept => ?_⟩
        rw [kept_eq_self hkept] at hmove ⊢
        have hone : encode (inSegment special) ['.'] = ['.'] := by cases special <;> rfl
        have htwo : encode (inSegment special) ['.', '.'] = ['.', '.'] := by cases special <;> rfl
        refine ⟨?_, ?_⟩ <;> rintro rfl
        · exact ofSegment_dots (.inl hone) hmove
        · exact ofSegment_dots (.inr htwo) hmove
      · obtain ⟨a, b, heq, hletter, -⟩ := exists_of_isDrive hdrive
        rw [heq]
        exact ⟨_, decodeText?_drive hletter (by decide), leads_drive hletter⟩
  unfold Move.ofText at h
  dsimp only at h
  split at h
  · rename_i a c rest hkept
    split at h
    · rename_i hparted
      rw [Bool.and_eq_true, Bool.and_eq_true] at hparted
      rcases h with rfl | rfl
      · exact ⟨_, decodeText?_drive hparted.1.2 (by decide), leads_drive hparted.1.2⟩
      · refine ⟨_, decodeText?_encode hpercent _, fun d hd => ?_, fun hplain => ?_⟩
        · have hmem : d ∈ Url.kept text := by
            rw [hkept]
            exact List.mem_cons_of_mem _ (List.mem_cons_of_mem _ hd)
          exact not_isDropped_of_mem_kept hmem
        · exact absurd (not_isParted hplain) (by rw [hparted.2]; decide)
    · exact hwhole h
  · exact hwhole h

/-! ## Plain segments -/

/-- **A plain text is entered.** -/
theorem ofText_of_plain (h : Plain text) (atRoot : Bool) :
    Move.ofText atRoot (inSegment special) text = .enter (encode (inSegment special) text) := by
  have hmove := ofSegment_encode (inSegment_percent special) h.dot h.dots
  unfold Move.ofText
  rw [kept_eq_self h.kept, not_isParted h.kept]
  simp only [Bool.and_false, Bool.false_eq_true, if_false]
  split <;> exact hmove

/-- Whether a path, if it is one of files, begins with an empty segment only if that is all. -/
def Led (isFile : Bool) (path : List Segment) : Prop :=
  isFile = true → path.head? = some [] → path = [[]]

theorem openPath_of_ne (h : path ≠ [[]]) : openPath path = path := if_neg h

theorem openPath_of_ne_nil (h : openPath path ≠ []) : openPath path = path := by
  refine openPath_of_ne ?_
  rintro rfl
  exact h rfl

/-- What is in front of a path that segments are put behind. -/
theorem Led.head_ne (hled : Led isFile path) (hfile : isFile = true) {first : Segment}
    {rest : List Segment} (hopen : openPath path = first :: rest) : first ≠ [] := by
  rintro rfl
  have hpath : openPath path = path := openPath_of_ne_nil (by rw [hopen]; nofun)
  rw [hled hfile (by rw [← hpath, hopen]; rfl)] at hopen
  exact absurd hopen nofun

/-- The segment for a text that is put on a path; a drive in front gets its one spelling. -/
def segmentFor (isFile special : Bool) (path : List Segment) (text : List Char) : Segment :=
  let segment := encode (inSegment special) text
  if isFile && (openPath path).isEmpty && isDrive segment then driveName segment else segment

/-- **A plain text is put behind a path.** -/
theorem addSegment_of_plain (h : Plain text) (hled : Led isFile path) :
    addSegment isFile special path text
      = openPath path ++ [segmentFor isFile special path text] := by
  have hfollow : ∀ walk : Walk, walk.behind = (openPath path).reverse →
      (walk.follow isFile (.enter (encode (inSegment special) text))).behind
        = (openPath path ++ [segmentFor isFile special path text]).reverse := by
    intro walk hwalk
    rw [Walk.follow, segmentFor, hwalk, List.isEmpty_reverse, List.reverse_concat]
    split
    · rename_i hdrive
      rw [Bool.and_eq_true, Bool.and_eq_true, List.isEmpty_iff] at hdrive
      rw [hdrive.1.2]
      rfl
    · rfl
  unfold addSegment
  rw [if_neg (not_or.mpr ⟨h.dot, h.dots⟩)]
  dsimp only
  rw [Walk.moveOf, ofText_of_plain h]
  change ((Walk.ofPath (openPath path)).follow isFile _).path isFile = _
  unfold Walk.path
  rw [hfollow _ rfl, List.reverse_reverse]
  split
  · rename_i hfile
    rcases hopen : openPath path with _ | ⟨first, rest⟩
    · cases segmentFor isFile special path text <;> rfl
    · have hfirst : first.isEmpty = false :=
        Bool.eq_false_iff.mpr fun hempty => hled.head_ne hfile hopen (List.isEmpty_iff.mp hempty)
      dsimp only
      rw [List.cons_append, List.dropWhile_cons, hfirst]
      rfl
  · rfl

theorem Led.addSegment (hled : Led isFile path) (special : Bool) (h : Plain text) :
    Led isFile (addSegment isFile special path text) := by
  intro hfile hhead
  rw [addSegment_of_plain h hled] at hhead ⊢
  rcases hopen : openPath path with _ | ⟨first, rest⟩
  · rw [hopen] at hhead
    rw [Option.some.inj hhead]
    rfl
  · rw [hopen] at hhead
    exact absurd (Option.some.inj hhead) (hled.head_ne hfile hopen)

theorem length_openPath_le (path : List Segment) : (openPath path).length ≤ path.length := by
  unfold openPath
  split
  · exact Nat.zero_le _
  · exact Nat.le_refl _

/-- Each plain text makes a path longer by one segment at most. -/
theorem length_foldl_le (hled : Led isFile path) (texts : List (List Char))
    (hplain : ∀ text ∈ texts, Plain text) :
    (texts.foldl (Url.addSegment isFile special) path).length ≤ path.length + texts.length := by
  induction texts generalizing path with
  | nil => exact Nat.le_refl _
  | cons text texts ih =>
    have htext := hplain text List.mem_cons_self
    have hrest := ih (hled.addSegment special htext) fun other hother =>
      hplain other (List.mem_cons_of_mem _ hother)
    have hopen := length_openPath_le path
    rw [addSegment_of_plain htext hled, List.length_append, List.length_singleton] at hrest
    rw [List.foldl_cons, List.length_cons, addSegment_of_plain htext hled]
    omega

/-- The first plain text on a path without segments leaves one segment there. -/
theorem length_foldl_le_of_openPath (special : Bool) (hled : Led isFile path) (hopen : openPath path = [])
    (hplain : Plain text) {texts : List (List Char)} (hplains : ∀ other ∈ texts, Plain other) :
    ((text :: texts).foldl (Url.addSegment isFile special) path).length ≤ 1 + texts.length := by
  refine Nat.le_trans (length_foldl_le (hled.addSegment special hplain) texts hplains) ?_
  rw [addSegment_of_plain hplain hled, hopen]
  exact Nat.le_refl _

/-- **Plain texts are put behind each other**, if there is something to put them behind. -/
theorem foldl_addSegment_of_plain (hled : Led isFile path) (hpath : openPath path ≠ [])
    (texts : List (List Char)) (hplain : ∀ text ∈ texts, Plain text) :
    texts.foldl (addSegment isFile special) path
      = path ++ texts.map (encode (inSegment special)) := by
  induction texts generalizing path with
  | nil => exact (List.append_nil path).symm
  | cons text texts ih =>
    have htext := hplain text List.mem_cons_self
    have hopen := openPath_of_ne_nil hpath
    rw [hopen] at hpath
    have hadd : addSegment isFile special path text
        = path ++ [encode (inSegment special) text] := by
      simp [addSegment_of_plain htext hled, segmentFor, hopen, hpath]
    have hnext : openPath (path ++ [encode (inSegment special) text]) ≠ [] := by
      rw [openPath_of_ne]
      · simp
      · simpa [List.append_eq_singleton_iff] using fun h => absurd h hpath
    have hledNext := hadd ▸ hled.addSegment special htext
    rw [List.foldl_cons, hadd, ih hledNext hnext fun other hother =>
      hplain other (List.mem_cons_of_mem _ hother)]
    rw [List.append_assoc, List.map_cons]
    rfl

/-! ## The route of an endpoint -/

theorem openPath_dropEmptyLast (hne : path ≠ [[], []]) :
    openPath (dropEmptyLast path) = trunk path := by
  unfold dropEmptyLast trunk
  by_cases hlast : path.getLast? = some []
  · obtain ⟨init, rfl⟩ := List.getLast?_eq_some_iff.mp hlast
    rw [if_pos hlast, List.dropLast_concat]
    split
    · refine openPath_of_ne ?_
      rintro rfl
      exact hne rfl
    · rename_i hlength
      have hinit : init = [] := by
        cases init with
        | nil => rfl
        | cons first rest => exact absurd ⟨by simp, hlast⟩ hlength
      rw [hinit]
      rfl
  · rw [if_neg hlast, if_neg fun h => hlast h.2]
    refine openPath_of_ne ?_
    rintro rfl
    exact hlast rfl

theorem Led.dropEmptyLast (hled : Led isFile path) : Led isFile (dropEmptyLast path) := by
  intro hfile hhead
  unfold Url.dropEmptyLast at hhead ⊢
  split at hhead
  · rename_i hlong
    have hpath : path.head? = some [] := by
      rw [← hhead]
      rcases path with _ | ⟨first, _ | ⟨second, rest⟩⟩
      · rfl
      · exact absurd hlong.1 (by simp)
      · rfl
    rw [hled hfile hpath] at hlong
    exact absurd hlong.1 (by decide)
  · rename_i hshort
    rw [if_neg hshort]
    exact hled hfile hhead

/-- The first segment of a path is its text, encoded, unless that is a drive with a bar. -/
theorem segmentFor_of_not_isBarred
    (htext : openPath path = [] → isFile = true → ¬ IsBarred text) :
    segmentFor isFile special path text = encode (inSegment special) text := by
  rw [segmentFor]
  split
  · rename_i hdrive
    rw [Bool.and_eq_true, Bool.and_eq_true, List.isEmpty_iff] at hdrive
    obtain ⟨a, b, heq, hletter, hmark⟩ := exists_of_isDrive hdrive.2
    rcases hmark with rfl | rfl
    · rw [heq]
      rfl
    · have hdecoded := decodeText?_encode (inSegment_percent special) text
      rw [heq, decodeText?_drive hletter (by decide), Option.some.injEq] at hdecoded
      exact absurd (hdecoded ▸ hletter : IsBarred text) (htext hdrive.1.2 hdrive.1.1)
  · rfl

/-- **A base that takes a list of segments has exactly these put behind it.** -/
theorem foldl_of_opens (hled : Led isFile path) (texts : List (List Char))
    (hplain : ∀ text ∈ texts, Plain text) (hopens : Opens isFile path texts) :
    texts.foldl (addSegment isFile special) (dropEmptyLast path)
      = trunk path ++ texts.map (encode (inSegment special)) := by
  cases texts with
  | nil =>
    change path ≠ [[]] at hopens
    rw [List.map_nil, List.append_nil, List.foldl_nil, dropEmptyLast, trunk]
    by_cases hlast : path.getLast? = some []
    · have hlong : 1 < path.length := by
        obtain ⟨init, rfl⟩ := List.getLast?_eq_some_iff.mp hlast
        cases init with
        | nil => exact absurd rfl hopens
        | cons first rest => simp
      rw [if_pos ⟨hlong, hlast⟩, if_pos hlast]
    · rw [if_neg hlast, if_neg fun h => hlast h.2]
  | cons first rest =>
    obtain ⟨hne, hfirst⟩ := hopens
    have hopen := openPath_dropEmptyLast hne
    have hadd : addSegment isFile special (dropEmptyLast path) first
        = trunk path ++ [encode (inSegment special) first] := by
      rw [addSegment_of_plain (hplain first List.mem_cons_self) hled.dropEmptyLast, hopen,
        segmentFor_of_not_isBarred fun hnil => (hfirst (hopen ▸ hnil)).2]
    have hledNext := hadd ▸
      hled.dropEmptyLast.addSegment special (hplain first List.mem_cons_self)
    rw [List.foldl_cons, hadd, List.map_cons]
    by_cases hnext : openPath (trunk path ++ [encode (inSegment special) first]) = []
    · -- Only an empty segment that nothing is in front of leaves nothing to put others behind.
      have hsingle : trunk path ++ [encode (inSegment special) first] = [[]] := by
        refine Decidable.byContradiction fun hother => ?_
        rw [openPath_of_ne hother] at hnext
        exact absurd hnext (by simp)
      obtain ⟨hnil, hencoded⟩ : trunk path = [] ∧ encode (inSegment special) first = [] := by
        simpa [List.append_eq_singleton_iff] using hsingle
      obtain rfl : rest = [] :=
        (hfirst hnil).1 (Percent.encode_inj (inSegment_percent special) hencoded)
      rfl
    · rw [foldl_addSegment_of_plain hledNext hnext rest fun other hother =>
        hplain other (List.mem_cons_of_mem _ hother), List.append_assoc]
      rfl

/-- **What is behind the base decodes to no text that is not led to.** -/
theorem forall_of_foldl {P : List Char → Prop} (hempty : P []) {texts : List (List Char)}
    (hleads : ∀ text ∈ texts, ∀ decoded, Leads text decoded → P decoded) {encoded : List Segment}
    (hpath : texts.foldl (addSegment isFile special) (dropEmptyLast path) = trunk path ++ encoded)
    (hdecoded : encoded.map decodeText? = texts.map some) : ∀ text ∈ texts, P text := by
  have hgrown : Grown (trunk path).length (fun segment => ∃ decoded,
      decodeText? segment = some decoded ∧ P decoded) (trunk path ++ encoded) := by
    rw [← hpath]
    refine (grown_dropEmptyLast ⟨[], rfl, hempty⟩ path).foldl texts ⟨[], rfl, hempty⟩ ?_
    intro text htext atRoot segment hputs
    obtain ⟨decoded, hdecode, hlead⟩ := leads_of_puts hputs
    exact ⟨decoded, hdecode, hleads text htext decoded hlead⟩
  intro text htext
  have hmem : some text ∈ encoded.map decodeText? := hdecoded ▸ List.mem_map_of_mem htext
  obtain ⟨segment, hsegment, hdecode⟩ := List.mem_map.mp hmem
  obtain ⟨decoded, hdecode', hP⟩ := hgrown.mem (Nat.le_refl _) segment hsegment
  rw [hdecode, Option.some.injEq] at hdecode'
  exact hdecode' ▸ hP

/-- **A base has exactly the given segments put behind it only if these are plain.**  Dots are led to
only by texts of which something is dropped, so that comes first. -/
theorem plain_of_foldl {texts : List (List Char)} {encoded : List Segment}
    (hpath : texts.foldl (addSegment isFile special) (dropEmptyLast path) = trunk path ++ encoded)
    (hdecoded : encoded.map decodeText? = texts.map some) : ∀ text ∈ texts, Plain text := by
  have hkept := forall_of_foldl (P := fun decoded => ∀ c ∈ decoded, isDropped c = false) nofun
    (fun _ _ _ hlead => hlead.kept) hpath hdecoded
  have hdots := forall_of_foldl (P := fun decoded => decoded ≠ ['.'] ∧ decoded ≠ ['.', '.'])
    ⟨nofun, nofun⟩ (fun text htext _ hlead => hlead.dots (hkept text htext)) hpath hdecoded
  exact fun text htext => ⟨(hdots text htext).1, (hdots text htext).2, hkept text htext⟩

/-- Where nothing is in front, no empty segment and no drive with a bar comes out first. -/
theorem first_of_foldl (hled : Led isFile path) (hopen : openPath path = []) {first : List Char}
    {rest : List (List Char)} (hplain : ∀ text ∈ first :: rest, Plain text) {encoded : List Segment}
    (hpath : (first :: rest).foldl (addSegment isFile special) path = encoded)
    (hdecoded : encoded.map decodeText? = (first :: rest).map some) :
    (first = [] → rest = []) ∧ (isFile = true → ¬ IsBarred first) := by
  have hfirst := hplain first List.mem_cons_self
  have hrest := fun other hother => hplain other (List.mem_cons_of_mem first hother)
  have hadd : addSegment isFile special path first = [segmentFor isFile special path first] := by
    rw [addSegment_of_plain hfirst hled, hopen, List.nil_append]
  have hledNext := hadd ▸ hled.addSegment special hfirst
  rw [List.foldl_cons, hadd] at hpath
  refine ⟨?_, fun hfile hbarred => ?_⟩
  · rintro rfl
    cases rest with
    | nil => rfl
    | cons second rest =>
      have hempty : segmentFor isFile special path [] = [] := by
        simp [segmentFor, encode, isDrive, beginsWithDrive]
      rw [hempty] at hpath hledNext
      have hle := length_foldl_le_of_openPath special hledNext rfl
        (hrest second List.mem_cons_self) fun other hother =>
          hrest other (List.mem_cons_of_mem second hother)
      have hlength := congrArg List.length hdecoded
      rw [hpath] at hle
      simp only [List.length_map, List.length_cons] at hlength
      omega
  · obtain ⟨a, rfl, hletter⟩ := exists_of_isBarred hbarred
    have hdrive : segmentFor isFile special path [a, '|'] = [a, ':'] := by
      have hencode : encode (inSegment special) [a, '|'] = [a, '|'] := by
        rw [encode, List.flatMap_cons, List.flatMap_cons, inSegment_of_isLetter hletter]
        cases special <;> rfl
      simp [segmentFor, hencode, hfile, hopen, isDrive, beginsWithDrive, hletter, driveName]
    rw [hdrive] at hpath hledNext
    have hopenNext : openPath [[a, ':']] ≠ [] := by simp [openPath]
    rw [foldl_addSegment_of_plain hledNext hopenNext rest hrest] at hpath
    rw [← hpath, List.singleton_append, List.map_cons, List.map_cons,
      decodeText?_drive hletter (by decide)] at hdecoded
    exact absurd (List.cons.inj hdecoded).1 (by simp)

/-- **A base has exactly the given segments put behind it only if these can be put there.** -/
theorem opens_of_foldl (hled : Led isFile path) {texts : List (List Char)}
    (hplain : ∀ text ∈ texts, Plain text) {encoded : List Segment}
    (hpath : texts.foldl (addSegment isFile special) (dropEmptyLast path) = trunk path ++ encoded)
    (hdecoded : encoded.map decodeText? = texts.map some) : Opens isFile path texts := by
  have hlength : encoded.length = texts.length := by
    simpa using congrArg List.length hdecoded
  have hcount := congrArg List.length hpath
  rw [List.length_append, hlength] at hcount
  cases texts with
  | nil =>
    rintro rfl
    exact absurd hcount (by simp [dropEmptyLast, trunk])
  | cons first rest =>
    refine ⟨?_, fun hnil => ?_⟩
    · rintro rfl
      have hle := length_foldl_le_of_openPath special hled.dropEmptyLast rfl
        (hplain first List.mem_cons_self) fun other hother =>
          hplain other (List.mem_cons_of_mem first hother)
      have htrunk : (trunk [[], []]).length = 1 := rfl
      rw [hcount, htrunk, List.length_cons] at hle
      omega
    · have hne : path ≠ [[], []] := by
        rintro rfl
        exact absurd hnil (by decide)
      have hopen : openPath (dropEmptyLast path) = [] := (openPath_dropEmptyLast hne).trans hnil
      rw [hnil] at hpath
      exact first_of_foldl hled.dropEmptyLast hopen hplain hpath hdecoded

end Url

end SchemaForms
