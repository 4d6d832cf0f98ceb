import SchemaForms.Backend.Client
import SchemaForms.Proofs.Url.Putting

/-!
# Proofs/Url/Endpoints — the route that an endpoint lies on

An endpoint is written as the segments of its base and behind them the segments of a route, names
among them.  A base takes a list of segments as it is (`Takes`) exactly if the endpoint has these
segments and no others (`endpoints_keep_to_their_route`), and then no other list that is taken has
the same endpoint.  What is not taken are segments of dots, segments with characters that a URL
never holds, and, where the path of the base has nothing to put them behind, empty segments in front
of others and drives with a bar.
-/

namespace SchemaForms

namespace Url

open Percent (encode decodeText? decodeText?_encode inSegment)

/-! ## What a base takes -/

/-- **A list of segments that a base takes as it is.** -/
structure Takes (base : Url) (segments : List String) : Prop where
  plain : ∀ segment ∈ segments, Plain segment.toList
  opens : Opens (Url.isFile base.scheme) base.path (segments.map String.toList)

instance (base : Url) (segments : List String) : Decidable (Takes base segments) :=
  decidable_of_iff ((∀ segment ∈ segments, Plain segment.toList) ∧
      Opens (Url.isFile base.scheme) base.path (segments.map String.toList))
    ⟨fun h => ⟨h.1, h.2⟩, fun h => ⟨h.plain, h.opens⟩⟩

/-- **A URL is its base with exactly these segments behind**, each encoded. -/
def Under (base : Url) (segments : List String) (url : Url) : Prop :=
  ∃ encoded, url = { base with path := trunk base.path ++ encoded } ∧
    encoded.map decodeText? = segments.map fun segment => some segment.toList

/-! ## The route of an endpoint -/

/-- **A base takes exactly the lists of segments that it has behind it then.** -/
theorem under_extend_iff {base : Url} (hled : Led (isFile base.scheme) base.path)
    (segments : List String) : Under base segments (base.extend segments) ↔ Takes base segments := by
  have hmap : segments.map (fun segment => some segment.toList)
      = (segments.map String.toList).map some := by
    rw [List.map_map]
    rfl
  constructor
  · rintro ⟨encoded, hurl, hdecoded⟩
    have hpath := congrArg Url.path hurl
    rw [hmap] at hdecoded
    have hplain := plain_of_foldl hpath hdecoded
    exact ⟨fun segment hsegment => hplain _ (List.mem_map_of_mem hsegment),
      opens_of_foldl hled hplain hpath hdecoded⟩
  · rintro ⟨hplain, hopens⟩
    refine ⟨(segments.map String.toList).map (encode (inSegment (isSpecial base.scheme))), ?_, ?_⟩
    · rw [extend, foldl_of_opens hled _ (List.forall_mem_map.mpr hplain) hopens]
    · rw [hmap, List.map_map]
      exact List.map_congr_left fun text _ => decodeText?_encode (inSegment_percent _) text

/-! ## Bases that are read -/

/-- **A walk among files leaves no empty segment in front**, unless it is the only one. -/
theorem led_walk {isFile : Bool} (walk : Walk) : Led isFile (walk.path isFile) := by
  rintro rfl hhead
  unfold Walk.path at hhead ⊢
  rw [if_pos rfl] at hhead ⊢
  split at hhead
  · rfl
  · rename_i hne
    have hfirst := List.head?_dropWhile_not List.isEmpty walk.behind.reverse
    rw [hhead] at hfirst
    exact absurd hfirst (by decide)

theorem led_readPath (scheme text : List Char) : Led (isFile scheme) (readPath scheme text) := by
  unfold readPath
  split
  · exact fun _ hhead => absurd hhead nofun
  · exact led_walk _

theorem led_of_not_isFile {isFile : Bool} (h : isFile = false) (path : List Segment) : Led isFile path :=
  fun hfile => absurd hfile (by rw [h]; decide)

theorem led_readFile {scheme body : List Char} (hfile : isFile scheme = true)
    {authority : Option Authority} {path : List Segment}
    (h : readFile scheme body = .ok (authority, path)) : Led true path := by
  unfold readFile at h
  dsimp only at h
  split at h
  · split at h
    · obtain ⟨-, rfl⟩ := Prod.mk.inj (Except.ok.inj h)
      exact led_walk _
    · cases hhost : readFileHost
          (((kept body).drop 2).takeWhile fun c => !endsAuthority true c) with
      | error e =>
        rw [hhost] at h
        exact absurd h nofun
      | ok found =>
        rw [hhost] at h
        obtain ⟨-, rfl⟩ := Prod.mk.inj (Except.ok.inj h)
        exact led_walk _
  · obtain ⟨-, rfl⟩ := Prod.mk.inj (Except.ok.inj h)
    exact hfile ▸ led_readPath scheme body

theorem led_readBody {scheme body : List Char} {isLast : Bool} {authority : Option Authority}
    {path : List Segment} (h : readBody scheme isLast body = .ok (authority, path)) :
    Led (isFile scheme) path := by
  unfold readBody at h
  split at h
  · rename_i hfile
    exact hfile ▸ led_readFile hfile h
  · rename_i hother
    exact led_of_not_isFile (Bool.eq_false_iff.mpr hother) path

/-- **The path of a URL that is read**, if it is one of files, has no empty segment in front. -/
theorem led_parse {text : String} {url : Url} (h : parse text = .ok url) :
    Led (isFile url.scheme) url.path := by
  unfold parse at h
  rcases hscheme : readScheme (trimmed text.toList) with e | ⟨scheme, rest⟩
  · rw [hscheme] at h
    exact absurd h nofun
  rw [hscheme] at h
  rcases hbody : readBody scheme ((splitTail (isSpecial scheme) rest).2.1.isNone &&
      (splitTail (isSpecial scheme) rest).2.2.isNone) (splitTail (isSpecial scheme) rest).1 with
    e | ⟨authority, path⟩
  · simp only [bind, Except.bind, hbody] at h
    exact absurd h nofun
  · simp only [bind, Except.bind, hbody] at h
    obtain rfl := Except.ok.inj h
    exact led_readBody hbody

/-! ## Texts of URLs -/

/-- The first segment of a path is what comes before the next slash. -/
theorem takeWhile_pathText {segment : Segment} (h : '/' ∉ segment) (rest : List Segment) :
    (segment ++ pathText rest).takeWhile (· ≠ '/') = segment := by
  have hall : ∀ c ∈ segment, decide (c ≠ '/') = true := fun c hc =>
    decide_eq_true fun hslash => h (hslash ▸ hc)
  rw [List.takeWhile_append_of_pos hall]
  cases rest with
  | nil => exact List.append_nil segment
  | cons next rest => exact List.append_nil segment

/-- **Segments without slashes are told apart by their text.** -/
theorem pathText_inj {a b : List Segment} (ha : ∀ segment ∈ a, '/' ∉ segment)
    (hb : ∀ segment ∈ b, '/' ∉ segment) (h : pathText a = pathText b) : a = b := by
  induction a generalizing b with
  | nil =>
    cases b with
    | nil => rfl
    | cons other b => exact absurd h nofun
  | cons segment a ih =>
    cases b with
    | nil => exact absurd h nofun
    | cons other b =>
      have htail : segment ++ pathText a = other ++ pathText b := (List.cons.inj h).2
      have hhead : segment = other := by
        rw [← takeWhile_pathText (ha segment List.mem_cons_self) a, htail,
          takeWhile_pathText (hb other List.mem_cons_self) b]
      subst hhead
      rw [ih (fun other hother => ha other (List.mem_cons_of_mem _ hother))
        (fun other hother => hb other (List.mem_cons_of_mem _ hother))
        (List.append_cancel_left htail)]

/-- **Lists of segments that a base takes are told apart by the text of the URL.** -/
theorem extend_inj {base : Url} (hled : Led (isFile base.scheme) base.path) {a b : List String}
    (ha : Takes base a) (hb : Takes base b) (h : (base.extend a).text = (base.extend b).text) :
    a = b := by
  have hpath : ∀ {segments : List String}, Takes base segments → base.extend segments
      = { base with
          path := trunk base.path ++ (segments.map String.toList).map
            (encode (inSegment (isSpecial base.scheme))) } := fun htakes => by
    rw [extend, foldl_of_opens hled _ (List.forall_mem_map.mpr htakes.plain) htakes.opens]
  have hslash : ∀ segments : List String, ∀ segment ∈ (segments.map String.toList).map
      (encode (inSegment (isSpecial base.scheme))), '/' ∉ segment := fun segments =>
    List.forall_mem_map.mpr fun text _ => Percent.slash_not_mem_encode (inSegment_slash _) text
  have hchars := String.ofList_injective h
  rw [hpath ha, hpath hb] at hchars
  simp only [chars, pathText, List.flatMap_append, List.append_assoc, List.append_cancel_left_eq,
    List.cons.injEq, true_and] at hchars
  have hpaths := pathText_inj (hslash a) (hslash b) (List.append_cancel_right hchars)
  have htexts := (List.map_inj_right fun _ _ => Percent.encode_inj (inSegment_percent _)).mp hpaths
  exact (List.map_inj_right fun _ _ => String.toList_injective).mp htexts

end Url

namespace Client

open Url (Takes Under)

/-! ## Endpoints -/

/-- **An endpoint has exactly the segments of its base and of its route** if and only if the base takes
them, and among those it takes no two lists of segments have the same endpoint: what is asked for one
name is asked for no other and for no collection. -/
theorem endpoints_keep_to_their_route {config : Config} {client : Client}
    (hclient : ofConfig config = .ok client) (segments : List String) :
    (Under client.base segments (client.endpoint segments) ↔ Takes client.base segments) ∧
      ∀ others, Takes client.base segments → Takes client.base others →
        (client.endpoint segments).text = (client.endpoint others).text → segments = others := by
  have hled : Url.Led (Url.isFile client.base.scheme) client.base.path := by
    unfold ofConfig at hclient
    split at hclient
    · rename_i hparse
      obtain rfl := Except.ok.inj hclient
      exact Url.led_parse hparse
    · exact absurd hclient nofun
  exact ⟨Url.under_extend_iff hled segments, fun _ ha hb => Url.extend_inj hled ha hb⟩

/-- The settings for an address of the backend. -/
def settings (address : String) : Config := { Config.default with apiUrl := address }

/-- The client for `http://backend/` and a path. -/
def backend (path : List String) : Client :=
  ⟨⟨"http".toList, some ⟨[], "backend".toList, none⟩, path.map String.toList, false, none, none⟩⟩

theorem ofConfig_backend_api :
    ofConfig (settings "http://backend/api/") = .ok (backend ["api", ""]) := rfl

theorem ofConfig_backend_slashes :
    ofConfig (settings "http://backend//") = .ok (backend ["", ""]) := rfl

/-- A name of slashes, dots and signs is one segment, and its endpoint is not that of the names with
the signs decoded. -/
theorem endpoints_keep_to_their_route_reserved :
    Takes (backend ["api", ""]).base ["user-defined", "actions", "../a%2F?#"] ∧
      Under (backend ["api", ""]).base ["user-defined", "actions", "../a%2F?#"]
        ((backend ["api", ""]).endpoint ["user-defined", "actions", "../a%2F?#"]) ∧
      ((backend ["api", ""]).endpoint ["user-defined", "actions", "../a%2F?#"]).text
        ≠ ((backend ["api", ""]).endpoint ["user-defined", "actions", "../a/?#"]).text := by
  have htakes : Takes (backend ["api", ""]).base ["user-defined", "actions", "../a%2F?#"] := by
    decide +kernel
  have hother : Takes (backend ["api", ""]).base ["user-defined", "actions", "../a/?#"] := by
    decide +kernel
  obtain ⟨hunder, hdiffer⟩ := endpoints_keep_to_their_route ofConfig_backend_api
    ["user-defined", "actions", "../a%2F?#"]
  exact ⟨htakes, hunder.mpr htakes, fun h => absurd (hdiffer _ htakes hother h) (by decide)⟩

/-- **Dots address the collection, characters are dropped from names, and a base may lose a segment.**
The block named by a dot is at the endpoint of all blocks, that of two dots with a tab between them a
segment higher, a tab in a name makes no difference, and a base that ends in two slashes has only one
of them in front of a route. -/
theorem endpoints_leave_their_route :
    ofConfig (settings "http://backend/api/") = .ok (backend ["api", ""]) ∧
      (¬ Under (backend ["api", ""]).base ["user-defined", "actions", "."]
          ((backend ["api", ""]).endpoint ["user-defined", "actions", "."]) ∧
        ((backend ["api", ""]).endpoint ["user-defined", "actions", "."]).text
          = ((backend ["api", ""]).endpoint ["user-defined", "actions"]).text) ∧
      ((backend ["api", ""]).endpoint ["user-defined", "actions", ".\t."]).text
        = "http://backend/api/user-defined/" ∧
      ((backend ["api", ""]).endpoint ["block", "a\tb", "schema"]).text
        = ((backend ["api", ""]).endpoint ["block", "ab", "schema"]).text ∧
      ofConfig (settings "http://backend//") = .ok (backend ["", ""]) ∧
      ¬ Under (backend ["", ""]).base ["user-defined", "actions"]
        ((backend ["", ""]).endpoint ["user-defined", "actions"]) := by
  have hscheme : Url.isFile "http".toList = false := by decide
  have hled : ∀ path, Url.Led (Url.isFile (backend path).base.scheme) (backend path).base.path :=
    fun path => Url.led_of_not_isFile hscheme _
  refine ⟨ofConfig_backend_api, ⟨fun hunder => ?_, by decide +kernel⟩, by decide +kernel,
    by decide +kernel, ofConfig_backend_slashes, fun hunder => ?_⟩
  · exact absurd ((Url.under_extend_iff (hled _) _).mp hunder) (by decide +kernel)
  · exact absurd ((Url.under_extend_iff (hled _) _).mp hunder) (by decide +kernel)

end Client

end SchemaForms
