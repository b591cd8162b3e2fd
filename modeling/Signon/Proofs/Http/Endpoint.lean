import Mathlib
import Signon.Http.Client
import Signon.Proofs.Url.Path

/-!
Endpoints stay under the API's base address: a plain relative endpoint keeps the base's scheme,
user, host and port, and its path is the base path followed by the escaped endpoint.
-/

namespace Signon

namespace Url

/-- A relative reference that resolves as segments below its base: it is not empty, holds no
character that ends a path or a segment of a special URL other than `/`, no `:` before its first
slash (which would make it a scheme), no dot segment, and nothing a reader drops. -/
structure PlainPath (cs : List Char) : Prop where
  nonempty : cs ≠ []
  no_query : '?' ∉ cs
  no_fragment : '#' ∉ cs
  no_backslash : '\\' ∉ cs
  no_scheme : ':' ∉ cs.takeWhile (· ≠ '/')
  no_dots : ∀ p ∈ Text.pieces '/' cs,
    isSingleDot (String.ofList p) = false ∧ isDoubleDot (String.ofList p) = false
  unbroken : ∀ c ∈ cs, isTabOrNewline c = false
  start : ∀ c ∈ cs.head?, isC0OrSpace c = false
  finish : ∀ c ∈ cs.getLast?, isC0OrSpace c = false

theorem PlainPath.inSegment {cs : List Char} (hplain : PlainPath cs) {c : Char} (hmem : c ∈ cs)
    (hnotSlash : c ≠ '/') : InSegment c :=
  ⟨hnotSlash, fun e => hplain.no_backslash (e ▸ hmem), fun e => hplain.no_query (e ▸ hmem),
    fun e => hplain.no_fragment (e ▸ hmem)⟩

/-- A text with no control or space at either end and no tab or line break is read as it is. -/
theorem prepare_ofList {cs : List Char} (hstart : ∀ c ∈ cs.head?, isC0OrSpace c = false)
    (hfinish : ∀ c ∈ cs.getLast?, isC0OrSpace c = false)
    (hunbroken : ∀ c ∈ cs, isTabOrNewline c = false) :
    prepare (String.ofList cs) = cs := by
  have hfront (l : List Char) (h : ∀ c ∈ l.head?, isC0OrSpace c = false) :
      l.dropWhile isC0OrSpace = l := by
    cases l with
    | nil => rfl
    | cons c rest => rw [List.dropWhile_cons_of_neg (by simp [h c rfl])]
  unfold prepare
  rw [String.toList_ofList, hfront cs hstart,
    hfront cs.reverse (by simpa only [List.head?_reverse] using hfinish), List.reverse_reverse]
  exact List.filter_eq_self.mpr fun c hc => by simp [hunbroken c hc]

theorem scheme?_eq_none {cs : List Char} (h : ':' ∉ cs.takeWhile (· ≠ '/')) :
    scheme? cs = none := by
  unfold scheme?
  split
  · rename_i c rest
    split_ifs with alpha
    · dsimp only
      split
      · rename_i after hcolon
        exfalso
        -- the characters of a scheme are no slashes, so its colon comes before the first slash
        have hscheme : rest.drop (rest.takeWhile isSchemeChar).length =
            rest.dropWhile isSchemeChar := by
          have hwhole := List.takeWhile_append_dropWhile (p := isSchemeChar) (l := rest)
          calc rest.drop (rest.takeWhile isSchemeChar).length
              = (rest.takeWhile isSchemeChar ++ rest.dropWhile isSchemeChar).drop
                  (rest.takeWhile isSchemeChar).length := by rw [hwhole]
            _ = rest.dropWhile isSchemeChar := List.drop_left
        have hsplit : rest = rest.takeWhile isSchemeChar ++ ':' :: after := by
          rw [← hcolon, hscheme, List.takeWhile_append_dropWhile]
        have hnotSlash : ∀ d ∈ c :: rest.takeWhile isSchemeChar, decide (d ≠ '/') = true := by
          intro d hd
          refine decide_eq_true ?_
          rcases List.mem_cons.mp hd with rfl | hd
          · rintro rfl
            exact absurd alpha (by decide)
          · rintro rfl
            exact absurd (List.mem_takeWhile_imp hd) (by decide)
        apply h
        rw [hsplit, ← List.cons_append, List.takeWhile_append_of_pos hnotSlash,
          List.takeWhile_cons_of_pos (by decide)]
        simp
      · rfl
    · rfl
  · rfl

/-- A plain relative path against a base of segments outside `file`: the base's last segment gives
way to the path's segments, each escaped, and the query and the fragment go. -/
theorem join_plainPath {base : Url} {parts : List String} (hpath : base.path = .segments parts)
    (hnotFile : base.scheme ≠ "file") {cs : List Char} (hplain : PlainPath cs)
    (hrelative : ∀ c ∈ cs.head?, c ≠ '/') :
    base.join (String.ofList cs) =
      .ok { base with
        path := .segments (shorten false parts ++
          (Text.pieces '/' cs).map fun p => String.ofList (encode .path p)),
        query := none, fragment := none } := by
  obtain ⟨a, bs, hpieces, hsplit⟩ := Text.eq_pieces_flatMap '/' cs
  have hsegments : ∀ p ∈ a :: bs, ∀ c ∈ p, InSegment c := by
    intro p hp c hc
    have hinText : c ∈ cs := by
      rw [hsplit]
      rcases List.mem_cons.mp hp with rfl | hp
      · exact List.mem_append_left _ hc
      · exact List.mem_append_right _ (List.mem_flatMap.mpr ⟨p, hp, List.mem_cons_of_mem _ hc⟩)
    refine hplain.inSegment hinText ?_
    rintro rfl
    exact Text.not_mem_of_mem_pieces (hpieces ▸ hp) hc
  have hread := readPath_segments base.isSpecial bs a ⟨shorten false parts, false⟩ hsegments
    (hpieces ▸ hplain.no_dots)
  rw [← hsplit, ← hpieces] at hread
  obtain ⟨c, rest, rfl⟩ := List.exists_cons_of_ne_nil hplain.nonempty
  have hfirst : InSegment c := hplain.inSegment List.mem_cons_self (hrelative c rfl)
  unfold join parseWith
  rw [prepare_ofList hplain.start hplain.finish hplain.unbroken]
  dsimp only
  rw [scheme?_eq_none hplain.no_scheme]
  dsimp only
  split
  · rename_i hfragment
    exact absurd (List.cons.inj hfragment).1 hfirst.2.2.2
  · rw [hpath]
    dsimp only
    rw [if_neg hnotFile]
    unfold resolve
    dsimp only
    split
    · rename_i hempty
      exact absurd hempty (List.cons_ne_nil c rest)
    · rename_i hquery
      exact absurd (List.cons.inj hquery).1 hfirst.2.2.1
    · rename_i hfragment
      exact absurd (List.cons.inj hfragment).1 hfirst.2.2.2
    · rename_i hinput
      obtain ⟨rfl, rfl⟩ := List.cons.inj hinput
      have hnotSlash : ¬(decide (c = '/') || decide (c = '\\')) = true := by
        simp [hfirst.1, hfirst.2.1]
      rw [if_neg hnotSlash, hpath]
      dsimp only
      rw [hread]
      rfl

theorem web_scheme {scheme : String} (hweb : scheme = "http" ∨ scheme = "https") :
    isSpecialScheme scheme = true ∧ scheme ≠ "file" := by
  rcases hweb with rfl | rfl <;> decide

theorem shorten_append_empty (parts : List String) : shorten false (parts ++ [""]) = parts := by
  simp [shorten]

end Url

namespace Http

theorem parseBaseUrl_eq_ok {raw : String} {base : Url} (h : parseBaseUrl raw = .ok base) :
    (base.scheme = "http" ∨ base.scheme = "https") ∧
      ∃ parts, base.path = .segments (parts ++ [""]) ∧ Url.SlashFree parts := by
  unfold parseBaseUrl at h
  cases hparsed : Url.parse (Text.trim raw) with
  | error e =>
    rw [hparsed] at h
    cases h
  | ok u =>
    rw [hparsed] at h
    simp only [Except.mapError, bind, Except.bind, pure, Except.pure] at h
    by_cases hrefused : (u.scheme != "http" && u.scheme != "https") = true
    · rw [if_pos hrefused] at h
      cases h
    rw [if_neg hrefused] at h
    have hscheme : u.scheme = "http" ∨ u.scheme = "https" := by
      simpa [bne, or_iff_not_imp_left] using hrefused
    obtain ⟨hspecial, hnotFile⟩ := Url.web_scheme hscheme
    obtain ⟨parts, hpath, hfree⟩ := Url.parse_special_segments hparsed hspecial hnotFile
    rw [hpath] at h
    dsimp only at h
    by_cases hends : u.pathText.endsWith "/" = true
    · rw [if_pos hends] at h
      cases h
      rw [Url.pathText, hpath] at hends
      obtain ⟨front, rfl⟩ := (Url.endsWith_slash_iff hfree).mp hends
      exact ⟨hscheme, front, hpath, hfree.sublist (List.sublist_append_left _ _)⟩
    · rw [if_neg hends] at h
      cases h
      exact ⟨hscheme, parts, rfl, hfree⟩

/-- Endpoints stay under the base address. For a base address the client accepts and an endpoint
that is a plain relative hpath once its leading slashes are dropped, the endpoint's URL keeps the
hscheme, the user, the host and the port of the base, has no query and no fragment, and its hpath is
the base hpath, which hends in `/`, followed by the endpoint escaped for a hpath. -/
theorem endpoints_stay_under_base {raw : String} {base : Url}
    (accepted : parseBaseUrl raw = .ok base) {endpoint : String}
    (plain : Url.PlainPath (endpoint.toList.dropWhile (· = '/'))) :
    (base.scheme = "http" ∨ base.scheme = "https") ∧ base.pathText.endsWith "/" = true ∧
      ∃ u, endpointUrl base endpoint = .ok u ∧
        u.scheme = base.scheme ∧ u.username = base.username ∧ u.password = base.password ∧
        u.host = base.host ∧ u.port = base.port ∧ u.query = none ∧ u.fragment = none ∧
        u.pathText = base.pathText ++
          String.ofList (Url.encode .path (endpoint.toList.dropWhile (· = '/'))) := by
  obtain ⟨hscheme, parts, hpath, hfree⟩ := parseBaseUrl_eq_ok accepted
  set rest := endpoint.toList.dropWhile (· = '/') with hrest_def
  have hnotFile := (Url.web_scheme hscheme).2
  have hrelative : ∀ c ∈ rest.head?, c ≠ '/' := by
    intro c hc
    have hfirst := List.head?_dropWhile_not (· = '/') endpoint.toList
    rw [← hrest_def, hc] at hfirst
    simpa using hfirst
  have hjoined := Url.join_plainPath hpath hnotFile plain hrelative
  rw [Url.shorten_append_empty] at hjoined
  have hends : base.pathText.endsWith "/" = true := by
    rw [Url.pathText, hpath]
    exact (Url.endsWith_slash_iff (hfree.append Url.slashFree_empty)).mpr ⟨parts, rfl⟩
  refine ⟨hscheme, hends, { base with
    path := .segments
      (parts ++ (Text.pieces '/' rest).map fun p => String.ofList (Url.encode .path p)),
    query := none, fragment := none }, by rw [endpointUrl, hjoined]; rfl,
    rfl, rfl, rfl, rfl, rfl, rfl, rfl, ?_⟩
  obtain ⟨a, bs, hpieces, hsplit⟩ := Text.eq_pieces_flatMap '/' rest
  apply String.toList_inj.mp
  have hescaped := Url.render_escaped_pieces a bs
  rw [Url.Path.toList_render_segments] at hescaped
  rw [Url.pathText, Url.pathText, hpath, hpieces, String.toList_append,
    Url.Path.toList_render_segments, Url.Path.toList_render_segments, List.flatMap_append,
    List.flatMap_append, hescaped, ← hsplit]
  simp

/-- The login endpoint under a local API: the base address gains its last slash and the endpoint
goes below it. -/
theorem login_endpoint_under_base :
    let base : Url := ⟨"http", "", "", some (.ipv6 [0, 0, 0, 0, 0, 0, 0, 1]), some 8080,
      .segments ["api", "v1", ""], none, none⟩
    let endpoint := "/auth/login"
    parseBaseUrl "http://[::1]:8080/api/v1" = .ok base ∧
      Url.PlainPath (endpoint.toList.dropWhile (· = '/')) ∧
      ((base.scheme = "http" ∨ base.scheme = "https") ∧ base.pathText.endsWith "/" = true ∧
        ∃ u, endpointUrl base endpoint = .ok u ∧
          u.scheme = base.scheme ∧ u.username = base.username ∧ u.password = base.password ∧
          u.host = base.host ∧ u.port = base.port ∧ u.query = none ∧ u.fragment = none ∧
          u.pathText = base.pathText ++
            String.ofList (Url.encode .path (endpoint.toList.dropWhile (· = '/')))) := by
  intro base endpoint
  have haccepted : parseBaseUrl "http://[::1]:8080/api/v1" = .ok base := by decide +kernel
  have hplain : Url.PlainPath (endpoint.toList.dropWhile (· = '/')) :=
    ⟨by decide, by decide, by decide, by decide, by decide, by decide +kernel,
      by simp [endpoint, Url.isTabOrNewline], by simp [endpoint, Url.isC0OrSpace],
      by simp [endpoint, Url.isC0OrSpace]⟩
  exact ⟨haccepted, hplain, endpoints_stay_under_base haccepted hplain⟩

/-- Blanks around an endpoint are dropped only after its leading slashes are, so ` /x` replaces
the base path and ` //[::2]/x` the host; and a blank in an endpoint is escaped. -/
theorem blank_endpoint_leaves_base :
    let base : Url := ⟨"http", "", "", some (.ipv6 [0, 0, 0, 0, 0, 0, 0, 1]), some 8080,
      .segments ["api", "v1", ""], none, none⟩
    parseBaseUrl "http://[::1]:8080/api/v1" = .ok base ∧
      endpointUrl base " /x" = .ok { base with path := .segments ["x"] } ∧
      endpointUrl base " //[::2]/x" = .ok { base with
        host := some (.ipv6 [0, 0, 0, 0, 0, 0, 0, 2]), port := none, path := .segments ["x"] } ∧
      endpointUrl base "a b" = .ok { base with path := .segments ["api", "v1", "a%20b"] } := by
  intro base
  exact ⟨by decide +kernel, by decide +kernel, by decide +kernel, by decide +kernel⟩

end Http

end Signon
