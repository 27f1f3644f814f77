import Quadlink.Client.Transaction
import Quadlink.Proofs.ServerRoot

/-!
# Relative locations

A server may answer with a location that is nothing but a relative path. It is resolved against the
endpoint as a directory, while a request path is appended to the text of the endpoint and read from
the start. Both ways lead to the same walk along the path (`Endpoint.follow`): the directory of an
endpoint has one empty segment behind those that paths are appended to (`IsSettled.directory_eq`),
and resolving drops it again. `resolve_agrees_with_join` is what follows for paths of ordinary
characters.
-/

namespace Quadlink

open Text Url

/-! ## Paths of ordinary characters -/

/-- The letters, digits and marks that stand for themselves in a path, and the slash. -/
def pathChars : List Char :=
  "ABCDEFGHIJKLMNOPQRSTUVWXYZabcdefghijklmnopqrstuvwxyz0123456789-._~/".toList

/-- Characters that are neither dropped nor looked for by a reader of relative references. Among
such characters only dots and slashes have a meaning. -/
structure IsOrdinary (c : Char) : Prop where
  blank : isBlank c = false
  edge : isEdge c = false
  colon : c ≠ ':'
  ends : (c == '?' || c == '#') = false
  backslash : c ≠ '\\'

instance (c : Char) : Decidable (IsOrdinary c) :=
  decidable_of_iff (isBlank c = false ∧ isEdge c = false ∧ c ≠ ':'
      ∧ (c == '?' || c == '#') = false ∧ c ≠ '\\')
    ⟨fun ⟨hblank, hedge, hcolon, hends, hbackslash⟩ => ⟨hblank, hedge, hcolon, hends, hbackslash⟩,
      fun h => ⟨h.blank, h.edge, h.colon, h.ends, h.backslash⟩⟩

theorem isOrdinary_of_mem_pathChars {c : Char} (h : c ∈ pathChars) : IsOrdinary c := by
  have hall : pathChars.all (fun c => decide (IsOrdinary c)) = true := by decide
  exact of_decide_eq_true (List.all_eq_true.mp hall c h)

/-- A path of ordinary characters that does not start at the root. It has no scheme and no query,
and is thus the same by itself as behind an endpoint. -/
structure IsRelativePath (path : String) : Prop where
  ne_empty : path ≠ ""
  chars : ∀ c ∈ path.toList, c ∈ pathChars
  relative : path.toList.head? ≠ some '/'

namespace IsRelativePath

variable {path : String}

theorem isOrdinary (h : IsRelativePath path) : ∀ c ∈ path.toList, IsOrdinary c :=
  fun c hc => isOrdinary_of_mem_pathChars (h.chars c hc)

theorem toList_eq_cons (h : IsRelativePath path) : ∃ c rest, path.toList = c :: rest ∧ c ≠ '/' := by
  cases hchars : path.toList with
  | nil => exact absurd (String.toList_eq_nil_iff.mp hchars) h.ne_empty
  | cons c rest =>
      refine ⟨c, rest, rfl, ?_⟩
      rintro rfl
      exact h.relative (by rw [hchars]; rfl)

theorem trim_eq (h : IsRelativePath path) : trim path = path := by
  rw [trim, trimChars_eq_self fun c hc => (h.isOrdinary c hc).blank, String.ofList_toList]

theorem not_allBlank (h : IsRelativePath path) : ¬isAllBlank path = true := by
  obtain ⟨c, rest, hchars, -⟩ := h.toList_eq_cons
  have hc : isBlank c = false := (h.isOrdinary c (hchars ▸ List.mem_cons_self)).blank
  simp [isAllBlank, hchars, hc]

theorem kept_eq (h : IsRelativePath path) : kept path.toList = path.toList :=
  kept_eq_self fun c hc => (h.isOrdinary c hc).edge

/-- All characters count. -/
theorem relevant_eq (h : IsRelativePath path) : relevant path = path.toList := by
  obtain ⟨c, rest, hchars, -⟩ := h.toList_eq_cons
  have hc : isEdge c = false := (h.isOrdinary c (hchars ▸ List.mem_cons_self)).edge
  have hstart : path.toList.dropWhile isEdge = path.toList := by
    rw [hchars, List.dropWhile_cons_of_neg (by simp [hc])]
  rw [relevant, hstart]
  exact h.kept_eq

theorem splitPath_eq (h : IsRelativePath path) : splitPath path.toList = (path.toList, []) :=
  cutBefore_eq_self (any_eq_false_iff.mpr fun c hc => (h.isOrdinary c hc).ends)

/-- Without a colon there is no scheme. -/
theorem splitScheme?_eq (h : IsRelativePath path) : splitScheme? path.toList = none := by
  have hcolon : ':' ∉ path.toList := fun hmem => (h.isOrdinary ':' hmem).colon rfl
  unfold splitScheme?
  split
  · rfl
  · split
    · split
      · rename_i rest hrest
        have hmem : ':' ∈ path.toList.dropWhile isSchemeChar := by
          rw [hrest]
          exact List.mem_cons_self
        exact absurd ((List.dropWhile_sublist _).subset hmem) hcolon
      · rfl
    · rfl

end IsRelativePath

/-! ## Both ways along a path -/

namespace Endpoint

variable {endpoint : Endpoint}

/-- As a directory, an endpoint has one empty segment behind those that paths are appended to. -/
theorem IsSettled.directory_eq (h : endpoint.IsSettled) (hplain : endpoint.HasPlainPath) :
    endpoint.directory = { endpoint.url with path := .segments (endpoint.base ++ [""]) } := by
  have htrimmed : Path.orRoot endpoint.base = endpoint.url.segments :=
    h.hasPlainPath_iff.mp hplain
  have hlast := getLast?_segmentsText h.url.isSegment
  unfold Endpoint.directory
  dsimp only
  rw [h.path_text]
  -- The root is its own directory; behind any other path a slash is put.
  cases hbase : endpoint.base with
  | nil =>
      have hroot : endpoint.url.segments = [""] := by
        rw [← htrimmed, hbase, Path.orRoot, if_pos rfl]
      rw [if_pos (hlast.mpr (by rw [hroot]; rfl)), List.nil_append, ← hroot, ← h.url.path]
  | cons first rest =>
      have hsegments : endpoint.url.segments = endpoint.base := by
        rw [← htrimmed, Path.orRoot_of_ne_nil (by simp [hbase])]
      have hnames : ∀ name ∈ endpoint.base ++ [""], Path.IsSegment name := by
        intro name hname
        rcases List.mem_append.mp hname with hname | hname
        · exact h.base_isSegment name hname
        · obtain rfl := List.mem_singleton.mp hname
          exact Path.isSegment_empty
      have hslash : Path.segmentsText endpoint.base ++ "/"
          = Path.segmentsText (endpoint.base ++ [""]) := by
        simp [Path.segmentsText]
      rw [if_neg, hsegments, hslash, h.url.withPath_segmentsText hnames,
        Path.orRoot_of_ne_nil (by simp), hbase]
      rw [hlast, hsegments]
      exact Path.getLast?_withoutEmptyEnd _

variable {path : String}

/-- Where a relative path leads from an endpoint. -/
def follow (endpoint : Endpoint) (path : String) : Url :=
  { endpoint.url with path := .segments (Path.walk true endpoint.base path.toList) }

theorem IsSettled.join_relative (h : endpoint.IsSettled) (hpath : IsRelativePath path) :
    endpoint.join path = .ok (endpoint.follow path) := by
  obtain ⟨c, rest, hchars, hc⟩ := hpath.toList_eq_cons
  have hdrop : path.toList.dropWhile (· == '/') = path.toList := by
    rw [hchars, List.dropWhile_cons_of_neg (by simpa using hc)]
  have hne : path.toList.dropWhile (· == '/') ≠ [] := by
    rw [hdrop, hchars]
    nofun
  have hshape : '/' :: path.toList.dropWhile (· == '/')
      = (Path.segmentsText []).toList ++ '/' :: path.toList := by
    rw [hdrop]
    rfl
  rw [join_eq h (nofun : ∀ part ∈ [], Path.IsSegment part) hne hshape, hpath.kept_eq,
    hpath.splitPath_eq, List.append_nil, follow, h.query, h.fragment]
  rfl

/-- Resolving drops the empty segment of the directory before it follows the path. -/
theorem IsSettled.resolve_relative (h : endpoint.IsSettled) (hplain : endpoint.HasPlainPath)
    (hpath : IsRelativePath path) : endpoint.resolve path = ofUrl (endpoint.follow path) := by
  obtain ⟨c, rest, hchars, hc⟩ := hpath.toList_eq_cons
  have hslash : isSlash c = false := by
    have hbackslash := (hpath.isOrdinary c (hchars ▸ List.mem_cons_self)).backslash
    simp [isSlash, hc, hbackslash]
  have hread : readRelative endpoint.directory path.toList = .ok (endpoint.follow path) := by
    rw [readRelative, hpath.splitPath_eq, h.directory_eq hplain, follow, hchars]
    simp only [hslash, h.url.scheme.isSpecial, Url.segments, List.dropLast_concat]
    rw [if_neg Bool.false_ne_true, h.query, h.fragment]
    rfl
  have hresolve : endpoint.directory.resolve path = .ok (endpoint.follow path) := by
    rw [Url.resolve, hpath.relevant_eq, hpath.splitScheme?_eq, h.directory.path]
    exact hread
  rw [Endpoint.resolve, hpath.trim_eq, hresolve]

theorem IsSettled.follow (h : endpoint.IsSettled) (path : String) :
    (endpoint.follow path).IsSettled :=
  h.url.with_segments (Path.walk_ne_nil _ _) (Path.walk_isSegment h.base_isSegment) _ _

/-- A relative path is resolved to the endpoint that appending it gives, whatever dot segments and
repeated slashes it has; so a transaction whose location it is lives where a request with that path
would go. -/
theorem resolve_agrees_with_join {raw : String} (h : parse raw = .ok endpoint)
    (hpath : IsRelativePath path) :
    ∃ url next, endpoint.join path = .ok url ∧ ofUrl url = .ok next
      ∧ endpoint.resolve path = .ok next
      ∧ next = ⟨{ endpoint.url with
          path := .segments (Path.trimmed (Path.walk true endpoint.base path.toList))
          query := none
          fragment := none }⟩
      ∧ ∀ response : Response, response.endpoint = endpoint →
          response.header? HeaderName.location = some path →
            Transaction.locationOf response = .ok next := by
  have hsettled := isSettled_of_parse h
  have htaken := ofUrl_eq (hsettled.follow path)
  have hresolve := hsettled.resolve_relative (hasPlainPath_of_parse h) hpath
  rw [htaken] at hresolve
  refine ⟨_, _, hsettled.join_relative hpath, htaken, hresolve, rfl, ?_⟩
  intro response hresponse hheader
  rw [Transaction.locationOf, hheader]
  dsimp only
  rw [if_neg hpath.not_allBlank, hresponse, hresolve]

def climbingPath : String := "../../../x//y/./"

theorem resolve_agrees_with_join_climbing_path :
    let endpoint := EndpointSet.localEndpoint ["repositories", "r"]
    let next := EndpointSet.localEndpoint ["x", "", "y"]
    parse "http://[::1]:7200/repositories/r/" = .ok endpoint
      ∧ IsRelativePath climbingPath
      ∧ ∃ url, endpoint.join climbingPath = .ok url ∧ ofUrl url = .ok next
        ∧ endpoint.resolve climbingPath = .ok next := by
  intro endpoint next
  have hparse : parse "http://[::1]:7200/repositories/r/" = .ok endpoint := rfl
  have hchars : climbingPath.toList.all (fun c => decide (c ∈ pathChars)) = true := by decide
  have hpath : IsRelativePath climbingPath :=
    ⟨by decide, fun c hc => of_decide_eq_true (List.all_eq_true.mp hchars c hc), by decide⟩
  obtain ⟨url, other, hjoin, htaken, hresolve, hnext, -⟩ := resolve_agrees_with_join hparse hpath
  have hwalk : Path.trimmed (Path.walk true endpoint.base climbingPath.toList)
      = ["x", "", "y"] := by decide
  rw [hwalk] at hnext
  obtain rfl : other = next := hnext
  exact ⟨hparse, hpath, url, hjoin, htaken, hresolve⟩

end Endpoint

end Quadlink
