import Quadlink.Endpoint
import Quadlink.Proofs.Url.Reader

/-!
# Endpoints and the URLs below them

However an endpoint was obtained, its URL is settled and has neither a query nor a fragment
(`IsObtained.isSettled`). `join_eq` says what becomes of a request path that is appended to it:
joining never fails, and the path is followed from the segments of the endpoint.
-/

namespace Quadlink.Endpoint

open Text Url

variable {endpoint next : Endpoint} {url : Url} {raw path : String}

/-! ## Obtained endpoints -/

/-- The ways to come by an endpoint: it is read, taken from a URL that was read, resolved against
another one, or the server of one. Whatever holds of all of these holds of every endpoint that a
client meets. -/
inductive IsObtained : Endpoint → Prop
  | parse {raw : String} {endpoint : Endpoint} (h : parse raw = .ok endpoint) :
      IsObtained endpoint
  | ofUrl {raw : String} {url : Url} {endpoint : Endpoint} (hurl : Url.parse raw = .ok url)
      (h : ofUrl url = .ok endpoint) : IsObtained endpoint
  | resolve {endpoint next : Endpoint} {location : String} (hfrom : IsObtained endpoint)
      (h : endpoint.resolve location = .ok next) : IsObtained next
  | serverRoot {endpoint : Endpoint} (hfrom : IsObtained endpoint) : IsObtained endpoint.serverRoot

/-- An endpoint as all ways to come by one leave it: read once more, it would be the same. It has no
query and no fragment, which would end up behind every path that is joined to it. -/
structure IsSettled (endpoint : Endpoint) : Prop where
  url : endpoint.url.IsSettled
  query : endpoint.url.query = none
  fragment : endpoint.url.fragment = none

theorem isSettled_of_ofUrl (hurl : IsWeb url.scheme → url.IsSettled)
    (h : ofUrl url = .ok endpoint) : endpoint.IsSettled := by
  unfold ofUrl at h
  split at h
  · rename_i hscheme
    cases h
    have hsettled := hurl hscheme
    have hbare : Url.IsSettled { url with query := none, fragment := none } :=
      ⟨hscheme, hsettled.authority, hsettled.path, hsettled.segments_ne_nil, hsettled.isSegment⟩
    exact ⟨hbare.withPath _, rfl, rfl⟩
  · cases h

theorem IsSettled.directory (h : endpoint.IsSettled) : endpoint.directory.IsSettled := by
  unfold Endpoint.directory
  dsimp only
  split
  · exact h.url
  · exact h.url.withPath _

theorem IsSettled.resolve {location : String} (h : endpoint.IsSettled)
    (hnext : endpoint.resolve location = .ok next) : next.IsSettled := by
  unfold Endpoint.resolve at hnext
  split at hnext
  · cases hnext
  · rename_i url hurl
    exact isSettled_of_ofUrl (isSettled_of_resolve h.directory hurl) hnext

theorem IsSettled.serverRoot (h : endpoint.IsSettled) : endpoint.serverRoot.IsSettled := by
  unfold Endpoint.serverRoot
  dsimp only
  split
  · exact ⟨h.url.withPath _, h.query, h.fragment⟩
  · exact h

theorem isSettled_of_parse (h : parse raw = .ok endpoint) : endpoint.IsSettled := by
  unfold parse at h
  split at h
  · cases h
  · rename_i url hurl
    exact isSettled_of_ofUrl (Url.isSettled_of_parse hurl) h

/-- Every endpoint that can be obtained is settled. -/
theorem IsObtained.isSettled (h : endpoint.IsObtained) : endpoint.IsSettled := by
  induction h with
  | parse h => exact isSettled_of_parse h
  | ofUrl hurl h => exact isSettled_of_ofUrl (Url.isSettled_of_parse hurl) h
  | resolve _ h ih => exact ih.resolve h
  | serverRoot _ ih => exact ih.serverRoot

/-! ## Appended paths -/

/-- The segments of an endpoint without the slashes at its end. Request paths are appended to
these. -/
def base (endpoint : Endpoint) : List String :=
  Path.withoutEmptyEnd endpoint.url.segments

theorem IsSettled.base_isSegment (h : endpoint.IsSettled) :
    ∀ name ∈ endpoint.base, Path.IsSegment name :=
  fun name hname => h.url.isSegment name (Path.mem_of_mem_withoutEmptyEnd hname)

/-- The text of an endpoint without the slashes at its end. -/
theorem IsSettled.withoutTrailing_text (h : endpoint.IsSettled) :
    (withoutTrailing endpoint.text).toList =
      endpoint.url.originText.toList ++ (Path.segmentsText endpoint.base).toList := by
  obtain ⟨a, hauthority, -⟩ := h.url.authority
  have hpath : endpoint.url.pathText = Path.segmentsText endpoint.url.segments := by
    unfold Url.pathText
    rw [hauthority, h.url.path]
    rfl
  have htext : endpoint.text.toList =
      endpoint.url.originText.toList ++ (Path.segmentsText endpoint.url.segments).toList := by
    simp [Endpoint.text, Url.text, hpath, queryText, h.query, fragmentText, h.fragment]
  rw [withoutTrailing, String.toList_ofList, htext,
    Path.dropTrailing_segmentsText (fun _ hlast => h.url.getLast?_originText hlast)
      h.url.isSegment]
  rfl

/-- What becomes of a path that names more than the endpoint itself. Segments at its front count as
segments of the endpoint. -/
theorem join_eq {resource : List String} {cs : List Char} (h : endpoint.IsSettled)
    (hresource : ∀ part ∈ resource, Path.IsSegment part)
    (hne : path.toList.dropWhile (· == '/') ≠ [])
    (hpath : '/' :: path.toList.dropWhile (· == '/') =
      (Path.segmentsText resource).toList ++ '/' :: cs) :
    endpoint.join path = .ok { endpoint.url with
      path := .segments (Path.walk true (endpoint.base ++ resource) (splitPath (kept cs)).1)
      query := (readTail true (splitPath (kept cs)).2).1
      fragment := (readTail true (splitPath (kept cs)).2).2 } := by
  have hnames : ∀ name ∈ endpoint.base ++ resource, Path.IsSegment name := by
    intro name hname
    rcases List.mem_append.mp hname with hbase | hpart
    · exact h.base_isSegment name hbase
    · exact hresource name hpart
  unfold join
  cases hrelative : path.toList.dropWhile (· == '/') with
  | nil => exact absurd hrelative hne
  | cons c rest =>
      rw [hrelative] at hpath
      have hraw : (withoutTrailing endpoint.text ++ "/" ++ String.ofList (c :: rest)).toList =
          endpoint.url.originText.toList
            ++ (Path.segmentsText (endpoint.base ++ resource)).toList ++ '/' :: cs := by
        simp only [String.toList_append, h.withoutTrailing_text, String.toList_ofList,
          Path.segmentsText_toList, List.flatMap_append, List.append_assoc] at hpath ⊢
        rw [← hpath]
        rfl
      simp only [parse_appended h.url hnames hraw]

/-- What becomes of a path that names a resource and something below it. -/
theorem join_resource_eq {first : String} {rest : List String} {cs : List Char}
    (h : endpoint.IsSettled) (hresource : ∀ part ∈ first :: rest, Path.IsSegment part)
    (hfirst : first ≠ "")
    (hpath : '/' :: path.toList = (Path.segmentsText (first :: rest)).toList ++ '/' :: cs) :
    endpoint.join path = .ok { endpoint.url with
      path := .segments (Path.walk true (endpoint.base ++ first :: rest) (splitPath (kept cs)).1)
      query := (readTail true (splitPath (kept cs)).2).1
      fragment := (readTail true (splitPath (kept cs)).2).2 } := by
  have hslashes : path.toList.dropWhile (· == '/') = path.toList ∧ path.toList ≠ [] := by
    cases hchars : first.toList with
    | nil => exact absurd (String.toList_eq_nil_iff.mp hchars) hfirst
    | cons c tail =>
        have hc : (c == '/') = false := by
          have hpart := (hresource first List.mem_cons_self).unseparated
          rw [hchars, List.any_cons, Bool.or_eq_false_iff] at hpart
          exact (Bool.or_eq_false_iff.mp hpart.1).1
        rw [Path.segmentsText_toList, List.flatMap_cons, hchars] at hpath
        rw [(List.cons.inj hpath).2]
        exact ⟨List.dropWhile_cons_of_neg (by simp [hc]), nofun⟩
  refine join_eq h hresource ?_ ?_
  · rw [hslashes.1]
    exact hslashes.2
  · rw [hslashes.1]
    exact hpath

end Quadlink.Endpoint
