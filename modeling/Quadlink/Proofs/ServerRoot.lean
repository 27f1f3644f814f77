import Quadlink.Auth.Session
import Quadlink.Proofs.Url.Name

/-!
# Forms of endpoints and of their servers

What the ways to come by an endpoint make of its path. An endpoint that was read or resolved has no
slash at the end of its path (`hasPlainPath_of_ofUrl`). A server root does not go through the same
hands: its path is joined from segments, so empty segments next to the cut decide what comes out
(`IsSettled.serverRoot_of_mem`). It ends in a slash exactly if its endpoint has a gap there, and it
lacks a slash at its front if the path of its endpoint starts with two.

`EndpointSet.server_roots_form` is all of this for the members of a set, with what it means for
logins: two roots of a set share their login URLs exactly if they differ in nothing but slashes at
the end. `EndpointSet.slash_before_repositories_stays` has two such roots.
-/

namespace Quadlink

open Text Url

namespace Url

variable {url : Url} {names : List String}

theorem IsSettled.withPath_segmentsText (h : url.IsSettled)
    (hnames : ∀ name ∈ names, Path.IsSegment name) :
    url.withPath (Path.segmentsText names) =
      { url with path := .segments (Path.orRoot names) } := by
  have hkept : (Path.segmentsText names).toList.filter (fun c => !isFold c) =
      (Path.segmentsText names).toList := by
    rw [List.filter_eq_self]
    intro c hc
    rw [(mem_segmentsText hnames hc).1]
    rfl
  rw [Url.withPath, hkept, h.scheme.isSpecial, Path.readSegments_segmentsText hnames]

theorem IsSettled.withPath_intercalate (h : url.IsSettled)
    (hnames : ∀ name ∈ names, Path.IsSegment name) :
    url.withPath (String.intercalate "/" names) =
      { url with path := .segments (Path.rooted names) } := by
  have hkept : (String.intercalate "/" names).toList.filter (fun c => !isFold c) =
      (String.intercalate "/" names).toList := by
    rw [List.filter_eq_self]
    intro c hc
    cases names with
    | nil => simp at hc
    | cons first rest =>
        have hmem : c ∈ (Path.segmentsText (first :: rest)).toList := by
          rw [← Path.slash_intercalate (by simp)]
          exact List.mem_cons_of_mem _ hc
        rw [(mem_segmentsText hnames hmem).1]
        rfl
  rw [Url.withPath, hkept, h.scheme.isSpecial, Path.readSegments_intercalate hnames]

end Url

namespace Endpoint

variable {endpoint next : Endpoint} {url : Url}

/-! ## Paths without a slash at the end -/

/-- The path is the root or does not end in a slash. -/
def HasPlainPath (endpoint : Endpoint) : Prop :=
  endpoint.url.path.text = "/" ∨ endpoint.url.path.text.toList.getLast? ≠ some '/'

theorem IsSettled.path_text (h : endpoint.IsSettled) :
    endpoint.url.path.text = Path.segmentsText endpoint.url.segments := by
  rw [h.url.path]
  rfl

theorem withoutTrailing_segmentsText {names : List String}
    (hnames : ∀ name ∈ names, Path.IsSegment name) :
    withoutTrailing (Path.segmentsText names) = Path.segmentsText (Path.withoutEmptyEnd names) := by
  have hdrop := Path.dropTrailing_segmentsText (by simp : ∀ last, [].getLast? = some last → last ≠ '/')
    hnames
  rw [List.nil_append, List.nil_append] at hdrop
  rw [withoutTrailing, hdrop, String.ofList_toList]

theorem getLast?_segmentsText {names : List String}
    (hnames : ∀ name ∈ names, Path.IsSegment name) :
    (Path.segmentsText names).toList.getLast? = some '/' ↔ names.getLast? = some "" := by
  rcases List.eq_nil_or_concat names with rfl | ⟨init, last, rfl⟩
  · simp [Path.segmentsText_toList]
  · have hlast : Path.IsSegment last := hnames last (by simp)
    have hshape : (Path.segmentsText (init.concat last)).toList =
        (Path.segmentsText init).toList ++ '/' :: last.toList := by
      simp [Path.segmentsText_toList]
    rw [hshape, List.getLast?_append, List.getLast?_cons]
    cases hend : last.toList.getLast? with
    | none => simpa using hend
    | some c =>
        have hc : c ≠ '/' := by
          rintro rfl
          have hnot := any_eq_false_iff.mp hlast.unseparated '/' (List.mem_of_getLast? hend)
          cases hnot
        have hne : last ≠ "" := by
          rintro rfl
          cases hend
        simp [hc, hne]

theorem IsSettled.hasPlainPath_iff (h : endpoint.IsSettled) :
    endpoint.HasPlainPath ↔ Path.trimmed endpoint.url.segments = endpoint.url.segments := by
  have hroot : endpoint.url.path.text = "/" ↔ endpoint.url.segments = [""] := by
    rw [h.path_text]
    exact Path.segmentsText_inj h.url.isSegment
      (by simp [Path.isSegment_empty] : ∀ name ∈ [""], Path.IsSegment name) h.url.segments_ne_nil
      (by simp)
  rw [HasPlainPath, hroot, h.path_text, ne_eq, getLast?_segmentsText h.url.isSegment,
    Path.trimmed_eq_self_iff h.url.segments_ne_nil]

/-- Taking a URL as an endpoint clears up the end of its path. -/
theorem ofUrl_eq (h : url.IsSettled) :
    ofUrl url = .ok ⟨{ url with
      path := .segments (Path.trimmed url.segments), query := none, fragment := none }⟩ := by
  have hbare : Url.IsSettled { url with query := none, fragment := none } :=
    ⟨h.scheme, h.authority, h.path, h.segments_ne_nil, h.isSegment⟩
  have htext : url.path.text = Path.segmentsText url.segments := by
    rw [h.path]
    rfl
  have hkept : ∀ name ∈ Path.withoutEmptyEnd url.segments, Path.IsSegment name :=
    fun name hname => h.isSegment name (Path.mem_of_mem_withoutEmptyEnd hname)
  rw [ofUrl, if_pos (by exact h.scheme), htext, withoutTrailing_segmentsText h.isSegment,
    hbare.withPath_segmentsText hkept]
  rfl

theorem hasPlainPath_of_ofUrl (hurl : IsWeb url.scheme → url.IsSettled)
    (h : ofUrl url = .ok endpoint) : endpoint.HasPlainPath := by
  have hsettled := isSettled_of_ofUrl hurl h
  have hscheme : IsWeb url.scheme := by
    unfold ofUrl at h
    split at h
    · assumption
    · cases h
  rw [ofUrl_eq (hurl hscheme)] at h
  cases h
  rw [hsettled.hasPlainPath_iff]
  exact Path.trimmed_trimmed url.segments

theorem hasPlainPath_of_parse {raw : String} (h : parse raw = .ok endpoint) :
    endpoint.HasPlainPath := by
  unfold parse at h
  split at h
  · cases h
  · rename_i url hurl
    exact hasPlainPath_of_ofUrl (Url.isSettled_of_parse hurl) h

theorem IsSettled.hasPlainPath_of_resolve {location : String} (h : endpoint.IsSettled)
    (hnext : endpoint.resolve location = .ok next) : next.HasPlainPath := by
  unfold Endpoint.resolve at hnext
  split at hnext
  · cases hnext
  · rename_i url hurl
    exact hasPlainPath_of_ofUrl (isSettled_of_resolve h.directory hurl) hnext

/-! ## Roots -/

def frontNames (endpoint : Endpoint) : List String :=
  endpoint.url.segments.takeWhile (· != repositoriesSegment)

/-- The path before the first segment `repositories` without the slashes at its end, or the root
if nothing is left of it. -/
def frontPath (endpoint : Endpoint) : String :=
  let front := withoutTrailing (Path.segmentsText endpoint.frontNames)
  if front = "" then "/" else front

/-- Two fronts that come to the root although there are empty segments at their ends. -/
def emptyFronts : List (List String) := [[""], ["", ""]]

theorem serverRoot_of_not_mem (h : repositoriesSegment ∉ endpoint.url.segments) :
    endpoint.serverRoot = endpoint :=
  if_neg (by simpa using h)

theorem IsSettled.frontNames_isSegment (h : endpoint.IsSettled) :
    ∀ name ∈ endpoint.frontNames, Path.IsSegment name :=
  fun name hname => h.url.isSegment name ((List.takeWhile_sublist _).subset hname)

theorem IsSettled.serverRoot_of_mem (h : endpoint.IsSettled)
    (hmem : repositoriesSegment ∈ endpoint.url.segments) :
    endpoint.serverRoot =
      ⟨{ endpoint.url with path := .segments (Path.rooted endpoint.frontNames) }⟩ := by
  rw [← h.url.withPath_intercalate h.frontNames_isSegment]
  exact if_pos (by simpa using hmem)

theorem IsSettled.frontPath_eq (h : endpoint.IsSettled) :
    endpoint.frontPath = Path.segmentsText (Path.trimmed endpoint.frontNames) := by
  rw [frontPath, withoutTrailing_segmentsText h.frontNames_isSegment, Path.trimmed, Path.orRoot]
  cases Path.withoutEmptyEnd endpoint.frontNames with
  | nil => rfl
  | cons first rest =>
      have hne : Path.segmentsText (first :: rest) ≠ "" := by
        intro hempty
        have hnil := congrArg String.toList hempty
        rw [Path.segmentsText_toList, List.flatMap_cons] at hnil
        cases hnil
      simp [hne]

/-- A path with an empty segment in front of the first one that is called `repositories`, and more
than that. Joining the segments in front of it leaves a slash at the end. -/
structure HasGap (endpoint : Endpoint) : Prop where
  split : repositoriesSegment ∈ endpoint.url.segments
  last : endpoint.frontNames.getLast? = some ""
  more : endpoint.frontNames ∉ emptyFronts

/-- A root ends in a slash if its front does, unless there is next to nothing in front. -/
theorem IsSettled.serverRoot_hasPlainPath_iff (h : endpoint.IsSettled)
    (hmem : repositoriesSegment ∈ endpoint.url.segments) :
    endpoint.serverRoot.HasPlainPath ↔ ¬ endpoint.HasGap := by
  have hplain : endpoint.serverRoot.HasPlainPath
      ↔ endpoint.frontNames ∈ emptyFronts ∨ endpoint.frontNames.getLast? ≠ some "" := by
    rw [h.serverRoot.hasPlainPath_iff, h.serverRoot_of_mem hmem]
    exact Path.trimmed_rooted_iff
  rw [hplain]
  constructor
  · rintro (hfew | hlast) hgap
    · exact hgap.more hfew
    · exact hlast hgap.last
  · intro hgap
    by_contra hnot
    obtain ⟨hmore, hlast⟩ := not_or.mp hnot
    exact hgap ⟨hmem, not_not.mp hlast, hmore⟩

/-- A root stands for its front exactly if that begins and ends in a name. -/
theorem IsSettled.serverRoot_path_iff (h : endpoint.IsSettled)
    (hmem : repositoriesSegment ∈ endpoint.url.segments) :
    endpoint.serverRoot.url.path.text = endpoint.frontPath
      ↔ endpoint.frontNames ∈ emptyFronts
        ∨ endpoint.frontNames.head? ≠ some "" ∧ endpoint.frontNames.getLast? ≠ some "" := by
  have hfront := h.frontNames_isSegment
  rw [h.serverRoot.path_text, h.frontPath_eq, h.serverRoot_of_mem hmem]
  exact (Path.segmentsText_inj (Path.rooted_isSegment hfront) (Path.trimmed_isSegment hfront)
    (Path.orRoot_ne_nil _) (Path.orRoot_ne_nil _)).trans Path.rooted_eq_trimmed_iff

/-- What a root has of its endpoint: everything but the path, and of that all up to the first
segment `repositories`. -/
structure IsRootOf (endpoint root : Endpoint) : Prop where
  kept : root.url = { endpoint.url with path := root.url.path }
  whole : repositoriesSegment ∉ endpoint.url.segments → root = endpoint
  path : repositoriesSegment ∈ endpoint.url.segments →
    root.url.path = .segments (Path.rooted endpoint.frontNames)
  front : repositoriesSegment ∈ endpoint.url.segments →
    (root.url.path.text = endpoint.frontPath
      ↔ endpoint.frontNames ∈ emptyFronts
        ∨ endpoint.frontNames.head? ≠ some "" ∧ endpoint.frontNames.getLast? ≠ some "")

theorem IsSettled.isRootOf_serverRoot (h : endpoint.IsSettled) :
    IsRootOf endpoint endpoint.serverRoot := by
  by_cases hmem : repositoriesSegment ∈ endpoint.url.segments
  · have hroot := h.serverRoot_of_mem hmem
    exact ⟨by rw [hroot], fun hnot => absurd hmem hnot, fun _ => by rw [hroot],
      fun _ => h.serverRoot_path_iff hmem⟩
  · have hroot := serverRoot_of_not_mem hmem
    exact ⟨by rw [hroot], fun _ => hroot, fun hsplit => absurd hsplit hmem,
      fun hsplit => absurd hsplit hmem⟩

/-- What all endpoints have in common, and which of them end in a slash: only the server roots of
endpoints that have a gap. -/
structure HasForm (endpoint : Endpoint) : Prop where
  scheme : IsWeb endpoint.url.scheme
  query : endpoint.url.query = none
  fragment : endpoint.url.fragment = none
  plain : endpoint.HasPlainPath
    ↔ ¬ ∃ origin : Endpoint, origin.IsObtained ∧ origin.HasGap ∧ endpoint = origin.serverRoot

/-- An endpoint whose path is not plain is the root of another one that has a gap. -/
theorem IsObtained.exists_gap (h : endpoint.IsObtained) (hnot : ¬ endpoint.HasPlainPath) :
    ∃ origin : Endpoint, origin.IsObtained ∧ origin.HasGap ∧ endpoint = origin.serverRoot := by
  induction h with
  | parse h => exact absurd (hasPlainPath_of_parse h) hnot
  | ofUrl hurl h => exact absurd (hasPlainPath_of_ofUrl (Url.isSettled_of_parse hurl) h) hnot
  | resolve hfrom h => exact absurd (hfrom.isSettled.hasPlainPath_of_resolve h) hnot
  | @serverRoot endpoint hfrom ih =>
      by_cases hmem : repositoriesSegment ∈ endpoint.url.segments
      · rw [hfrom.isSettled.serverRoot_hasPlainPath_iff hmem, not_not] at hnot
        exact ⟨endpoint, hfrom, hnot, rfl⟩
      · rw [serverRoot_of_not_mem hmem] at hnot ⊢
        exact ih hnot

theorem IsObtained.hasForm (h : endpoint.IsObtained) : endpoint.HasForm := by
  refine ⟨h.isSettled.url.scheme, h.isSettled.query, h.isSettled.fragment, ?_, ?_⟩
  · rintro hplain ⟨origin, horigin, hgap, rfl⟩
    exact (horigin.isSettled.serverRoot_hasPlainPath_iff hgap.split).mp hplain hgap
  · intro hnone
    by_contra hnot
    exact hnone (h.exists_gap hnot)

/-! ## Logins -/

/-- Endpoints that differ in nothing but slashes at the end. A path that is joined to either leads
to one and the same place. -/
structure IsSameUpToSlashes (a b : Endpoint) : Prop where
  scheme : a.url.scheme = b.url.scheme
  authority : a.url.authority = b.url.authority
  base : a.base = b.base

theorem IsSameUpToSlashes.eq {a b : Endpoint} (h : IsSameUpToSlashes a b) (ha : a.IsSettled)
    (hb : b.IsSettled) (hplain : a.HasPlainPath) (hplain' : b.HasPlainPath) : a = b := by
  have hsegments : a.url.segments = b.url.segments := by
    rw [← ha.hasPlainPath_iff.mp hplain, ← hb.hasPlainPath_iff.mp hplain']
    exact congrArg Path.orRoot h.base
  have hpath : a.url.path = b.url.path := by rw [ha.url.path, hb.url.path, hsegments]
  obtain ⟨⟨_, _, _, _, _⟩⟩ := a
  obtain ⟨⟨_, _, _, _, _⟩⟩ := b
  simp only [Endpoint.mk.injEq, Url.mk.injEq]
  exact ⟨h.scheme, h.authority, hpath, ha.query.trans hb.query.symm,
    ha.fragment.trans hb.fragment.symm⟩

def loginPaths (username : String) : List String :=
  [Session.loginPath username, Session.userPath username]

def loginResources : List (List String) := [["login"], ["security", "users"]]

theorem loginPaths_eq {username path : String} (h : path ∈ loginPaths username) :
    ∃ rest ∈ loginResources, '/' :: path.toList =
      (Path.segmentsText ("rest" :: rest)).toList ++ '/' :: username.toList := by
  simp only [loginPaths, List.mem_cons, List.not_mem_nil, or_false] at h
  rcases h with rfl | rfl
  · refine ⟨["login"], List.mem_cons_self, ?_⟩
    show '/' :: ("rest/login/" ++ username).toList = _
    simp [Path.segmentsText_toList]
  · refine ⟨["security", "users"], List.mem_cons_of_mem _ List.mem_cons_self, ?_⟩
    show '/' :: ("rest/security/users/" ++ username).toList = _
    simp [Path.segmentsText_toList]

theorem loginResources_isSegment {rest : List String} (h : rest ∈ loginResources) :
    ∀ part ∈ "rest" :: rest, Path.IsSegment part := by
  have hfixed : ∀ part ∈ "rest" :: rest, part ∈ ["rest", "login", "security", "users"] := by
    simp only [loginResources, List.mem_cons, List.not_mem_nil, or_false] at h
    rcases h with rfl | rfl <;> decide
  intro part hpart
  have hpart := hfixed part hpart
  simp only [List.mem_cons, List.not_mem_nil, or_false] at hpart
  rcases hpart with rfl | rfl | rfl | rfl <;> exact ⟨by decide, by decide, by decide, by decide⟩

/-- The URL of a login consists of the server and a part that is the same for all servers. -/
theorem join_login {username path : String} (hname : IsPlainName username)
    (hpath : path ∈ loginPaths username) :
    ∃ below : List String, ∀ endpoint : Endpoint, endpoint.IsSettled →
      endpoint.join path = .ok { endpoint.url with
        path := .segments (endpoint.base ++ below), query := none, fragment := none } := by
  obtain ⟨rest, hrest, hshape⟩ := loginPaths_eq hpath
  refine ⟨"rest" :: rest ++ [Path.encodeSegment username.toList], fun endpoint hsettled => ?_⟩
  rw [join_resource_eq hsettled (loginResources_isSegment hrest) (by decide) hshape, hname.kept_eq,
    hname.splitPath_eq, hname.walk_eq, List.append_assoc]
  rfl

/-- Endpoints share the URL of a login exactly if they differ in nothing but slashes at the end. -/
theorem join_login_eq_iff {a b : Endpoint} {username path : String} (ha : a.IsSettled)
    (hb : b.IsSettled) (hname : IsPlainName username) (hpath : path ∈ loginPaths username) :
    a.join path = b.join path ↔ IsSameUpToSlashes a b := by
  obtain ⟨below, hjoin⟩ := join_login hname hpath
  rw [hjoin a ha, hjoin b hb]
  simp only [Except.ok.injEq, Url.mk.injEq, Path.segments.injEq, List.append_cancel_right_eq,
    and_true]
  exact ⟨fun ⟨hscheme, hauthority, hbase⟩ => ⟨hscheme, hauthority, hbase⟩,
    fun h => ⟨h.scheme, h.authority, h.base⟩⟩

end Endpoint

namespace EndpointSet

variable {endpoint : Endpoint} {known endpoints : List Endpoint} {set : EndpointSet}

/-- A list of the members of another one, in the order in which they first occur there; so none of
them is listed twice. -/
structure IsDigestOf (known endpoints : List Endpoint) : Prop where
  mem_iff : ∀ endpoint, endpoint ∈ known ↔ endpoint ∈ endpoints
  ordered : known.Pairwise fun a b => endpoints.idxOf a < endpoints.idxOf b

theorem IsDigestOf.nodup (h : IsDigestOf known endpoints) : known.Nodup :=
  h.ordered.imp fun hlt => by
    rintro rfl
    exact Nat.lt_irrefl _ hlt

/-- What has been listed keeps its place, and a newcomer comes after it. -/
theorem IsDigestOf.addNew (h : IsDigestOf known endpoints) (endpoint : Endpoint) :
    IsDigestOf (addNew known endpoint) (endpoints ++ [endpoint]) := by
  have hold : ∀ other ∈ known, (endpoints ++ [endpoint]).idxOf other = endpoints.idxOf other :=
    fun other hother => List.idxOf_append_of_mem ((h.mem_iff other).mp hother)
  have hordered : known.Pairwise fun a b =>
      (endpoints ++ [endpoint]).idxOf a < (endpoints ++ [endpoint]).idxOf b := by
    refine h.ordered.imp_of_mem fun ha hb hlt => ?_
    rw [hold _ ha, hold _ hb]
    exact hlt
  unfold EndpointSet.addNew
  split
  · rename_i hmem
    have hmem : endpoint ∈ endpoints := (h.mem_iff endpoint).mp (List.contains_iff_mem.mp hmem)
    refine ⟨fun other => ?_, hordered⟩
    rw [h.mem_iff, List.mem_append, List.mem_singleton]
    exact ⟨Or.inl, fun hor => hor.elim id fun heq => heq ▸ hmem⟩
  · rename_i hnew
    have hnew : endpoint ∉ endpoints := by
      rwa [List.contains_iff_mem, h.mem_iff] at hnew
    refine ⟨fun other => ?_, List.pairwise_append.mpr ⟨hordered, List.pairwise_singleton _ _, ?_⟩⟩
    · rw [List.mem_append, List.mem_append, h.mem_iff]
    · intro other hother last hlast
      obtain rfl := List.mem_singleton.mp hlast
      rw [hold other hother, List.idxOf_append_of_notMem hnew]
      exact Nat.lt_add_right _ (List.idxOf_lt_length_of_mem ((h.mem_iff other).mp hother))

theorem IsDigestOf.foldl_addNew (h : IsDigestOf known endpoints) (more : List Endpoint) :
    IsDigestOf (more.foldl EndpointSet.addNew known) (endpoints ++ more) := by
  induction more generalizing known endpoints with
  | nil => simpa using h
  | cons endpoint rest ih => simpa using ih (h.addNew endpoint)

theorem isDigestOf_distinct (endpoints : List Endpoint) :
    IsDigestOf (distinct endpoints) endpoints :=
  IsDigestOf.foldl_addNew (⟨fun _ => Iff.rfl, .nil⟩ : IsDigestOf [] []) endpoints

theorem mem_distinct : endpoint ∈ distinct endpoints ↔ endpoint ∈ endpoints :=
  (isDigestOf_distinct endpoints).mem_iff endpoint

theorem nodup_distinct (endpoints : List Endpoint) : (distinct endpoints).Nodup :=
  (isDigestOf_distinct endpoints).nodup

/-- The roots of a set are those of its members, each once. -/
theorem toList_serverRoots (set : EndpointSet) :
    set.serverRoots.toList = distinct (set.toList.map Endpoint.serverRoot) :=
  List.cons_head_tail _

theorem mem_serverRoots :
    endpoint ∈ set.serverRoots.toList ↔ ∃ member ∈ set.toList, member.serverRoot = endpoint := by
  rw [toList_serverRoots, mem_distinct, List.mem_map]

/-- The forms of the members of a set and of their servers. A root is its member's but for the path,
each occurs once, and two of them share their login URLs exactly if they differ in nothing but
slashes at the end; so they do not if their paths are plain. -/
theorem server_roots_form (hset : ∀ member ∈ set.toList, member.IsObtained) :
    (∀ endpoint ∈ set.toList ++ set.serverRoots.toList, endpoint.HasForm)
    ∧ (∀ member ∈ set.toList, Endpoint.IsRootOf member member.serverRoot)
    ∧ set.serverRoots.toList.Nodup
    ∧ (∀ root, root ∈ set.serverRoots.toList
        ↔ ∃ member ∈ set.toList, member.serverRoot = root)
    ∧ ∀ username path, IsPlainName username → path ∈ Endpoint.loginPaths username →
        ∀ a ∈ set.serverRoots.toList, ∀ b ∈ set.serverRoots.toList,
          (a.join path = b.join path ↔ Endpoint.IsSameUpToSlashes a b)
          ∧ (a.HasPlainPath → b.HasPlainPath → a.join path = b.join path → a = b) := by
  have hroots : ∀ root ∈ set.serverRoots.toList, root.IsObtained := by
    intro root hroot
    obtain ⟨member, hmember, rfl⟩ := mem_serverRoots.mp hroot
    exact .serverRoot (hset member hmember)
  refine ⟨?_, ?_, ?_, fun _ => mem_serverRoots, ?_⟩
  · intro endpoint hendpoint
    rcases List.mem_append.mp hendpoint with hmember | hroot
    · exact (hset endpoint hmember).hasForm
    · exact (hroots endpoint hroot).hasForm
  · exact fun member hmember => (hset member hmember).isSettled.isRootOf_serverRoot
  · rw [toList_serverRoots]
    exact nodup_distinct _
  · intro username path hname hpath a ha b hb
    have ha := (hroots a ha).isSettled
    have hb := (hroots b hb).isSettled
    have hiff := Endpoint.join_login_eq_iff ha hb hname hpath
    exact ⟨hiff, fun hplain hplain' hjoin => (hiff.mp hjoin).eq ha hb hplain hplain'⟩

def localEndpoint (names : List String) : Endpoint :=
  ⟨⟨"http", some ⟨"", none, .ipv6 [0, 0, 0, 0, 0, 0, 0, 1], some 7200⟩, .segments names, none,
    none⟩⟩

/-- Two repositories of one server: their roots are one. -/
theorem server_roots_form_two_repositories :
    Endpoint.parse "http://[::1]:7200/graphdb/repositories/a"
        = .ok (localEndpoint ["graphdb", "repositories", "a"])
      ∧ Endpoint.parse "http://[::1]:7200/graphdb/repositories/b/"
        = .ok (localEndpoint ["graphdb", "repositories", "b"])
      ∧ (EndpointSet.mk (localEndpoint ["graphdb", "repositories", "a"])
          [localEndpoint ["graphdb", "repositories", "b"]]).serverRoots.toList
        = [localEndpoint ["graphdb"]]
      ∧ (localEndpoint ["graphdb"]).HasForm := by
  have hfirst : Endpoint.parse "http://[::1]:7200/graphdb/repositories/a"
      = .ok (localEndpoint ["graphdb", "repositories", "a"]) := rfl
  have hsecond : Endpoint.parse "http://[::1]:7200/graphdb/repositories/b/"
      = .ok (localEndpoint ["graphdb", "repositories", "b"]) := rfl
  have hroots : (EndpointSet.mk (localEndpoint ["graphdb", "repositories", "a"])
      [localEndpoint ["graphdb", "repositories", "b"]]).serverRoots.toList
        = [localEndpoint ["graphdb"]] := rfl
  refine ⟨hfirst, hsecond, hroots, ?_⟩
  have hobtained : ∀ member ∈ (EndpointSet.mk (localEndpoint ["graphdb", "repositories", "a"])
      [localEndpoint ["graphdb", "repositories", "b"]]).toList, member.IsObtained := by
    intro member hmember
    rcases List.mem_cons.mp hmember with rfl | hmember
    · exact .parse hfirst
    · obtain rfl := List.mem_singleton.mp hmember
      exact .parse hsecond
  refine (server_roots_form hobtained).1 _ ?_
  rw [hroots]
  simp

/-- With an empty segment in front of `repositories`, a root keeps a slash at its end and counts as
another server, and both are logged in to at one URL. -/
theorem slash_before_repositories_stays :
    Endpoint.parse "http://[::1]:7200/graphdb//repositories/a"
        = .ok (localEndpoint ["graphdb", "", "repositories", "a"])
      ∧ Endpoint.parse "http://[::1]:7200/graphdb/repositories/b"
        = .ok (localEndpoint ["graphdb", "repositories", "b"])
      ∧ (EndpointSet.mk (localEndpoint ["graphdb", "", "repositories", "a"])
          [localEndpoint ["graphdb", "repositories", "b"]]).serverRoots.toList
        = [localEndpoint ["graphdb", ""], localEndpoint ["graphdb"]]
      ∧ (localEndpoint ["graphdb", ""]).url.path.text = "/graphdb/"
      ∧ localEndpoint ["graphdb", ""] ≠ localEndpoint ["graphdb"]
      ∧ (localEndpoint ["graphdb", ""]).join "rest/login/admin"
        = .ok (localEndpoint ["graphdb", "rest", "login", "admin"]).url
      ∧ (localEndpoint ["graphdb"]).join "rest/login/admin"
        = .ok (localEndpoint ["graphdb", "rest", "login", "admin"]).url :=
  ⟨rfl, rfl, rfl, rfl, by decide, rfl, rfl⟩

end EndpointSet

end Quadlink
