import Quadlink.Proofs.Url.Authority
import Quadlink.Proofs.Url.Path

/-!
# Settled URLs

Every `http` or `https` URL that was read is *settled*: its authority is, and its path consists of
encoded segments without dot segments. Whether it was read as a whole, relative to a settled URL, or
got another path makes no difference. `parse_appended` is the reason to care: it says what a reader
makes of anything that is appended to a settled URL. With an encoded query and fragment such a URL
is read from its own text (`IsSettled.parse_text`).
-/

namespace Quadlink.Url

open Text Codec

def IsWeb (scheme : String) : Prop := scheme = "http" ∨ scheme = "https"

/-- A URL of an endpoint as reading leaves it, up to its query and fragment. What is settled is read
back as it is from its own text. -/
structure IsSettled (url : Url) : Prop where
  scheme : IsWeb url.scheme
  authority : ∃ a, url.authority = some a ∧ a.IsSettled url.scheme
  path : url.path = .segments url.segments
  segments_ne_nil : url.segments ≠ []
  isSegment : ∀ name ∈ url.segments, Path.IsSegment name

variable {url base : Url} {scheme : String} {cs : List Char} {c : Char} {names : List String}

theorem IsWeb.isSpecial (h : IsWeb scheme) : isSpecial scheme = true := by
  rcases h with rfl | rfl <;> rfl

theorem readPath_special (cs : List Char) :
    readPath true cs = .segments (Path.readSegments true cs) := by
  simp [readPath]

/-- To give a settled URL another path of segments leaves it settled. -/
theorem IsSettled.with_segments (h : url.IsSettled) (hne : names ≠ [])
    (hnames : ∀ name ∈ names, Path.IsSegment name) (query fragment : Option String) :
    IsSettled { url with path := .segments names, query, fragment } where
  scheme := h.scheme
  authority := h.authority
  path := rfl
  segments_ne_nil := hne
  isSegment := hnames

/-! ## What was read is settled -/

theorem isSettled_of_readHierarchy (hscheme : IsWeb scheme)
    (h : readHierarchy scheme cs = .ok url) : url.IsSettled := by
  unfold readHierarchy at h
  dsimp only at h
  split at h
  · cases h
  · rename_i a rest hauthority
    cases h
    refine ⟨hscheme, ⟨a, rfl, isSettled_of_readAuthority hscheme.isSpecial hauthority⟩, ?_, ?_, ?_⟩
    all_goals rw [hscheme.isSpecial, readPath_special]
    · rfl
    · exact Path.readSegments_ne_nil _
    · exact Path.readSegments_isSegment

theorem scheme_of_readHierarchy (h : readHierarchy scheme cs = .ok url) : url.scheme = scheme := by
  unfold readHierarchy at h
  dsimp only at h
  split at h
  · cases h
  · cases h
    rfl

theorem scheme_of_readForeign (h : readForeign scheme cs = .ok url) : url.scheme = scheme := by
  unfold readForeign at h
  split at h
  · exact scheme_of_readHierarchy h
  · cases h
    rfl

theorem scheme_of_readFile (h : readFile cs = .ok url) : url.scheme = "file" := by
  -- However the text falls apart, both ways to a result write the same scheme.
  unfold readFile at h
  grind

theorem scheme_of_readScheme (h : readScheme scheme cs = .ok url) : url.scheme = scheme := by
  unfold readScheme at h
  split at h
  · rename_i hfile
    rw [scheme_of_readFile h, beq_iff_eq.mp hfile]
  · split at h
    · exact scheme_of_readHierarchy h
    · exact scheme_of_readForeign h

theorem isSettled_of_readScheme (h : readScheme scheme cs = .ok url) (hscheme : IsWeb url.scheme) :
    url.IsSettled := by
  rw [scheme_of_readScheme h] at hscheme
  have hfile : ¬(scheme == "file") = true := by
    rcases hscheme with rfl | rfl <;> decide
  rw [readScheme, if_neg hfile, if_pos hscheme.isSpecial] at h
  exact isSettled_of_readHierarchy hscheme h

theorem isSettled_of_parse {raw : String} (h : parse raw = .ok url) (hscheme : IsWeb url.scheme) :
    url.IsSettled := by
  unfold parse at h
  split at h
  · exact isSettled_of_readScheme h hscheme
  · cases h

theorem isSettled_of_readRelative (hbase : base.IsSettled) (h : readRelative base cs = .ok url) :
    url.IsSettled := by
  have hspecial := hbase.scheme.isSpecial
  have hwalk : ∀ (directory : List String) (cs : List Char) (query fragment : Option String),
      (∀ name ∈ directory, Path.IsSegment name) →
        IsSettled { base with path := .segments (Path.walk true directory cs), query, fragment } :=
    fun directory cs query fragment hdirectory =>
      hbase.with_segments (Path.walk_ne_nil _ _) (Path.walk_isSegment hdirectory) _ _
  have hroot : ∀ name ∈ ([] : List String), Path.IsSegment name := fun _ hname =>
    absurd hname List.not_mem_nil
  unfold readRelative at h
  dsimp only at h
  rw [hspecial] at h
  split at h
  · cases h
    exact ⟨hbase.scheme, hbase.authority, hbase.path, hbase.segments_ne_nil, hbase.isSegment⟩
  · split at h
    · split at h
      · split at h
        · exact isSettled_of_readHierarchy hbase.scheme h
        · cases h
          exact hwalk _ _ _ _ hroot
      · cases h
        exact hwalk _ _ _ _ hroot
    · cases h
      exact hwalk _ _ _ _ fun name hname =>
        hbase.isSegment name ((List.dropLast_sublist _).subset hname)

theorem isSettled_of_resolve {raw : String} (hbase : base.IsSettled)
    (h : base.resolve raw = .ok url) (hscheme : IsWeb url.scheme) : url.IsSettled := by
  unfold resolve at h
  dsimp only at h
  split at h
  · split at h
    · exact isSettled_of_readRelative hbase h
    · exact isSettled_of_readScheme h hscheme
  · rw [hbase.path] at h
    exact isSettled_of_readRelative hbase h

theorem IsSettled.withPath (h : url.IsSettled) (path : String) : (url.withPath path).IsSettled := by
  refine ⟨h.scheme, h.authority, rfl, ?_, ?_⟩
  all_goals
    simp only [Url.withPath, segments, h.scheme.isSpecial]
  · exact Path.readSegments_ne_nil _
  · exact Path.readSegments_isSegment

/-! ## What is written of it is read again -/

def kept (cs : List Char) : List Char :=
  (dropTrailing isEdge cs).filter fun c => !isFold c

/-- A text that holds neither an edge at its front nor a fold. -/
theorem relevant_append {front : List Char} {raw : String} (hraw : raw.toList = front ++ '/' :: cs)
    (hfirst : ∀ c, front.head? = some c → isEdge c = false)
    (hfold : ∀ c ∈ front, isFold c = false) :
    relevant raw = front ++ '/' :: kept cs := by
  have hstart : (front ++ '/' :: cs).dropWhile isEdge = front ++ '/' :: cs := by
    cases front with
    | nil => rfl
    | cons c tail =>
        rw [List.cons_append, List.dropWhile_cons_of_neg (by simp [hfirst c rfl])]
  have hfront : front.filter (fun c => !isFold c) = front := by
    rw [List.filter_eq_self]
    intro c hc
    rw [hfold c hc]
    rfl
  rw [relevant, hraw, hstart, dropTrailing_append (by decide), List.filter_append, hfront,
    List.filter_cons_of_pos (by decide), kept]

theorem not_ends_of_not_delimiter (h : isDelimiter c = false) :
    endsAuthority true c = false ∧ isSlash c = false ∧ isFold c = false := by
  simp_all [isDelimiter, endsAuthority, isSlash, isFold]

/-- No character of a settled authority ends it, and none is passed over by a reader. -/
theorem Authority.IsSettled.not_ends {a : Authority} (h : a.IsSettled scheme)
    (hc : c ∈ a.text.toList) :
    endsAuthority true c = false ∧ isSlash c = false ∧ isFold c = false := by
  rcases h.mem_text hc with rfl | hnot
  · decide
  · exact not_ends_of_not_delimiter hnot

theorem Authority.IsSettled.text_eq_cons {a : Authority} (h : a.IsSettled scheme) :
    ∃ c rest, a.text.toList = c :: rest := by
  rw [← List.ne_nil_iff_exists_cons]
  simp [Authority.text, h.host.text_ne_nil]

theorem readHierarchy_text {a : Authority} (hscheme : IsWeb scheme) (h : a.IsSettled scheme)
    (cs : List Char) :
    readHierarchy scheme (a.text.toList ++ '/' :: cs) =
      .ok ⟨scheme, some a, .segments (Path.readSegments true (splitPath ('/' :: cs)).1),
        (readTail true (splitPath ('/' :: cs)).2).1,
        (readTail true (splitPath ('/' :: cs)).2).2⟩ := by
  have hends : a.text.toList.any (endsAuthority true) = false := by
    rw [any_eq_false_iff]
    exact fun c hc => (h.not_ends hc).1
  rw [readHierarchy]
  dsimp only
  rw [hscheme.isSpecial, cutBefore_append hends (by rfl)]
  dsimp only
  rw [readAuthority_text hscheme.isSpecial h]
  dsimp only
  rw [List.nil_append, readPath_special]

theorem splitScheme?_web (h : IsWeb scheme) (rest : List Char) :
    splitScheme? (scheme.toList ++ ':' :: rest) = some (scheme, rest) := by
  have hall : scheme.toList.all isSchemeChar = true := by
    rcases h with rfl | rfl <;> decide
  have hlower : String.ofList (scheme.toList.map Char.toLower) = scheme := by
    rcases h with rfl | rfl <;> decide
  have hfirst : ∃ c tail, scheme.toList = c :: tail ∧ c.isAlpha = true := by
    rcases h with rfl | rfl <;> exact ⟨'h', _, rfl, by decide⟩
  obtain ⟨c, tail, hshape, halpha⟩ := hfirst
  have hdrop : (scheme.toList ++ ':' :: rest).dropWhile isSchemeChar = ':' :: rest :=
    dropWhile_append_stop hall (by decide)
  have htake : (scheme.toList ++ ':' :: rest).takeWhile isSchemeChar = scheme.toList :=
    takeWhile_append_stop hall (by decide)
  rw [hshape, List.cons_append, splitScheme?, if_pos halpha, ← List.cons_append, ← hshape, hdrop,
    htake, hlower]
  rfl

theorem readScheme_web {a : Authority} (hscheme : IsWeb scheme) (h : a.IsSettled scheme)
    (cs : List Char) :
    readScheme scheme ('/' :: '/' :: (a.text.toList ++ '/' :: cs)) =
      readHierarchy scheme (a.text.toList ++ '/' :: cs) := by
  have hfile : ¬(scheme == "file") = true := by
    rcases hscheme with rfl | rfl <;> decide
  obtain ⟨c, rest, hshape⟩ := h.text_eq_cons
  have hslash : isSlash c = false := (h.not_ends (hshape ▸ List.mem_cons_self)).2.1
  rw [readScheme, if_neg hfile, if_pos hscheme.isSpecial, hshape,
    List.dropWhile_cons_of_pos (by decide), List.dropWhile_cons_of_pos (by decide),
    List.cons_append, List.dropWhile_cons_of_neg (by simp [hslash])]

theorem splitPath_append {front : List Char}
    (h : ∀ c ∈ front, (c == '?' || c == '#') = false) (cs : List Char) :
    splitPath (front ++ cs) = (front ++ (splitPath cs).1, (splitPath cs).2) := by
  have hall : ∀ c ∈ front, (!(c == '?' || c == '#')) = true := fun c hc => by rw [h c hc]; rfl
  rw [splitPath, cutBefore, List.takeWhile_append_of_pos hall, List.dropWhile_append_of_pos hall]
  rfl

/-- No character of a written path is passed over by a reader, and none ends the path. -/
theorem mem_segmentsText (hnames : ∀ name ∈ names, Path.IsSegment name)
    (hc : c ∈ (Path.segmentsText names).toList) :
    isFold c = false ∧ (c == '?' || c == '#') = false := by
  rw [Path.segmentsText_toList, List.mem_flatMap] at hc
  obtain ⟨name, hname, hc⟩ := hc
  rcases List.mem_cons.mp hc with rfl | hc
  · decide
  · have hout := any_eq_false_iff.mp (hnames name hname).encoded c hc
    constructor
    · cases hfold : isFold c with
      | false => rfl
      | true =>
          simp only [isFold, Bool.or_eq_true, beq_iff_eq] at hfold
          rcases hfold with (rfl | rfl) | rfl <;> cases hout
    · cases hend : (c == '?' || c == '#') with
      | false => rfl
      | true =>
          rw [Bool.or_eq_true, beq_iff_eq, beq_iff_eq] at hend
          rcases hend with rfl | rfl <;> cases hout

theorem IsSettled.originText_eq (h : url.IsSettled) :
    ∃ a, url.authority = some a ∧ a.IsSettled url.scheme ∧
      url.originText.toList = url.scheme.toList ++ ':' :: '/' :: '/' :: a.text.toList := by
  obtain ⟨a, hauthority, ha⟩ := h.authority
  exact ⟨a, hauthority, ha, by simp [originText, hauthority]⟩

theorem IsSettled.isFold_originText (h : url.IsSettled) (hc : c ∈ url.originText.toList) :
    isFold c = false := by
  obtain ⟨a, -, ha, horigin⟩ := h.originText_eq
  have hscheme : url.scheme.toList.any isFold = false := by
    rcases h.scheme with hscheme | hscheme <;> rw [hscheme] <;> decide
  rw [horigin] at hc
  simp only [List.mem_append, List.mem_cons] at hc
  rcases hc with hc | rfl | rfl | rfl | hc
  · exact any_eq_false_iff.mp hscheme c hc
  · decide
  · decide
  · decide
  · exact (ha.not_ends hc).2.2

/-- The origin of a settled URL does not end in a slash. -/
theorem IsSettled.getLast?_originText (h : url.IsSettled)
    (hc : url.originText.toList.getLast? = some c) : c ≠ '/' := by
  obtain ⟨a, -, ha, horigin⟩ := h.originText_eq
  obtain ⟨first, rest, hshape⟩ := ha.text_eq_cons
  have hmem : c ∈ a.text.toList := by
    rw [horigin, hshape, List.getLast?_append] at hc
    rw [hshape]
    refine List.mem_of_getLast? (?_ : (first :: rest).getLast? = some c)
    simpa [List.getLast?_cons] using hc
  rintro rfl
  exact absurd (ha.not_ends hmem).2.1 (by decide)

/-- What is appended to the origin of a settled URL and some segments is read as a path relative to
these segments, a query and a fragment. -/
theorem parse_appended {raw : String} (h : url.IsSettled)
    (hnames : ∀ name ∈ names, Path.IsSegment name)
    (hraw : raw.toList =
      url.originText.toList ++ (Path.segmentsText names).toList ++ '/' :: cs) :
    parse raw = .ok { url with
      path := .segments (Path.walk true names (splitPath (kept cs)).1)
      query := (readTail true (splitPath (kept cs)).2).1
      fragment := (readTail true (splitPath (kept cs)).2).2 } := by
  obtain ⟨a, hauthority, ha, horigin⟩ := h.originText_eq
  have hfirst : ∀ c, (url.originText.toList ++ (Path.segmentsText names).toList).head? = some c →
      isEdge c = false := by
    intro c hc
    rw [horigin] at hc
    rcases h.scheme with hscheme | hscheme <;> rw [hscheme] at hc <;> cases hc <;> decide
  have hfold : ∀ c ∈ url.originText.toList ++ (Path.segmentsText names).toList,
      isFold c = false := by
    intro c hc
    rcases List.mem_append.mp hc with horigin | hpath
    · exact h.isFold_originText horigin
    · exact (mem_segmentsText hnames hpath).1
  -- The authority ends at the slash of the first segment, or of what is appended.
  obtain ⟨behind, hbehind⟩ : ∃ behind,
      (Path.segmentsText names).toList ++ '/' :: kept cs = '/' :: behind :=
    ⟨_, by rw [Path.segmentsText_toList, Path.segments_slash]⟩
  have hshape : url.originText.toList ++ (Path.segmentsText names).toList ++ '/' :: kept cs =
      url.scheme.toList ++ ':' :: '/' :: '/' :: (a.text.toList ++ '/' :: behind) := by
    rw [List.append_assoc, hbehind, horigin]
    simp
  have hsplit : splitPath ('/' :: behind) =
      ((Path.segmentsText names).toList ++ '/' :: (splitPath (kept cs)).1,
        (splitPath (kept cs)).2) := by
    have hslash : splitPath ('/' :: kept cs) =
        ('/' :: (splitPath (kept cs)).1, (splitPath (kept cs)).2) := rfl
    rw [← hbehind, splitPath_append fun c hc => (mem_segmentsText hnames hc).2, hslash]
  rw [parse, relevant_append hraw hfirst hfold, hshape, splitScheme?_web h.scheme]
  dsimp only
  rw [readScheme_web h.scheme ha, readHierarchy_text h.scheme ha, hsplit,
    Path.readSegments_append hnames, hauthority]

/-! ## Whole texts -/

/-- Query and fragment as the reader of a URL with a well-known scheme leaves them. -/
structure HasEncodedTail (url : Url) : Prop where
  query : ∀ text, url.query = some text → ∀ c ∈ text.toList, Percent.inSpecialQuery c = false
  fragment : ∀ text, url.fragment = some text → ∀ c ∈ text.toList, Percent.inFragment c = false

theorem hasEncodedTail_of_readTail (h : readTail true cs = (url.query, url.fragment)) :
    url.HasEncodedTail := by
  constructor
  · intro text htext c hc
    have hread : (readTail true cs).1 = some text := by rw [h, htext]
    simp only [readTail] at hread
    split at hread
    · cases hread
      rw [String.toList_ofList] at hc
      exact Percent.not_in_of_mem_encode Percent.isSet_inSpecialQuery hc
    · cases hread
  · intro text htext c hc
    have hread : (readTail true cs).2 = some text := by rw [h, htext]
    simp only [readTail] at hread
    split at hread
    · cases hread
      rw [String.toList_ofList] at hc
      exact Percent.not_in_of_mem_encode Percent.isSet_inFragment hc
    · cases hread

def announced (mark : Char) : Option String → List Char
  | none => []
  | some text => mark :: text.toList

def tailChars (url : Url) : List Char := announced '?' url.query ++ announced '#' url.fragment

theorem text_toList (url : Url) :
    url.text.toList = url.originText.toList ++ url.pathText.toList ++ url.tailChars := by
  have hquery : url.queryText.toList = announced '?' url.query := by
    unfold queryText
    cases url.query <;> simp [announced]
  have hfragment : url.fragmentText.toList = announced '#' url.fragment := by
    unfold fragmentText
    cases url.fragment <;> simp [announced]
  rw [text, String.toList_append, String.toList_append, String.toList_append, hquery, hfragment,
    tailChars]
  simp only [List.append_assoc]

/-- No edge stands in the path, the query or the fragment of a URL. -/
theorem encoded_of_isEdge (h : isEdge c = true) :
    Percent.inPath c = true ∧ Percent.inSpecialQuery c = true ∧ Percent.inFragment c = true := by
  have hall : ∀ n ≤ 0x20, Percent.inPath (Char.ofNat n) = true
      ∧ Percent.inSpecialQuery (Char.ofNat n) = true
      ∧ Percent.inFragment (Char.ofNat n) = true := by decide
  have hself : Char.ofNat c.toNat = c := Char.ofNat_toNat c
  rw [← hself]
  exact hall c.toNat (of_decide_eq_true h)

theorem HasEncodedTail.not_edge (h : url.HasEncodedTail) (hc : c ∈ url.tailChars) :
    isEdge c = false := by
  rw [← Bool.not_eq_true]
  intro hedge
  obtain ⟨-, hquery, hfragment⟩ := encoded_of_isEdge hedge
  rcases List.mem_append.mp hc with hc | hc
  · cases hpart : url.query with
    | none => simp [hpart, announced] at hc
    | some text =>
        rw [hpart] at hc
        rcases List.mem_cons.mp hc with rfl | hc
        · cases hedge
        · rw [h.query text hpart c hc] at hquery
          cases hquery
  · cases hpart : url.fragment with
    | none => simp [hpart, announced] at hc
    | some text =>
        rw [hpart] at hc
        rcases List.mem_cons.mp hc with rfl | hc
        · cases hedge
        · rw [h.fragment text hpart c hc] at hfragment
          cases hfragment

theorem isEdge_of_isFold (h : isFold c = true) : isEdge c = true := by
  simp only [isFold, Bool.or_eq_true, beq_iff_eq] at h
  rcases h with (rfl | rfl) | rfl <;> decide

/-- Characters none of which is an edge all count. -/
theorem kept_eq_self (h : ∀ c ∈ cs, isEdge c = false) : kept cs = cs := by
  rw [kept, dropTrailing_eq_self fun last hlast => h last (List.mem_of_getLast? hlast),
    List.filter_eq_self]
  intro c hc
  cases hfold : isFold c with
  | false => rfl
  | true => exact absurd (h c hc) (by simp [isEdge_of_isFold hfold])

theorem splitPath_tailChars (url : Url) : splitPath url.tailChars = ([], url.tailChars) := by
  unfold tailChars
  cases url.query <;> cases url.fragment <;> rfl

theorem HasEncodedTail.readTail_tailChars (h : url.HasEncodedTail) :
    readTail true url.tailChars = (url.query, url.fragment) := by
  have hhash : (announced '?' url.query).any (· == '#') = false := by
    rw [any_eq_false_iff]
    intro c hc
    cases hquery : url.query with
    | none => simp [hquery, announced] at hc
    | some text =>
        rw [hquery] at hc
        rcases List.mem_cons.mp hc with rfl | hc
        · rfl
        · rw [beq_eq_false_iff_ne]
          rintro rfl
          cases h.query text hquery _ hc
  have hcut : cutBefore (· == '#') url.tailChars
      = (announced '?' url.query, announced '#' url.fragment) := by
    unfold tailChars
    cases url.fragment with
    | none => rw [announced, List.append_nil, cutBefore_eq_self hhash]
    | some text => exact cutBefore_append hhash rfl
  rw [readTail, hcut]
  refine Prod.ext ?_ ?_
  · cases hquery : url.query with
    | none => rfl
    | some text =>
        show some (String.ofList (Percent.encode Percent.inSpecialQuery text.toList)) = some text
        rw [Percent.encode_eq_self (h.query text hquery), String.ofList_toList]
  · cases hfragment : url.fragment with
    | none => rfl
    | some text =>
        show some (String.ofList (Percent.encode Percent.inFragment text.toList)) = some text
        rw [Percent.encode_eq_self (h.fragment text hfragment), String.ofList_toList]

/-- A settled URL whose query and fragment are encoded is read from its own text. -/
theorem IsSettled.parse_text (h : url.IsSettled) (htail : url.HasEncodedTail) :
    parse url.text = .ok url := by
  obtain hnil | ⟨init, last, hsegments⟩ := List.eq_nil_or_concat url.segments
  · exact absurd hnil h.segments_ne_nil
  rw [List.concat_eq_append] at hsegments
  have hnames := h.isSegment
  rw [hsegments] at hnames
  have hinit : ∀ name ∈ init, Path.IsSegment name := fun name hname =>
    hnames name (List.mem_append_left _ hname)
  have hlast : Path.IsSegment last := hnames last (by simp)
  have hpath : url.pathText.toList = (Path.segmentsText init).toList ++ '/' :: last.toList := by
    obtain ⟨a, hauthority, -⟩ := h.authority
    rw [pathText, hauthority, h.path, hsegments]
    simp [Path.text, Path.segmentsText_toList]
  have hraw : url.text.toList = url.originText.toList ++ (Path.segmentsText init).toList
      ++ '/' :: (last.toList ++ url.tailChars) := by
    simp [text_toList, hpath]
  have hkept : kept (last.toList ++ url.tailChars) = last.toList ++ url.tailChars := by
    refine kept_eq_self fun c hc => ?_
    rcases List.mem_append.mp hc with hc | hc
    · rw [← Bool.not_eq_true]
      intro hedge
      have hout := any_eq_false_iff.mp hlast.encoded c hc
      rw [(encoded_of_isEdge hedge).1] at hout
      cases hout
    · exact htail.not_edge hc
  have hsplit : splitPath (last.toList ++ url.tailChars) = (last.toList, url.tailChars) := by
    have hends : ∀ c ∈ last.toList, (c == '?' || c == '#') = false := by
      have hsingle : ∀ name ∈ [last], Path.IsSegment name := by simpa using hlast
      refine fun c hc => (mem_segmentsText hsingle ?_).2
      simpa [Path.segmentsText_toList] using Or.inr hc
    rw [splitPath_append hends, splitPath_tailChars, List.append_nil]
  rw [parse_appended h hinit hraw, hkept, hsplit, htail.readTail_tailChars,
    Path.walk_segment hlast, ← hsegments, ← h.path]

end Quadlink.Url
