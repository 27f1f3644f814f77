import Quadlink.Proofs.Endpoint

/-!
# Names in paths

A name that is appended to a path as it is stays one segment exactly if it is *plain*. Any other
name loses something on the way to its segment: a reader cuts it, drops some of it, takes it for a
step along the path or decodes it to something else. `join_name_iff` is this for the request paths
of an endpoint; behind it is `whole_of_walk`, which compares how many bytes the name and the segment
stand for.
-/

namespace Quadlink

open Text Url Codec

/-- Characters that do not stay within a segment: they end it, or they are dropped. -/
def breaksSegment (c : Char) : Bool :=
  ['/', '\\', '?', '#', '\t', '\n', '\r'].contains c

/-- Names that a reader of URLs leaves in one piece, takes as they are, and takes for names. All
others come out of a path as something else. -/
structure IsPlainName (name : String) : Prop where
  unbroken : name.toList.any breaksSegment = false
  unescaped : Percent.hasEscape name.toList = false
  not_here : name ≠ "."
  not_back : name ≠ ".."
  last : ∀ c, name.toList.getLast? = some c → 0x20 < c.toNat

variable {name : String} {directory : List String} {segment : String} {c : Char}

theorem IsPlainName.ne_of_mem (h : IsPlainName name) (hc : c ∈ name.toList) :
    c ≠ '/' ∧ c ≠ '\\' ∧ c ≠ '?' ∧ c ≠ '#' ∧ c ≠ '\t' ∧ c ≠ '\n' ∧ c ≠ '\r' := by
  simpa [breaksSegment] using any_eq_false_iff.mp h.unbroken c hc

/-! ## Plain names stay as they are -/

theorem IsPlainName.kept_eq (h : IsPlainName name) : kept name.toList = name.toList := by
  have hlast : dropTrailing isEdge name.toList = name.toList := by
    refine dropTrailing_eq_self ?_
    intro c hc
    have hlt := h.last c hc
    simp only [isEdge, decide_eq_false_iff_not]
    omega
  rw [kept, hlast, List.filter_eq_self]
  intro c hc
  simp [isFold, h.ne_of_mem hc]

theorem IsPlainName.splitPath_eq (h : IsPlainName name) :
    splitPath name.toList = (name.toList, []) := by
  refine cutBefore_eq_self (any_eq_false_iff.mpr ?_)
  intro c hc
  simp [h.ne_of_mem hc]

theorem IsPlainName.not_dots (h : IsPlainName name) :
    Path.isHere name.toList = false ∧ Path.isBack name.toList = false := by
  have hbytes := Percent.decode_of_not_hasEscape h.unescaped
  constructor
  · refine Bool.eq_false_iff.mpr fun hhere => h.not_here ?_
    rw [Path.isHere_iff, hbytes] at hhere
    exact String.toList_injective (Percent.encodeChars_injective (hhere.trans (by decide)))
  · refine Bool.eq_false_iff.mpr fun hback => h.not_back ?_
    rw [Path.isBack_iff, hbytes] at hback
    exact String.toList_injective (Percent.encodeChars_injective (hback.trans (by decide)))

/-- A plain name is followed by one step. -/
theorem IsPlainName.walk_eq (h : IsPlainName name) :
    Path.walk true directory name.toList = directory ++ [Path.encodeSegment name.toList] := by
  have hpiece : name.toList.any (Path.isSeparator true) = false := by
    rw [any_eq_false_iff]
    intro c hc
    simp [Path.isSeparator, h.ne_of_mem hc]
  rw [Path.walk, pieces_eq_singleton hpiece, Path.follow, if_neg (by simp [h.not_dots.2]),
    if_neg (by simp [h.not_dots.1])]

theorem IsPlainName.decode_encodeSegment (h : IsPlainName name) :
    Percent.decode (Path.encodeSegment name.toList).toList = encode name := by
  rw [Path.encodeSegment, String.toList_ofList, Percent.decode_encode Percent.isSet_inPath,
    Percent.decode_of_not_hasEscape h.unescaped]
  rfl

/-! ## Other names lose something -/

theorem kept_sublist (cs : List Char) : (dropTrailing isEdge cs).Sublist cs
    ∧ (kept cs).Sublist (dropTrailing isEdge cs) :=
  ⟨(dropTrailing_isPrefix _ _).sublist, List.filter_sublist⟩

theorem splitPath_sublist (cs : List Char) : (splitPath cs).1.Sublist cs :=
  List.takeWhile_sublist _

/-- A name whose segment stands for it got there whole: each step towards the segment may leave
characters out, but the segment stands for as many bytes as the name has. -/
theorem whole_of_walk (hname : name ≠ "")
    (hwalk : Path.walk true directory (splitPath (kept name.toList)).1 = directory ++ [segment])
    (hdecode : Percent.decode segment.toList = encode name) :
    Percent.decode name.toList = encode name
      ∧ dropTrailing isEdge name.toList = name.toList ∧ kept name.toList = name.toList
      ∧ (splitPath name.toList).1 = name.toList
      ∧ name.toList ∈ pieces (Path.isSeparator true) name.toList
      ∧ Path.isHere name.toList = false ∧ Path.isBack name.toList = false := by
  obtain rfl | ⟨part, hpart, rfl, hhere, hback⟩ :=
    Path.last_of_follow (pieces_ne_nil _ _) hwalk
  · have hempty : name.toList = [] := Percent.encodeChars_injective hdecode.symm
    exact absurd (String.toList_eq_nil_iff.mp hempty) hname
  · rw [Path.encodeSegment, String.toList_ofList, Percent.decode_encode Percent.isSet_inPath]
      at hdecode
    obtain ⟨hdropped, hkept⟩ := kept_sublist name.toList
    have hfront := splitPath_sublist (kept name.toList)
    have hpiece := sublist_of_mem_pieces hpart
    have hlength : (encode name).length ≤ (encodeChars part).length := by
      rw [← hdecode]
      exact (Percent.length_decode part).1
    obtain rfl : part = name.toList :=
      Percent.eq_of_sublist_of_length (((hpiece.trans hfront).trans hkept).trans hdropped) hlength
    have hall : kept name.toList = name.toList :=
      (hkept.trans hdropped).eq_of_length_le (hpiece.trans hfront).length_le
    have hwhole : (splitPath (kept name.toList)).1 = name.toList :=
      ((hfront.trans hkept).trans hdropped).eq_of_length_le hpiece.length_le
    rw [hwhole] at hpart
    rw [hall] at hwhole
    exact ⟨hdecode, hdropped.eq_of_length_le ((hpiece.trans hfront).trans hkept).length_le, hall,
      hwhole, hpart, hhere, hback⟩

/-- Only a plain name becomes a segment that stands for it. -/
theorem isPlainName_of_walk (hname : name ≠ "")
    (hwalk : Path.walk true directory (splitPath (kept name.toList)).1 = directory ++ [segment])
    (hdecode : Percent.decode segment.toList = encode name) : IsPlainName name := by
  obtain ⟨hbytes, hend, hkept, hpath, hpiece, hhere, hback⟩ := whole_of_walk hname hwalk hdecode
  refine ⟨?_, Percent.decode_eq_encodeChars_iff.mp hbytes, ?_, ?_, ?_⟩
  · rw [List.any_eq_false]
    intro c hc hbreaks
    have hseparator := (mem_of_mem_piece hpiece hc).2
    have hstop : (!(c == '?' || c == '#')) = true := by
      have htaken : c ∈ (splitPath name.toList).1 := by rwa [hpath]
      exact List.all_eq_true.mp List.all_takeWhile c htaken
    have hfold : (!isFold c) = true := by
      rw [← hkept] at hc
      exact (List.mem_filter.mp hc).2
    simp only [breaksSegment, List.contains_iff_mem, List.mem_cons, List.not_mem_nil, or_false]
      at hbreaks
    rcases hbreaks with rfl | rfl | rfl | rfl | rfl | rfl | rfl
    · cases hseparator
    · cases hseparator
    · cases hstop
    · cases hstop
    · cases hfold
    · cases hfold
    · cases hfold
  · rintro rfl
    exact absurd hhere (by decide)
  · rintro rfl
    exact absurd hback (by decide)
  · intro c hc
    rw [← hend] at hc
    have hedge := getLast?_dropTrailing hc
    simp only [isEdge, decide_eq_false_iff_not] at hedge
    omega

/-! ## Members of a collection -/

/-- The URL of what has a name, among the resources of one kind below an endpoint. The name is one
segment, however its bytes are encoded; there is no query that could be part of it. -/
structure IsMemberUrl (endpoint : Endpoint) (resource : List String) (name : String) (url : Url) :
    Prop where
  scheme : url.scheme = endpoint.url.scheme
  authority : url.authority = endpoint.url.authority
  path : ∃ segment, url.path = .segments (endpoint.base ++ resource ++ [segment])
    ∧ Percent.decode segment.toList = encode name
  query : url.query = none
  fragment : url.fragment = none

/-- A URL belongs to one resource and one name. -/
theorem IsMemberUrl.unique {endpoint : Endpoint} {resource other : List String}
    {name otherName : String} {url : Url} (h : IsMemberUrl endpoint resource name url)
    (h' : IsMemberUrl endpoint other otherName url) : other = resource ∧ otherName = name := by
  obtain ⟨segment, hpath, hdecode⟩ := h.path
  obtain ⟨segment', hpath', hdecode'⟩ := h'.path
  have hsegments : endpoint.base ++ other ++ [segment'] = endpoint.base ++ resource ++ [segment] :=
    Path.segments.inj (hpath'.symm.trans hpath)
  obtain ⟨hfront, hlast⟩ := List.append_inj' hsegments rfl
  refine ⟨List.append_cancel_left hfront, ?_⟩
  have hbytes : encode otherName = encode name := by
    rw [← hdecode, ← hdecode', (List.cons.inj hlast).1]
  exact String.toList_injective (Percent.encodeChars_injective hbytes)

/-- Behind the segments of a resource, a name stays one segment exactly if it is plain. -/
theorem join_name_iff {endpoint : Endpoint} {first : String} {rest : List String} {path : String}
    (h : endpoint.IsSettled) (hresource : ∀ part ∈ first :: rest, Path.IsSegment part)
    (hfirst : first ≠ "") (hname : name ≠ "")
    (hpath : '/' :: path.toList =
      (Path.segmentsText (first :: rest)).toList ++ '/' :: name.toList) :
    ∃ url, endpoint.join path = .ok url
      ∧ (IsMemberUrl endpoint (first :: rest) name url ↔ IsPlainName name) := by
  refine ⟨_, Endpoint.join_resource_eq h hresource hfirst hpath, ?_⟩
  constructor
  · intro hmember
    obtain ⟨segment, hsegments, hdecode⟩ := hmember.path
    exact isPlainName_of_walk hname (Path.segments.inj hsegments) hdecode
  · intro hplain
    rw [hplain.kept_eq, hplain.splitPath_eq, hplain.walk_eq]
    exact ⟨rfl, rfl, ⟨_, rfl, hplain.decode_encodeSegment⟩, rfl, rfl⟩

end Quadlink
