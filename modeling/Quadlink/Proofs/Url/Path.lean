import Mathlib.Data.List.DropRight
import Quadlink.Proofs.Codec.Percent
import Quadlink.Proofs.Text.Pieces
import Quadlink.Url.Path

/-!
# Settled paths

A dot segment is one that stands for one or two dots (`isHere_iff`, `isBack_iff`), so encoding a
segment neither makes nor unmakes one. Reading a path leaves only encoded segments that are no dot
segments (`follow_isSegment`), and such segments are followed as they are (`follow_append`).
-/

namespace Quadlink.Url.Path

open Text Codec

variable {cs : List Char} {c : Char} {name : String} {names directory : List String}

/-! ## Dot segments -/

theorem plainDots_of_ne (h : c ≠ '%') : plainDots (c :: cs) = c :: plainDots cs := by
  rw [plainDots.eq_def]
  split
  · rename_i heq
    cases heq
    exact absurd rfl h
  · rename_i heq
    cases heq
    exact absurd rfl h
  · rename_i heq
    cases heq
    rfl
  · rename_i heq
    cases heq

def fitsDot (c : Char) (n : Nat) : Bool :=
  n < 16 && (n != 2 || c == '2') && (n != 14 || c == 'e' || c == 'E')

theorem fitsDot_of_hexValue? {n : Nat} (h : Percent.hexValue? c = some n) : fitsDot c n = true := by
  have hall : (Percent.hexValue? c).all (fitsDot c) = true :=
    Percent.forall_hexValue? (P := fun c => (Percent.hexValue? c).all (fitsDot c) = true)
      (by decide) (by rw [h]; rfl)
  rwa [h] at hall

/-- A dot is encoded as `%2E` or `%2e`. -/
theorem readByte?_dot {byte : UInt8} {rest tail : List Char}
    (h : Percent.readByte? rest = some (byte, tail)) :
    byte = 0x2E ↔ rest = '2' :: 'e' :: tail ∨ rest = '2' :: 'E' :: tail := by
  obtain ⟨hi, lo, rfl⟩ := Percent.eq_cons_of_readByte? h
  cases hhi : Percent.hexValue? hi with
  | none => simp [Percent.readByte?, Percent.readDigit?, hhi] at h
  | some m =>
      cases hlo : Percent.hexValue? lo with
      | none => simp [Percent.readByte?, Percent.readDigit?, hhi, hlo] at h
      | some n =>
          simp only [Percent.readByte?, Percent.readDigit?, hhi, hlo, Option.map_some,
            Option.bind_some, Option.some.injEq, Prod.mk.injEq, and_true] at h
          have hm := fitsDot_of_hexValue? hhi
          have hn := fitsDot_of_hexValue? hlo
          simp only [fitsDot, Bool.and_eq_true, Bool.or_eq_true, bne_iff_ne, beq_iff_eq,
            decide_eq_true_eq] at hm hn
          obtain ⟨⟨hm, hm2⟩, -⟩ := hm
          obtain ⟨⟨hn, -⟩, hn14⟩ := hn
          rw [← h]
          constructor
          · intro hdot
            have hvalue : m * 16 + n = 46 := by
              have hnat := congrArg UInt8.toNat hdot
              rw [UInt8.toNat_ofNat', Nat.mod_eq_of_lt (by omega)] at hnat
              exact hnat
            have hhi : hi = '2' := hm2.resolve_left (by omega)
            rcases hn14 with (hne | rfl) | rfl
            · omega
            · exact .inl (by rw [hhi])
            · exact .inr (by rw [hhi])
          · rintro (hrest | hrest) <;> cases hrest <;> cases hhi <;> cases hlo <;> rfl

/-- Behind a `%`, only what stands for a dot is taken for one. -/
theorem plainDots_percent (rest : List Char) :
    plainDots ('%' :: rest) =
      match Percent.readByte? rest with
      | some (byte, tail) => if byte = 0x2E then '.' :: plainDots tail else '%' :: plainDots rest
      | none => '%' :: plainDots rest := by
  rw [plainDots.eq_def]
  split
  · rename_i tail heq
    cases heq
    rfl
  · rename_i tail heq
    cases heq
    rfl
  · rename_i c others hlower hupper heq
    cases heq
    split
    · rename_i byte tail hbyte
      have hnot : byte ≠ 0x2E := by
        intro hdot
        rcases (readByte?_dot hbyte).mp hdot with h | h
        · exact hlower tail rfl h
        · exact hupper tail rfl h
      rw [if_neg hnot]
    · rfl
  · rename_i heq
    cases heq

theorem eq_dot_of_encoded {n : Nat} (h : String.utf8EncodeChar c = List.replicate n 0x2E) :
    c = '.' := by
  have hsame : Text.encodeChars [c] = Text.encodeChars (List.replicate n '.') := by
    rw [Text.encodeChars_cons, h]
    simp [Text.encodeChars, List.flatMap_replicate, String.utf8EncodeChar]
  have hlist := Percent.encodeChars_injective hsame
  cases n with
  | zero => cases hlist
  | succ n => exact (List.cons.inj hlist).1

/-- What stands for nothing but dots, up to the spelling of each. -/
theorem plainDots_iff : ∀ (n : Nat) (cs : List Char),
    plainDots cs = List.replicate n '.' ↔ Percent.decode cs = List.replicate n 0x2E
  | n, [] => by cases n <;> simp [plainDots, Percent.decode, List.replicate_succ]
  | n, c :: rest => by
      by_cases hpercent : c = '%'
      · subst hpercent
        rw [Percent.decode_percent, plainDots_percent]
        cases hbyte : Percent.readByte? rest with
        | none => cases n <;> simp [List.replicate_succ, String.utf8EncodeChar]
        | some found =>
            obtain ⟨byte, tail⟩ := found
            obtain ⟨hi, lo, hrest⟩ := Percent.eq_cons_of_readByte? hbyte
            have hshorter : tail.length < rest.length + 1 := by
              rw [hrest, List.length_cons, List.length_cons]
              omega
            dsimp only
            by_cases hdot : byte = 0x2E
            · rw [if_pos hdot, hdot]
              cases n with
              | zero => simp
              | succ n =>
                  rw [List.replicate_succ, List.replicate_succ, List.cons.injEq, List.cons.injEq]
                  exact and_congr (iff_of_true rfl rfl) (plainDots_iff n tail)
            · rw [if_neg hdot]
              cases n <;> simp [List.replicate_succ, hdot]
      · rw [plainDots_of_ne hpercent, Percent.decode_of_ne hpercent]
        by_cases hdot : c = '.'
        · subst hdot
          cases n with
          | zero => simp [String.utf8EncodeChar]
          | succ n =>
              have hbyte : String.utf8EncodeChar '.' = [0x2E] := by decide
              rw [List.replicate_succ, List.replicate_succ, List.cons.injEq, hbyte,
                List.singleton_append, List.cons.injEq]
              exact and_congr (iff_of_true rfl rfl) (plainDots_iff n rest)
        · constructor
          · intro h
            cases n with
            | zero => cases h
            | succ n => exact absurd (List.cons.inj h).1 hdot
          · intro h
            exact absurd (eq_dot_of_encoded (List.append_eq_replicate_iff.mp h).2.1) hdot
  termination_by _ cs => cs.length

theorem isHere_iff : isHere cs = true ↔ Percent.decode cs = [0x2E] := by
  rw [isHere, beq_iff_eq]
  exact plainDots_iff 1 cs

theorem isBack_iff : isBack cs = true ↔ Percent.decode cs = [0x2E, 0x2E] := by
  rw [isBack, beq_iff_eq]
  exact plainDots_iff 2 cs

theorem isHere_encode (cs : List Char) :
    isHere (Percent.encode Percent.inPath cs) = isHere cs := by
  rw [Bool.eq_iff_iff, isHere_iff, isHere_iff, Percent.decode_encode Percent.isSet_inPath]

theorem isBack_encode (cs : List Char) :
    isBack (Percent.encode Percent.inPath cs) = isBack cs := by
  rw [Bool.eq_iff_iff, isBack_iff, isBack_iff, Percent.decode_encode Percent.isSet_inPath]

/-! ## Segments -/

/-- A segment as reading a path leaves it: encoded, in one piece, and no dot segment. Reading it
again changes nothing. -/
structure IsSegment (name : String) : Prop where
  encoded : name.toList.any Percent.inPath = false
  unseparated : name.toList.any (isSeparator true) = false
  not_here : isHere name.toList = false
  not_back : isBack name.toList = false

theorem isSegment_empty : IsSegment "" := ⟨by decide, by decide, by decide, by decide⟩

theorem isSegment_encodeSegment (hpiece : cs.any (isSeparator true) = false)
    (hhere : isHere cs = false) (hback : isBack cs = false) : IsSegment (encodeSegment cs) := by
  have hlist : (encodeSegment cs).toList = Percent.encode Percent.inPath cs := by
    rw [encodeSegment, String.toList_ofList]
  refine ⟨?_, ?_, ?_, ?_⟩
  · rw [hlist, any_eq_false_iff]
    exact fun c hc => Percent.not_in_of_mem_encode Percent.isSet_inPath hc
  · rw [hlist, any_eq_false_iff]
    intro c hc
    rcases Percent.mem_encode hc with ⟨hmem, -⟩ | rfl | hdigit
    · exact any_eq_false_iff.mp hpiece c hmem
    · decide
    · exact Percent.forall_hexValue? (P := fun c => isSeparator true c = false) (by decide) hdigit
  · rw [hlist, isHere_encode, hhere]
  · rw [hlist, isBack_encode, hback]

/-- A segment is its own encoding. -/
theorem IsSegment.encodeSegment_eq (h : IsSegment name) : encodeSegment name.toList = name := by
  rw [encodeSegment, Percent.encode_eq_self (any_eq_false_iff.mp h.encoded), String.ofList_toList]

theorem mem_parent (h : name ∈ parent directory) : name ∈ directory := by
  unfold parent at h
  split at h
  · exact h
  · exact (List.dropLast_sublist directory).subset h

theorem follow_isSegment {parts : List (List Char)}
    (hdirectory : ∀ name ∈ directory, IsSegment name)
    (hparts : ∀ part ∈ parts, part.any (isSeparator true) = false) :
    ∀ name ∈ follow directory parts, IsSegment name := by
  fun_induction follow directory parts with
  | case1 => exact hdirectory
  | case2 directory last hback =>
      intro name hname
      rcases List.mem_append.mp hname with hfront | hlast
      · exact hdirectory name (mem_parent hfront)
      · rw [List.mem_singleton.mp hlast]
        exact isSegment_empty
  | case3 directory last hback hhere =>
      intro name hname
      rcases List.mem_append.mp hname with hfront | hlast
      · exact hdirectory name hfront
      · rw [List.mem_singleton.mp hlast]
        exact isSegment_empty
  | case4 directory last hback hhere =>
      intro name hname
      rcases List.mem_append.mp hname with hfront | hlast
      · exact hdirectory name hfront
      · rw [List.mem_singleton.mp hlast]
        exact isSegment_encodeSegment (hparts last List.mem_cons_self)
          (by simpa using hhere) (by simpa using hback)
  | case5 directory next rest hlater hback ih =>
      exact ih (fun name hname => hdirectory name (mem_parent hname))
        fun part hpart => hparts part (List.mem_cons_of_mem _ hpart)
  | case6 directory next rest hlater hback hhere ih =>
      exact ih hdirectory fun part hpart => hparts part (List.mem_cons_of_mem _ hpart)
  | case7 directory next rest hlater hback hhere ih =>
      refine ih ?_ fun part hpart => hparts part (List.mem_cons_of_mem _ hpart)
      intro name hname
      rcases List.mem_append.mp hname with hfront | hlast
      · exact hdirectory name hfront
      · rw [List.mem_singleton.mp hlast]
        exact isSegment_encodeSegment (hparts next List.mem_cons_self)
          (by simpa using hhere) (by simpa using hback)

theorem follow_ne_nil {parts : List (List Char)} (h : parts ≠ []) :
    follow directory parts ≠ [] := by
  fun_induction follow directory parts with
  | case1 => exact absurd rfl h
  | case2 => simp
  | case3 => simp
  | case4 => simp
  | case5 directory next rest hlater hback ih => exact ih hlater
  | case6 directory next rest hlater hback hhere ih => exact ih hlater
  | case7 directory next rest hlater hback hhere ih => exact ih hlater

/-- The segment at the end of a path is empty or encodes a part of the text that was read. -/
theorem last_of_follow {parts : List (List Char)} {front : List String} (hparts : parts ≠ [])
    (h : follow directory parts = front ++ [name]) :
    name = "" ∨ ∃ part ∈ parts, name = encodeSegment part
      ∧ isHere part = false ∧ isBack part = false := by
  have hlast : ∀ {init : List String} {last : String},
      init ++ [last] = front ++ [name] → name = last :=
    fun heq => (List.cons.inj (List.append_inj_right' heq rfl)).1.symm
  fun_induction follow directory parts with
  | case1 => exact absurd rfl hparts
  | case2 => exact .inl (hlast h)
  | case3 => exact .inl (hlast h)
  | case4 directory last hback hhere =>
      exact .inr ⟨last, List.mem_cons_self, hlast h, by simpa using hhere, by simpa using hback⟩
  | case5 directory next rest hlater hback ih =>
      exact (ih hlater h).imp_right fun ⟨part, hpart, hfacts⟩ =>
        ⟨part, List.mem_cons_of_mem _ hpart, hfacts⟩
  | case6 directory next rest hlater hback hhere ih =>
      exact (ih hlater h).imp_right fun ⟨part, hpart, hfacts⟩ =>
        ⟨part, List.mem_cons_of_mem _ hpart, hfacts⟩
  | case7 directory next rest hlater hback hhere ih =>
      exact (ih hlater h).imp_right fun ⟨part, hpart, hfacts⟩ =>
        ⟨part, List.mem_cons_of_mem _ hpart, hfacts⟩

theorem follow_append {parts : List (List Char)} (hnames : ∀ name ∈ names, IsSegment name)
    (hparts : parts ≠ []) :
    follow directory (names.map String.toList ++ parts) = follow (directory ++ names) parts := by
  induction names generalizing directory with
  | nil => simp
  | cons name rest ih =>
      have hname := hnames name List.mem_cons_self
      have hrest : ∀ other ∈ rest, IsSegment other := fun other hother =>
        hnames other (List.mem_cons_of_mem _ hother)
      have hmore : rest.map String.toList ++ parts ≠ [] := by simp [hparts]
      rw [List.map_cons, List.cons_append]
      cases hshape : rest.map String.toList ++ parts with
      | nil => exact absurd hshape hmore
      | cons next others =>
          rw [follow, if_neg (by simp [hname.not_back]), if_neg (by simp [hname.not_here]),
            hname.encodeSegment_eq, ← hshape, ih hrest, List.append_assoc, List.singleton_append]
          exact fun hnil => by cases hnil

theorem walk_isSegment (hdirectory : ∀ name ∈ directory, IsSegment name) :
    ∀ name ∈ walk true directory cs, IsSegment name := by
  refine follow_isSegment hdirectory ?_
  intro part hpart
  rw [any_eq_false_iff]
  exact fun c hc => (mem_of_mem_piece hpart hc).2

theorem walk_ne_nil (directory : List String) (cs : List Char) : walk true directory cs ≠ [] :=
  follow_ne_nil (pieces_ne_nil _ _)

theorem readSegments_isSegment : ∀ name ∈ readSegments true cs, IsSegment name :=
  walk_isSegment nofun

theorem readSegments_ne_nil (cs : List Char) : readSegments true cs ≠ [] :=
  walk_ne_nil _ _

/-! ## Written paths -/

theorem segmentsText_toList (names : List String) :
    (segmentsText names).toList = names.flatMap fun name => '/' :: name.toList := by
  simp [segmentsText, List.flatMap_map]

theorem pieces_segments (hnames : ∀ name ∈ names, IsSegment name) (cs : List Char) :
    pieces (isSeparator true) ((names.flatMap fun name => name.toList ++ ['/']) ++ cs) =
      names.map String.toList ++ pieces (isSeparator true) cs := by
  induction names with
  | nil => rfl
  | cons name rest ih =>
      have hname := hnames name List.mem_cons_self
      have ih := ih fun other hother => hnames other (List.mem_cons_of_mem _ hother)
      have hshape : ((name :: rest).flatMap fun name => name.toList ++ ['/']) ++ cs =
          name.toList ++ '/' :: ((rest.flatMap fun name => name.toList ++ ['/']) ++ cs) := by
        simp
      rw [hshape, pieces_append (by rfl) hname.unseparated, ih]
      rfl

/-- Whether the slashes stand in front of the segments or behind them. -/
theorem segments_slash (names : List String) (cs : List Char) :
    (names.flatMap fun name => '/' :: name.toList) ++ '/' :: cs =
      '/' :: ((names.flatMap fun name => name.toList ++ ['/']) ++ cs) := by
  induction names with
  | nil => rfl
  | cons name rest ih => simp [ih]

/-- What stands behind the written form of a path is followed from there. -/
theorem readSegments_append (hnames : ∀ name ∈ names, IsSegment name) (cs : List Char) :
    readSegments true ((segmentsText names).toList ++ '/' :: cs) = walk true names cs := by
  rw [segmentsText_toList, segments_slash]
  show follow [] (pieces (isSeparator true)
    ((names.flatMap fun name => name.toList ++ ['/']) ++ cs)) = follow names _
  rw [pieces_segments hnames, follow_append hnames (pieces_ne_nil _ _), List.nil_append]

/-- A single segment is added as it is. -/
theorem walk_segment (h : IsSegment name) (directory : List String) :
    walk true directory name.toList = directory ++ [name] := by
  rw [walk, pieces_eq_singleton h.unseparated, follow, if_neg (by simp [h.not_back]),
    if_neg (by simp [h.not_here]), h.encodeSegment_eq]

/-- The segments of a path from the root, which itself has one empty segment. -/
def orRoot (names : List String) : List String := if names = [] then [""] else names

theorem mem_orRoot (h : name ∈ orRoot names) : name = "" ∨ name ∈ names := by
  unfold orRoot at h
  split at h
  · exact .inl (List.mem_singleton.mp h)
  · exact .inr h

theorem orRoot_ne_nil (names : List String) : orRoot names ≠ [] := by
  unfold orRoot
  split
  · simp
  · assumption

theorem orRoot_of_ne_nil (h : names ≠ []) : orRoot names = names := if_neg h

/-- A written path is read as it is. -/
theorem readSegments_segmentsText (hnames : ∀ name ∈ names, IsSegment name) :
    readSegments true (segmentsText names).toList = orRoot names := by
  rcases List.eq_nil_or_concat names with rfl | ⟨init, last, rfl⟩
  · rfl
  · rw [List.concat_eq_append] at hnames ⊢
    have hinit : ∀ name ∈ init, IsSegment name := fun name hname =>
      hnames name (List.mem_append_left _ hname)
    have hlast : IsSegment last := hnames last (by simp)
    have hshape : (segmentsText (init ++ [last])).toList =
        (segmentsText init).toList ++ '/' :: last.toList := by
      simp [segmentsText_toList]
    rw [hshape, readSegments_append hinit, walk_segment hlast, orRoot_of_ne_nil (by simp)]

theorem segmentsText_inj {others : List String} (hnames : ∀ name ∈ names, IsSegment name)
    (hothers : ∀ name ∈ others, IsSegment name) (hne : names ≠ []) (hne' : others ≠ []) :
    segmentsText names = segmentsText others ↔ names = others := by
  refine ⟨fun h => ?_, fun h => by rw [h]⟩
  have hread := readSegments_segmentsText hnames
  rw [h, readSegments_segmentsText hothers, orRoot_of_ne_nil hne, orRoot_of_ne_nil hne'] at hread
  exact hread.symm

/-- Joined by slashes, segments lack only the first slash. -/
theorem slash_intercalate (hne : names ≠ []) :
    '/' :: (String.intercalate "/" names).toList = (segmentsText names).toList := by
  induction names with
  | nil => exact absurd rfl hne
  | cons first rest ih =>
      cases rest with
      | nil => simp [segmentsText_toList]
      | cons next others =>
          have ih := ih (by simp)
          rw [segmentsText_toList] at ih ⊢
          rw [String.intercalate_cons_cons, List.flatMap_cons, ← ih]
          simp

/-- The segments of a path that starts at the first of some joined segments: an empty one at the
front is taken for the slash of the root. -/
def rooted (names : List String) : List String :=
  orRoot (if names.head? = some "" then names.tail else names)

theorem readSegments_intercalate (hnames : ∀ name ∈ names, IsSegment name) :
    readSegments true (String.intercalate "/" names).toList = rooted names := by
  cases names with
  | nil => rfl
  | cons first rest =>
      have hrest : ∀ name ∈ rest, IsSegment name := fun name hname =>
        hnames name (List.mem_cons_of_mem _ hname)
      have hslash := slash_intercalate (by simp : first :: rest ≠ [])
      rw [segmentsText_toList, List.flatMap_cons, List.cons_append, ← segmentsText_toList] at hslash
      rw [(List.cons.inj hslash).2]
      cases hchars : first.toList with
      | nil =>
          obtain rfl : first = "" := String.toList_eq_nil_iff.mp hchars
          rw [List.nil_append, readSegments_segmentsText hrest]
          simp [rooted]
      | cons c tail =>
          have hfirst : first ≠ "" := by
            rintro rfl
            cases hchars
          have hc : isSeparator true c = false := by
            have hpart := (hnames first List.mem_cons_self).unseparated
            rw [hchars, List.any_cons, Bool.or_eq_false_iff] at hpart
            exact hpart.1
          have hread := readSegments_segmentsText hnames
          rw [segmentsText_toList, List.flatMap_cons, List.cons_append, ← segmentsText_toList,
            hchars] at hread
          -- Without a slash at its front, the text is read as if one stood there.
          have hdrop : dropSeparator true (c :: tail ++ (segmentsText rest).toList) =
              c :: tail ++ (segmentsText rest).toList := by
            rw [List.cons_append, dropSeparator, if_neg (by simp [hc])]
          rw [readSegments, hdrop]
          refine Eq.trans hread ?_
          simp [rooted, hfirst]

theorem rooted_isSegment (hnames : ∀ name ∈ names, IsSegment name) :
    ∀ name ∈ rooted names, IsSegment name := by
  intro name hname
  rcases mem_orRoot hname with rfl | hname
  · exact isSegment_empty
  · split at hname
    · exact hnames name (List.mem_of_mem_tail hname)
    · exact hnames name hname

/-! ## Slashes at the end -/

/-- The segments of a path without the empty ones at its end. -/
def withoutEmptyEnd (names : List String) : List String :=
  (names.reverse.dropWhile String.isEmpty).reverse

theorem mem_of_mem_withoutEmptyEnd (h : name ∈ withoutEmptyEnd names) : name ∈ names := by
  rw [withoutEmptyEnd, List.mem_reverse] at h
  exact List.mem_reverse.mp ((List.dropWhile_sublist _).subset h)

/-- Without the slashes at its end a path ends at its last segment that is not empty. -/
theorem dropTrailing_segmentsText {front : List Char}
    (hfront : ∀ last, front.getLast? = some last → last ≠ '/')
    (hnames : ∀ name ∈ names, IsSegment name) :
    dropTrailing (· == '/') (front ++ (segmentsText names).toList) =
      front ++ (segmentsText (withoutEmptyEnd names)).toList := by
  rw [segmentsText_toList, segmentsText_toList, withoutEmptyEnd]
  -- The segments are looked at from the last one on.
  generalize hreverse : names.reverse = backwards
  obtain rfl : names = backwards.reverse := by rw [← hreverse, List.reverse_reverse]
  clear hreverse
  induction backwards with
  | nil =>
      simp only [List.reverse_nil, List.flatMap_nil, List.append_nil, List.dropWhile_nil]
      exact dropTrailing_eq_self fun last hlast => by simpa using hfront last hlast
  | cons last rest ih =>
      have ih := ih fun name hname => hnames name (by simp_all)
      have hshape : (last :: rest).reverse.flatMap (fun name => '/' :: name.toList) =
          rest.reverse.flatMap (fun name => '/' :: name.toList) ++ '/' :: last.toList := by
        simp
      by_cases hempty : last.isEmpty = true
      · have hnil : last.toList = [] := by simpa using hempty
        rw [hshape, hnil, List.dropWhile_cons_of_pos hempty, ← List.append_assoc,
          dropTrailing_concat (by rfl), ih]
      · rw [List.dropWhile_cons_of_neg hempty]
        rcases List.eq_nil_or_concat last.toList with hnil | ⟨init, d, hlast⟩
        · exact absurd (by simpa using hnil) hempty
        · have hd : d ≠ '/' := by
            have hnot := any_eq_false_iff.mp (hnames last (by simp)).unseparated d
              (by rw [hlast]; simp)
            rintro rfl
            cases hnot
          refine dropTrailing_eq_self ?_
          intro c hc
          rw [hshape, hlast, List.concat_eq_append, ← List.cons_append, ← List.append_assoc,
            ← List.append_assoc, List.getLast?_concat] at hc
          cases hc
          simpa using hd

theorem withoutEmptyEnd_eq_self_iff : withoutEmptyEnd names = names ↔ names.getLast? ≠ some "" := by
  refine List.rdropWhile_eq_self_iff.trans ?_
  rcases List.eq_nil_or_concat names with rfl | ⟨init, last, rfl⟩ <;> simp

theorem getLast?_withoutEmptyEnd (names : List String) :
    (withoutEmptyEnd names).getLast? ≠ some "" :=
  withoutEmptyEnd_eq_self_iff.mp (List.rdropWhile_idempotent _ _)

def trimmed (names : List String) : List String := orRoot (withoutEmptyEnd names)

theorem trimmed_isSegment (hnames : ∀ name ∈ names, IsSegment name) :
    ∀ name ∈ trimmed names, IsSegment name := by
  intro name hname
  rcases mem_orRoot hname with rfl | hname
  · exact isSegment_empty
  · exact hnames name (mem_of_mem_withoutEmptyEnd hname)

theorem trimmed_eq_self_iff (hne : names ≠ []) :
    trimmed names = names ↔ names = [""] ∨ names.getLast? ≠ some "" := by
  rw [← withoutEmptyEnd_eq_self_iff, trimmed, orRoot]
  split
  · rename_i hnil
    rw [hnil]
    simp only [eq_comm, hne, or_false]
  · rename_i hkept
    refine ⟨.inr, fun h => h.resolve_left ?_⟩
    rintro rfl
    exact hkept rfl

theorem trimmed_trimmed (names : List String) : trimmed (trimmed names) = trimmed names := by
  have hne : trimmed names ≠ [] := orRoot_ne_nil _
  rw [trimmed_eq_self_iff hne, trimmed, orRoot]
  split
  · exact .inl rfl
  · exact .inr (getLast?_withoutEmptyEnd names)

/-- The two ways to clear up a path agree unless there are empty segments at an end. -/
theorem rooted_eq_trimmed_iff :
    rooted names = trimmed names
      ↔ names ∈ [[""], ["", ""]] ∨ names.head? ≠ some "" ∧ names.getLast? ≠ some "" := by
  cases names with
  | nil => decide
  | cons first rest =>
      by_cases hfirst : first = ""
      · subst hfirst
        constructor
        · intro h
          have hrooted : rooted ("" :: rest) = orRoot rest := rfl
          rw [hrooted] at h
          by_cases hrest : rest = []
          · simp [hrest]
          · rw [orRoot_of_ne_nil hrest, trimmed, orRoot] at h
            split at h
            · simp [h]
            · -- What was cleared up ends in a name, so nothing was cut off but the segment in front.
              have hlast : rest.getLast? ≠ some "" := by
                rw [h]
                exact getLast?_withoutEmptyEnd _
              have hall : withoutEmptyEnd ("" :: rest) = "" :: rest := by
                rw [withoutEmptyEnd_eq_self_iff, List.getLast?_cons_of_ne_nil hrest]
                exact hlast
              rw [hall] at h
              exact absurd (congrArg List.length h) (by simp)
        · rintro (hfew | ⟨hhead, -⟩)
          · simp only [List.mem_cons, List.not_mem_nil, or_false] at hfew
            rcases hfew with h | h <;> cases h <;> decide
          · exact absurd rfl hhead
      · have hrooted : rooted (first :: rest) = first :: rest := by simp [rooted, orRoot, hfirst]
        rw [hrooted, eq_comm, trimmed_eq_self_iff (by simp)]
        simp [hfirst]

/-- A path that starts at the first of some joined segments ends in a slash if they do, unless it is
the root. -/
theorem trimmed_rooted_iff :
    trimmed (rooted names) = rooted names
      ↔ names ∈ [[""], ["", ""]] ∨ names.getLast? ≠ some "" := by
  have hne : rooted names ≠ [] := orRoot_ne_nil _
  rw [trimmed_eq_self_iff hne]
  cases names with
  | nil => decide
  | cons first rest =>
      by_cases hfirst : first = ""
      · subst hfirst
        have hrooted : rooted ("" :: rest) = orRoot rest := rfl
        rw [hrooted]
        by_cases hrest : rest = []
        · simp [hrest, orRoot]
        · rw [orRoot_of_ne_nil hrest, List.getLast?_cons_of_ne_nil hrest]
          simp [hrest]
      · have hrooted : rooted (first :: rest) = first :: rest := by simp [rooted, orRoot, hfirst]
        simp [hrooted, hfirst]

end Quadlink.Url.Path
