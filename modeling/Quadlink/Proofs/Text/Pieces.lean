import Quadlink.Text.Blank
import Quadlink.Text.Pieces

/-!
# Cutting texts

What the functions that cut texts at separators give: where a text with a known separator falls
apart, and, the other way round, that what was cut can be put together again.
-/

namespace Quadlink.Text

variable {p : Char → Bool} {cs front back rest : List Char} {c sep : Char}

/-! ## Classes of characters -/

theorem any_eq_false_iff : cs.any p = false ↔ ∀ c ∈ cs, p c = false := by
  simp

/-! ## Runs of characters -/

theorem takeWhile_append_stop (h : front.all p = true) (hstop : p sep = false) :
    (front ++ sep :: back).takeWhile p = front := by
  rw [List.takeWhile_append_of_pos (by simpa using h), List.takeWhile_cons_of_neg (by simp [hstop]),
    List.append_nil]

theorem dropWhile_append_stop (h : front.all p = true) (hstop : p sep = false) :
    (front ++ sep :: back).dropWhile p = sep :: back := by
  rw [List.dropWhile_append_of_pos (by simpa using h), List.dropWhile_cons_of_neg (by simp [hstop])]

theorem dropWhile_eq_nil (h : cs.all p = true) : cs.dropWhile p = [] := by
  have hdrop : (cs ++ []).dropWhile p = [].dropWhile p :=
    List.dropWhile_append_of_pos (by simpa using h)
  rwa [List.append_nil] at hdrop

theorem dropWhile_eq_nil_iff : cs.dropWhile p = [] ↔ ∀ c ∈ cs, p c = true := by
  refine ⟨fun h c hc => ?_, fun h => dropWhile_eq_nil (List.all_eq_true.mpr h)⟩
  rw [← List.takeWhile_append_dropWhile (p := p) (l := cs), h, List.append_nil] at hc
  exact List.all_eq_true.mp List.all_takeWhile c hc

theorem takeWhile_eq_self (h : cs.all p = true) : cs.takeWhile p = cs := by
  have htake : (cs ++ []).takeWhile p = cs ++ [].takeWhile p :=
    List.takeWhile_append_of_pos (by simpa using h)
  rwa [List.takeWhile_nil, List.append_nil] at htake

theorem dropTrailing_isPrefix (p : Char → Bool) (cs : List Char) : dropTrailing p cs <+: cs := by
  have hends := List.dropWhile_suffix p (l := cs.reverse)
  rw [← List.reverse_prefix, List.reverse_reverse] at hends
  exact hends

theorem getLast?_dropTrailing {last : Char} (h : (dropTrailing p cs).getLast? = some last) :
    p last = false := by
  rw [dropTrailing, List.getLast?_reverse] at h
  have hnot := List.head?_dropWhile_not p cs.reverse
  rw [h] at hnot
  exact hnot

theorem dropTrailing_eq_self (h : ∀ last, cs.getLast? = some last → p last = false) :
    dropTrailing p cs = cs := by
  unfold dropTrailing
  cases hreverse : cs.reverse with
  | nil => simpa using hreverse.symm
  | cons last front =>
      have hlast : cs.getLast? = some last := by rw [← List.head?_reverse, hreverse]; rfl
      rw [List.dropWhile_cons_of_neg (by simp [h last hlast]), ← hreverse, List.reverse_reverse]

theorem dropTrailing_eq_self_iff :
    dropTrailing p cs = cs ↔ ∀ last, cs.getLast? = some last → p last = false := by
  refine ⟨fun h last hlast => ?_, dropTrailing_eq_self⟩
  rw [← h] at hlast
  exact getLast?_dropTrailing hlast

theorem dropTrailing_concat (h : p sep = true) (cs : List Char) :
    dropTrailing p (cs ++ [sep]) = dropTrailing p cs := by
  rw [dropTrailing, List.reverse_append, List.reverse_singleton, List.singleton_append,
    List.dropWhile_cons_of_pos h, dropTrailing]

theorem dropTrailing_append (h : p sep = false) (front back : List Char) :
    dropTrailing p (front ++ sep :: back) = front ++ sep :: dropTrailing p back := by
  unfold dropTrailing
  rw [List.reverse_append, List.reverse_cons, List.append_assoc, List.singleton_append]
  by_cases hall : back.reverse.all p = true
  · rw [dropWhile_append_stop hall h, dropWhile_eq_nil hall]
    simp
  · have hsome : back.reverse.dropWhile p ≠ [] := by
      intro hnil
      apply hall
      rw [← List.takeWhile_append_dropWhile (p := p) (l := back.reverse), hnil, List.append_nil]
      exact List.all_takeWhile
    rw [List.dropWhile_append, if_neg (by simpa [List.isEmpty_iff] using hsome)]
    simp

/-! ## Cutting at every separator -/

theorem mem_piece_of_mem (hc : c ∈ cs) (hp : p c = false) : ∃ piece ∈ pieces p cs, c ∈ piece := by
  induction cs with
  | nil => cases hc
  | cons d tail ih =>
      unfold pieces
      rcases List.mem_cons.mp hc with rfl | htail
      · rw [if_neg (by simp [hp])]
        split <;> exact ⟨_, List.mem_cons_self, List.mem_cons_self⟩
      · obtain ⟨piece, hpiece, hmem⟩ := ih htail
        split
        · exact ⟨piece, List.mem_cons_of_mem _ hpiece, hmem⟩
        · split
          · simp_all
          · rename_i first others hpieces
            rw [hpieces] at hpiece
            rcases List.mem_cons.mp hpiece with rfl | hothers
            · exact ⟨_, List.mem_cons_self, List.mem_cons_of_mem _ hmem⟩
            · exact ⟨piece, List.mem_cons_of_mem _ hothers, hmem⟩

theorem mem_of_mem_piece {piece : List Char} (hpiece : piece ∈ pieces p cs) (hc : c ∈ piece) :
    c ∈ cs ∧ p c = false := by
  induction cs generalizing piece with
  | nil =>
      rw [pieces, List.mem_singleton] at hpiece
      subst hpiece
      cases hc
  | cons d tail ih =>
      unfold pieces at hpiece
      split at hpiece
      · rcases List.mem_cons.mp hpiece with rfl | hlater
        · cases hc
        · exact ⟨List.mem_cons_of_mem _ (ih hlater hc).1, (ih hlater hc).2⟩
      · rename_i hd
        split at hpiece
        · rename_i hnil
          exact absurd hnil (pieces_ne_nil p tail)
        · rename_i first others hpieces
          rcases List.mem_cons.mp hpiece with rfl | hlater
          · rcases List.mem_cons.mp hc with rfl | hfirst
            · exact ⟨List.mem_cons_self, by simpa using hd⟩
            · obtain ⟨hmem, hnot⟩ := ih (hpieces ▸ List.mem_cons_self) hfirst
              exact ⟨List.mem_cons_of_mem _ hmem, hnot⟩
          · obtain ⟨hmem, hnot⟩ := ih (hpieces ▸ List.mem_cons_of_mem _ hlater) hc
            exact ⟨List.mem_cons_of_mem _ hmem, hnot⟩

theorem sublist_of_mem_pieces {piece : List Char} (hpiece : piece ∈ pieces p cs) :
    piece.Sublist cs := by
  induction cs generalizing piece with
  | nil =>
      cases List.mem_singleton.mp hpiece
      exact .refl []
  | cons c tail ih =>
      unfold pieces at hpiece
      split at hpiece
      · rcases List.mem_cons.mp hpiece with rfl | hlater
        · exact List.nil_sublist _
        · exact (ih hlater).cons c
      · split at hpiece
        · rename_i hnil
          exact absurd hnil (pieces_ne_nil p tail)
        · rename_i first others hpieces
          rcases List.mem_cons.mp hpiece with rfl | hlater
          · exact (ih (hpieces ▸ List.mem_cons_self)).cons_cons c
          · exact (ih (hpieces ▸ List.mem_cons_of_mem _ hlater)).cons c

theorem pieces_append (hsep : p sep = true) (h : front.any p = false) :
    pieces p (front ++ sep :: back) = front :: pieces p back := by
  induction front with
  | nil => simp [pieces, hsep]
  | cons c tail ih =>
      rw [List.any_cons, Bool.or_eq_false_iff] at h
      rw [List.cons_append, pieces, if_neg (by simp [h.1]), ih h.2]

theorem pieces_eq_singleton (h : cs.any p = false) : pieces p cs = [cs] := by
  induction cs with
  | nil => rfl
  | cons c tail ih =>
      rw [List.any_cons, Bool.or_eq_false_iff] at h
      rw [pieces, if_neg (by simp [h.1]), ih h.2]

/-- The last piece of a text starts behind the last separator. -/
theorem exists_pieces_append (hsep : p sep = true) (h : back.any p = false) (front : List Char) :
    ∃ first others, pieces p (front ++ sep :: back) = first :: others ++ [back] := by
  induction front with
  | nil =>
      refine ⟨[], [], ?_⟩
      rw [List.nil_append, pieces, if_pos hsep, pieces_eq_singleton h]
      rfl
  | cons c tail ih =>
      obtain ⟨first, others, hpieces⟩ := ih
      rw [List.cons_append, pieces, hpieces]
      by_cases hc : p c = true
      · rw [if_pos hc]
        exact ⟨[], first :: others, rfl⟩
      · rw [if_neg hc]
        exact ⟨c :: first, others, rfl⟩

/-- The first piece of a text ends before the first separator. -/
theorem pieces_eq_cons (p : Char → Bool) (cs : List Char) :
    ∃ others, pieces p cs = cs.takeWhile (fun c => !p c) :: others := by
  induction cs with
  | nil => exact ⟨[], rfl⟩
  | cons c tail ih =>
      obtain ⟨others, hothers⟩ := ih
      unfold pieces
      by_cases hc : p c = true
      · rw [if_pos hc, List.takeWhile_cons_of_neg (by simp [hc])]
        exact ⟨_, rfl⟩
      · rw [if_neg hc, hothers, List.takeWhile_cons_of_pos (by simp [hc])]
        exact ⟨_, rfl⟩

/-! ## Cutting once -/

theorem cutBefore_append (h : front.any p = false) (hsep : p sep = true) :
    cutBefore p (front ++ sep :: back) = (front, sep :: back) := by
  have hall : front.all (fun c => !p c) = true := by
    rw [← List.not_any_eq_all_not, h]
    rfl
  rw [cutBefore, takeWhile_append_stop hall (by simp [hsep]),
    dropWhile_append_stop hall (by simp [hsep])]

theorem cutBefore_eq_self (h : cs.any p = false) : cutBefore p cs = (cs, []) := by
  have hall : cs.all (fun c => !p c) = true := by
    rw [← List.not_any_eq_all_not, h]
    rfl
  rw [cutBefore, takeWhile_eq_self hall, dropWhile_eq_nil hall]

theorem cutAt?_append (h : sep ∉ front) :
    cutAt? sep (front ++ sep :: back) = some (front, back) := by
  induction front with
  | nil => simp [cutAt?]
  | cons c tail ih =>
      rw [List.mem_cons, not_or] at h
      rw [List.cons_append, cutAt?, if_neg (fun hc => h.1 hc.symm), ih h.2]
      rfl

theorem cutAt?_eq_none (h : sep ∉ cs) : cutAt? sep cs = none := by
  induction cs with
  | nil => rfl
  | cons c tail ih =>
      rw [List.mem_cons, not_or] at h
      rw [cutAt?, if_neg (fun hc => h.1 hc.symm), ih h.2]
      rfl

theorem cutAtLast?_eq_none (h : sep ∉ cs) : cutAtLast? sep cs = none := by
  induction cs with
  | nil => rfl
  | cons c tail ih =>
      rw [List.mem_cons, not_or] at h
      rw [cutAtLast?, ih h.2]
      exact if_neg fun hc => h.1 hc.symm

theorem cutAtLast?_append (h : sep ∉ back) :
    cutAtLast? sep (front ++ sep :: back) = some (front, back) := by
  induction front with
  | nil =>
      rw [List.nil_append, cutAtLast?, cutAtLast?_eq_none h]
      exact if_pos rfl
  | cons c tail ih => rw [List.cons_append, cutAtLast?, ih]

theorem cutAtLast?_eq_some (h : cutAtLast? sep cs = some (front, back)) :
    cs = front ++ sep :: back := by
  induction cs generalizing front with
  | nil => cases h
  | cons c tail ih =>
      rw [cutAtLast?] at h
      split at h
      · rename_i before after hcut
        cases h
        rw [ih hcut, List.cons_append]
      · split at h
        · rename_i hc
          cases h
          rw [hc, List.nil_append]
        · cases h

theorem cutAtLast?_ne_none (h : sep ∈ cs) : cutAtLast? sep cs ≠ none := by
  induction cs with
  | nil => cases h
  | cons c tail ih =>
      rw [cutAtLast?]
      split
      · exact nofun
      · rename_i hnone
        rcases List.mem_cons.mp h with rfl | htail
        · rw [if_pos rfl]
          exact nofun
        · exact absurd hnone (ih htail)

theorem not_mem_of_cutAtLast? (h : cutAtLast? sep cs = some (front, back)) : sep ∉ back := by
  induction cs generalizing front with
  | nil => cases h
  | cons c tail ih =>
      rw [cutAtLast?] at h
      split at h
      · rename_i before after hcut
        cases h
        exact ih hcut
      · rename_i hnone
        split at h
        · cases h
          exact fun hmem => cutAtLast?_ne_none hmem hnone
        · cases h

/-! ## Expected beginnings and ends -/

theorem dropPrefix?_eq_some {begin : List Char} (h : dropPrefix? begin cs = some rest) :
    cs = begin ++ rest := by
  induction begin generalizing cs with
  | nil =>
      cases h
      rfl
  | cons c tail ih =>
      cases cs with
      | nil => cases h
      | cons d more =>
          rw [dropPrefix?] at h
          split at h
          · rename_i hc
            rw [hc, ih h, List.cons_append]
          · cases h

theorem dropPrefix?_append (begin cs : List Char) : dropPrefix? begin (begin ++ cs) = some cs := by
  induction begin with
  | nil => rfl
  | cons c tail ih => rw [List.cons_append, dropPrefix?, if_pos rfl, ih]

theorem dropSuffix?_append (cs ending : List Char) : dropSuffix? ending (cs ++ ending) = some cs := by
  rw [dropSuffix?, List.reverse_append, dropPrefix?_append, Option.map_some, List.reverse_reverse]

theorem dropSuffix?_eq_some {ending : List Char} (h : dropSuffix? ending cs = some rest) :
    cs = rest ++ ending := by
  obtain ⟨reversed, hprefix, rfl⟩ := Option.map_eq_some_iff.mp h
  rw [← List.reverse_reverse cs, dropPrefix?_eq_some hprefix, List.reverse_append,
    List.reverse_reverse]

/-! ## Blank characters at both ends -/

theorem getLast?_trimChars {last : Char} (h : (trimChars cs).getLast? = some last) :
    isBlank last = false :=
  getLast?_dropTrailing h

theorem head?_trimChars {first : Char} (h : (trimChars cs).head? = some first) :
    isBlank first = false := by
  obtain ⟨more, hmore⟩ := dropTrailing_isPrefix isBlank (cs.dropWhile isBlank)
  have hnot := List.head?_dropWhile_not isBlank cs
  rw [← hmore, ← trimChars, List.head?_append, h] at hnot
  exact hnot

theorem trimChars_cons (h : isBlank c = false) (cs : List Char) :
    trimChars (c :: cs) = c :: dropTrailing isBlank cs := by
  rw [trimChars, List.dropWhile_cons_of_neg (by simp [h])]
  exact dropTrailing_append h [] cs

theorem trimChars_eq_self (h : ∀ c ∈ cs, isBlank c = false) : trimChars cs = cs := by
  cases cs with
  | nil => rfl
  | cons c tail =>
      obtain ⟨hc, htail⟩ := List.forall_mem_cons.mp h
      rw [trimChars_cons hc, dropTrailing_eq_self fun last hlast =>
        htail last (List.mem_of_getLast? hlast)]

theorem trimChars_eq_nil_iff : trimChars cs = [] ↔ ∀ c ∈ cs, isBlank c = true := by
  rw [trimChars, dropTrailing, List.reverse_eq_nil_iff, dropWhile_eq_nil_iff]
  constructor
  · intro h c hc
    rw [← List.takeWhile_append_dropWhile (p := isBlank) (l := cs)] at hc
    rcases List.mem_append.mp hc with hfront | hback
    · exact List.all_eq_true.mp List.all_takeWhile c hfront
    · exact h c (List.mem_reverse.mpr hback)
  · intro h c hc
    exact h c ((List.dropWhile_sublist _).subset (List.mem_reverse.mp hc))

def IsPadded (cs padded : List Char) : Prop :=
  ∃ left right, (∀ c ∈ left, isBlank c = true) ∧ (∀ c ∈ right, isBlank c = true)
    ∧ padded = left ++ (cs ++ right)

theorem dropTrailing_append_of_all (h : ∀ c ∈ back, p c = true) :
    dropTrailing p (front ++ back) = dropTrailing p front := by
  rw [dropTrailing, List.reverse_append, List.dropWhile_append_of_pos (by simpa using h),
    dropTrailing]

/-- White space around a text that has none at its ends is what trimming drops. -/
theorem IsPadded.trimChars_eq {padded : List Char} (h : IsPadded cs padded)
    (hcs : trimChars cs = cs) : trimChars padded = cs := by
  obtain ⟨left, right, hleft, hright, rfl⟩ := h
  cases cs with
  | nil =>
      rw [List.nil_append]
      exact trimChars_eq_nil_iff.mpr fun c hc =>
        (List.mem_append.mp hc).elim (hleft c) (hright c)
  | cons c tail =>
      have hc : isBlank c = false := head?_trimChars (by rw [hcs, List.head?_cons])
      have hdrop : trimChars (left ++ (c :: tail ++ right)) = trimChars (c :: tail ++ right) := by
        rw [trimChars, List.dropWhile_append_of_pos hleft, trimChars]
      rw [hdrop, List.cons_append, trimChars_cons hc, dropTrailing_append_of_all hright,
        ← trimChars_cons hc, hcs]

/-- A text is what trimming leaves of it, with white space around. -/
theorem isPadded_trimChars (cs : List Char) : IsPadded (trimChars cs) cs := by
  refine ⟨cs.takeWhile isBlank, ((cs.dropWhile isBlank).reverse.takeWhile isBlank).reverse, ?_, ?_,
    ?_⟩
  · exact fun c hc => List.all_eq_true.mp List.all_takeWhile c hc
  · exact fun c hc => List.all_eq_true.mp List.all_takeWhile c (List.mem_reverse.mp hc)
  · rw [trimChars, dropTrailing, ← List.reverse_append, List.takeWhile_append_dropWhile,
      List.reverse_reverse, List.takeWhile_append_dropWhile]

theorem trimChars_trimChars (cs : List Char) : trimChars (trimChars cs) = trimChars cs := by
  cases htrimmed : trimChars cs with
  | nil => rfl
  | cons c tail =>
      have hc : isBlank c = false := head?_trimChars (by rw [htrimmed, List.head?_cons])
      have hlast : ∀ last, (c :: tail).getLast? = some last → isBlank last = false := by
        intro last hlast
        rw [← htrimmed] at hlast
        exact getLast?_trimChars hlast
      rw [trimChars, List.dropWhile_cons_of_neg (by simp [hc]), dropTrailing_eq_self hlast]

/-- White space around a text does not matter for what trimming leaves. -/
theorem IsPadded.trimChars_congr {padded : List Char} (h : IsPadded cs padded) :
    trimChars padded = trimChars cs := by
  obtain ⟨left, right, hleft, hright, rfl⟩ := h
  obtain ⟨front, back, hfront, hback, hcs⟩ := isPadded_trimChars cs
  have hpadded : IsPadded (trimChars cs) (left ++ (cs ++ right)) := by
    refine ⟨left ++ front, back ++ right, ?_, ?_, ?_⟩
    · exact fun c hc => (List.mem_append.mp hc).elim (hleft c) (hfront c)
    · exact fun c hc => (List.mem_append.mp hc).elim (hback c) (hright c)
    · calc left ++ (cs ++ right) = left ++ (front ++ (trimChars cs ++ back) ++ right) := by rw [← hcs]
        _ = left ++ front ++ (trimChars cs ++ (back ++ right)) := by simp only [List.append_assoc]
  exact hpadded.trimChars_eq (trimChars_trimChars cs)

/-- White space at the end of a text, which trimming drops. -/
def endsBlank (text : String) : Bool := text.toList.getLast?.any isBlank

theorem endsBlank_eq_false_iff {text : String} :
    endsBlank text = false ↔ dropTrailing isBlank text.toList = text.toList := by
  rw [dropTrailing_eq_self_iff, endsBlank]
  cases text.toList.getLast? <;> simp

end Quadlink.Text
