import Quadlink.Proofs.Http.Lookup
import Quadlink.Proofs.Toml.Scalars
import Quadlink.Toml.Document

/-!
# Texts of TOML documents

The ways to write a document whose fields are texts, natural numbers and lists of them, each on
lines of its own and in any order: with gaps, empty lines and comments where they may stand, lists
over several lines, names bare or between quotes, and line ends of either kind. However such a
document is written, it is read as its fields in their order (`Document.parse?_ofList`).

Each reader gets a lemma of one form: it reads what is written from the front of a text, and leaves
what follows. What may follow is a matter of its own wherever the reader looks ahead.
-/

namespace Quadlink.Toml

open Text

/-! ## The grammar -/

/-- What may stand between lines and between the items of a list: blanks, line ends and comments. -/
inductive IsFiller : List Char → Prop where
  | nil : IsFiller []
  | blank {c : Char} {rest : List Char} (hblank : isGap c = true ∨ c = '\n')
      (hrest : IsFiller rest) : IsFiller (c :: rest)
  | comment {comment rest : List Char} (hplain : ∀ c ∈ comment, isPlain c = true)
      (hrest : IsFiller rest) : IsFiller ('#' :: (comment ++ '\n' :: rest))

/-- The ways to write some items up to the closing bracket. A comma may stand behind the last. -/
inductive IsItemsText : List Scalar → List Char → Prop where
  | close {filler : List Char} (hfiller : IsFiller filler) : IsItemsText [] (filler ++ [']'])
  | last {item : Scalar} {filler text filler' : List Char} (hfiller : IsFiller filler)
      (hitem : IsScalarText item text) (hfiller' : IsFiller filler') :
      IsItemsText [item] (filler ++ (text ++ (filler' ++ [']'])))
  | cons {item : Scalar} {items : List Scalar} {filler text filler' rest : List Char}
      (hfiller : IsFiller filler) (hitem : IsScalarText item text) (hfiller' : IsFiller filler')
      (hrest : IsItemsText items rest) :
      IsItemsText (item :: items) (filler ++ (text ++ (filler' ++ ',' :: rest)))

/-- The ways to write a value. -/
inductive IsValueText : Value → List Char → Prop where
  | scalar {scalar : Scalar} {text : List Char} (h : IsScalarText scalar text) :
      IsValueText (.scalar scalar) text
  | list {items : List Scalar} {text : List Char} (h : IsItemsText items text) :
      IsValueText (.list items) ('[' :: text)

inductive IsNameText : String → List Char → Prop where
  | bare {name : String} (hsome : name.toList ≠ []) (h : name.toList.all isBareKey = true) :
      IsNameText name name.toList
  | quoted {name : String} {text : List Char} (h : IsStringText name text) : IsNameText name text

inductive IsFieldText : String × Value → List Char → Prop where
  | mk {name : String} {value : Value} {nameText gap gap' text : List Char}
      (hname : IsNameText name nameText) (hgap : gap.all isGap = true)
      (hgap' : gap'.all isGap = true) (hvalue : IsValueText value text) :
      IsFieldText (name, value) (nameText ++ (gap ++ '=' :: (gap' ++ text)))

/-- What may stand behind a field: nothing but a gap and a comment up to the end of the line. -/
def EndsLine (rest : List Char) : Prop :=
  ∃ gap more, gap.all isGap = true ∧ rest = gap ++ more
    ∧ ∀ c, more.head? = some c → c = '\n' ∨ c = '#'

/-- The ways to write fields on lines that end in single line feeds. -/
inductive IsText : List (String × Value) → List Char → Prop where
  | nil {filler : List Char} (hfiller : IsFiller filler) : IsText [] filler
  | comment {filler comment : List Char} (hfiller : IsFiller filler)
      (hplain : ∀ c ∈ comment, isPlain c = true) : IsText [] (filler ++ '#' :: comment)
  | cons {field : String × Value} {fields : List (String × Value)} {filler text rest : List Char}
      (hfiller : IsFiller filler) (hfield : IsFieldText field text) (hrest : IsText fields rest)
      (hend : EndsLine rest) : IsText (field :: fields) (filler ++ (text ++ rest))

/-- A text with each of its line ends written in one of two ways. -/
inductive WithLineEnds : List Char → List Char → Prop where
  | nil : WithLineEnds [] []
  | keep {c : Char} {cs text : List Char} (hc : c ≠ '\r') (h : WithLineEnds cs text) :
      WithLineEnds (c :: cs) (c :: text)
  | long {cs text : List Char} (h : WithLineEnds cs text) :
      WithLineEnds ('\n' :: cs) ('\r' :: '\n' :: text)

variable {c : Char} {cs filler text rest : List Char}

/-! ## Fillers -/

theorem isGap_iff : isGap c = true ↔ c = ' ' ∨ c = '\t' := by
  simp only [isGap, Bool.or_eq_true, beq_iff_eq]

theorem skipFiller?_comment {comment : List Char} (h : ∀ c ∈ comment, isPlain c = true)
    (rest : List Char) :
    skipFiller? true (comment ++ '\n' :: rest) = skipFiller? false rest
      ∧ skipFiller? true comment = some [] := by
  induction comment with
  | nil => exact ⟨rfl, rfl⟩
  | cons c tail ih =>
      obtain ⟨hc, htail⟩ := List.forall_mem_cons.mp h
      have hline : (c == '\n') = false := by
        rw [beq_eq_false_iff_ne]
        rintro rfl
        exact absurd hc (by decide)
      obtain ⟨hbehind, hend⟩ := ih htail
      rw [List.cons_append, skipFiller?, skipFiller?, hline]
      simp only [hc, if_true, if_false, Bool.false_eq_true]
      exact ⟨hbehind, hend⟩

theorem skipFiller?_append (h : IsFiller filler) (rest : List Char) :
    skipFiller? false (filler ++ rest) = skipFiller? false rest := by
  induction h with
  | nil => rfl
  | blank hblank _ ih =>
      rw [List.cons_append, skipFiller?]
      rcases hblank with hgap | rfl
      · simp only [hgap, ih, if_true, if_false, Bool.false_eq_true, ite_self]
      · exact ih
  | comment hplain _ ih =>
      rw [List.cons_append, List.append_assoc, List.cons_append]
      exact (skipFiller?_comment hplain _).1.trans ih

theorem skipFiller?_start (hline : c ≠ '\n') (hgap : isGap c = false) (hcomment : c ≠ '#') :
    skipFiller? false (c :: rest) = some (c :: rest) := by
  rw [skipFiller?]
  simp only [beq_iff_eq, hline, hgap, hcomment, if_false, Bool.false_eq_true]

/-! ## Values -/

/-- How a scalar starts: with none of the characters that mean something else where it may stand. -/
def StartsScalar (cs : List Char) : Prop :=
  ∃ c rest, cs = c :: rest ∧ c ∉ ['\n', ' ', '\t', '#', ']', '[', '\x7b']

theorem IsScalarText.startsScalar {scalar : Scalar} (h : IsScalarText scalar text)
    (rest : List Char) : StartsScalar (text ++ rest) := by
  cases h with
  | text h =>
      cases h with
      | basic _ => exact ⟨'"', _, rfl, by decide⟩
      | literal _ => exact ⟨'\'', _, rfl, by decide⟩
  | integer n =>
      obtain ⟨first, more, hshape, hfirst⟩ := toString_eq_cons n
      refine ⟨first, more ++ rest, by rw [hshape]; rfl, fun hmem => ?_⟩
      simp only [List.mem_cons, List.not_mem_nil, or_false] at hmem
      rcases hmem with rfl | rfl | rfl | rfl | rfl | rfl | rfl <;> cases hfirst

theorem StartsScalar.skipFiller? (h : StartsScalar cs) (hfiller : IsFiller filler) :
    skipFiller? false (filler ++ cs) = some cs := by
  obtain ⟨c, rest, rfl, hc⟩ := h
  simp only [List.mem_cons, List.not_mem_nil, or_false, not_or] at hc
  obtain ⟨hline, hspace, htab, hcomment, _⟩ := hc
  rw [skipFiller?_append hfiller, skipFiller?_start hline (by simp [isGap, hspace, htab]) hcomment]

/-- A scalar in a list is followed by what ends it. -/
theorem endsScalar_filler (h : IsFiller filler) (hc : c = ',' ∨ c = ']') (rest : List Char) :
    EndsScalar (filler ++ c :: rest) := by
  intro d hd
  cases h with
  | nil =>
      cases hd
      rcases hc with rfl | rfl <;> decide
  | blank hblank _ =>
      cases hd
      rw [isGap_iff] at hblank
      rcases hblank with (rfl | rfl) | rfl <;> decide
  | comment _ _ =>
      cases hd
      decide

theorem skipFiller?_separator (h : IsFiller filler) (hc : c = ',' ∨ c = ']') (rest : List Char) :
    skipFiller? false (filler ++ c :: rest) = some (c :: rest) := by
  rw [skipFiller?_append h]
  rcases hc with rfl | rfl <;> rfl

/-- Read one item, and look at what follows it. -/
theorem readItems?_item {item : Scalar} {filler' : List Char} (hfiller : IsFiller filler)
    (hitem : IsScalarText item text) (hfiller' : IsFiller filler') (hc : c = ',' ∨ c = ']')
    (fuel : Nat) (rest : List Char) :
    readItems? (fuel + 1) (filler ++ (text ++ (filler' ++ c :: rest))) =
      if c = ',' then (readItems? fuel rest).map fun parts => (item :: parts.1, parts.2)
      else some ([item], rest) := by
  have hread := readScalar?_append hitem (endsScalar_filler hfiller' hc rest)
  have hstart := hitem.startsScalar (filler' ++ c :: rest)
  have hnext := skipFiller?_separator hfiller' hc rest
  rw [readItems?, hstart.skipFiller? hfiller]
  obtain ⟨first, more, hshape, hfirst⟩ := hstart
  rw [hshape] at hread ⊢
  split
  · rename_i heq
    cases heq
  · rename_i heq
    cases heq
    exact absurd hfirst (by decide)
  · rename_i heq
    cases heq
    rw [hread]
    dsimp only
    rw [hnext]
    rcases hc with rfl | rfl <;> rfl

theorem readItems?_append {items : List Scalar} (h : IsItemsText items text) (rest : List Char)
    {fuel : Nat} (hfuel : items.length < fuel) :
    readItems? fuel (text ++ rest) = some (items, rest) := by
  obtain ⟨fuel, rfl⟩ := Nat.exists_eq_add_one_of_ne_zero (Nat.ne_zero_of_lt hfuel)
  induction h generalizing fuel with
  | @close filler hfiller =>
      rw [List.append_assoc, List.singleton_append, readItems?,
        skipFiller?_separator hfiller (.inr rfl)]
      rfl
  | @last item filler text filler' hfiller hitem hfiller' =>
      have hread := readItems?_item hfiller hitem hfiller' (.inr rfl) fuel rest
      simpa using hread
  | @cons item items filler text filler' tail hfiller hitem hfiller' hrest ih =>
      have hread := readItems?_item hfiller hitem hfiller' (.inl rfl) fuel (tail ++ rest)
      rw [List.length_cons] at hfuel
      obtain ⟨fuel, rfl⟩ := Nat.exists_eq_add_one_of_ne_zero
        (Nat.ne_zero_of_lt (Nat.lt_of_succ_lt_succ hfuel))
      rw [if_pos rfl, ih fuel (Nat.lt_of_succ_lt_succ hfuel)] at hread
      simpa using hread

theorem IsScalarText.ne_nil {scalar : Scalar} (h : IsScalarText scalar text) : text ≠ [] := by
  obtain ⟨c, rest, hshape, _⟩ := h.startsScalar []
  rw [List.append_nil] at hshape
  rw [hshape]
  exact List.cons_ne_nil c rest

theorem IsItemsText.length_le {items : List Scalar} (h : IsItemsText items text) :
    items.length < text.length := by
  induction h with
  | close _ => simp
  | last _ hitem _ =>
      have hpositive := List.length_pos_iff.mpr hitem.ne_nil
      simp only [List.length_append, List.length_singleton]
      omega
  | cons _ _ _ _ ih =>
      simp only [List.length_append, List.length_cons]
      omega

theorem readField?_value (hbrace : cs.head? ≠ some '\x7b') (hmoment : readMoment? cs = none) :
    readField? cs
      = (readValue? cs).map fun (parts : Value × List Char) => (.value parts.1, parts.2) := by
  unfold readField?
  split
  · exact absurd rfl hbrace
  · rw [hmoment]

theorem readValue?_scalar (hbracket : cs.head? ≠ some '[') :
    readValue? cs
      = (readScalar? cs).map fun (parts : Scalar × List Char) => (.scalar parts.1, parts.2) := by
  unfold readValue?
  split
  · exact absurd rfl hbracket
  · rfl

/-- However a value is written, it is read. -/
theorem readField?_append {value : Value} (h : IsValueText value text) (hend : EndsScalar rest) :
    readField? (text ++ rest) = some (.value value, rest) := by
  cases h with
  | scalar h =>
      have hread := readScalar?_append h hend
      have hmoment := readMoment?_append h hend
      obtain ⟨c, more, hshape, hc⟩ := h.startsScalar rest
      simp only [List.mem_cons, List.not_mem_nil, or_false, not_or] at hc
      have hhead : (text ++ rest).head? = some c := by rw [hshape]; rfl
      rw [readField?_value (by rw [hhead]; simpa using hc.2.2.2.2.2.2) hmoment,
        readValue?_scalar (by rw [hhead]; simpa using hc.2.2.2.2.2.1), hread]
      rfl
  | @list items text h =>
      have hlength := h.length_le
      have hread : readItems? ('[' :: (text ++ rest)).length (text ++ rest) = some (items, rest) :=
        readItems?_append h rest (by rw [List.length_cons, List.length_append]; omega)
      rw [List.cons_append, readField?_value (by simp) rfl, readValue?, hread]
      rfl

theorem IsValueText.startsValue {value : Value} (h : IsValueText value text) (rest : List Char) :
    ∃ c more, text ++ rest = c :: more ∧ isGap c = false := by
  cases h with
  | scalar h =>
      obtain ⟨c, more, hshape, hc⟩ := h.startsScalar rest
      simp only [List.mem_cons, List.not_mem_nil, or_false, not_or] at hc
      exact ⟨c, more, hshape, by simp [isGap, hc.2.1, hc.2.2.1]⟩
  | list _ => exact ⟨'[', _, rfl, by decide⟩

/-! ## Fields -/

theorem lt_of_isBareKey (h : isBareKey c = true) : c.toNat < 128 := by
  change (decide ('A'.val ≤ c.val ∧ c.val ≤ 'Z'.val)
    || decide ('a'.val ≤ c.val) && decide (c.val ≤ 'z'.val)
    || decide ('0'.val ≤ c.val) && decide (c.val ≤ '9'.val) || c == '_' || c == '-') = true at h
  simp only [Bool.or_eq_true, Bool.and_eq_true, decide_eq_true_eq, beq_iff_eq] at h
  rcases h with (((⟨_, hhigh⟩ | ⟨_, hhigh⟩) | ⟨_, hhigh⟩) | rfl) | rfl
  · exact Nat.lt_of_le_of_lt hhigh (by decide)
  · exact Nat.lt_of_le_of_lt hhigh (by decide)
  · exact Nat.lt_of_le_of_lt hhigh (by decide)
  · decide
  · decide

/-- How a name starts: with none of the characters that mean something else at the start of a line. -/
theorem IsNameText.startsName {name : String} (h : IsNameText name text) :
    ∃ c more, text = c :: more ∧ c ∉ ['\n', ' ', '\t', '#', '['] ∧ c.toNat < 128 := by
  cases h with
  | bare hsome h =>
      obtain ⟨c, more, hshape⟩ := List.exists_cons_of_ne_nil hsome
      have hc : isBareKey c = true := List.all_eq_true.mp h c (by rw [hshape]; simp)
      refine ⟨c, more, hshape, fun hmem => ?_, lt_of_isBareKey hc⟩
      simp only [List.mem_cons, List.not_mem_nil, or_false] at hmem
      rcases hmem with rfl | rfl | rfl | rfl | rfl <;> cases hc
  | quoted h =>
      cases h with
      | basic _ => exact ⟨'"', _, rfl, by decide, by decide⟩
      | literal _ => exact ⟨'\'', _, rfl, by decide, by decide⟩

/-- However a name is written, it is read. -/
theorem readName?_append {name : String} (h : IsNameText name text) (hc : isBareKey c = false) :
    readName? (text ++ c :: rest) = some (name, c :: rest) := by
  cases h with
  | bare hsome h =>
      have hquote : ∀ quote, isBareKey quote = false → ∀ more,
          name.toList ++ c :: rest ≠ quote :: more := by
        intro quote hquote more heq
        obtain ⟨first, tail, hshape⟩ := List.exists_cons_of_ne_nil hsome
        have hfirst : isBareKey first = true := List.all_eq_true.mp h first (by rw [hshape]; simp)
        rw [hshape] at heq
        rw [(List.cons.inj heq).1, hquote] at hfirst
        cases hfirst
      unfold readName?
      split
      · rename_i heq
        exact absurd heq (hquote _ (by decide) _)
      · rename_i heq
        exact absurd heq (hquote _ (by decide) _)
      · rw [takeWhile_append_stop h hc, dropWhile_append_stop h hc]
        simp [hsome]
  | quoted h =>
      cases h with
      | @basic body h =>
          have hread := readBasic?_body h (c :: rest)
          have hshape : '"' :: (body ++ ['"']) ++ c :: rest = '"' :: (body ++ '"' :: c :: rest) := by
            simp
          rw [hshape, readName?, hread]
          simp
      | literal h =>
          have hread := readLiteral?_append h (c :: rest)
          have hshape : '\'' :: (name.toList ++ ['\'']) ++ c :: rest
              = '\'' :: (name.toList ++ '\'' :: c :: rest) := by simp
          rw [hshape, readName?, hread]
          simp

theorem afterEquals?_gap {gap gap' : List Char} (hgap : gap.all isGap = true)
    (hgap' : gap'.all isGap = true) (hc : isGap c = false) :
    afterEquals? (gap ++ '=' :: (gap' ++ c :: rest)) = some (c :: rest) := by
  rw [afterEquals?, dropWhile_append_stop hgap (by decide)]
  exact congrArg some (dropWhile_append_stop hgap' hc)

theorem readKey?_append {name : String} {gap gap' : List Char} (h : IsNameText name text)
    (hgap : gap.all isGap = true) (hgap' : gap'.all isGap = true) (hc : isGap c = false)
    (rest : List Char) :
    readKey? (text ++ (gap ++ '=' :: (gap' ++ c :: rest))) = some (⟨name, none⟩, c :: rest) := by
  have hread : readName? (text ++ (gap ++ '=' :: (gap' ++ c :: rest)))
      = some (name, gap ++ '=' :: (gap' ++ c :: rest)) := by
    cases gap with
    | nil => exact readName?_append h (by decide)
    | cons d more =>
        have hd : isGap d = true := List.all_eq_true.mp hgap d List.mem_cons_self
        rcases isGap_iff.mp hd with rfl | rfl <;> exact readName?_append h (by decide)
  have hafter : afterEquals? ('=' :: (gap' ++ c :: rest)) = some (c :: rest) :=
    @afterEquals?_gap c rest [] gap' rfl hgap' hc
  rw [readKey?, hread]
  dsimp only
  rw [dropWhile_append_stop hgap (by decide)]
  show (afterEquals? ('=' :: (gap' ++ c :: rest))).map (fun after => ((⟨name, none⟩ : Key), after)) = _
  rw [hafter]
  rfl

theorem EndsLine.atLineEnd (h : EndsLine rest) : atLineEnd rest = true := by
  obtain ⟨gap, more, hgap, rfl, hmore⟩ := h
  cases more with
  | nil => rw [List.append_nil, atLineEnd, dropWhile_eq_nil hgap]
  | cons c tail =>
      have hc := hmore c rfl
      have hstop : isGap c = false := by rcases hc with rfl | rfl <;> decide
      rw [atLineEnd, dropWhile_append_stop hgap hstop]
      rcases hc with rfl | rfl <;> rfl

theorem EndsLine.endsScalar (h : EndsLine rest) : EndsScalar rest := by
  obtain ⟨gap, more, hgap, rfl, hmore⟩ := h
  intro c hc
  cases gap with
  | nil => rcases hmore c hc with rfl | rfl <;> decide
  | cons d tail =>
      cases hc
      have hblank : isGap c = true := List.all_eq_true.mp hgap c List.mem_cons_self
      rcases isGap_iff.mp hblank with rfl | rfl <;> decide

theorem readLine?_field {key : Key} {field : Field} {rest' : List Char}
    (hopen : cs.head? ≠ some '[') (hkey : readKey? cs = some (key, rest))
    (hfield : readField? rest = some (field, rest')) (hend : atLineEnd rest' = true) :
    readLine? cs = some (.field key field, rest') := by
  unfold readLine?
  split
  · exact absurd rfl hopen
  · simp only [hkey, hfield, Option.map_some, Option.filter_some, hend, if_true]

def fieldLine (field : String × Value) : Line := .field ⟨field.1, none⟩ (.value field.2)

/-- However a field is written, it is read. -/
theorem readLine?_append {field : String × Value} (h : IsFieldText field text)
    (hend : EndsLine rest) : readLine? (text ++ rest) = some (fieldLine field, rest) := by
  obtain ⟨hname, hgap, hgap', hvalue⟩ := h
  rename_i name value nameText gap gap' valueText
  have hread := readField?_append hvalue hend.endsScalar
  obtain ⟨c, more, hshape, hc⟩ := hvalue.startsValue rest
  have hkey := readKey?_append hname hgap hgap' hc more
  have hshape' : nameText ++ (gap ++ '=' :: (gap' ++ valueText)) ++ rest
      = nameText ++ (gap ++ '=' :: (gap' ++ c :: more)) := by
    rw [← hshape]
    simp
  rw [hshape] at hread
  rw [hshape']
  obtain ⟨first, tail, hfirst, hstart, _⟩ := hname.startsName
  refine readLine?_field ?_ hkey hread hend.atLineEnd
  rw [hfirst, List.cons_append, List.head?_cons]
  rintro ⟨⟩
  exact absurd hstart (by decide)

/-! ## Lines -/

theorem IsFieldText.startsField {field : String × Value} (h : IsFieldText field text) :
    ∃ c more, text = c :: more ∧ c ∉ ['\n', ' ', '\t', '#', '['] ∧ c.toNat < 128 := by
  obtain ⟨hname, _, _, _⟩ := h
  obtain ⟨c, more, rfl, hc, hascii⟩ := hname.startsName
  exact ⟨c, _, rfl, hc, hascii⟩

theorem IsText.length_le {fields : List (String × Value)} (h : IsText fields text) :
    fields.length ≤ text.length := by
  induction h with
  | nil _ => exact Nat.zero_le _
  | comment _ _ => exact Nat.zero_le _
  | cons _ hfield _ _ ih =>
      obtain ⟨c, more, rfl, _⟩ := hfield.startsField
      simp only [List.length_append, List.length_cons]
      omega

/-- However lines are written, they are read. -/
theorem readLines?_eq {fields : List (String × Value)} (h : IsText fields text) {fuel : Nat}
    (hfuel : fields.length < fuel) : readLines? fuel text = some (fields.map fieldLine) := by
  obtain ⟨fuel, rfl⟩ := Nat.exists_eq_add_one_of_ne_zero (Nat.ne_zero_of_lt hfuel)
  induction h generalizing fuel with
  | @nil filler hfiller =>
      have hskip := skipFiller?_append hfiller []
      rw [List.append_nil] at hskip
      rw [readLines?, hskip]
      rfl
  | @comment filler comment hfiller hplain =>
      have hskip : skipFiller? false (filler ++ '#' :: comment) = some [] :=
        (skipFiller?_append hfiller _).trans (skipFiller?_comment hplain []).2
      rw [readLines?, hskip]
      rfl
  | @cons field fields filler text rest hfiller hfield hrest hend ih =>
      have hread := readLine?_append hfield hend
      obtain ⟨c, more, hshape, hc, _⟩ := hfield.startsField
      simp only [List.mem_cons, List.not_mem_nil, or_false, not_or] at hc
      obtain ⟨hline, hspace, htab, hcomment, _⟩ := hc
      have hskip : skipFiller? false (filler ++ (text ++ rest)) = some (text ++ rest) := by
        rw [skipFiller?_append hfiller, hshape, List.cons_append,
          skipFiller?_start hline (by simp [isGap, hspace, htab]) hcomment]
      rw [List.length_cons] at hfuel
      obtain ⟨fuel, rfl⟩ := Nat.exists_eq_add_one_of_ne_zero
        (Nat.ne_zero_of_lt (Nat.lt_of_succ_lt_succ hfuel))
      have hmore := ih fuel (Nat.lt_of_succ_lt_succ hfuel)
      rw [readLines?, hskip]
      rw [hshape, List.cons_append] at hread ⊢
      simp only [hread, hmore, Option.map_some, List.map_cons]

/-! ## Documents -/

variable {fields : List (String × Value)}

/-- Fields with names of their own are put behind each other. -/
theorem addAll?_fields {document : Document} {growing : List String}
    (hnames : (document.map Prod.fst ++ fields.map Prod.fst).Nodup) :
    Draft.addAll? ⟨document, none, growing⟩ (fields.map fieldLine)
      = some ⟨document ++ fields.map fun f => (f.1, .value f.2), none, growing⟩ := by
  induction fields generalizing document with
  | nil =>
      rw [List.map_nil, List.map_nil, List.append_nil]
      rfl
  | cons field fields ih =>
      obtain ⟨name, value⟩ := field
      have hfresh : lookupEntry name document = none := by
        refine lookupEntry_eq_none_iff.mpr fun entry hentry heq => ?_
        exact (List.nodup_append.mp hnames).2.2 entry.1 (List.mem_map_of_mem hentry) name
          List.mem_cons_self heq
      have hadd : Draft.add? ⟨document, none, growing⟩ (fieldLine (name, value))
          = some ⟨document ++ [(name, .value value)], none, growing⟩ := by
        show (addFresh? name (.value value) document).map _ = _
        rw [addFresh?, hfresh]
        rfl
      have hmore := @ih (document ++ [(name, .value value)]) (by
        simpa [List.append_assoc] using hnames)
      rw [List.map_cons, Draft.addAll?, hadd, Option.bind_some, hmore]
      simp

theorem unifyLineEnds?_eq (h : WithLineEnds cs text) : unifyLineEnds? text = some cs := by
  induction h with
  | nil => rfl
  | keep hc _ ih =>
      rw [unifyLineEnds?, if_neg (by simpa using hc), ih]
      · rfl
      · rintro _ rfl
        exact absurd rfl hc
  | long _ ih =>
      rw [unifyLineEnds?, ih]
      rfl

theorem WithLineEnds.refl (h : '\r' ∉ cs) : WithLineEnds cs cs := by
  induction cs with
  | nil => exact .nil
  | cons c tail ih =>
      rw [List.mem_cons, not_or] at h
      exact .keep (Ne.symm h.1) (ih h.2)

theorem IsFiller.head?_lt (h : IsFiller filler) (hrest : ∀ c, rest.head? = some c → c.toNat < 128)
    (hc : (filler ++ rest).head? = some c) : c.toNat < 128 := by
  cases h with
  | nil => exact hrest c hc
  | blank hblank _ =>
      cases hc
      rw [isGap_iff] at hblank
      rcases hblank with (rfl | rfl) | rfl <;> decide
  | comment _ _ =>
      cases hc
      decide

theorem IsText.head?_lt (h : IsText fields cs) (hc : cs.head? = some c) : c.toNat < 128 := by
  cases h with
  | nil h => exact @IsFiller.head?_lt c _ [] h nofun (by rwa [List.append_nil])
  | comment h _ => exact h.head?_lt (by rintro _ ⟨⟩; decide) hc
  | cons h hfield _ _ =>
      obtain ⟨first, more, rfl, _, hfirst⟩ := hfield.startsField
      exact h.head?_lt (by rintro _ ⟨⟩; exact hfirst) hc

/-- No document starts with a byte order mark of its own. -/
theorem IsText.dropMark_eq (h : IsText fields cs) (hends : WithLineEnds cs text) :
    dropMark text = text := by
  cases hends with
  | nil => rfl
  | keep _ _ =>
      have hsmall := h.head?_lt rfl
      exact if_neg (by omega)
  | long _ => rfl

/-- However fields with names of their own are written, they are read. -/
theorem Document.parse?_ofList (h : IsText fields cs) (hends : WithLineEnds cs text)
    (hnames : (fields.map Prod.fst).Nodup) :
    Document.parse? (String.ofList text) = some (fields.map fun f => (f.1, .value f.2)) := by
  have hread := readLines?_eq h (Nat.lt_succ_of_le h.length_le)
  have hadd := @addAll?_fields fields [] [] hnames
  rw [Document.parse?, String.toList_ofList, h.dropMark_eq hends, unifyLineEnds?_eq hends]
  dsimp only
  rw [hread]
  dsimp only
  rw [hadd]
  rfl

end Quadlink.Toml
