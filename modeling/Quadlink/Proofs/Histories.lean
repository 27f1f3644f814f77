/-!
# Histories

Much of what is kept is a function of what has been done so far, and mostly of the last thing of some
kind. A history is a list, the first thing first, and `IsLast` finds the last of its elements with a
property. What holds of a state and its history after each step holds after any number of steps
(`foldl_history`).
-/

namespace Quadlink

variable {α β : Type} {p : α → Prop} {history past earlier later : List α} {x y : α}

/-- The element is the last of a history that has the property. -/
def IsLast (p : α → Prop) (history : List α) (x : α) : Prop :=
  ∃ earlier later, history = earlier ++ x :: later ∧ p x ∧ ∀ other ∈ later, ¬ p other

/-- A relation between states and histories that every step keeps holds after any steps. -/
theorem foldl_history {R : β → List α → Prop} {step : β → α → β} {state : β}
    (hstep : ∀ state past x, R state past → R (step state x) (past ++ [x]))
    (h : R state past) (more : List α) : R (more.foldl step state) (past ++ more) := by
  induction more generalizing state past with
  | nil =>
      rw [List.append_nil]
      exact h
  | cons x rest ih =>
      rw [← List.singleton_append, ← List.append_assoc]
      exact ih (hstep state past x h)

/-- Where one element has been added to a history, any element of it is the last one or one from
before. -/
theorem split_of_append_singleton (h : past ++ [x] = earlier ++ y :: later) :
    (later = [] ∧ y = x)
      ∨ ∃ before, later = before ++ [x] ∧ past = earlier ++ y :: before := by
  rcases List.eq_nil_or_concat later with rfl | ⟨before, last, rfl⟩
  · exact .inl ⟨rfl, (List.singleton_inj.mp (List.append_inj' h rfl).2).symm⟩
  · rw [List.concat_eq_append, ← List.cons_append, ← List.append_assoc] at h
    obtain ⟨hpast, hlast⟩ := List.append_inj' h rfl
    rw [List.concat_eq_append, List.singleton_inj.mp hlast]
    exact .inr ⟨before, rfl, hpast⟩

/-- Of two elements of a history, with nothing like the one behind the other, neither is later. -/
theorem eq_of_no_later {earlier' later' : List α}
    (h : earlier ++ x :: later = earlier' ++ y :: later') (hx : x ∉ later') (hy : y ∉ later) :
    x = y ∧ later = later' := by
  rcases List.append_eq_append_iff.mp h with ⟨between, -, hrest⟩ | ⟨between, -, hrest⟩
  · cases between with
    | nil => exact List.cons.inj hrest
    | cons first rest =>
        obtain ⟨-, rfl⟩ := List.cons.inj hrest
        simp at hy
  · cases between with
    | nil =>
        obtain ⟨rfl, rfl⟩ := List.cons.inj hrest
        exact ⟨rfl, rfl⟩
    | cons first rest =>
        obtain ⟨-, rfl⟩ := List.cons.inj hrest
        simp at hx

theorem isLast_concat_of (hx : p x) : IsLast p (past ++ [x]) y ↔ y = x := by
  constructor
  · rintro ⟨earlier, later, hsplit, -, hlater⟩
    rcases split_of_append_singleton hsplit with ⟨-, rfl⟩ | ⟨before, rfl, -⟩
    · rfl
    · exact absurd hx (hlater x (by simp))
  · rintro rfl
    exact ⟨past, [], rfl, hx, nofun⟩

theorem isLast_concat_of_not (hx : ¬ p x) : IsLast p (past ++ [x]) y ↔ IsLast p past y := by
  constructor
  · rintro ⟨earlier, later, hsplit, hy, hlater⟩
    rcases split_of_append_singleton hsplit with ⟨-, rfl⟩ | ⟨before, rfl, hpast⟩
    · exact absurd hy hx
    · exact ⟨earlier, before, hpast, hy, fun other hother =>
        hlater other (List.mem_append_left _ hother)⟩
  · rintro ⟨earlier, later, rfl, hy, hlater⟩
    exact ⟨earlier, later ++ [x], by simp, hy,
      List.forall_mem_append.mpr ⟨hlater, List.forall_mem_singleton.mpr hx⟩⟩

/-- There is a last element with a property where there is one at all. -/
theorem exists_isLast_iff : (∃ x, IsLast p history x) ↔ ∃ x ∈ history, p x := by
  constructor
  · rintro ⟨x, earlier, later, rfl, hx, -⟩
    exact ⟨x, by simp, hx⟩
  · rintro ⟨x, hmem, hx⟩
    induction history generalizing x with
    | nil => cases hmem
    | cons first rest ih =>
        by_cases hrest : ∃ y ∈ rest, p y
        · obtain ⟨y, hy, hpy⟩ := hrest
          obtain ⟨last, earlier, later, rfl, hlast, hlater⟩ := ih y hy hpy
          exact ⟨last, first :: earlier, later, rfl, hlast, hlater⟩
        · rcases List.mem_cons.mp hmem with rfl | hx'
          · exact ⟨x, [], rest, rfl, hx, fun other hother hp => hrest ⟨other, hother, hp⟩⟩
          · exact absurd ⟨x, hx', hx⟩ hrest

end Quadlink
