/-!
# Letter case

Header names, media types and mode names compare without regard to ASCII case. Only `A` to `Z`
have a lower case here, so that a name outside ASCII is its own lower case.
-/

namespace Quadlink.Text

/-- The text with `A` to `Z` replaced by `a` to `z`. -/
def lower (s : String) : String :=
  String.ofList (s.toList.map Char.toLower)

/-- Only capital letters have another lower case, 32 code points above. -/
theorem toLower_cases (c : Char) :
    c.toLower = c ∨ 65 ≤ c.toNat ∧ c.toNat ≤ 90 ∧ c.toLower.toNat = c.toNat + 32 := by
  by_cases h : c.val ≥ 'A'.val ∧ c.val ≤ 'Z'.val
  · have hhigh : c.toNat ≤ 90 := h.2
    have hlower : c.toLower.val = c.val + ('a'.val - 'A'.val) := congrArg Char.val (dif_pos h)
    refine .inr ⟨h.1, hhigh, ?_⟩
    show c.toLower.val.toNat = c.toNat + 32
    rw [hlower, UInt32.toNat_add]
    exact Nat.mod_eq_of_lt (Nat.lt_of_le_of_lt (Nat.add_le_add_right hhigh 32) (by decide))
  · exact .inl (dif_neg h)

theorem toLower_toLower (c : Char) : c.toLower.toLower = c.toLower := by
  rcases toLower_cases c with hself | ⟨hlow, -, hlower⟩
  · rw [hself, hself]
  · rcases toLower_cases c.toLower with hself | ⟨-, hhigh, -⟩
    · exact hself
    · omega

/-- A text in lower case stays as it is. -/
@[simp] theorem lower_lower (s : String) : lower (lower s) = lower s := by
  rw [lower, lower, String.toList_ofList, List.map_map]
  exact congrArg String.ofList (List.map_congr_left fun c _ => toLower_toLower c)

end Quadlink.Text
