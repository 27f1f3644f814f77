import Quadlink.Proofs.Text.Numerals
import Quadlink.Proofs.Url.Domain
import Quadlink.Url.Reader

/-!
# The spelling of hosts

A host that was read is spelled in such a way that a reader finds it again: its spelling reads as
the same host (`Host.parse_text`), nothing in it ends the host too early (`splitHost_text`), and no
character of it has a meaning elsewhere in a URL (`Host.IsSettled.not_delimiter`).
-/

namespace Quadlink.Url

open Text

/-- A host as reading leaves it. A name is not empty, and no character of it could end it in a URL.
-/
structure Host.IsSettled (host : Host) : Prop where
  readsBack : host.readsBack = true
  name : ∀ name, host = .domain name →
    name.toList ≠ [] ∧ ∀ c ∈ name.toList, Domain.isForbidden c = false

variable {host : Host} {cs rest : List Char} {c : Char}

/-! ## Reading -/

theorem Host.name_of_readName {name : String} (h : Host.readName cs = .ok (.domain name)) :
    name.toList ≠ [] ∧ ∀ c ∈ name.toList, Domain.isForbidden c = false := by
  unfold Host.readName at h
  split at h
  · cases h
  · split at h
    · cases h
    · cases h
    · rename_i ascii hsome hascii
      split at h
      · split at h <;> cases h
      · cases h
        rw [String.toList_ofList]
        exact ⟨hsome, fun c hc => Domain.toAscii?_not_forbidden hascii hc⟩

theorem Host.name_of_read {name : String} (h : Host.read cs = .ok (.domain name)) :
    name.toList ≠ [] ∧ ∀ c ∈ name.toList, Domain.isForbidden c = false := by
  unfold Host.read at h
  split at h
  · unfold Host.readBracketed at h
    split at h
    · cases h
    · split at h <;> cases h
  · exact Host.name_of_readName h

theorem Host.isSettled_of_parse (h : Host.parse cs = .ok host) : host.IsSettled := by
  unfold Host.parse at h
  split at h
  · cases h
  · rename_i found hread
    split at h
    · rename_i hback
      cases h
      refine ⟨hback, ?_⟩
      rintro name rfl
      exact Host.name_of_read hread
    · cases h

/-- The spelling of a host reads as that host. -/
theorem Host.parse_text (h : host.IsSettled) : Host.parse host.text.toList = .ok host := by
  have hback := h.readsBack
  unfold Host.readsBack at hback
  split at hback
  · rename_i again hread
    have hsame : again = host := by simpa using hback
    rw [Host.parse, hread, hsame]
    exact if_pos h.readsBack
  · cases hback

/-! ## Spelling -/

theorem Ipv4.mem_text {address : Nat} (h : c ∈ (Ipv4.text address).toList) :
    c.isDigit = true ∨ c = '.' := by
  simp only [Ipv4.text, String.toList_append, List.mem_append] at h
  have hdot : ∀ c ∈ ".".toList, c = '.' := fun _ h => List.mem_singleton.mp h
  rcases h with (((((hfirst | hd) | hsecond) | hd) | hthird) | hd) | hfourth
  · exact .inl (isDigit_of_mem_toString hfirst)
  · exact .inr (hdot c hd)
  · exact .inl (isDigit_of_mem_toString hsecond)
  · exact .inr (hdot c hd)
  · exact .inl (isDigit_of_mem_toString hthird)
  · exact .inr (hdot c hd)
  · exact .inl (isDigit_of_mem_toString hfourth)

theorem hexValue?_of_mem_toDigits {n : Nat} (h : c ∈ Nat.toDigits 16 n) :
    (Codec.Percent.hexValue? c).isSome = true := by
  have hdigit : ∀ d < 16, (Codec.Percent.hexValue? (Nat.digitChar d)).isSome = true := by decide
  induction n using Nat.strongRecOn with
  | _ n ih =>
      rw [Nat.toDigits_eq_if (by decide)] at h
      split at h
      · rename_i hsmall
        rw [List.mem_singleton.mp h]
        exact hdigit n hsmall
      · rename_i hlarge
        rcases List.mem_append.mp h with hfront | hlast
        · exact ih (n / 16) (Nat.div_lt_self (by omega) (by decide)) hfront
        · rw [List.mem_singleton.mp hlast]
          exact hdigit _ (Nat.mod_lt _ (by decide))

def isAddressChar (c : Char) : Bool :=
  (Codec.Percent.hexValue? c).isSome || c == ':'

theorem Ipv6.mem_joined {pieces : List Nat} (h : c ∈ Ipv6.joined pieces) :
    isAddressChar c = true := by
  rcases Domain.mem_intercalate h with hcolon | ⟨piece, hpiece, hmem⟩
  · rw [List.mem_singleton.mp hcolon]
    decide
  · obtain ⟨n, -, rfl⟩ := List.mem_map.mp hpiece
    rw [isAddressChar, hexValue?_of_mem_toDigits hmem]
    rfl

theorem Ipv6.mem_text {pieces : List Nat} (h : c ∈ (Ipv6.text pieces).toList) :
    isAddressChar c = true := by
  simp only [Ipv6.text] at h
  split at h
  · rw [String.toList_ofList] at h
    exact Ipv6.mem_joined h
  · rw [String.toList_ofList, List.mem_append, List.mem_append] at h
    rcases h with (hfront | hgap) | hback
    · exact Ipv6.mem_joined hfront
    · exact List.all_eq_true.mp (by decide) c hgap
    · exact Ipv6.mem_joined hback

/-- Characters with a meaning in the rest of a URL. -/
def isDelimiter (c : Char) : Bool :=
  ['/', '?', '#', '\\', '@', '\t', '\n', '\r'].contains c

/-- Who holds all delimiters holds every delimiter. -/
theorem not_delimiter_of {p : Char → Bool}
    (hall : ['/', '?', '#', '\\', '@', '\t', '\n', '\r'].all p = true) (hc : p c = false) :
    isDelimiter c = false := by
  cases hd : isDelimiter c with
  | false => rfl
  | true =>
      have hmem := List.all_eq_true.mp hall c (by simpa [isDelimiter] using hd)
      rw [hc] at hmem
      cases hmem

theorem Host.IsSettled.not_delimiter (h : host.IsSettled) (hc : c ∈ host.text.toList) :
    isDelimiter c = false := by
  cases host with
  | domain name =>
      exact not_delimiter_of (by decide) ((h.name name rfl).2 c hc)
  | ipv4 address =>
      refine not_delimiter_of (p := fun c => !(c.isDigit || c == '.')) (by decide) ?_
      rcases Ipv4.mem_text hc with hdigit | rfl
      · simp [hdigit]
      · rfl
  | ipv6 pieces =>
      refine not_delimiter_of (p := fun c => !(isAddressChar c || c == '[' || c == ']'))
        (by decide) ?_
      simp only [Host.text, String.toList_append, List.mem_append] at hc
      rcases hc with (hopen | hinner) | hclose
      · rw [List.mem_singleton.mp hopen]
        decide
      · simp [Ipv6.mem_text hinner]
      · rw [List.mem_singleton.mp hclose]
        decide

theorem Host.IsSettled.not_empty (h : host.IsSettled) : host.isEmpty = false := by
  cases host with
  | domain name =>
      have hne := (h.name name rfl).1
      simpa [Host.isEmpty] using hne
  | ipv4 address => rfl
  | ipv6 pieces => rfl

theorem Host.IsSettled.text_ne_nil (h : host.IsSettled) : host.text.toList ≠ [] := by
  cases host with
  | domain name => exact (h.name name rfl).1
  | ipv4 address => simp [Host.text, Ipv4.text]
  | ipv6 pieces => simp [Host.text]

/-! ## Where a host ends -/

/-- A text without a colon or an opening bracket is a host as a whole. -/
theorem splitHost_plain (h : ∀ c ∈ cs, c ≠ ':' ∧ c ≠ '[')
    (hrest : rest = [] ∨ rest.head? = some ':') :
    splitHost false (cs ++ rest) = (cs, rest) := by
  induction cs with
  | nil =>
      cases rest with
      | nil => rfl
      | cons c tail =>
          have hc : c = ':' := by simpa using hrest
          rw [hc]
          rfl
  | cons c tail ih =>
      obtain ⟨hcolon, hopen⟩ := h c List.mem_cons_self
      have ih := ih fun d hd => h d (List.mem_cons_of_mem _ hd)
      have hinside : (if c == '[' then true else if c == ']' then false else false) = false := by
        simp [hopen]
      rw [List.cons_append, splitHost, if_neg (by simp [hcolon])]
      simp only [hinside, ih]

/-- Within brackets a colon does not end the host. -/
theorem splitHost_bracketed (h : ∀ c ∈ cs, isAddressChar c = true) :
    splitHost true (cs ++ ']' :: rest) =
      (cs ++ ']' :: (splitHost false rest).1, (splitHost false rest).2) := by
  induction cs with
  | nil => rfl
  | cons c tail ih =>
      have ih := ih fun d hd => h d (List.mem_cons_of_mem _ hd)
      have hc := h c List.mem_cons_self
      have hinside : (if c == '[' then true else if c == ']' then false else true) = true := by
        have hclose : c ≠ ']' := by
          rintro rfl
          cases hc
        simp [hclose]
      rw [List.cons_append, splitHost, if_neg (by simp)]
      simp only [hinside, ih, List.cons_append]

/-- A spelled host ends where a port begins or nothing follows. -/
theorem splitHost_text (h : host.IsSettled) (hrest : rest = [] ∨ rest.head? = some ':') :
    splitHost false (host.text.toList ++ rest) = (host.text.toList, rest) := by
  cases host with
  | domain name =>
      refine splitHost_plain ?_ hrest
      intro c hc
      have hnot := (h.name name rfl).2 c hc
      constructor <;> (rintro rfl; cases hnot)
  | ipv4 address =>
      refine splitHost_plain ?_ hrest
      intro c hc
      rcases Ipv4.mem_text hc with hdigit | rfl
      · constructor <;> (rintro rfl; cases hdigit)
      · decide
  | ipv6 pieces =>
      have hshape : (Host.ipv6 pieces).text.toList ++ rest =
          '[' :: ((Ipv6.text pieces).toList ++ ']' :: rest) := by
        simp [Host.text]
      have hempty : splitHost false ([] ++ rest) = ([], rest) := splitHost_plain nofun hrest
      have hopen : splitHost false ('[' :: ((Ipv6.text pieces).toList ++ ']' :: rest)) =
          ('[' :: (splitHost true ((Ipv6.text pieces).toList ++ ']' :: rest)).1,
            (splitHost true ((Ipv6.text pieces).toList ++ ']' :: rest)).2) := rfl
      rw [hshape, hopen, splitHost_bracketed fun c hc => Ipv6.mem_text hc,
        ← List.nil_append rest, hempty]
      simp [Host.text]

end Quadlink.Url
