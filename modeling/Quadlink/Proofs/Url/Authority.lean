import Quadlink.Proofs.Codec.Percent
import Quadlink.Proofs.Url.Host

/-!
# Settled authorities

The authority that a reader finds in a URL with a well-known scheme is *settled*
(`isSettled_of_readAuthority`): user name and password are encoded, the host reads back, and the
port fits into 16 bits and is not the one that the scheme implies. What is written of a settled
authority is read as that authority again (`readAuthority_text`).
-/

namespace Quadlink.Url

open Text Codec

/-- An authority as reading leaves it. Its user is encoded, its host reads back as itself, and its
port is not the one that goes without saying. -/
structure Authority.IsSettled (scheme : String) (a : Authority) : Prop where
  username : ∀ c ∈ a.username.toList, Percent.inUserInfo c = false
  password : ∀ text, a.password = some text →
    text.toList ≠ [] ∧ ∀ c ∈ text.toList, Percent.inUserInfo c = false
  host : a.host.IsSettled
  port : ∀ n, a.port = some n → n ≤ 65535 ∧ some n ≠ defaultPort? scheme

variable {scheme : String} {a : Authority} {cs rest : List Char} {c : Char}

/-! ## Users -/

theorem encodeUser_toList (cs : List Char) :
    (encodeUser cs).toList = Percent.encode Percent.inUserInfo cs :=
  String.toList_ofList

theorem not_in_of_mem_encodeUser (h : c ∈ (encodeUser cs).toList) :
    Percent.inUserInfo c = false :=
  Percent.not_in_of_mem_encode Percent.isSet_inUserInfo (encodeUser_toList cs ▸ h)

/-- An encoded user name is its own encoding. -/
theorem encodeUser_eq_self {text : String} (h : ∀ c ∈ text.toList, Percent.inUserInfo c = false) :
    encodeUser text.toList = text := by
  rw [encodeUser, Percent.encode_eq_self h, String.ofList_toList]

theorem readUser_settled (cs : List Char) :
    (∀ c ∈ (readUser cs).1.toList, Percent.inUserInfo c = false)
      ∧ ∀ text, (readUser cs).2 = some text →
          text.toList ≠ [] ∧ ∀ c ∈ text.toList, Percent.inUserInfo c = false := by
  unfold readUser
  split
  · exact ⟨fun c hc => not_in_of_mem_encodeUser hc, nofun⟩
  · exact ⟨fun c hc => not_in_of_mem_encodeUser hc, nofun⟩
  · rename_i name password hne hcut
    refine ⟨fun c hc => not_in_of_mem_encodeUser hc, ?_⟩
    intro text htext
    obtain rfl := Option.some.inj htext
    refine ⟨?_, fun c hc => not_in_of_mem_encodeUser hc⟩
    rw [encodeUser_toList]
    exact Percent.encode_ne_nil hne

theorem not_mem_of_inUserInfo {d : Char} (hd : Percent.inUserInfo d = true)
    (h : ∀ c ∈ cs, Percent.inUserInfo c = false) : d ∉ cs := by
  intro hmem
  have hout := h d hmem
  rw [hd] at hout
  cases hout

def Authority.userChars? (a : Authority) : Option (List Char) :=
  match a.password with
  | none => if a.username.isEmpty then none else some a.username.toList
  | some password => some (a.username.toList ++ ':' :: password.toList)

theorem Authority.userText_toList (a : Authority) :
    a.userText.toList = match a.userChars? with
      | none => []
      | some user => user ++ ['@'] := by
  obtain ⟨username, password, host, port⟩ := a
  cases password with
  | none =>
      by_cases hempty : username.isEmpty = true
      · simp [userText, userChars?, hempty]
      · simp [userText, userChars?, hempty]
  | some password => simp [userText, userChars?]

theorem Authority.userChars?_ne_nil {user : List Char} (h : a.userChars? = some user) :
    user ≠ [] := by
  obtain ⟨username, password, host, port⟩ := a
  cases password with
  | none =>
      by_cases hempty : username.isEmpty = true
      · simp [userChars?, hempty] at h
      · simp only [userChars?, hempty] at h
        rw [← Option.some.inj h]
        simpa using hempty
  | some password =>
      rw [← Option.some.inj h]
      simp

/-- What is written of a user is read as that user. -/
theorem Authority.IsSettled.readUser_userChars (h : a.IsSettled scheme) :
    readUser (a.userChars?.getD []) = (a.username, a.password) := by
  obtain ⟨username, password, host, port⟩ := a
  have hname := encodeUser_eq_self h.username
  have hcolon : ':' ∉ username.toList := not_mem_of_inUserInfo (by decide) h.username
  cases password with
  | none =>
      by_cases hempty : username.isEmpty = true
      · have hnil : username = "" := by simpa using hempty
        rw [hnil]
        rfl
      · simp only [userChars?, hempty]
        rw [if_neg (by decide), Option.getD_some, readUser, cutAt?_eq_none hcolon]
        dsimp only at hname ⊢
        rw [hname]
  | some password =>
      obtain ⟨hne, hpassword⟩ := h.password password rfl
      rw [userChars?, Option.getD_some, readUser, cutAt?_append hcolon]
      cases hshape : password.toList with
      | nil => exact absurd hshape hne
      | cons c tail =>
          dsimp only at hname ⊢
          rw [hname, ← hshape, encodeUser_eq_self hpassword]

/-! ## Ports -/

theorem readPort_digits {digits : List Char} {acc : Nat} (hdigits : ∀ c ∈ digits, c.isDigit = true)
    (hfits : Nat.ofDigitChars 10 digits acc ≤ 65535) :
    readPort (some acc) digits = .ok (some (Nat.ofDigitChars 10 digits acc), []) := by
  induction digits generalizing acc with
  | nil => rfl
  | cons c tail ih =>
      rw [Nat.ofDigitChars_cons] at hfits ⊢
      have hnext := le_ofDigitChars tail (10 * acc + (c.toNat - '0'.toNat))
      have hsmall : ¬65535 < acc * 10 + (c.toNat - '0'.toNat) := by omega
      rw [readPort, if_pos (hdigits c List.mem_cons_self), Option.getD_some]
      dsimp only
      rw [if_neg hsmall, Nat.mul_comm acc 10]
      exact ih (fun d hd => hdigits d (List.mem_cons_of_mem _ hd)) hfits

theorem readPort_toString {n : Nat} (h : n ≤ 65535) :
    readPort none (toString n).toList = .ok (some n, []) := by
  have hvalue := ofDigitChars_toString n
  have hread : readPort (some 0) (toString n).toList = .ok (some n, []) := by
    have hdigits : ∀ c ∈ (toString n).toList, c.isDigit = true := fun c hc =>
      isDigit_of_mem_toString hc
    rw [readPort_digits hdigits (by rw [hvalue]; exact h), hvalue]
  -- Without digits the port would be missing rather than zero.
  cases hshape : (toString n).toList with
  | nil => exact absurd hshape (by simp)
  | cons c tail =>
      have hc : c.isDigit = true :=
        isDigit_of_mem_toString (n := n) (by rw [hshape]; exact List.mem_cons_self)
      rw [hshape, readPort, if_pos hc] at hread
      rw [readPort, if_pos hc]
      exact hread

theorem readPort_le {acc port : Option Nat} (hacc : ∀ n, acc = some n → n ≤ 65535)
    (h : readPort acc cs = .ok (port, rest)) : ∀ n, port = some n → n ≤ 65535 := by
  induction cs generalizing acc with
  | nil =>
      cases h
      exact hacc
  | cons c tail ih =>
      rw [readPort] at h
      split at h
      · dsimp only at h
        split at h
        · cases h
        · rename_i hsmall
          refine ih ?_ h
          intro n hn
          obtain rfl := Option.some.inj hn
          omega
      · split at h
        · cases h
          exact hacc
        · cases h

theorem readPortPart_settled {port : Option Nat} (h : readPortPart scheme cs = .ok (port, rest)) :
    ∀ n, port = some n → n ≤ 65535 ∧ some n ≠ defaultPort? scheme := by
  unfold readPortPart at h
  split at h
  · split at h
    · cases h
    · rename_i found left hread
      cases h
      intro n hn
      split at hn
      · cases hn
      · rename_i hother
        subst hn
        exact ⟨readPort_le (fun _ hnone => by cases hnone) hread n rfl, by simpa using hother⟩
  · cases h
    nofun

/-- A written port is read back, and so is a missing one. -/
theorem Authority.IsSettled.readPortPart_portText (h : a.IsSettled scheme) :
    readPortPart scheme a.portText.toList = .ok (a.port, []) := by
  obtain ⟨username, password, host, port⟩ := a
  cases port with
  | none => rfl
  | some n =>
      obtain ⟨hfits, hother⟩ := h.port n rfl
      have hshape : (Authority.mk username password host (some n)).portText.toList =
          ':' :: (toString n).toList := by
        simp [Authority.portText]
      rw [hshape, readPortPart, readPort_toString hfits]
      dsimp only
      rw [if_neg (by simpa using hother)]

/-! ## Authorities -/

/-- What precedes the last `@` of an authority, if there is one, and the rest. -/
def splitUser (cs : List Char) : Option (List Char) × List Char :=
  match cutAtLast? '@' cs with
  | some (user, place) => (some user, place)
  | none => (none, cs)

def readParts (scheme : String) (user : Option (List Char)) (hostChars portChars : List Char) :
    Except UrlFault (Authority × List Char) :=
  if hostChars.isEmpty then .error .emptyHost
  else
    match Host.parse hostChars with
    | .error fault => .error fault
    | .ok host =>
      if host.isEmpty && (!portChars.isEmpty || !(readUser (user.getD [])).1.isEmpty
          || (readUser (user.getD [])).2.isSome) then
        .error .emptyHost
      else
        match readPortPart scheme portChars with
        | .error fault => .error fault
        | .ok (port, rest) =>
          .ok (⟨(readUser (user.getD [])).1, (readUser (user.getD [])).2, host, port⟩, rest)

/-- An authority falls apart into a user, a host and a port before any of them is read. -/
theorem readAuthority_eq (hspecial : isSpecial scheme = true) (more : Bool) (cs : List Char) :
    readAuthority scheme more cs =
      if (splitUser cs).1 == some [] && (splitUser cs).2.isEmpty && more then .error .emptyHost
      else
        readParts scheme (splitUser cs).1 (splitHost false (splitUser cs).2).1
          (splitHost false (splitUser cs).2).2 := by
  unfold readAuthority splitUser readParts
  rw [hspecial]
  cases cutAtLast? '@' cs <;> rfl

theorem isSettled_of_readAuthority {more : Bool} (hspecial : isSpecial scheme = true)
    (h : readAuthority scheme more cs = .ok (a, rest)) : a.IsSettled scheme := by
  rw [readAuthority_eq hspecial] at h
  split at h
  · cases h
  · unfold readParts at h
    split at h
    · cases h
    · split at h
      · cases h
      · rename_i host hhost
        split at h
        · cases h
        · split at h
          · cases h
          · rename_i port left hport
            cases h
            obtain ⟨husername, hpassword⟩ := readUser_settled ((splitUser cs).1.getD [])
            exact ⟨husername, hpassword, Host.isSettled_of_parse hhost, readPortPart_settled hport⟩

theorem Authority.IsSettled.mem_userChars (h : a.IsSettled scheme) {user : List Char}
    (huser : a.userChars? = some user) (hc : c ∈ user) :
    c = ':' ∨ Percent.inUserInfo c = false := by
  obtain ⟨username, password, host, port⟩ := a
  cases password with
  | none =>
      simp only [Authority.userChars?] at huser
      split at huser
      · cases huser
      · cases huser
        exact .inr (h.username c hc)
  | some password =>
      cases huser
      rcases List.mem_append.mp hc with hname | hlater
      · exact .inr (h.username c hname)
      · rcases List.mem_cons.mp hlater with rfl | hpassword
        · exact .inl rfl
        · exact .inr ((h.password password rfl).2 c hpassword)

theorem Authority.mem_portText (a : Authority) (hc : c ∈ a.portText.toList) :
    c = ':' ∨ c.isDigit = true := by
  obtain ⟨username, password, host, port⟩ := a
  cases port with
  | none => cases hc
  | some n =>
      simp only [portText, String.toList_append, List.mem_append] at hc
      rcases hc with hcolon | hdigit
      · exact .inl (List.mem_singleton.mp hcolon)
      · exact .inr (isDigit_of_mem_toString hdigit)

theorem not_delimiter_of_mem_portText (hc : c ∈ a.portText.toList) : isDelimiter c = false := by
  refine not_delimiter_of (p := fun c => !(c.isDigit || c == ':')) (by decide) ?_
  rcases a.mem_portText hc with rfl | hdigit
  · rfl
  · simp [hdigit]

/-- No character of a settled authority has a meaning outside of it, but for the sign behind the
user. -/
theorem Authority.IsSettled.mem_text (h : a.IsSettled scheme) (hc : c ∈ a.text.toList) :
    c = '@' ∨ isDelimiter c = false := by
  have huser : ∀ c, Percent.inUserInfo c = false → isDelimiter c = false := fun c =>
    not_delimiter_of (by decide)
  simp only [Authority.text, String.toList_append, List.mem_append] at hc
  rcases hc with (hc | hc) | hc
  · rw [Authority.userText_toList] at hc
    split at hc
    · cases hc
    · rename_i user hsome
      rcases List.mem_append.mp hc with hmem | hsign
      · rcases h.mem_userChars hsome hmem with rfl | hout
        · exact .inr (by decide)
        · exact .inr (huser c hout)
      · exact .inl (List.mem_singleton.mp hsign)
  · exact .inr (h.host.not_delimiter hc)
  · exact .inr (not_delimiter_of_mem_portText hc)

/-- The user of a written authority is told from the rest. -/
theorem Authority.IsSettled.splitUser_text (h : a.IsSettled scheme) :
    splitUser a.text.toList = (a.userChars?, a.host.text.toList ++ a.portText.toList) := by
  have hsign : '@' ∉ a.host.text.toList ++ a.portText.toList := by
    intro hmem
    rcases List.mem_append.mp hmem with hhost | hport
    · cases h.host.not_delimiter hhost
    · cases not_delimiter_of_mem_portText hport
  have hshape : a.text.toList =
      a.userText.toList ++ (a.host.text.toList ++ a.portText.toList) := by
    simp [Authority.text]
  rw [hshape, Authority.userText_toList]
  cases a.userChars? with
  | none => rw [List.nil_append, splitUser, cutAtLast?_eq_none hsign]
  | some user =>
      dsimp only
      rw [List.append_assoc, List.singleton_append, splitUser, cutAtLast?_append hsign]

theorem readAuthority_text (hspecial : isSpecial scheme = true) (h : a.IsSettled scheme)
    (more : Bool) : readAuthority scheme more a.text.toList = .ok (a, []) := by
  have hport : a.portText.toList = [] ∨ a.portText.toList.head? = some ':' := by
    obtain ⟨username, password, host, port⟩ := a
    cases port with
    | none => exact .inl rfl
    | some n => exact .inr (by simp [Authority.portText])
  have hne : a.host.text.toList.isEmpty = false := by
    rw [List.isEmpty_eq_false_iff]
    exact h.host.text_ne_nil
  have huser : (a.userChars? == some []) = false := by
    rw [beq_eq_false_iff_ne]
    exact fun hnil => Authority.userChars?_ne_nil hnil rfl
  have hhost : a.host.isEmpty = false := h.host.not_empty
  rw [readAuthority_eq hspecial, h.splitUser_text]
  dsimp only
  rw [splitHost_text h.host hport, huser, if_neg (by simp), readParts, hne, if_neg (by decide),
    Host.parse_text h.host]
  dsimp only
  rw [hhost, if_neg (by simp), h.readPortPart_portText, h.readUser_userChars]

end Quadlink.Url
