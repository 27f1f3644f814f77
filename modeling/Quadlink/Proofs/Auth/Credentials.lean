import Quadlink.Auth.Basic
import Quadlink.Proofs.Codec.Base64
import Quadlink.Proofs.Text.Pieces

/-!
# Credentials in a header

What a server makes of the header that carries a user name and a password. The two are joined by a
colon, and the server takes the first colon for that one (`read?_basicHeader`). A password may have
colons in it, and a user name may not: the server would see another user.

The header keeps all of the joined text and nothing else, so that it is the same for credentials
with the same joined text.
-/

namespace Quadlink.Credentials

open Codec Text

variable {credentials other : Credentials}

/-- User name and password with a colon between them. -/
def joined (credentials : Credentials) : String :=
  credentials.username ++ ":" ++ credentials.password

/-- What follows the name of the scheme in a header; the name may be in any case. -/
def token? (header : String) : Option (List Char) :=
  match cutAt? ' ' header.toList with
  | some (scheme, rest) =>
    if lower (String.ofList scheme) = "basic" then some (rest.dropWhile (· == ' ')) else none
  | none => none

/-- The credentials that a server reads off a header: the base64 form of a text in UTF-8, with the
user name up to its first colon. That is how the scheme is defined, whoever has written the header.
-/
def read? (header : String) : Option Credentials := do
  let token ← token? header
  let bytes ← Base64.decode? token
  let text ← (decodeChars bytes).toOption
  let (username, password) ← cutAt? ':' text
  return ⟨String.ofList username, String.ofList password⟩

theorem joined_toList (credentials : Credentials) :
    credentials.joined.toList
      = credentials.username.toList ++ ':' :: credentials.password.toList := by
  simp [joined]

theorem basicHeader_eq (credentials : Credentials) :
    credentials.basicHeader
      = "Basic " ++ String.ofList (Base64.encodeBytes (Text.encode credentials.joined)) := rfl

theorem token?_basicHeader (credentials : Credentials) :
    token? credentials.basicHeader
      = some (Base64.encodeBytes (Text.encode credentials.joined)) := by
  have hheader : credentials.basicHeader.toList
      = "Basic".toList ++ ' ' :: Base64.encodeBytes (Text.encode credentials.joined) := by
    simp [basicHeader_eq]
  -- No letter is a blank, so nothing is dropped behind the name of the scheme.
  have hspace : ' ' ∉ Base64.encodeBytes (Text.encode credentials.joined) := by
    intro hmem
    exact absurd ((Base64.spells_encodeBytes _).mem hmem) (by decide)
  have hscheme : lower (String.ofList "Basic".toList) = "basic" := by decide
  rw [token?, hheader, cutAt?_append (by decide)]
  simp only [hscheme, if_true]
  cases htoken : Base64.encodeBytes (Text.encode credentials.joined) with
  | nil => rfl
  | cons c rest =>
      rw [htoken, List.mem_cons, not_or] at hspace
      rw [List.dropWhile_cons_of_neg]
      simpa using Ne.symm hspace.1

/-- A server sees the parts of the joined text around its first colon. -/
theorem read?_basicHeader (credentials : Credentials) :
    read? credentials.basicHeader
      = (cutAt? ':' credentials.joined.toList).map
          fun parts => ⟨String.ofList parts.1, String.ofList parts.2⟩ := by
  have htext : decodeChars (Text.encode credentials.joined) = .ok credentials.joined.toList :=
    decodeFrom_encodeChars 0 credentials.joined.toList
  simp only [read?, token?_basicHeader, Option.bind_eq_bind, Option.bind_some,
    Base64.decode?_encodeBytes, htext, Except.toOption]
  cases cutAt? ':' credentials.joined.toList <;> rfl

/-- Some credentials are read off the header: the user name ends at the first colon. -/
theorem exists_read (credentials : Credentials) :
    ∃ read, read? credentials.basicHeader = some read
      ∧ ':' ∉ read.username.toList ∧ read.joined = credentials.joined := by
  have hcolon : ':' ∈ credentials.joined.toList := by
    rw [joined_toList]
    simp
  obtain ⟨front, back, hcut, hfront⟩ := List.eq_append_cons_of_mem hcolon
  refine ⟨⟨String.ofList front, String.ofList back⟩, ?_, ?_, ?_⟩
  · rw [read?_basicHeader, hcut, cutAt?_append hfront]
    rfl
  · rwa [String.toList_ofList]
  · rw [← String.toList_inj, joined_toList, String.toList_ofList, String.toList_ofList, hcut]

/-- The server sees the same user name and password exactly if the user name has no colon. -/
theorem read?_basicHeader_iff :
    read? credentials.basicHeader = some credentials ↔ ':' ∉ credentials.username.toList := by
  constructor
  · intro h
    obtain ⟨read, hread, hcolon, -⟩ := credentials.exists_read
    rw [h] at hread
    exact Option.some.inj hread ▸ hcolon
  · intro h
    rw [read?_basicHeader, joined_toList, cutAt?_append h]
    simp

theorem basicHeader_eq_iff :
    credentials.basicHeader = other.basicHeader ↔ credentials.joined = other.joined := by
  rw [basicHeader_eq, basicHeader_eq]
  constructor
  · intro h
    have hletters : Base64.encodeBytes (Text.encode credentials.joined)
        = Base64.encodeBytes (Text.encode other.joined) := by
      rw [← String.toList_inj, String.toList_append, String.toList_append] at h
      simpa only [String.toList_ofList] using List.append_cancel_left h
    have hbytes := Base64.encodeBytes_injective hletters
    have hread := decode_encode credentials.joined
    rw [hbytes, decode_encode] at hread
    exact (Except.ok.inj hread).symm
  · intro h
    rw [h]

/-- The header with user name and password is the name of the scheme and the base64 form of the two
with a colon between them. What a server reads off it has the same joined text, with the user name
up to the first colon. So it reads the same user name and password exactly if there is no colon in
the user name, and headers are the same exactly if the joined texts are. The base64 that it reads is
that in which each sequence of bytes has one form. -/
theorem header_is_read_back (credentials : Credentials) :
    (∃ text, credentials.basicHeader = "Basic " ++ String.ofList text
        ∧ Base64.Spells text (Text.encode credentials.joined)
        ∧ ∀ other, Base64.Spells other (Text.encode credentials.joined) → other = text)
      ∧ (∃ read, read? credentials.basicHeader = some read
        ∧ ':' ∉ read.username.toList ∧ read.joined = credentials.joined)
      ∧ (read? credentials.basicHeader = some credentials ↔ ':' ∉ credentials.username.toList)
      ∧ (∀ other : Credentials,
        credentials.basicHeader = other.basicHeader ↔ credentials.joined = other.joined)
      ∧ ∀ text bytes, Base64.decode? text = some bytes ↔ Base64.Spells text bytes := by
  have hspells := Base64.spells_encodeBytes (Text.encode credentials.joined)
  refine ⟨⟨_, credentials.basicHeader_eq, hspells, fun other hother => hother.unique hspells⟩,
    credentials.exists_read, read?_basicHeader_iff, fun other => basicHeader_eq_iff,
    fun text bytes => Base64.decode?_eq_some_iff⟩

example : read? (Credentials.mk "a:b" "c").basicHeader = some ⟨"a", "b:c"⟩ := by
  rw [read?_basicHeader]
  decide

end Quadlink.Credentials
