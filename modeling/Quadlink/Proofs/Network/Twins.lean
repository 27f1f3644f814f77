import Mathlib.Data.List.Forall2
import Quadlink.Network.Failover
import Quadlink.Network.Script
import Quadlink.Proofs.Http.Lookup

/-!
# Twin rounds

Two links on which the same goes on, but for what some headers say. A network that is blind to
headers answers on both alike (`Network.IsBlind`), so a round takes the same course on both: it has
the same outcome, makes the same waits, and its requests correspond one by one
(`Failover.execute_twins`). Which requests correspond is up to the relation `R`, which is a
parameter throughout.
-/

namespace Quadlink

variable {σ : Type}

/-! ## Requests -/

namespace Request

def SameButHeaders (a b : Request) : Prop := b = { a with headers := b.headers }

/-- Requests that differ in nothing but the value of one header. Both have it, or neither does:
otherwise the number of headers would give something away. -/
structure SameBut (name : String) (a b : Request) : Prop where
  rest : a.SameButHeaders b
  present : b.headers.contains name = a.headers.contains name
  others : ∀ other, Text.lower other ≠ Text.lower name →
    b.headers.get? other = a.headers.get? other

variable {a b : Request} {name : String}

theorem SameBut.refl (name : String) (a : Request) : a.SameBut name a := ⟨rfl, rfl, fun _ _ => rfl⟩

theorem sameBut_withHeader (a : Request) (name value value' : String) :
    (a.withHeader name value).SameBut name (a.withHeader name value') where
  rest := rfl
  present := by simp [Headers.contains]
  others other hother := by simp [hother]

theorem SameBut.withHeader (h : a.SameBut name b) (key value : String) :
    (a.withHeader key value).SameBut name (b.withHeader key value) where
  rest := by
    rw [SameButHeaders, h.rest]
    rfl
  present := by
    have hpresent := h.present
    simp only [Headers.contains, withHeader_headers, Headers.get?_insert] at hpresent ⊢
    split
    · rfl
    · exact hpresent
  others other hother := by
    simp only [withHeader_headers, Headers.get?_insert, h.others other hother]

end Request

/-! ## Links -/

/-- A network that does not look at headers: what it answers in states that are alike is the same,
and leads to states that are alike. States may differ in what a network has only noted down. -/
structure Network.IsBlind (net : Network σ) (alike : σ → σ → Prop) : Prop where
  outcome : ∀ {endpoint : Endpoint} {a b : Request} {s t : σ}, a.SameButHeaders b → alike s t →
    (net.send endpoint a s).1 = (net.send endpoint b t).1
  state : ∀ {endpoint : Endpoint} {a b : Request} {s t : σ}, a.SameButHeaders b → alike s t →
    alike (net.send endpoint a s).2 (net.send endpoint b t).2

/-- Events that correspond: the same wait, or requests to one endpoint that do. -/
inductive Event.Twins (R : Endpoint → Request → Request → Prop) : Event → Event → Prop where
  | sent {endpoint : Endpoint} {a b : Request} (h : R endpoint a b) :
      Twins R (.sent endpoint a) (.sent endpoint b)
  | waited (span : Duration) : Twins R (.waited span) (.waited span)

structure Link.Twins (alike : σ → σ → Prop) (R : Endpoint → Request → Request → Prop)
    (link other : Link σ) : Prop where
  state : alike link.state other.state
  log : List.Forall₂ (Event.Twins R) link.log other.log

/-- Results with one outcome, where what comes with it corresponds. -/
structure SameOutcome {α β : Type} (R : β → β → Prop) (a b : α × β) : Prop where
  outcome : a.1 = b.1
  rest : R a.2 b.2

section

variable {net : Network σ} {alike : σ → σ → Prop} {R : Endpoint → Request → Request → Prop}
  {link other : Link σ} {policy : RetryPolicy} {endpoint : Endpoint} {a b : Request}

theorem Link.Twins.wait (h : link.Twins alike R other) (span : Duration) :
    (link.wait span).Twins alike R (other.wait span) := by
  unfold Link.wait
  split
  · exact h
  · exact ⟨h.state, List.rel_append h.log (.cons (.waited span) .nil)⟩

variable (hblind : net.IsBlind alike) (hsame : a.SameButHeaders b)
include hblind hsame

theorem Link.Twins.send (h : link.Twins alike R other) (hR : R endpoint a b) :
    SameOutcome (Link.Twins alike R) (link.send net endpoint a) (other.send net endpoint b) where
  outcome := hblind.outcome hsame h.state
  rest := ⟨hblind.state hsame h.state, List.rel_append h.log (.cons (.sent hR) .nil)⟩

theorem tryEndpoint_twins (hR : R endpoint a b) (attempt more : Nat)
    (h : link.Twins alike R other) :
    SameOutcome (Link.Twins alike R) (tryEndpoint net policy endpoint a attempt more link)
      (tryEndpoint net policy endpoint b attempt more other) := by
  induction more generalizing attempt link other with
  | zero =>
      obtain ⟨houtcome, hlinks⟩ := h.send hblind hsame hR
      exact ⟨congrArg policy.judge houtcome, hlinks⟩
  | succ more ih =>
      have hsend := h.send hblind hsame hR
      rw [tryEndpoint, tryEndpoint]
      generalize link.send net endpoint a = first at hsend ⊢
      generalize other.send net endpoint b = second at hsend ⊢
      obtain ⟨outcome, next⟩ := first
      obtain ⟨_, next'⟩ := second
      obtain ⟨rfl, hlinks⟩ := hsend
      dsimp only
      cases policy.judge outcome with
      | ok response => exact ⟨rfl, hlinks⟩
      | error failure =>
          dsimp only
          split
          · exact ih (attempt + 1) (hlinks.wait _)
          · exact ⟨rfl, hlinks⟩

theorem tryEndpoints_twins {rest : List Endpoint} (hR : ∀ e ∈ endpoint :: rest, R e a b)
    (h : link.Twins alike R other) :
    SameOutcome (Link.Twins alike R) (tryEndpoints net policy a endpoint rest link)
      (tryEndpoints net policy b endpoint rest other) := by
  induction rest generalizing endpoint link other with
  | nil => exact tryEndpoint_twins hblind hsame (hR endpoint List.mem_cons_self) 1 _ h
  | cons next rest ih =>
      have hround : SameOutcome (Link.Twins alike R) (roundAt net policy endpoint a link)
          (roundAt net policy endpoint b other) :=
        tryEndpoint_twins hblind hsame (hR endpoint List.mem_cons_self) 1 _ h
      rw [tryEndpoints, tryEndpoints]
      generalize roundAt net policy endpoint a link = first at hround ⊢
      generalize roundAt net policy endpoint b other = second at hround ⊢
      obtain ⟨outcome, link⟩ := first
      obtain ⟨_, other⟩ := second
      obtain ⟨rfl, hlinks⟩ := hround
      cases outcome with
      | ok response => exact ⟨rfl, hlinks⟩
      | error failure => exact ih (fun e he => hR e (List.mem_cons_of_mem _ he)) hlinks

/-- A round takes the same course on links that correspond. -/
theorem Failover.execute_twins {failover : Failover}
    (hR : ∀ e ∈ failover.endpoints.toList, R e a b) (h : link.Twins alike R other) :
    SameOutcome (Link.Twins alike R) (failover.execute net a link)
      (failover.execute net b other) :=
  tryEndpoints_twins hblind hsame hR h

end

/-! ## Scripted networks -/

/-- Scripts with the same replies left. What they have noted of the requests may differ, and no
reply depends on it. -/
structure Script.Alike (script other : Script) : Prop where
  queued : script.queued = other.queued
  always : script.always = other.always

/-- A script answers by URL and by the order in which requests arrive. -/
theorem Script.network_isBlind (refused : List (String × Failure)) :
    (network refused).IsBlind Script.Alike := by
  have hsend : ∀ {endpoint : Endpoint} {a b : Request} {s t : Script}, a.SameButHeaders b →
      s.Alike t → SameOutcome Script.Alike (send endpoint a s) (send endpoint b t) := by
    intro endpoint a b s t hsame halike
    have hpath : b.path = a.path := by rw [hsame]
    have hanswer : ∀ reply : Reply, reply.answer endpoint b = reply.answer endpoint a := by
      intro reply
      rw [hsame]
      rfl
    unfold send
    rw [hpath]
    cases endpoint.join a.path with
    | error failure => exact ⟨rfl, halike⟩
    | ok url =>
        simp only [next, ← halike.queued, ← halike.always]
        cases takeQueued (key url.text) s.queued with
        | none => exact ⟨(hanswer _).symm, halike.queued, halike.always⟩
        | some found =>
            obtain ⟨reply, queued⟩ := found
            exact ⟨(hanswer reply).symm, rfl, rfl⟩
  exact ⟨fun hsame halike => (hsend hsame halike).outcome,
    fun hsame halike => (hsend hsame halike).rest⟩

end Quadlink
