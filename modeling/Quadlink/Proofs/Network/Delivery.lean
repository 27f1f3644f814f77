import Quadlink.Content.QueryResult
import Quadlink.Network.Failover
import Quadlink.Proofs.Text.Utf8

/-!
# How bodies come

A body is there as a whole or comes in pieces, and a server may choose how to cut it. All that is
made of a response depends on its bytes alone: `ResponseBody.drain_eq` says that collecting pieces
gives their concatenation, or the failure they end with, and responses with the same bytes have the
same text, mean the same failure (`SameContent.failureOf_eq`) and take the same course through a
round (`Failover.execute_agree`). `delivery_does_not_matter` puts this together with what a read
gives.
-/

namespace Quadlink

/-! ## Collecting pieces -/

namespace ResponseBody

/-- Pieces are put together behind what has come in so far, by an induction on them; a failure at
the end takes the place of all. -/
theorem drain_eq (ending : Option Failure) (soFar : Bytes) (chunks : List Bytes) :
    drain ending soFar chunks
      = match ending with
        | none => .ok (soFar ++ chunks.flatten)
        | some failure => .error failure := by
  induction chunks generalizing soFar with
  | nil => cases ending <;> simp [drain]
  | cons chunk rest ih =>
      rw [drain, ih]
      cases ending <;> simp

@[simp] theorem bytes_pieces (chunks : List Bytes) :
    (streamed chunks none).bytes = .ok chunks.flatten := by
  simp [bytes, drain_eq]

@[simp] theorem bytes_broken (chunks : List Bytes) (failure : Failure) :
    (streamed chunks (some failure)).bytes = .error failure := by
  simp [bytes, drain_eq]

end ResponseBody

/-! ## Responses with the same content -/

/-- Responses that differ in nothing but how their bodies come. A body that breaks off is not the
same as its front. -/
structure Response.SameContent (a b : Response) : Prop where
  endpoint : a.endpoint = b.endpoint
  status : a.status = b.status
  headers : a.headers = b.headers
  bytes : a.bytes = b.bytes

/-- Outcomes that agree: the same failure, or responses with the same content. -/
inductive OutcomesAgree : Except Failure Response → Except Failure Response → Prop where
  | error (failure : Failure) : OutcomesAgree (.error failure) (.error failure)
  | ok {a b : Response} (h : a.SameContent b) : OutcomesAgree (.ok a) (.ok b)

section

variable {a b : Response} {policy : RetryPolicy} {outcome outcome' : Except Failure Response}

namespace Response.SameContent

theorem text_eq (h : a.SameContent b) : a.text = b.text := by
  rw [text, h.bytes, text]

theorem json_eq (h : a.SameContent b) : a.json = b.json := by
  rw [json, h.bytes, json]

theorem errorText_eq (h : a.SameContent b) : a.errorText = b.errorText := by
  rw [errorText, h.bytes, errorText]

theorem failureOf_eq (h : a.SameContent b) : policy.failureOf a = policy.failureOf b := by
  rw [RetryPolicy.failureOf, h.endpoint, h.status, h.errorText_eq, RetryPolicy.failureOf]

end Response.SameContent

/-- Bodies with the same bytes, whole and in pieces. -/
theorem Response.sameContent_pieces (response : Response) (chunks : List Bytes) :
    SameContent { response with body := .streamed chunks none }
      { response with body := .buffered chunks.flatten } :=
  ⟨rfl, rfl, rfl, ResponseBody.bytes_pieces chunks⟩

/-! ## Rounds -/

/-- An attempt is judged by the content of the response. -/
theorem OutcomesAgree.judge (h : OutcomesAgree outcome outcome') (policy : RetryPolicy) :
    OutcomesAgree (policy.judge outcome) (policy.judge outcome') := by
  cases h with
  | error failure => exact .error failure
  | ok h =>
      rw [RetryPolicy.judge, RetryPolicy.judge, Response.isSuccess, Response.isSuccess, h.status,
        h.failureOf_eq]
      split
      · exact .ok h
      · exact .error _

end

variable {σ : Type}

/-- Networks that differ in nothing but how the bodies of their responses come, on every request and
in every state. -/
def Network.SameButDelivery (net other : Network σ) : Prop :=
  ∀ endpoint request state,
    OutcomesAgree (net.send endpoint request state).1 (other.send endpoint request state).1
      ∧ (net.send endpoint request state).2 = (other.send endpoint request state).2

structure RoundsAgree (first second : Except Failure Response × Link σ) : Prop where
  outcome : OutcomesAgree first.1 second.1
  link : first.2 = second.2

section

variable {net other : Network σ} {policy : RetryPolicy} {endpoint : Endpoint} {request : Request}

theorem Link.send_agree (h : net.SameButDelivery other) (endpoint : Endpoint)
    (request : Request) (link : Link σ) :
    RoundsAgree (link.send net endpoint request) (link.send other endpoint request) := by
  obtain ⟨houtcome, hstate⟩ := h endpoint request link.state
  refine ⟨houtcome, ?_⟩
  simp only [Link.send, hstate]

theorem tryEndpoint_agree (h : net.SameButDelivery other) (attempt more : Nat) (link : Link σ) :
    RoundsAgree (tryEndpoint net policy endpoint request attempt more link)
      (tryEndpoint other policy endpoint request attempt more link) := by
  induction more generalizing attempt link with
  | zero =>
      have hsend := Link.send_agree h endpoint request link
      exact ⟨hsend.outcome.judge policy, hsend.link⟩
  | succ more ih =>
      have hsend := Link.send_agree h endpoint request link
      rw [tryEndpoint, tryEndpoint]
      generalize link.send net endpoint request = first at hsend ⊢
      generalize link.send other endpoint request = second at hsend ⊢
      obtain ⟨outcome, next⟩ := first
      obtain ⟨outcome', _⟩ := second
      obtain ⟨houtcome, rfl⟩ := hsend
      have hjudge := houtcome.judge policy
      dsimp only at hjudge ⊢
      generalize policy.judge outcome = judged at hjudge ⊢
      generalize policy.judge outcome' = judged' at hjudge ⊢
      cases hjudge with
      | ok hsame => exact ⟨.ok hsame, rfl⟩
      | error failure =>
          dsimp only
          split
          · exact ih (attempt + 1) _
          · exact ⟨.error failure, rfl⟩

theorem tryEndpoints_agree (h : net.SameButDelivery other) (rest : List Endpoint)
    (link : Link σ) :
    RoundsAgree (tryEndpoints net policy request endpoint rest link)
      (tryEndpoints other policy request endpoint rest link) := by
  induction rest generalizing endpoint link with
  | nil => exact tryEndpoint_agree h 1 _ link
  | cons next rest ih =>
      have hround : RoundsAgree (roundAt net policy endpoint request link)
          (roundAt other policy endpoint request link) := tryEndpoint_agree h 1 _ link
      rw [tryEndpoints, tryEndpoints]
      generalize roundAt net policy endpoint request link = first at hround ⊢
      generalize roundAt other policy endpoint request link = second at hround ⊢
      obtain ⟨outcome, link⟩ := first
      obtain ⟨outcome', _⟩ := second
      obtain ⟨houtcome, rfl⟩ := hround
      cases houtcome with
      | ok hsame => exact ⟨.ok hsame, rfl⟩
      | error failure => exact ih link

/-- A round takes the same course, with the same failure at its end if there is one. -/
theorem Failover.execute_agree (h : net.SameButDelivery other) (failover : Failover)
    (request : Request) (link : Link σ) :
    RoundsAgree (failover.execute net request link) (failover.execute other request link) :=
  tryEndpoints_agree h _ link

end

/-! ## Reads -/

namespace QueryResult

variable {parsers : Parsers} {requested : String} {response : Response}

def typeOf (response : Response) (requested : String) : String :=
  response.contentType?.getD (MediaType.normalize requested)

/-- What a read gives of a text, if the type is not one that is handed on in pieces. The response
does not occur in it, so how its body came cannot matter. -/
def ofText (parsers : Parsers) (contentType body : String) : Except Failure QueryResult :=
  match parsers.get? contentType with
  | none => .ok (.text contentType body)
  | some parser => (parser.parse body).map .parsed

/-- The type alone decides whether a read hands the body on in pieces or makes something of its
text. -/
theorem ofResponse_eq :
    ofResponse parsers requested response
      = if parsers.isStreaming (typeOf response requested) then
          .ok (.stream (typeOf response requested) response.body.chunks.1 response.body.chunks.2)
        else response.text.bind (ofText parsers (typeOf response requested)) := by
  unfold ofResponse ofText Parsers.isStreaming typeOf
  dsimp only
  cases parsers.get? (response.contentType?.getD (MediaType.normalize requested)) with
  | none => cases response.text <;> rfl
  | some parser =>
      dsimp only [Option.any_some]
      split
      · rfl
      · cases response.text <;> rfl

end QueryResult

/-- However a body is cut, the same is made of it. A body in pieces has the bytes of the whole, and
so the same text, the same JSON value and the same failure if the status is an error. A read makes
the same of its text or hands the pieces on, and the media type alone decides which. A body that
breaks off is its failure, however much has come in, but for its status and for a reader who wants
pieces. Networks that differ in the delivery of bodies alone answer every round alike. -/
theorem delivery_does_not_matter (response : Response) (chunks : List Bytes) (parsers : Parsers)
    (requested : String) (policy : RetryPolicy) (net other : Network σ) :
    let whole : Response := { response with body := .buffered chunks.flatten }
    let pieces : Response := { response with body := .streamed chunks none }
    let type := QueryResult.typeOf response requested
    let read := QueryResult.ofResponse parsers requested
    (pieces.bytes = .ok chunks.flatten ∧ whole.bytes = .ok chunks.flatten
        ∧ pieces.text = whole.text ∧ pieces.json = whole.json)
      ∧ (∀ answer ∈ [pieces, whole], policy.failureOf answer
          = policy.classify response.endpoint response.status (Text.decodeLossy chunks.flatten))
      ∧ (parsers.isStreaming type = true →
          read pieces = .ok (.stream type chunks none)
            ∧ read whole = .ok (.stream type [chunks.flatten] none))
      ∧ (parsers.isStreaming type = false →
          ∀ answer ∈ [pieces, whole], read answer
            = whole.text.bind (QueryResult.ofText parsers type))
      ∧ (∀ failure,
          let broken : Response := { response with body := .streamed chunks (some failure) }
          broken.bytes = .error failure ∧ broken.text = .error failure
            ∧ broken.json = .error failure
            ∧ policy.failureOf broken = policy.classify response.endpoint response.status ""
            ∧ read broken = if parsers.isStreaming type then
                .ok (.stream type chunks (some failure)) else .error failure)
      ∧ (net.SameButDelivery other → ∀ (failover : Failover) request link,
          RoundsAgree (failover.execute net request link)
            (failover.execute other request link)) := by
  intro whole pieces type read
  have hsame : pieces.SameContent whole := response.sameContent_pieces chunks
  have hwhole : policy.failureOf whole
      = policy.classify response.endpoint response.status (Text.decodeLossy chunks.flatten) := rfl
  have hread : ∀ answer : Response, QueryResult.typeOf answer requested = type →
      read answer = if parsers.isStreaming type then
          .ok (.stream type answer.body.chunks.1 answer.body.chunks.2)
        else answer.text.bind (QueryResult.ofText parsers type) := by
    intro answer hanswer
    rw [← hanswer]
    exact QueryResult.ofResponse_eq
  refine ⟨⟨hsame.bytes, rfl, hsame.text_eq, hsame.json_eq⟩, ?_, fun htype => ?_, fun htype => ?_,
    fun failure => ?_, fun hnet failover request link => failover.execute_agree hnet request link⟩
  · simpa using ⟨hsame.failureOf_eq.trans hwhole, hwhole⟩
  · rw [hread pieces rfl, hread whole rfl, if_pos htype, if_pos htype]
    exact ⟨rfl, rfl⟩
  · have hnot : ¬parsers.isStreaming type = true := by simp [htype]
    rw [List.forall_mem_cons, List.forall_mem_singleton, hread pieces rfl, hread whole rfl,
      hsame.text_eq, if_neg hnot, if_neg hnot]
    exact ⟨rfl, rfl⟩
  · intro broken
    have hbytes : broken.bytes = .error failure := ResponseBody.bytes_broken chunks failure
    have htext : broken.text = .error failure := by rw [Response.text, hbytes]
    have hjson : broken.json = .error failure := by rw [Response.json, hbytes]
    refine ⟨hbytes, htext, hjson, ?_, ?_⟩
    · rw [RetryPolicy.failureOf, Response.errorText, hbytes]
    · rw [hread broken rfl, htext]
      rfl

/-- A letter of two bytes, cut between them. -/
def cutLetter : List Bytes := [[0xC3], [], [0xA9]]

/-- A network on which everything fails with a body that comes this way. -/
def failingWith (body : ResponseBody) : Network Unit where
  bind _ := .ok ()
  send endpoint _ _ := (.ok ⟨endpoint, 500, .empty, body⟩, ())

theorem failingWith_sameButDelivery (chunks : List Bytes) :
    (failingWith (.streamed chunks none)).SameButDelivery
      (failingWith (.buffered chunks.flatten)) :=
  fun endpoint _ _ =>
    ⟨.ok (Response.sameContent_pieces ⟨endpoint, 500, .empty, .buffered []⟩ chunks), rfl⟩

def localServer : Endpoint :=
  ⟨⟨"http", some ⟨"", none, .ipv6 [0, 0, 0, 0, 0, 0, 0, 1], some 7200⟩, .segments [""], none, none⟩⟩

/-- The letter is put together before it is read, also in the text of a failure; if the body breaks
off in the middle of it, nothing is read. -/
theorem delivery_does_not_matter_cut_letter :
    let response : Response := ⟨localServer, 200,
      .ofList [("Content-Type", "Text/Plain; charset=utf-8")], .streamed cutLetter none⟩
    let broken : Response := { response with body := .streamed [[0xC3]] (some (.parse .badBody)) }
    let failover : Failover := ⟨.single localServer, {}⟩
    response.text = .ok "é"
      ∧ QueryResult.ofResponse .standard "" response = .ok (.parsed (.raw "é"))
      ∧ broken.text = .error (.parse .badBody)
      ∧ QueryResult.ofResponse .standard "" broken = .error (.parse .badBody)
      ∧ RoundsAgree
          (failover.execute (failingWith (.streamed cutLetter none)) (.get "") ⟨(), []⟩)
          (failover.execute (failingWith (.buffered cutLetter.flatten)) (.get "") ⟨(), []⟩)
      ∧ (failover.execute (failingWith (.buffered cutLetter.flatten)) (.get "") ⟨(), []⟩).1
          = .error (.errorStatus localServer.text 500 "é") := by
  intro response broken failover
  have hletter : cutLetter.flatten = Text.encode "é" := rfl
  obtain ⟨⟨-, -, htext, -⟩, -, -, hread, -, hround⟩ := delivery_does_not_matter response cutLetter
    .standard "" {} (failingWith (.streamed cutLetter none))
    (failingWith (.buffered cutLetter.flatten))
  obtain ⟨-, -, -, -, hbroken, -⟩ := delivery_does_not_matter response [[0xC3]]
    .standard "" {} (failingWith (.streamed cutLetter none))
    (failingWith (.buffered cutLetter.flatten))
  obtain ⟨-, hbrokenText, -, -, hbrokenRead⟩ := hbroken (.parse .badBody)
  have hwhole : Response.text { response with body := .buffered cutLetter.flatten } = .ok "é" := by
    rw [Response.text, Response.bytes, ResponseBody.bytes, hletter]
    dsimp only
    rw [Text.decode_encode]
  have htype : QueryResult.typeOf response "" = "text/plain" := rfl
  have hplain : Parsers.standard.isStreaming "text/plain" = false := by decide
  have hparsed : QueryResult.ofResponse .standard "" response = .ok (.parsed (.raw "é")) := by
    have hparsed := hread (by rw [htype, hplain]) _ List.mem_cons_self
    rw [hwhole, htype] at hparsed
    exact hparsed.trans rfl
  have hnothing : QueryResult.ofResponse .standard "" broken = .error (.parse .badBody) := by
    rw [htype, hplain] at hbrokenRead
    exact hbrokenRead
  refine ⟨htext.trans hwhole, hparsed, hbrokenText, hnothing,
    hround (failingWith_sameButDelivery cutLetter) failover (.get "") ⟨(), []⟩, ?_⟩
  rw [hletter]
  show Except.error
    (Failure.errorStatus localServer.text 500 (Text.decodeLossy (Text.encode "é"))) = _
  rw [Text.decodeLossy_encode]

end Quadlink
