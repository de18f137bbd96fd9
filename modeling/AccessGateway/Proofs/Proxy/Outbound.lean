import AccessGateway.Proofs.Http.Destinations
import AccessGateway.Proxy.Forwarder

/-!
# What a forwarder sends

For a request a forwarder sends one request or none.  Whether it sends one, and
where to, does not depend on the fields.
-/

namespace AccessGateway

namespace Forwarder

/-- The end of a URL that asks for a query. -/
def queryTail (query : Option String) : List Char :=
  match query with
  | some text => if text.isEmpty then [] else '?' :: text.toList
  | none => []

theorem queryTail_cases (query : Option String) :
    (query.getD "" = "" ∧ queryTail query = []) ∨
      ∃ text, query = some text ∧ text ≠ "" ∧ queryTail query = '?' :: text.toList := by
  cases query with
  | none => exact .inl ⟨rfl, rfl⟩
  | some text =>
      by_cases hempty : text.isEmpty = true
      · exact .inl ⟨by simpa using hempty, if_pos hempty⟩
      · exact .inr ⟨text, rfl, by simpa using hempty, if_neg hempty⟩

theorem toList_targetUrl (forwarder : Forwarder) (path : String) (query : Option String) :
    (forwarder.targetUrl path query).toList =
      forwarder.target.toList ++
        '/' :: ((Text.dropLeading '/' path).toList ++ queryTail query) := by
  unfold targetUrl queryTail
  cases query with
  | none => simp
  | some text =>
      dsimp only
      split <;> simp

/-- What is sent for a request, if anything is. -/
def outbound? (forwarder : Forwarder) (request : RelayedRequest) (path : String)
    (trace : TraceContext) : Option OutboundRequest :=
  match request.body.read forwarder.maxBodyBytes with
  | .error _ => none
  | .ok body => (forwarder.plan request body path trace).prepare.toOption

theorem outbound?_eq (forwarder : Forwarder) (request : RelayedRequest) (path : String)
    (trace : TraceContext) :
    forwarder.outbound? request path trace =
      (request.body.read forwarder.maxBodyBytes).toOption.bind fun body =>
        (RequestPlan.destination (forwarder.targetUrl path request.query)).toOption.map
          fun (bare, given) =>
            ⟨request.method, bare,
              RequestPlan.withAccept (RequestPlan.joined true given
                (trace.inject (forwarder.filter.request request.headers))), body⟩ := by
  unfold outbound?
  cases request.body.read forwarder.maxBodyBytes with
  | error reason => rfl
  | ok body =>
      dsimp only
      rw [plan, RequestPlan.prepare_eq]
      cases RequestPlan.destination (forwarder.targetUrl path request.query) <;> rfl

theorem exists_destination_of_outbound? {forwarder : Forwarder} {request : RelayedRequest}
    {path : String} {trace : TraceContext} {sent : OutboundRequest}
    (h : forwarder.outbound? request path trace = some sent) :
    ∃ given, RequestPlan.destination (forwarder.targetUrl path request.query) =
      .ok (sent.url, given) := by
  rw [outbound?_eq, Option.bind_eq_some_iff] at h
  obtain ⟨body, -, hsent⟩ := h
  cases hdestination : RequestPlan.destination (forwarder.targetUrl path request.query) with
  | error e =>
      rw [hdestination] at hsent
      cases hsent
  | ok reached =>
      rw [hdestination] at hsent
      cases hsent
      exact ⟨reached.2, rfl⟩

theorem sent_forward (forwarder : Forwarder) (network : Network) (served : Tally Nat)
    (request : RelayedRequest) (path : String) (trace : TraceContext) :
    (forwarder.forward network served request path trace).2.1.sent =
      network.sent ++ (forwarder.outbound? request path trace).toList := by
  unfold forward outbound?
  cases request.body.read forwarder.maxBodyBytes with
  | error reason => simp
  | ok body =>
      dsimp only
      rw [← (forwarder.plan request body path trace).sent_send network]
      split
      next heq => rw [heq]
      next heq => rw [heq]
      next heq => rw [heq]

/-- No reply is followed: what goes out is what is handed on, if its URL can stand on the wire. -/
theorem carried_forward (forwarder : Forwarder) (network : Network) (served : Tally Nat)
    (request : RelayedRequest) (path : String) (trace : TraceContext) :
    (forwarder.forward network served request path trace).2.1.carried =
      network.carried ++
        ((forwarder.outbound? request path trace).filter (·.url.isCarriable)).toList := by
  unfold forward outbound?
  cases request.body.read forwarder.maxBodyBytes with
  | error reason => simp
  | ok body =>
      have hcarried : ((forwarder.plan request body path trace).send network).2.carried =
          network.carried ++ ((forwarder.plan request body path trace).prepare.toOption.filter
            (·.url.isCarriable)).toList := by
        unfold RequestPlan.send
        cases (forwarder.plan request body path trace).prepare with
        | error e => simp [Except.toOption]
        | ok sent => exact (network.hand sent).carried_carry sent
      dsimp only
      rw [← hcarried]
      split
      next heq => rw [heq]
      next heq => rw [heq]
      next heq => rw [heq]

end Forwarder

end AccessGateway
