import AccessGateway.Proofs.Proxy.FilteredHeaders
import AccessGateway.Proofs.Proxy.Outbound

/-!
# What the target cannot tell

The fields of a request reach the target name by name: what is sent under a name
depends on what the client sent under it and on the values of `Connection`.  So two
requests that agree but for fields that are stripped are sent alike, and under the
name of such a field there is only what the gateway sends anyway.
-/

namespace AccessGateway

/-- Two requests are the same, as far as they have fields with certain names. -/
structure OutboundRequest.AlikeOn (names : String → Prop) (first second : OutboundRequest) :
    Prop where
  method_eq : first.method = second.method
  url_eq : first.url = second.url
  body_eq : first.body = second.body
  values_eq : ∀ name, names name → first.headers.values name = second.headers.values name

/-- The names of the fields that are not passed on because of the settings, and of those with the
host and the length. -/
def hiddenNames (settings : ProxySettings) (tokenHeader : String) : List String :=
  "host" :: "content-length" ::
    (tokenHeader :: settings.stripHeaders).map fun name => Text.Ascii.lower (Text.trim name)

/-- Under one name two lists of fields have the same values. -/
def Headers.AgreeOn (name : String) (first second : Headers) : Prop :=
  first.values name = second.values name

namespace Headers.AgreeOn

variable {name : String} {first second : Headers}

theorem append (given : Headers) (h : AgreeOn name first second) :
    AgreeOn name (given ++ first) (given ++ second) := by
  rw [AgreeOn, values_append, values_append, h]

theorem set (h : AgreeOn name first second) (other value : String) :
    AgreeOn name (first.set other value) (second.set other value) := by
  by_cases hother : name = other
  · subst hother
    rw [AgreeOn, values_set_self, values_set_self]
  · rw [AgreeOn, values_set_of_ne value hother, values_set_of_ne value hother, h]

theorem first?_eq (h : AgreeOn name first second) : first.first? name = second.first? name := by
  rw [first?_eq_head?_values, first?_eq_head?_values, h]

theorem inject (h : AgreeOn name first second) (trace : TraceContext) :
    AgreeOn name (trace.inject first) (trace.inject second) := by
  unfold TraceContext.inject
  split
  · exact h
  · dsimp only
    split
    · exact h.set _ _
    · exact (h.set _ _).set _ _

theorem withAccept (h : AgreeOn name first second) :
    AgreeOn name (RequestPlan.withAccept first) (RequestPlan.withAccept second) := by
  by_cases hname : name = "accept"
  · subst hname
    unfold RequestPlan.withAccept
    rw [h.first?_eq]
    split
    · exact h
    · rw [AgreeOn, values_append, values_append, h]
  · have hother : ∀ headers : Headers,
        (RequestPlan.withAccept headers).values name = headers.values name := by
      intro headers
      unfold RequestPlan.withAccept
      split
      · rfl
      · rw [values_append]
        simp [values, Ne.symm hname]
    rw [AgreeOn, hother, hother, h]

theorem joined (h : AgreeOn name first second) (replacing : Bool) (given : Headers) :
    AgreeOn name (RequestPlan.joined replacing given first)
      (RequestPlan.joined replacing given second) := by
  unfold RequestPlan.joined
  split
  · rw [AgreeOn, values_append, values_append,
      values_filter given fun other => (first.first? other).isNone,
      values_filter given fun other => (second.first? other).isNone, h.first?_eq, h]
  · exact h.append given

end Headers.AgreeOn

namespace Forwarder

variable {settings : ProxySettings} {tokenHeader : String} {forwarder : Forwarder}
  {first second : RelayedRequest}

theorem hiddenNames_eq (h : ofSettings settings tokenHeader = .ok forwarder) :
    "host" :: "content-length" :: forwarder.filter.stripped = hiddenNames settings tokenHeader := by
  rw [stripped_of_ofSettings h]
  rfl

theorem agreeOn_request (h : ofSettings settings tokenHeader = .ok forwarder)
    (hconnection : "connection" ∉ hiddenNames settings tokenHeader)
    (hheaders : ∀ name, name ∉ hiddenNames settings tokenHeader →
      Headers.AgreeOn name first.headers second.headers) (name : String) :
    Headers.AgreeOn name (forwarder.filter.request first.headers)
      (forwarder.filter.request second.headers) := by
  have hlisted := HopByHop.listed_of_values (hheaders "connection" hconnection)
  rw [Headers.AgreeOn, HeaderFilter.values_request, HeaderFilter.values_request, hlisted,
    hiddenNames_eq h]
  split
  · rfl
  next hpassed => exact hheaders name fun hhidden => hpassed (.inl hhidden)

theorem agreeOn_request_nil (h : ofSettings settings tokenHeader = .ok forwarder)
    (headers : Headers) {name : String} (hname : name ∈ hiddenNames settings tokenHeader) :
    Headers.AgreeOn name (forwarder.filter.request headers) (forwarder.filter.request []) := by
  rw [Headers.AgreeOn, HeaderFilter.values_request, HeaderFilter.values_request,
    hiddenNames_eq h, if_pos (.inl hname), if_pos (.inl hname)]

/-- What is sent for two requests that differ only in their fields is alike on every name under
which the same is passed on. -/
theorem rel_outbound? (first second : RelayedRequest) {names : String → Prop}
    (hmethod : first.method = second.method) (hquery : first.query = second.query)
    (hbody : first.body = second.body)
    (hnames : ∀ name, names name → Headers.AgreeOn name (forwarder.filter.request first.headers)
      (forwarder.filter.request second.headers))
    (path : String) (trace : TraceContext) :
    Option.Rel (OutboundRequest.AlikeOn names) (forwarder.outbound? first path trace)
      (forwarder.outbound? second path trace) := by
  rw [outbound?_eq, outbound?_eq, hmethod, hquery, hbody]
  cases (second.body.read forwarder.maxBodyBytes).toOption with
  | none => exact .none
  | some body =>
      cases (RequestPlan.destination (forwarder.targetUrl path second.query)).toOption with
      | none => exact .none
      | some reached =>
          refine .some ⟨rfl, rfl, rfl, fun name hname => ?_⟩
          exact (((hnames name hname).inject trace).joined true reached.2).withAccept

/-- The client's token does not reach the target.  If two requests agree but for fields that are
stripped, the same is sent for both; and under the name of such a field there is only what is sent
for a request without any fields. -/
theorem forward_hides_token (first second : RelayedRequest)
    (h : ofSettings settings tokenHeader = .ok forwarder)
    (hconnection : "connection" ∉ hiddenNames settings tokenHeader)
    (hmethod : first.method = second.method) (hquery : first.query = second.query)
    (hbody : first.body = second.body)
    (hheaders : ∀ name, name ∉ hiddenNames settings tokenHeader →
      first.headers.values name = second.headers.values name)
    (path : String) (trace : TraceContext) (network : Network) (served : Tally Nat) :
    let sent (request : RelayedRequest) :=
      (forwarder.forward network served request path trace).2.1.sent
    ∃ toFirst toSecond toBare : Option OutboundRequest,
      sent first = network.sent ++ toFirst.toList ∧
        sent second = network.sent ++ toSecond.toList ∧
        sent { first with headers := [] } = network.sent ++ toBare.toList ∧
        Option.Rel (OutboundRequest.AlikeOn fun _ => True) toFirst toSecond ∧
        Option.Rel (OutboundRequest.AlikeOn (· ∈ hiddenNames settings tokenHeader))
          toFirst toBare := by
  refine ⟨_, _, _, sent_forward _ _ _ _ _ _, sent_forward _ _ _ _ _ _,
    sent_forward _ _ _ _ _ _, ?_, ?_⟩
  · exact rel_outbound? first second hmethod hquery hbody
      (fun name _ => agreeOn_request h hconnection hheaders name) path trace
  · exact rel_outbound? first { first with headers := [] } rfl rfl rfl
      (fun name hname => agreeOn_request_nil h first.headers hname) path trace

/-- Two tokens in a field that `Connection` names as well, and none, are sent alike. -/
theorem forward_hides_token_of_mixed_case :
    let settings : ProxySettings :=
      { target := "http://127.0.0.1:1/base", stripHeaders := [" X-XSRF-Token "] }
    let first : RelayedRequest :=
      ⟨"GET", none, [("x-gateway-token", "Bearer a"), ("accept", "text/html"),
        ("x-gateway-token", "Bearer b"), ("connection", "X-Gateway-Token")], ""⟩
    let second : RelayedRequest :=
      ⟨"GET", none, [("connection", "X-Gateway-Token"), ("host", "gateway"),
        ("accept", "text/html")], ""⟩
    ∃ forwarder, ofSettings settings "X-Gateway-Token" = .ok forwarder ∧
      ∃ toFirst toSecond : Option OutboundRequest,
        (forwarder.forward .unreachable [] first "/ui").2.1.sent =
            Network.unreachable.sent ++ toFirst.toList ∧
          (forwarder.forward .unreachable [] second "/ui").2.1.sent =
            Network.unreachable.sent ++ toSecond.toList ∧
          Option.Rel (OutboundRequest.AlikeOn fun _ => True) toFirst toSecond := by
  intro settings first second
  have htoken : Headers.name? (Text.trim "X-Gateway-Token") = some "x-gateway-token" := by
    decide +kernel
  have hxsrf : Headers.name? (Text.trim " X-XSRF-Token ") = some "x-xsrf-token" := by
    decide +kernel
  have hfilter : HeaderFilter.ofNames "X-Gateway-Token" settings.stripHeaders =
      .ok ⟨["x-gateway-token", "x-xsrf-token"]⟩ := by
    simp only [HeaderFilter.ofNames, List.mapM_cons, HeaderFilter.stripName, settings, htoken,
      hxsrf]
    rfl
  have hsettings : ofSettings settings "X-Gateway-Token" =
      .ok ⟨Text.dropTrailing '/' settings.target, ⟨["x-gateway-token", "x-xsrf-token"]⟩,
        settings.maxBodyBytes⟩ := by
    simp only [ofSettings, hfilter]
  have hheaders : ∀ name, name ∉ hiddenNames settings "X-Gateway-Token" →
      first.headers.values name = second.headers.values name := by
    intro name hname
    have hnotToken : "x-gateway-token" ≠ name := by
      rintro rfl
      exact hname (by decide +kernel)
    have hnotHost : "host" ≠ name := by
      rintro rfl
      exact hname (by decide +kernel)
    simp only [first, second, Headers.values, List.filter_cons, List.filter_nil, beq_iff_eq,
      if_neg hnotToken, if_neg hnotHost]
    by_cases haccept : "accept" = name
    · subst haccept
      rfl
    · simp only [if_neg haccept]
  obtain ⟨toFirst, toSecond, -, hfirst, hsecond, -, halike, -⟩ :=
    forward_hides_token first second hsettings (by decide +kernel) rfl rfl rfl hheaders "/ui"
      .untraced .unreachable []
  exact ⟨_, hsettings, toFirst, toSecond, hfirst, hsecond, halike⟩

end Forwarder

end AccessGateway
