import AccessGateway.Proofs.Proxy.FilteredHeaders
import AccessGateway.Proofs.Proxy.Outbound
import AccessGateway.Proofs.Url.Targets

/-!
# What a hop comes to

A request whose body can be read is sent once to a URL below the target.  Whatever
comes back as a whole is relayed and counted, whether it tells of success, of failure or
of another place; an answer that does not come or breaks off is one error and is not
counted.
-/

namespace AccessGateway

open Url

namespace Url

/-- A text that is a URL of the web and ends where the URL does.  Reading a URL passes over blanks
behind it, but nothing can be appended after them. -/
structure IsTarget (text : String) (site : Url) : Prop where
  parse_eq : parse text = .ok site
  web : IsWeb site.scheme
  ends : ∀ c ∈ text.toList.getLast?, isPlain c = true

end Url

namespace Forwarder

variable {settings : ProxySettings} {tokenHeader : String} {forwarder : Forwarder} {site : Url}

theorem of_ofSettings (h : ofSettings settings tokenHeader = .ok forwarder) :
    forwarder.target = Text.dropTrailing '/' settings.target ∧
      forwarder.maxBodyBytes = settings.maxBodyBytes := by
  unfold ofSettings at h
  split at h
  · cases h
  · cases h
    exact ⟨rfl, rfl⟩

theorem exists_extension (h : ofSettings settings tokenHeader = .ok forwarder)
    (hsite : parse settings.target = .ok site) (hweb : IsWeb site.scheme) (path : String)
    (query : Option String) :
    Nonempty (Extension settings.target (forwarder.targetUrl path query) site
      ((Text.dropLeading '/' path).toList ++ queryTail query)) := by
  apply Url.exists_extension hsite hweb
  rw [toList_targetUrl, (of_ofSettings h).1]

/-- A request whose body can be read is sent, with its method and its body. -/
theorem exists_outbound? (h : ofSettings settings tokenHeader = .ok forwarder)
    (htarget : IsTarget settings.target site) {request : RelayedRequest} {body : List UInt8}
    (hbody : request.body.read settings.maxBodyBytes = .ok body) (path : String)
    (trace : TraceContext) :
    ∃ sent, forwarder.outbound? request path trace = some sent ∧
      sent.method = request.method ∧ sent.body = body ∧
        (parse (forwarder.targetUrl path request.query)).map withoutUserInfo = .ok sent.url := by
  obtain ⟨e⟩ := exists_extension h htarget.parse_eq htarget.web path request.query
  obtain ⟨url, hparse⟩ := e.exists_parse htarget.web (e.blanks_eq_nil htarget.ends)
  obtain ⟨hscheme, hauthority⟩ := e.authority_eq htarget.web hparse
  have hhost : url.hasHost = true := by
    have hsite := hasHost_of_parse htarget.parse_eq htarget.web
    unfold hasHost at hsite ⊢
    rwa [hauthority]
  have hdestination := RequestPlan.destination_of_parse hparse hhost (hscheme ▸ htarget.web)
  rw [outbound?_eq, (of_ofSettings h).2, hbody, hdestination]
  exact ⟨_, rfl, rfl, rfl, by rw [hparse]; rfl⟩

theorem isPlain_of_mem_queryTail {query : Option String}
    (h : ∀ text ∈ query, ∀ c ∈ text.toList, isQueryChar c = true) {c : Char}
    (hc : c ∈ queryTail query) : isPlain c = true := by
  rcases queryTail_cases query with ⟨-, hnil⟩ | ⟨text, htext, -, htail⟩
  · rw [hnil] at hc
    cases hc
  · rw [htail] at hc
    rcases List.mem_cons.mp hc with rfl | hmem
    · decide
    · have hchar := h text htext c hmem
      simp only [isQueryChar, Bool.and_eq_true] at hchar
      exact hchar.1

theorem dropWhile_queryTail (query : Option String) :
    (queryTail query).dropWhile (!endsPath ·) = queryTail query := by
  rcases queryTail_cases query with ⟨-, hnil⟩ | ⟨text, -, -, htail⟩
  · rw [hnil]
    rfl
  · rw [htail]
    rfl

/-- A URL with the authority of a site and a query behind its path leads to the site. -/
theorem leadsTo_of_parseTail {url : Url} {query : Option String}
    (hscheme : url.scheme = site.scheme) (hauthority : url.authority = site.authority)
    (hasked : ∀ text ∈ query, ∀ c ∈ text.toList, c ≠ '#')
    (htail : (url.query, url.fragment) = parseTail true (queryTail query)) :
    url.withoutUserInfo.LeadsTo site query := by
  have hhost : url.withoutUserInfo.host? = site.host? := by
    rw [host?, host?, Url.withoutUserInfo, hauthority, Option.map_map]
    rfl
  have hport : url.withoutUserInfo.port? = site.port? := by
    rw [port?, port?, Url.withoutUserInfo, hauthority, Option.bind_map]
    rfl
  rcases queryTail_cases query with ⟨hnothing, hnil⟩ | ⟨text, htext, hne, hask⟩
  · rw [hnil] at htail
    obtain ⟨hnone, hno⟩ := Prod.mk.inj htail
    refine ⟨hscheme, hhost, hport, ?_, fun _ => hnone, hno⟩
    rintro text htext hne
    rw [htext] at hnothing
    exact absurd hnothing hne
  · rw [hask, parseTail_of_query (hasked text htext), String.ofList_toList] at htail
    obtain ⟨hcoded, hno⟩ := Prod.mk.inj htail
    refine ⟨hscheme, hhost, hport, ?_, ?_, hno⟩
    · rintro other hother -
      cases htext.symm.trans hother
      exact ⟨_, hcoded, rfl, Text.Percent.decodeBytes_encodeWith keepsCodes_query text⟩
    · intro hnothing
      rw [htext] at hnothing
      exact absurd hnothing hne

/-- Wherever the path leads, and whatever is asked for, it is on the site of the target. -/
theorem leadsTo_of_outbound? (h : ofSettings settings tokenHeader = .ok forwarder)
    (hsite : parse settings.target = .ok site) (hweb : IsWeb site.scheme)
    (hquery : site.query = none) (hfragment : site.fragment = none) {request : RelayedRequest}
    {path : String} (hpath : ∀ c ∈ path.toList, isPathChar c = true)
    (hasked : ∀ text ∈ request.query, ∀ c ∈ text.toList, isQueryChar c = true)
    {trace : TraceContext} {sent : OutboundRequest}
    (hsent : forwarder.outbound? request path trace = some sent) :
    sent.url.LeadsTo site request.query := by
  obtain ⟨given, hdestination⟩ := exists_destination_of_outbound? hsent
  obtain ⟨url, hparse, hbare⟩ := RequestPlan.of_destination_eq_ok hdestination
  obtain ⟨e⟩ := exists_extension h hsite hweb path request.query
  obtain ⟨hscheme, hauthority⟩ := e.authority_eq hweb hparse
  have hdropped : ∀ c ∈ (Text.dropLeading '/' path).toList, isPathChar c = true := fun c hc =>
    hpath c (Text.mem_of_mem_dropLeading hc)
  have hpass : ∀ c ∈ (Text.dropLeading '/' path).toList, (!endsPath c) = true := by
    intro c hc
    have hchar := hdropped c hc
    simp only [isPathChar, Bool.and_eq_true, bne_iff_ne] at hchar
    simp [endsPath, hchar]
  have hmore : e.tail = (Text.dropLeading '/' path).toList ++ queryTail request.query := by
    apply e.tail_eq
    intro c hc
    rcases List.mem_append.mp hc with hc | hc
    · exact isPlain_of_isPathChar (hdropped c hc)
    · exact isPlain_of_mem_queryTail hasked hc
  have htail := e.parseTail_eq hweb hquery hfragment hparse
  rw [hmore, List.dropWhile_append_of_pos hpass, dropWhile_queryTail] at htail
  have hchars : ∀ text ∈ request.query, ∀ c ∈ text.toList, c ≠ '#' := by
    intro text htext c hc
    have hchar := hasked text htext c hc
    simp only [isQueryChar, Bool.and_eq_true, bne_iff_ne] at hchar
    exact hchar.2
  rw [hbare]
  exact leadsTo_of_parseTail hscheme hauthority hchars htail

/-- What a hop comes to when something comes back for the request. -/
inductive Outcome (filter : HeaderFilter) (served : Tally Nat) :
    Delivery → Except GatewayError RelayedAnswer → Tally Nat → Prop
  | relayed (status : Nat) (headers : Headers) (body : List UInt8) {counted : Tally Nat}
      (counts : ∀ other, counted.count other =
        served.count other + if other = status then 1 else 0) :
      Outcome filter served (.reply status headers (some body))
        (.ok ⟨status, filter.response headers, body⟩) counted
  | brokenOff (status : Nat) (headers : Headers) (reason : String) :
      Outcome filter served (.reply status headers none) (.error (.badGateway reason)) served
  | failed (reason : String) :
      Outcome filter served .failed (.error (.badGateway reason)) served

end Forwarder

end AccessGateway
