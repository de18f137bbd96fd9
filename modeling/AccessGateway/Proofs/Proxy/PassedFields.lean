import AccessGateway.Proofs.Proxy.FilteredHeaders

/-!
# Exactly the fields that are passed on

Which names are held back in either direction is said without the filter: by the
fixed list, by what the values of `Connection` name, and by the settings, letter
case and blanks around a name not counting.  Under every other name all values
are passed on, in their order.
-/

namespace AccessGateway

open Text HeaderFilter

namespace Headers

/-- Every field has a name that is one, in lower case. -/
def Named (headers : Headers) : Prop := ∀ field ∈ headers, name? field.1 = some field.1

/-- Fields of which those with certain names are left, with all their values, and no others. -/
def Keeps (names : String → Prop) (before after : Headers) : Prop :=
  ∀ name, (names name → after.values name = before.values name) ∧
    (¬ names name → after.values name = [])

variable {headers : Headers} {name : String}

theorem lower_of_name? (h : name? name = some name) : Ascii.lower name = name ∧ name ≠ "" := by
  unfold name? at h
  split at h
  · cases h
  next hvalid =>
    refine ⟨Option.some.inj h, ?_⟩
    rintro rfl
    exact hvalid rfl

/-- Under a text that is no name there is nothing. -/
theorem Named.values_eq_nil (h : headers.Named) (hname : name? name ≠ some name) :
    headers.values name = [] := by
  rw [values, List.map_eq_nil_iff, List.filter_eq_nil_iff]
  intro field hfield heq
  have hvalid := h field hfield
  rw [eq_of_beq heq] at hvalid
  exact hname hvalid

/-- The fields that pass a test of their names are left. -/
theorem Named.keeps_of_values {after : Headers} {names dropped : String → Prop}
    [DecidablePred dropped] (h : headers.Named)
    (hnames : ∀ name, name? name = some name → (names name ↔ ¬ dropped name))
    (hvalues : ∀ name, after.values name = if dropped name then [] else headers.values name) :
    Keeps names headers after := by
  intro name
  rw [hvalues name]
  by_cases hname : name? name = some name
  · rw [hnames name hname, Classical.not_not]
    exact ⟨fun hpassed => if_neg hpassed, fun hdropped => if_pos hdropped⟩
  · rw [h.values_eq_nil hname, ite_self]
    exact ⟨fun _ => rfl, fun _ => rfl⟩

end Headers

/-- Some value of `Connection` has a name among the items between its commas. -/
def HopByHop.Lists (headers : Headers) (name : String) : Prop :=
  ∃ value ∈ headers.values "connection", ∃ item ∈ split ',' value,
    Ascii.equalIgnoringCase (trim item) name = true

theorem HopByHop.mem_listed_iff {headers : Headers} {name : String}
    (hvisible : ∀ value ∈ headers.values "connection", Headers.isVisible value = true)
    (hname : Headers.name? name = some name) : name ∈ listed headers ↔ Lists headers name := by
  obtain ⟨hlower, hne⟩ := Headers.lower_of_name? hname
  have hitem : ∀ value ∈ headers.values "connection",
      name ∈ listedIn value ↔
        ∃ item ∈ split ',' value, Ascii.equalIgnoringCase (trim item) name = true := by
    intro value hvalue
    rw [listedIn, if_pos (hvisible value hvalue), List.mem_filter, List.mem_map]
    simp only [Ascii.equalIgnoringCase, hlower, beq_iff_eq]
    exact and_iff_left (by simpa using hne)
  rw [listed, List.mem_flatMap]
  exact exists_congr fun value => and_congr_right (hitem value)

/-- The fields of a name are held back in both directions. -/
inductive Withheld (settings : ProxySettings) (tokenHeader : String) (headers : Headers)
    (name : String) : Prop where
  | hopByHop (h : name ∈ HopByHop.names)
  | listed (h : HopByHop.Lists headers name)
  | length (h : name = "content-length")
  | stripped {configured : String} (hmem : configured ∈ tokenHeader :: settings.stripHeaders)
      (h : Ascii.equalIgnoringCase (trim configured) name = true)

namespace Forwarder

variable {settings : ProxySettings} {tokenHeader : String} {forwarder : Forwarder}
  {headers : Headers} {name : String}

theorem mem_stripped_iff (h : ofSettings settings tokenHeader = .ok forwarder)
    (hname : Headers.name? name = some name) :
    name ∈ forwarder.filter.stripped ↔ ∃ configured ∈ tokenHeader :: settings.stripHeaders,
      Ascii.equalIgnoringCase (trim configured) name = true := by
  rw [stripped_of_ofSettings h, List.mem_map]
  simp only [Ascii.equalIgnoringCase, (Headers.lower_of_name? hname).1, beq_iff_eq]

theorem withheld_iff (h : ofSettings settings tokenHeader = .ok forwarder)
    (hvisible : ∀ value ∈ headers.values "connection", Headers.isVisible value = true)
    (hname : Headers.name? name = some name) :
    Withheld settings tokenHeader headers name ↔
      name ∈ "content-length" :: forwarder.filter.stripped ∨
        name ∈ HopByHop.names ++ HopByHop.listed headers := by
  rw [List.mem_cons, List.mem_append, HopByHop.mem_listed_iff hvisible hname,
    mem_stripped_iff h hname]
  constructor
  · rintro (hhop | hlists | hlength | ⟨hmem, hsame⟩)
    · exact .inr (.inl hhop)
    · exact .inr (.inr hlists)
    · exact .inl (.inl hlength)
    · exact .inl (.inr ⟨_, hmem, hsame⟩)
  · rintro ((hlength | ⟨configured, hmem, hsame⟩) | hhop | hlists)
    · exact .length hlength
    · exact .stripped hmem hsame
    · exact .hopByHop hhop
    · exact .listed hlists

/-- A request loses exactly the fields that are held back and those with the host, an answer
exactly the fields that are held back.  All others keep all their values in their order. -/
theorem keeps_passed (h : ofSettings settings tokenHeader = .ok forwarder)
    (hnamed : headers.Named)
    (hvisible : ∀ value ∈ headers.values "connection", Headers.isVisible value = true) :
    Headers.Keeps (fun name => ¬ Withheld settings tokenHeader headers name ∧ name ≠ "host")
        headers (forwarder.filter.request headers) ∧
      Headers.Keeps (fun name => ¬ Withheld settings tokenHeader headers name)
        headers (forwarder.filter.response headers) := by
  constructor
  · refine hnamed.keeps_of_values ?_ (HeaderFilter.values_request forwarder.filter headers)
    intro name hname
    rw [withheld_iff h hvisible hname, ← not_or, or_comm, ← or_assoc, ← List.mem_cons]
  · refine hnamed.keeps_of_values ?_ (HeaderFilter.values_response forwarder.filter headers)
    intro name hname
    rw [withheld_iff h hvisible hname]

/-- Two fields of one name pass, and `Connection` names the token's field and another one twice. -/
theorem keeps_passed_of_cookies :
    let settings : ProxySettings :=
      { target := "http://127.0.0.1:1", stripHeaders := [" X-XSRF-Token "] }
    let headers : Headers :=
      [("connection", "close, ,\tX-Trace-Hop"), ("set-cookie", "a=1"), ("x-trace-hop", "1"),
        ("host", "gateway"), ("x-gateway-token", "t"), ("set-cookie", "b=2"),
        ("x-xsrf-token", "x"), ("connection", "X-GATEWAY-token ,,x-trace-hop")]
    ∃ forwarder, ofSettings settings "X-Gateway-Token" = .ok forwarder ∧
      ((forwarder.filter.request headers).values "set-cookie" = ["a=1", "b=2"] ∧
        (forwarder.filter.request headers).values "x-trace-hop" = [] ∧
        (forwarder.filter.request headers).values "host" = []) ∧
      (forwarder.filter.response headers).values "host" = ["gateway"] ∧
        (forwarder.filter.response headers).values "x-gateway-token" = [] := by
  intro settings headers
  have htoken : Headers.name? (trim "X-Gateway-Token") = some "x-gateway-token" := by
    decide +kernel
  have hxsrf : Headers.name? (trim " X-XSRF-Token ") = some "x-xsrf-token" := by decide +kernel
  have hsettings : ofSettings settings "X-Gateway-Token" =
      .ok ⟨dropTrailing '/' settings.target, ⟨["x-gateway-token", "x-xsrf-token"]⟩,
        settings.maxBodyBytes⟩ := by
    simp only [ofSettings, ofNames, List.mapM_cons, stripName, settings, htoken, hxsrf]
    rfl
  have hnamed : ∀ field ∈ headers, Headers.name? field.1 = some field.1 := by decide +kernel
  have hvisible : ∀ value ∈ headers.values "connection", Headers.isVisible value = true := by
    decide +kernel
  have hlisted : HopByHop.listed headers =
      ["close", "x-trace-hop", "x-gateway-token", "x-trace-hop"] := by decide +kernel
  have hheld : ∀ name, Headers.name? name = some name →
      (Withheld settings "X-Gateway-Token" headers name ↔
        name ∈ ["content-length", "x-gateway-token", "x-xsrf-token"] ∨
          name ∈ HopByHop.names ++
            ["close", "x-trace-hop", "x-gateway-token", "x-trace-hop"]) := by
    intro name hname
    rw [withheld_iff hsettings hvisible hname, hlisted]
  have hcookies : headers.values "set-cookie" = ["a=1", "b=2"] := by decide +kernel
  have hhost : headers.values "host" = ["gateway"] := by decide +kernel
  obtain ⟨hrequest, hresponse⟩ := keeps_passed hsettings hnamed hvisible
  refine ⟨_, hsettings, ⟨?_, ?_, ?_⟩, ?_, ?_⟩
  · have hpassed := mt (hheld "set-cookie" (by decide +kernel)).mp (by decide +kernel)
    exact ((hrequest "set-cookie").1 ⟨hpassed, by decide +kernel⟩).trans hcookies
  · have htraceHop := (hheld "x-trace-hop" (by decide +kernel)).mpr (by decide +kernel)
    exact (hrequest "x-trace-hop").2 fun hpassed => hpassed.1 htraceHop
  · exact (hrequest "host").2 fun hpassed => hpassed.2 rfl
  · have hpassed := mt (hheld "host" (by decide +kernel)).mp (by decide +kernel)
    exact ((hresponse "host").1 hpassed).trans hhost
  · have htoken := (hheld "x-gateway-token" (by decide +kernel)).mpr (by decide +kernel)
    exact (hresponse "x-gateway-token").2 fun hpassed => hpassed htoken

end Forwarder

end AccessGateway
