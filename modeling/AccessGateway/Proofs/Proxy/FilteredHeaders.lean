import AccessGateway.Proxy.Forwarder

/-!
# The fields a forwarder passes on

Under every name a request that is relayed carries all its values or none.  Which
names lose theirs depends on the settings and on the values of `Connection`.
-/

namespace AccessGateway

namespace HopByHop

theorem listed_of_values {first second : Headers}
    (h : first.values "connection" = second.values "connection") :
    listed first = listed second := by
  rw [listed, listed, h]

theorem values_drop (headers : Headers) (name : String) :
    (drop headers).values name =
      if name ∈ names ++ listed headers then [] else headers.values name := by
  rw [drop, Headers.values_filter headers fun name => !(names ++ listed headers).contains name]
  by_cases hname : name ∈ names ++ listed headers <;> simp [hname]

end HopByHop

namespace HeaderFilter

theorem stripName_eq_ok {name lower : String} (h : stripName name = .ok lower) :
    lower = Text.Ascii.lower (Text.trim name) := by
  unfold stripName Headers.name? at h
  split at h
  next found hfound =>
    split at hfound
    · cases hfound
    · cases hfound
      cases h
      rfl
  next => cases h

theorem mapM_stripName_eq_ok {names lowers : List String}
    (h : names.mapM stripName = .ok lowers) :
    lowers = names.map fun name => Text.Ascii.lower (Text.trim name) := by
  induction names generalizing lowers with
  | nil =>
      cases h
      rfl
  | cons name names ih =>
      rw [List.mapM_cons] at h
      cases hname : stripName name with
      | error e =>
          rw [hname] at h
          cases h
      | ok lower =>
          cases hnames : names.mapM stripName with
          | error e =>
              rw [hname, hnames] at h
              cases h
          | ok rest =>
              rw [hname, hnames] at h
              cases h
              rw [List.map_cons, stripName_eq_ok hname, ih hnames]

/-- The names that are stripped are the configured ones in lower case. -/
theorem stripped_of_ofNames {tokenHeader : String} {stripHeaders : List String}
    {filter : HeaderFilter} (h : ofNames tokenHeader stripHeaders = .ok filter) :
    filter.stripped =
      (tokenHeader :: stripHeaders).map fun name => Text.Ascii.lower (Text.trim name) := by
  unfold ofNames at h
  cases hnames : (tokenHeader :: stripHeaders).mapM stripName with
  | error e =>
      rw [hnames] at h
      cases h
  | ok lowers =>
      rw [hnames] at h
      cases h
      exact mapM_stripName_eq_ok hnames

theorem values_without (headers : Headers) (names : List String) (name : String) :
    (without headers names).values name = if name ∈ names then [] else headers.values name := by
  rw [without, Headers.values_filter headers fun name => !names.contains name]
  by_cases hname : name ∈ names <;> simp [hname]

/-- What passes a filter of either direction keeps its values under every name that is neither
hidden nor belongs to the connection. -/
theorem values_without_drop (headers : Headers) (hidden : List String) (name : String) :
    (without (HopByHop.drop headers) hidden).values name =
      if name ∈ hidden ∨ name ∈ HopByHop.names ++ HopByHop.listed headers then []
      else headers.values name := by
  rw [values_without, HopByHop.values_drop]
  by_cases hhidden : name ∈ hidden
  · rw [if_pos hhidden, if_pos (.inl hhidden)]
  · by_cases hhop : name ∈ HopByHop.names ++ HopByHop.listed headers
    · rw [if_neg hhidden, if_pos hhop, if_pos (.inr hhop)]
    · rw [if_neg hhidden, if_neg hhop, if_neg (not_or.mpr ⟨hhidden, hhop⟩)]

theorem values_request (filter : HeaderFilter) (headers : Headers) (name : String) :
    (filter.request headers).values name =
      if name ∈ "host" :: "content-length" :: filter.stripped ∨
          name ∈ HopByHop.names ++ HopByHop.listed headers then []
      else headers.values name :=
  values_without_drop headers _ name

theorem values_response (filter : HeaderFilter) (headers : Headers) (name : String) :
    (filter.response headers).values name =
      if name ∈ "content-length" :: filter.stripped ∨
          name ∈ HopByHop.names ++ HopByHop.listed headers then []
      else headers.values name :=
  values_without_drop headers _ name

end HeaderFilter

theorem Forwarder.stripped_of_ofSettings {settings : ProxySettings} {tokenHeader : String}
    {forwarder : Forwarder} (h : ofSettings settings tokenHeader = .ok forwarder) :
    forwarder.filter.stripped =
      (tokenHeader :: settings.stripHeaders).map fun name => Text.Ascii.lower (Text.trim name) := by
  unfold ofSettings at h
  split at h
  next => cases h
  next filter hfilter =>
    cases h
    exact HeaderFilter.stripped_of_ofNames hfilter

end AccessGateway
