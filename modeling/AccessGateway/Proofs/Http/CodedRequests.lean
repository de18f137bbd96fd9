import AccessGateway.Http.Client
import AccessGateway.Proofs.Url.CodedSegments

/-!
# Requests that name things in their path

A request that is planned for a site with coded texts below its base is sent or not
whatever the texts are, and has the same authority and fields for all of them.  The
texts are told by the path alone.
-/

namespace AccessGateway.RequestPlan

open Url

/-- The authority and the fields of requests to a site, if they can be sent. -/
def access? (site : Site) (replacing : Bool) (given : Option Headers) :
    Option (Authority × Headers) :=
  match parseAuthority site.schemeName site.authority, given with
  | .ok authority, some headers =>
    let place : Url := ⟨site.schemeName, some authority, .segments [], none, none⟩
    if place.hasHost then
      some ({ authority with userInfo := "" }, withAccept (joined replacing (urlFields place) headers))
    else none
  | _, _ => none

/-- The place that coded texts lead to from the base of a site. -/
def placeOf (site : Site) (authority : Authority) (texts : List String) : Url :=
  ⟨site.schemeName, some authority,
    .segments (resolveAfter site.segments.reverse (texts.map Text.Percent.encode)), none, none⟩

theorem prepare_of_coded {plan : RequestPlan} {site : Site} {first : String}
    {others : List String}
    (hurl : plan.url.toList = site.text ++ codedPath (first :: others)) :
    plan.prepare.toOption =
      (access? site plan.replacing plan.headers).map fun access =>
        ⟨plan.method, placeOf site access.1 (first :: others), access.2, plan.body⟩ := by
  have hscheme : ¬ (site.schemeName ≠ "http" ∧ site.schemeName ≠ "https") := by
    rcases site.scheme_eq with h | h <;> simp [Site.schemeName, h]
  unfold prepare access?
  rw [site.parse_coded hurl]
  cases parseAuthority site.schemeName site.authority with
  | error e => rfl
  | ok authority =>
      dsimp only [Except.map]
      cases hhost : authority.host != .domain "" with
      | false => cases plan.headers <;> simp [hasHost, hhost, Except.toOption]
      | true =>
          cases plan.headers with
          | none => simp [hasHost, hhost, Except.toOption]
          | some headers =>
              simp only [hasHost, hhost, hscheme, Bool.not_true, Bool.false_eq_true, if_false,
                if_true]
              rfl

theorem placeOf_of_ordinary {site : Site} {authority : Authority} {texts : List String}
    (h : ∀ text ∈ texts, text ≠ "." ∧ text ≠ "..") :
    (placeOf site authority texts).path =
      .segments (site.segments ++ texts.map Text.Percent.encode) := by
  have hordinary : ∀ segment ∈ texts.map Text.Percent.encode, isOrdinary segment = true := by
    intro segment hsegment
    obtain ⟨text, htext, rfl⟩ := List.mem_map.mp hsegment
    exact isOrdinary_encode (h text htext)
  rw [placeOf, resolveAfter_of_ordinary hordinary, List.reverse_reverse]

theorem placeOf_injective {site : Site} {authority : Authority} {first second : List String}
    (hfirst : ∀ text ∈ first, text ≠ "." ∧ text ≠ "..")
    (hsecond : ∀ text ∈ second, text ≠ "." ∧ text ≠ "..")
    (h : placeOf site authority first = placeOf site authority second) :
    first = second := by
  have hpath := congrArg Url.path h
  rw [placeOf_of_ordinary hfirst, placeOf_of_ordinary hsecond] at hpath
  have hcodes := List.append_cancel_left (UrlPath.segments.inj hpath)
  exact (List.map_inj_right fun _ _ => Text.Percent.encode_injective).mp hcodes

end AccessGateway.RequestPlan
