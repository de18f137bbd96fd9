import AccessGateway.Http.Client

/-!
# Where plans lead

Whether a plan becomes a request, and where that goes, depends on its URL alone, as long
as its fields can be sent.
-/

namespace AccessGateway.RequestPlan

/-- Where a request with a URL goes, and the fields the URL gives. -/
def destination (url : String) : Except SendError (Url × Headers) :=
  match Url.parse url with
  | .error _ => .error (.unplanned none)
  | .ok url =>
    if !url.hasHost then .error (.unplanned (some url))
    else if url.scheme ≠ "http" ∧ url.scheme ≠ "https" then
      .error (.unplanned (some url.withoutUserInfo))
    else .ok (url.withoutUserInfo, urlFields url)

theorem of_destination_eq_ok {text : String} {bare : Url} {given : Headers}
    (h : destination text = .ok (bare, given)) :
    ∃ url, Url.parse text = .ok url ∧ bare = url.withoutUserInfo := by
  unfold destination at h
  split at h
  · cases h
  next url hparse =>
    split at h
    · cases h
    · split at h <;> cases h
      exact ⟨url, hparse, rfl⟩

theorem destination_of_parse {text : String} {url : Url} (h : Url.parse text = .ok url)
    (hhost : url.hasHost = true) (hscheme : url.scheme = "http" ∨ url.scheme = "https") :
    destination text = .ok (url.withoutUserInfo, urlFields url) := by
  have hnot : ¬ (url.scheme ≠ "http" ∧ url.scheme ≠ "https") := fun hother =>
    hscheme.elim hother.1 hother.2
  unfold destination
  rw [h]
  dsimp only
  rw [hhost, if_neg hnot]
  rfl

theorem prepare_eq (method url : String) (headers : Headers) (body : List UInt8)
    (replacing : Bool) (redirects : RedirectPolicy) :
    prepare ⟨method, url, some headers, body, replacing, redirects⟩ =
      (destination url).map fun (bare, given) =>
        ⟨method, bare, withAccept (joined replacing given headers), body⟩ := by
  unfold prepare destination
  dsimp only
  cases Url.parse url with
  | error e => rfl
  | ok url =>
      dsimp only
      split
      · rfl
      · split <;> rfl

end AccessGateway.RequestPlan
