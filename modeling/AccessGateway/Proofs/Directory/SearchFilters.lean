import AccessGateway.Proofs.Directory.LoginDecisions
import AccessGateway.Proofs.Text.Marks
import AccessGateway.Proofs.Text.Separators

/-!
# Usernames in search filters

The directory is asked about a username only if it is a name, and a name holds none of the
characters that mean something in a filter.  So escaping does not change it, a search asks
for the template with the name itself in every marked place, and the structure of the filter
is the one of the template.  Different names have different filters, wherever the template
is marked, and different keys in the cache.
-/

namespace AccessGateway

namespace SearchFilter

/-- A character that could change the structure of a filter, or the one that ends the username in
a key of the cache. -/
def isStructural (c : Char) : Bool := ['(', ')', '*', '\\', '\x00', '|'].contains c

/-- The filter is the template with a text as it stands in every marked place. -/
def Fills (template value filter : String) : Prop :=
  ∃ cut : Text.Cut placeholder,
    template.toList = cut.fill placeholder ∧ filter.toList = cut.fill value.toList

theorem replaceAll_placeholder (cut : Text.Cut placeholder) (value : List Char) :
    Text.replaceAll placeholder value (cut.fill placeholder) = cut.fill value :=
  Text.replaceAll_fill (by decide) cut value

theorem fills_iff {template value filter : String} :
    Fills template value filter ↔
      filter.toList = Text.replaceAll placeholder value.toList template.toList := by
  constructor
  · rintro ⟨cut, htemplate, hfilter⟩
    rw [htemplate, replaceAll_placeholder]
    exact hfilter
  · intro hfilter
    have hmark : placeholder ≠ [] := by decide
    obtain ⟨cut, hcut⟩ := Text.Cut.exists_fill_eq hmark template.toList
    refine ⟨cut, hcut.symm, ?_⟩
    rw [hfilter, ← hcut, replaceAll_placeholder]

theorem escape_eq_self {s : String} (h : ∀ c ∈ s.toList, isStructural c = false) :
    escape s = s := by
  have hplain : ∀ c ∈ s.toList, escapeChar c = [c] := by
    intro c hc
    have hnone := h c hc
    simp only [isStructural, List.contains_eq_mem, List.mem_cons, List.not_mem_nil, or_false,
      decide_eq_false_iff_not, not_or] at hnone
    simp [escapeChar, isSpecial, hnone]
  rw [escape, ← String.toList_inj, String.toList_ofList, List.flatMap_congr hplain]
  simp

theorem fills_fill {value : String} (h : ∀ c ∈ value.toList, isStructural c = false)
    (template : String) : Fills template value (fill template value) := by
  rw [fills_iff, fill, escape_eq_self h, String.toList_ofList]

theorem Fills.filter_isStructural {template value filter : String}
    (h : Fills template value filter) (hvalue : ∀ c ∈ value.toList, isStructural c = false) :
    filter.toList.filter isStructural = template.toList.filter isStructural := by
  obtain ⟨cut, htemplate, hfilter⟩ := h
  have hnone : value.toList.filter isStructural = [] := by
    rw [List.filter_eq_nil_iff]
    intro c hc
    simp [hvalue c hc]
  have hmark : placeholder.filter isStructural = [] := by decide
  rw [htemplate, hfilter]
  exact cut.filter_fill (hnone.trans hmark.symm)

theorem Fills.eq_of_marked {template a b filter : String} (ha : Fills template a filter)
    (hb : Fills template b filter) (hmarked : placeholder <:+: template.toList) : a = b := by
  obtain ⟨cut, htemplate, hfilter⟩ := ha
  have hother : filter.toList = cut.fill b.toList := by
    rw [fills_iff.mp hb, htemplate, replaceAll_placeholder]
  have hplaces : cut.others ≠ [] := cut.others_ne_nil (htemplate ▸ hmarked)
  rw [← String.toList_inj]
  exact cut.eq_of_fill_eq hplaces (hfilter.symm.trans hother)

end SearchFilter

namespace Authenticator

open SearchFilter

theorem isStructural_of_isNameChar {c : Char} (h : IsNameChar c) : isStructural c = false := by
  rw [isStructural, List.contains_eq_mem, decide_eq_false_iff_not]
  intro hc
  simp only [List.mem_cons, List.not_mem_nil, or_false] at hc
  rw [← isUsernameChar_iff] at h
  rcases hc with rfl | rfl | rfl | rfl | rfl | rfl <;> exact absurd h (by decide)

theorem IsName.not_structural {username : String} (h : IsName username) :
    ∀ c ∈ username.toList, isStructural c = false :=
  fun c hc => isStructural_of_isNameChar (h.2 c hc)

/-- The first bar of a key stands behind the username, whatever the base is. -/
theorem eq_of_cacheKey_eq {auth other : Authenticator} {a b : String} (ha : IsName a)
    (hb : IsName b) (h : auth.cacheKey a = other.cacheKey b) : a = b := by
  have hbar : ∀ {name : String}, IsName name → '|' ∉ name.toList := by
    intro name hname hmem
    exact absurd (hname.not_structural '|' hmem) (by decide)
  have hkey : ∀ (auth : Authenticator) (name : String),
      (auth.cacheKey name).toList = name.toList ++ '|' :: (auth.baseDn ++ "|sub").toList := by
    intro auth name
    simp [cacheKey]
  have hcut := congrArg (fun key => Text.cutFirst? '|' key.toList) h
  simp only [hkey, Text.cutFirst?_append_cons _ (hbar ha), Text.cutFirst?_append_cons _ (hbar hb),
    Option.some.injEq, Prod.mk.injEq] at hcut
  exact String.toList_inj.mp hcut.1

end Authenticator

/-- A login in some state of the gateway and of its directory. -/
structure LoginAttempt (σ : Type) where
  auth : Authenticator
  connector : Connector σ
  directory : σ
  username : String
  password : String
  domain : Domain

namespace LoginAttempt

open Authenticator SearchFilter

variable {σ τ : Type}

/-- What the directory is asked. -/
def asked (attempt : LoginAttempt σ) : List DirectoryRequest :=
  (attempt.auth.authenticate attempt.connector.recorded (attempt.directory, []) attempt.username
    attempt.password attempt.domain).2.2.2

def filters (attempt : LoginAttempt σ) : List String :=
  attempt.asked.filterMap fun
    | .search _ filter => some filter
    | .bind _ _ => none

/-- Only a name is asked about, with one search unless an entry is kept. -/
theorem of_asked_ne_nil {attempt : LoginAttempt σ} (h : attempt.asked ≠ []) :
    IsName attempt.username ∧
      attempt.filters = if attempt.auth.kept? attempt.username = none then
        [attempt.auth.filterFor attempt.username] else [] := by
  obtain ⟨answer, outcome, asked, names, directoryAfter, htakes⟩ :=
    exists_takes attempt.auth attempt.connector attempt.directory attempt.username
      attempt.password attempt.domain
  have hasked : attempt.asked = asked := by rw [LoginAttempt.asked, htakes.recorded_eq]
  have hlookups : (attempt.auth.lookups attempt.username).filterMap (fun
      | .search _ filter => some filter
      | .bind _ _ => none) = if attempt.auth.kept? attempt.username = none then
        [attempt.auth.filterFor attempt.username] else [] := by
    unfold lookups lookup
    cases attempt.auth.kept? attempt.username <;> rfl
  rw [filters, hasked]
  rw [hasked] at h
  cases htakes.ends with
  | malformed => exact absurd rfl h
  | passwordless => exact absurd rfl h
  | unsearched hname => exact ⟨hname, hlookups⟩
  | undetermined hname => exact ⟨hname, hlookups⟩
  | unbound hname | rejected hname | accepted hname =>
      refine ⟨hname, ?_⟩
      rw [List.filterMap_append, hlookups]
      exact List.append_nil _

theorem fills_of_mem_filters {attempt : LoginAttempt σ} {filter : String}
    (h : filter ∈ attempt.filters) :
    Fills attempt.auth.filterTemplate attempt.username filter := by
  have hasked : attempt.asked ≠ [] := by
    intro hnone
    rw [filters, hnone] at h
    cases h
  obtain ⟨hname, hfilters⟩ := of_asked_ne_nil hasked
  rw [hfilters] at h
  split at h
  · rw [List.mem_singleton.mp h]
    exact fills_fill hname.not_structural _
  · cases h

/-- Whatever is kept and whatever the directory answers, a username that is let through to it
brings no structure into the filter: the template holds the username as it is in every marked
place.  Two of them never share a filter, if the template has a place for them, nor a key in the
cache. -/
theorem filters_fill_template {attempt : LoginAttempt σ} (h : attempt.asked ≠ []) :
    (∀ c ∈ attempt.username.toList, isStructural c = false) ∧
      escape attempt.username = attempt.username ∧
      (attempt.auth.kept? attempt.username = none → attempt.filters ≠ []) ∧
      (∀ filter ∈ attempt.filters, Fills attempt.auth.filterTemplate attempt.username filter ∧
        filter.toList.filter isStructural =
          attempt.auth.filterTemplate.toList.filter isStructural) ∧
      ∀ other : LoginAttempt τ, other.asked ≠ [] → other.username ≠ attempt.username →
        other.auth.cacheKey other.username ≠ attempt.auth.cacheKey attempt.username ∧
          (other.auth.filterTemplate = attempt.auth.filterTemplate →
            placeholder <:+: attempt.auth.filterTemplate.toList →
              ∀ filter ∈ attempt.filters, filter ∉ other.filters) := by
  obtain ⟨hname, hfilters⟩ := of_asked_ne_nil h
  have hplain := hname.not_structural
  refine ⟨hplain, escape_eq_self hplain, ?_, ?_, ?_⟩
  · intro hkept
    rw [hfilters, if_pos hkept]
    exact List.cons_ne_nil _ _
  · intro filter hfilter
    have hfills := fills_of_mem_filters hfilter
    exact ⟨hfills, hfills.filter_isStructural hplain⟩
  · intro other hother hne
    obtain ⟨hotherName, -⟩ := of_asked_ne_nil hother
    constructor
    · intro hkey
      exact hne (eq_of_cacheKey_eq hotherName hname hkey)
    · intro htemplate hmarked filter hfilter hshared
      have hfills := fills_of_mem_filters hshared
      rw [htemplate] at hfills
      exact hne (hfills.eq_of_marked (fills_of_mem_filters hfilter) hmarked)

/-- A template with two places, and two usernames that differ in one character. -/
theorem filters_fill_template_of_two_places :
    let settings : DirectorySettings :=
      { url := "ldap://127.0.0.1:1", baseDn := "OU=Users,DC=example,DC=com"
        bindDn := "CN=svc,DC=example,DC=com", bindPassword := "svc-password"
        filterTemplate := "(|(uid=\x7b0\x7d)(mail=\x7b0\x7d@x))" }
    let attempt : LoginAttempt MemoryDirectory :=
      ⟨.ofSettings settings, MemoryDirectory.connector, { users := [] }, "j.doe", "pw", .prod⟩
    let other : LoginAttempt MemoryDirectory := { attempt with username := "j_doe" }
    attempt.asked ≠ [] ∧ attempt.filters = ["(|(uid=j.doe)(mail=j.doe@x))"] ∧
      Fills settings.filterTemplate "j.doe" "(|(uid=j.doe)(mail=j.doe@x))" ∧
        other.asked ≠ [] ∧ other.username ≠ attempt.username ∧
          placeholder <:+: settings.filterTemplate.toList ∧
            ∀ filter ∈ attempt.filters, filter ∉ other.filters := by
  intro settings attempt other
  have hasked : attempt.asked ≠ [] := by decide +kernel
  have hfilters : attempt.filters = ["(|(uid=j.doe)(mail=j.doe@x))"] := by decide +kernel
  have hother : other.asked ≠ [] := by decide +kernel
  have hne : other.username ≠ attempt.username := by decide
  have hmarked : placeholder <:+: settings.filterTemplate.toList := by decide
  obtain ⟨-, -, -, hfills, hapart⟩ := filters_fill_template hasked
  have hmem : "(|(uid=j.doe)(mail=j.doe@x))" ∈ attempt.filters := by simp [hfilters]
  exact ⟨hasked, hfilters, (hfills _ hmem).1, hother, hne, hmarked,
    (hapart other hother hne).2 rfl hmarked⟩

end LoginAttempt

end AccessGateway
