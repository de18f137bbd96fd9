import AccessGateway.Proofs.Routing.Conflicts
import AccessGateway.Proofs.Service.GuardedRoutes
import AccessGateway.Proofs.Settings.Valid

/-!
# With which valid settings a gateway starts

The prefix of the relay is checked as it is written and used without the slashes at its
end, and a wildcard among the origins is checked for in production only.  So there are
valid settings with which building a gateway breaks off instead of refusing them: those
whose relay has templates that cannot stand in one table with the fixed ones, and, in
development, those with a wildcard origin.  With all others a gateway is built, unless
the name of the token's header is none.
-/

namespace AccessGateway

open RouteTable Template

namespace Endpoint

variable {table after : RouteTable Endpoint} {entries : List (String × List (String × Endpoint))}

theorem clear_addAll (htable : Clear table) (h : addAll table entries = .ok after) :
    Clear after := by
  induction entries generalizing table with
  | nil =>
      cases h
      exact htable
  | cons entry rest ih =>
      simp only [addAll] at h
      split at h
      next larger hadd => exact ih (htable.add hadd) h
      next => cases h

/-- Routes of different and compatible templates can be added to an empty table. -/
theorem exists_addAll {texts : List String} (hcompatible : Compatible texts)
    (hentries : ∀ entry ∈ entries, entry.1 ∈ texts) (hdistinct : (entries.map Prod.fst).Nodup)
    (htable : table.WellFormed)
    (hothers : ∀ r ∈ table, r.template.text ∈ texts ∧ r.template.text ∉ entries.map Prod.fst) :
    ∃ after, addAll table entries = .ok after := by
  induction entries generalizing table with
  | nil => exact ⟨table, rfl⟩
  | cons entry rest ih =>
      obtain ⟨hentry, hrest⟩ := List.forall_mem_cons.mp hentries
      obtain ⟨hnew, hdistinct⟩ := List.nodup_cons.mp hdistinct
      obtain ⟨template, hparse⟩ := hcompatible.readable _ hentry
      have htext := text_of_parse? hparse
      have hfree : ∀ r ∈ table, ¬ Conflicts ⟨template, entry.2, none⟩ r := by
        intro r hr
        obtain ⟨hmem, hother⟩ := hothers r hr
        refine not_conflicts_of_compatible hcompatible (htext ▸ hentry) hmem fun hsame => ?_
        exact absurd (hsame.symm.trans htext ▸ List.mem_cons_self) hother
      obtain ⟨larger, hlarger⟩ := exists_add htable hparse hfree
      simp only [addAll, hlarger]
      refine ih hrest hdistinct (htable.add hlarger) fun r hr => ?_
      rcases (exists_mem_add (additive_text r.template.text) hlarger).mp ⟨r, hr, rfl⟩ with
        ⟨old, hold, hsame⟩ | ⟨other, hother, hsame⟩
      · obtain ⟨hmem, hnone⟩ := hothers old hold
        rw [← hsame]
        exact ⟨hmem, fun hlater => hnone (List.mem_cons_of_mem _ hlater)⟩
      · rw [← hsame, text_of_parse? hother]
        exact ⟨hentry, hnew⟩

/-! ## The fixed templates -/

def fixedChars (environment : Environment) : List (List Char) :=
  (fixedOpen environment ++ fixedGuarded).map (·.1.toList)

/-- Each fixed template can be read and has no parameters, or has them behind one of two
beginnings; no two clash, and none is there twice. -/
theorem fixed_forms (environment : Environment) :
    (∀ chars ∈ fixedChars environment, (form? chars).any fun pieces =>
      pieces = chars.map .char ||
        (stem pieces).length < pieces.length &&
          (stem pieces = "/apps".toList ++ ['/'] ||
            stem pieces = "/docs".toList ++ ['/'] && environment = .dev)) ∧
    (∀ a ∈ fixedChars environment, ∀ b ∈ fixedChars environment, a ≠ b →
      ((form? a).any fun p => (form? b).any fun q => clashes p q) = false) ∧
    (fixedChars environment).Nodup := by
  cases environment <;>
    simp only [fixedChars, fixedOpen, fixedGuarded, List.map_cons, List.map_nil, List.cons_append,
      List.nil_append, String.reduceToList] <;>
    decide +kernel

theorem mem_fixedChars {environment : Environment} {entry : String × List (String × Endpoint)}
    (h : entry ∈ fixedOpen environment ++ fixedGuarded) :
    entry.1.toList ∈ fixedChars environment :=
  List.mem_map_of_mem h

theorem exists_fixed {environment : Environment} {entry : String × List (String × Endpoint)}
    (h : entry ∈ fixedOpen environment ++ fixedGuarded) :
    ∃ template, parse? entry.1 = some template ∧
      (template.pieces = entry.1.toList.map .char ∨
        (stem template.pieces).length < template.pieces.length ∧
          (stem template.pieces = "/apps".toList ++ ['/'] ∨
            stem template.pieces = "/docs".toList ++ ['/'] ∧ environment = .dev)) := by
  obtain ⟨hforms, -, -⟩ := fixed_forms environment
  have hform := hforms _ (mem_fixedChars h)
  rw [form?_eq] at hform
  cases hparse : parse? entry.1 with
  | none =>
      rw [hparse] at hform
      cases hform
  | some template =>
      simp only [hparse, Option.map_some, Option.any_some, Bool.or_eq_true, Bool.and_eq_true,
        decide_eq_true_eq] at hform
      exact ⟨template, rfl, hform⟩

theorem compatible_fixed (environment : Environment) :
    Compatible ((fixedOpen environment ++ fixedGuarded).map Prod.fst) := by
  obtain ⟨-, hclear, -⟩ := fixed_forms environment
  constructor
  · intro text htext
    obtain ⟨entry, hentry, rfl⟩ := List.mem_map.mp htext
    obtain ⟨template, hparse, -⟩ := exists_fixed hentry
    exact ⟨template, hparse⟩
  · intro a ha b hb hne
    obtain ⟨entry, hentry, rfl⟩ := List.mem_map.mp ha
    obtain ⟨other, hother, rfl⟩ := List.mem_map.mp hb
    exact hclear _ (mem_fixedChars hentry) _ (mem_fixedChars hother)
      fun hsame => hne (String.toList_inj.mp hsame)

theorem nodup_fixed (environment : Environment) :
    ((fixedOpen environment).map Prod.fst ++ fixedGuarded.map Prod.fst).Nodup := by
  obtain ⟨-, -, hnodup⟩ := fixed_forms environment
  rw [← List.map_append]
  apply List.Nodup.of_map String.toList
  rw [List.map_map]
  exact hnodup

theorem exists_fixedGuarded : ∃ fixed, addAll [] fixedGuarded = .ok fixed := by
  refine exists_addAll (compatible_fixed .prod) (fun entry hentry => ?_)
    (nodup_fixed .prod).of_append_right .nil nofun
  exact List.mem_map_of_mem (List.mem_append_right _ hentry)

theorem exists_openRoutes (environment : Environment) :
    ∃ opened, openRoutes environment = .ok opened := by
  refine exists_addAll (compatible_fixed environment) (fun entry hentry => ?_)
    (nodup_fixed environment).of_append_left .nil nofun
  exact List.mem_map_of_mem (List.mem_append_left _ hentry)

theorem fixedOpen_ne_fixedGuarded {environment : Environment}
    {entry other : String × List (String × Endpoint)} (hentry : entry ∈ fixedOpen environment)
    (hother : other ∈ fixedGuarded) : entry.1 ≠ other.1 := by
  obtain ⟨-, -, hdisjoint⟩ := List.nodup_append.mp (nodup_fixed environment)
  exact hdisjoint _ (List.mem_map_of_mem hentry) _ (List.mem_map_of_mem hother)

end Endpoint

namespace Gateway

variable {settings : Settings}

/-- The templates of the routes that a gateway has. -/
def routeTexts (settings : Settings) : List String :=
  (Endpoint.fixedOpen settings.environment ++ Endpoint.fixedGuarded).map Prod.fst ++
    relayTexts settings.proxy

theorem fixed_mem_routeTexts {entry : String × List (String × Endpoint)}
    (h : entry ∈ Endpoint.fixedOpen settings.environment ++ Endpoint.fixedGuarded) :
    entry.1 ∈ routeTexts settings :=
  List.mem_append_left _ (List.mem_map_of_mem h)

theorem relay_mem_routeTexts {text : String} (h : text ∈ relayTexts settings.proxy) :
    text ∈ routeTexts settings :=
  List.mem_append_right _ h

/-! ## Building the table -/

theorem ok_bind {ε α β : Type} (value : α) (next : α → Except ε β) :
    (Except.ok value >>= next) = next value := rfl

/-- The relay conflicts with no fixed route. -/
theorem not_conflicts_relay (hcompatible : Compatible (routeTexts settings)) {text : String}
    (htext : text ∈ relayTexts settings.proxy) {template fixed : Template}
    (hparse : parse? text = some template) {entry : String × List (String × Endpoint)}
    (hentry : entry ∈ Endpoint.fixedOpen settings.environment ++ Endpoint.fixedGuarded)
    (hfixed : parse? entry.1 = some fixed) :
    ¬ Conflicts ⟨template, [], some (.guarded .relay)⟩ ⟨fixed, entry.2, none⟩ := by
  refine not_conflicts_of_compatible hcompatible ?_ ?_ fun _ => by simp [Doubled]
  · rw [text_of_parse? hparse]
    exact relay_mem_routeTexts htext
  · rw [text_of_parse? hfixed]
    exact fixed_mem_routeTexts hentry

theorem not_conflicts_fixedGuarded (hcompatible : Compatible (routeTexts settings))
    {fixed : RouteTable Endpoint} (hfixed : Endpoint.addAll [] Endpoint.fixedGuarded = .ok fixed)
    {text : String} (htext : text ∈ relayTexts settings.proxy) {template : Template}
    (hparse : parse? text = some template) :
    ∀ r ∈ fixed, ¬ Conflicts ⟨template, [], some (.guarded .relay)⟩ r := by
  intro r hr hconflict
  rcases (Endpoint.exists_mem_addAll (additive_conflicts _) hfixed).mp ⟨r, hr, hconflict⟩ with
    ⟨_, hmem, -⟩ | ⟨entry, hentry, other, hother, hconflict⟩
  · cases hmem
  · exact not_conflicts_relay hcompatible htext hparse (List.mem_append_right _ hentry) hother
      hconflict

theorem exists_guardedRoutes (hcompatible : Compatible (routeTexts settings)) :
    ∃ guarded, Endpoint.guardedRoutes (relayPrefix settings.proxy) = .ok guarded := by
  obtain ⟨fixed, hfixed⟩ := Endpoint.exists_fixedGuarded
  have hformed := Endpoint.wellFormed_addAll .nil hfixed
  have hfirst : relayPrefix settings.proxy ∈ relayTexts settings.proxy := List.mem_cons_self
  have hsecond : relayPrefix settings.proxy ++ "/*path" ∈ relayTexts settings.proxy :=
    List.mem_cons_of_mem _ List.mem_cons_self
  have hdiffer : relayPrefix settings.proxy ++ "/*path" ≠ relayPrefix settings.proxy := by
    intro hsame
    simpa using congrArg String.length hsame
  obtain ⟨first, hfirstParse⟩ := hcompatible.readable _ (relay_mem_routeTexts hfirst)
  obtain ⟨second, hsecondParse⟩ := hcompatible.readable _ (relay_mem_routeTexts hsecond)
  obtain ⟨larger, hlarger⟩ := exists_add hformed hfirstParse
    (not_conflicts_fixedGuarded hcompatible hfixed hfirst hfirstParse)
  have hrest : ∀ r ∈ larger, ¬ Conflicts ⟨second, [], some (.guarded .relay)⟩ r := by
    intro r hr hconflict
    rcases (exists_mem_add (additive_conflicts _) hlarger).mp ⟨r, hr, hconflict⟩ with
      ⟨r, hr, hconflict⟩ | ⟨template, htemplate, hconflict⟩
    · exact not_conflicts_fixedGuarded hcompatible hfixed hsecond hsecondParse r hr hconflict
    · -- the two templates of the relay are different texts
      refine not_conflicts_of_compatible hcompatible ?_ ?_ ?_ hconflict
      · rw [text_of_parse? hsecondParse]
        exact relay_mem_routeTexts hsecond
      · rw [text_of_parse? htemplate]
        exact relay_mem_routeTexts hfirst
      · rw [text_of_parse? hsecondParse, text_of_parse? htemplate]
        exact fun hsame => absurd hsame hdiffer
  obtain ⟨guarded, hguarded⟩ := exists_add (hformed.add hlarger) hsecondParse hrest
  refine ⟨guarded, ?_⟩
  rw [Endpoint.guardedRoutes, hfixed, ok_bind, hlarger, ok_bind, hguarded]

theorem clear_guardedRoutes {relayPrefix : String} {guarded : RouteTable Endpoint}
    (h : Endpoint.guardedRoutes relayPrefix = .ok guarded) : Clear guarded := by
  obtain ⟨fixed, larger, hfixed, hlarger, hlast⟩ := of_guardedRoutes h
  exact ((Endpoint.clear_addAll .nil hfixed).add hlarger).add hlast

theorem exists_routes (hcompatible : Compatible (routeTexts settings))
    {opened guarded : RouteTable Endpoint}
    (hopened : Endpoint.openRoutes settings.environment = .ok opened)
    (hguarded : Endpoint.guardedRoutes (relayPrefix settings.proxy) = .ok guarded) :
    ∃ routes, RouteTable.merge opened guarded = .ok routes := by
  have hformed := wellFormed_guardedRoutes hguarded
  refine exists_merge (Endpoint.wellFormed_addAll .nil hopened) hformed
    (pairwise_not_conflicts (clear_guardedRoutes hguarded) hformed) ?_
  intro route hroute r hr hconflict
  obtain ⟨entry, hentry, template, hparse, hconflict⟩ :
      ∃ entry ∈ Endpoint.fixedOpen settings.environment, ∃ template,
        parse? entry.1 = some template ∧ Conflicts route ⟨template, entry.2, none⟩ := by
    rcases (Endpoint.exists_mem_addAll (additive_conflicts route) hopened).mp
        ⟨r, hr, hconflict⟩ with ⟨_, hmem, -⟩ | hopen
    · cases hmem
    · exact hopen
  have hfixed : entry.1 ∈ routeTexts settings :=
    fixed_mem_routeTexts (List.mem_append_left _ hentry)
  rcases (exists_mem_guardedRoutes hguarded (additive_conflicts _)).mp
      ⟨route, hroute, hconflict.symm⟩ with
    ⟨other, hother, fixed, hotherParse, hconflict⟩ | ⟨text, htext, relay, hrelay, hconflict⟩
  · refine not_conflicts_of_compatible hcompatible ?_ ?_ ?_ hconflict
    · rw [text_of_parse? hparse]
      exact hfixed
    · rw [text_of_parse? hotherParse]
      exact fixed_mem_routeTexts (List.mem_append_right _ hother)
    · rw [text_of_parse? hparse, text_of_parse? hotherParse]
      exact fun hsame =>
        absurd hsame (Endpoint.fixedOpen_ne_fixedGuarded hentry hother)
  · exact not_conflicts_relay hcompatible htext hrelay (List.mem_append_left _ hentry) hparse
      hconflict.symm

theorem exists_parse?_of_guardedRoutes {settings : ProxySettings} {guarded : RouteTable Endpoint}
    (h : Endpoint.guardedRoutes (relayPrefix settings) = .ok guarded) :
    ∀ text ∈ relayTexts settings, ∃ template, parse? text = some template := by
  obtain ⟨fixed, larger, -, hlarger, hlast⟩ := of_guardedRoutes h
  obtain ⟨first, hfirst, -⟩ := of_add_eq_ok hlarger
  obtain ⟨second, hsecond, -⟩ := of_add_eq_ok hlast
  simp only [relayTexts, List.forall_mem_cons]
  exact ⟨⟨first, hfirst⟩, ⟨second, hsecond⟩, List.forall_mem_nil _⟩

/-- Every template is in a table that has been built. -/
theorem compatible_of_frame {routes : RouteTable Endpoint} {policy : OriginPolicy}
    (h : frame settings = .ok (routes, policy)) : Compatible (routeTexts settings) := by
  obtain ⟨opened, guarded, hopened, hguarded, hmerged⟩ := of_frame_eq_ok h
  have hclear := (Endpoint.clear_addAll .nil hopened).merge hmerged
  refine (compatible_texts hclear (wellFormed_frame h)).mono fun text htext => ?_
  suffices hoffered : ∃ r ∈ routes, r.template.text = text by
    obtain ⟨route, hroute, rfl⟩ := hoffered
    exact List.mem_map_of_mem hroute
  apply (exists_mem_frame h (additive_text text)).mpr
  rcases List.mem_append.mp htext with hfixed | hrelay
  · obtain ⟨entry, hentry, rfl⟩ := List.mem_map.mp hfixed
    obtain ⟨template, hparse, -⟩ := Endpoint.exists_fixed hentry
    exact .inl ⟨entry, hentry, template, hparse, text_of_parse? hparse⟩
  · obtain ⟨template, hparse⟩ := exists_parse?_of_guardedRoutes hguarded text hrelay
    exact .inr ⟨text, hrelay, template, hparse, text_of_parse? hparse⟩

/-! ## A prefix without parameters -/

/-- The prefix is empty or begins with a slash. -/
theorem relayPrefix_of_valid (h : settings.Valid) :
    relayPrefix settings.proxy = "" ∨
      ∃ rest, (relayPrefix settings.proxy).toList = '/' :: rest := by
  obtain ⟨rest, hrest⟩ := Option.isSome_iff_exists.mp h.pathPrefix
  have hrelay := Text.dropTrailing_isPrefix '/' settings.proxy.pathPrefix
  rw [Text.dropPrefix?_eq_some_iff.mp hrest] at hrelay
  rcases List.prefix_cons_iff.mp hrelay with hempty | ⟨rest, hstart, -⟩
  · exact .inl (String.toList_eq_nil_iff.mp hempty)
  · exact .inr ⟨rest, hstart⟩

section

variable {prefixText : String} {chars : List Char} (hstart : prefixText.toList = '/' :: chars)
  (hplain : Plain prefixText.toList)

include hstart hplain

theorem compatible_plain : Compatible [prefixText, prefixText ++ "/*path"] := by
  have hparse := parse?_of_plain hstart hplain
  have hparseBelow := parse?_append_of_plain hstart hplain
  have hclear : textsClash (prefixText ++ "/*path") prefixText = false := by
    rw [textsClash_of_parse? hparseBelow hparse, ← Bool.not_eq_true]
    intro hclash
    simpa using congrArg List.length (eq_of_clashes_chars hclash)
  constructor
  · simp only [List.forall_mem_cons]
    exact ⟨⟨_, hparse⟩, ⟨_, hparseBelow⟩, nofun⟩
  · intro a ha b hb hne
    simp only [List.mem_cons, List.not_mem_nil, or_false] at ha hb
    rcases ha with rfl | rfl <;> rcases hb with rfl | rfl
    · exact absurd rfl hne
    · rw [textsClash_comm, hclear]
    · exact hclear
    · exact absurd rfl hne

variable {environment : Environment} {entry : String × List (String × Endpoint)}
  (hentry : entry ∈ Endpoint.fixedOpen environment ++ Endpoint.fixedGuarded)

include hentry

theorem textsClash_fixed_of_plain (hne : entry.1 ≠ prefixText) :
    textsClash entry.1 prefixText = false := by
  obtain ⟨fixed, hfixed, hforms⟩ := Endpoint.exists_fixed hentry
  rw [textsClash_of_parse? hfixed (parse?_of_plain hstart hplain), ← Bool.not_eq_true]
  intro hclash
  have hpieces := eq_of_clashes_chars hclash
  have hstem : stem fixed.pieces = prefixText.toList := by
    rw [hpieces, ← List.append_nil (prefixText.toList.map _), stem_map_char_append]
    simp [stem]
  rcases hforms with hchars | ⟨hlength, -⟩
  · apply hne
    rw [← String.toList_inj]
    exact List.map_injective_iff.mpr (fun _ _ h => TemplatePiece.char.inj h)
      (hchars.symm.trans hpieces)
  · rw [hstem, hpieces, List.length_map] at hlength
    exact lt_irrefl _ hlength

theorem textsClash_fixed_below_of_plain (happs : prefixText ≠ "/apps")
    (hdocs : environment = .dev → prefixText ≠ "/docs") :
    textsClash entry.1 (prefixText ++ "/*path") = false := by
  obtain ⟨fixed, hfixed, hforms⟩ := Endpoint.exists_fixed hentry
  rw [textsClash_of_parse? hfixed (parse?_append_of_plain hstart hplain), ← Bool.not_eq_true]
  intro hclash
  have hstem : stem fixed.pieces = prefixText.toList ++ ['/'] := by
    rw [stem_eq_of_clashes hclash, stem_map_char_append]
    rfl
  rcases hforms with hchars | ⟨-, happsStem | ⟨hdocsStem, hdev⟩⟩
  · rw [hchars, clashes_comm] at hclash
    have hrest : TemplatePiece.rest ∈ entry.1.toList.map .char := by
      rw [← eq_of_clashes_chars hclash]
      simp
    simp at hrest
  · exact happs (String.toList_inj.mp (List.append_cancel_right (hstem.symm.trans happsStem)))
  · exact hdocs hdev
      (String.toList_inj.mp (List.append_cancel_right (hstem.symm.trans hdocsStem)))

end

theorem textsClash_apps : textsClash "/apps/:app_name/access" ("/apps" ++ "/*path") = true := by
  simp only [textsClash, String.toList_append, String.reduceToList]
  rfl

theorem textsClash_docs : textsClash "/docs/*rest" ("/docs" ++ "/*path") = true := by
  simp only [textsClash, String.toList_append, String.reduceToList]
  rfl

/-- Of the prefixes without parameters only three do not fit. -/
theorem compatible_iff_of_plain (hvalid : settings.Valid)
    (hplain : Plain (relayPrefix settings.proxy).toList) :
    Compatible (routeTexts settings) ↔
      relayPrefix settings.proxy ≠ "" ∧ relayPrefix settings.proxy ≠ "/apps" ∧
        (settings.environment = .dev → relayPrefix settings.proxy ≠ "/docs") := by
  have hbelow : relayPrefix settings.proxy ++ "/*path" ∈ routeTexts settings :=
    relay_mem_routeTexts (List.mem_cons_of_mem _ List.mem_cons_self)
  constructor
  · intro hcompatible
    refine ⟨fun hempty => ?_, fun happs => ?_, fun hdev hdocs => ?_⟩
    · obtain ⟨template, hparse⟩ :=
        hcompatible.readable _ (relay_mem_routeTexts List.mem_cons_self)
      rw [hempty] at hparse
      cases hparse
    · have hfixed : "/apps/:app_name/access" ∈ routeTexts settings := by
        simp [routeTexts, Endpoint.fixedGuarded]
      rw [happs] at hbelow
      have hclear := hcompatible.clear _ hfixed _ hbelow (by decide)
      rw [textsClash_apps] at hclear
      cases hclear
    · have hfixed : "/docs/*rest" ∈ routeTexts settings := by
        simp [routeTexts, Endpoint.fixedOpen, hdev]
      rw [hdocs] at hbelow
      have hclear := hcompatible.clear _ hfixed _ hbelow (by decide)
      rw [textsClash_docs] at hclear
      cases hclear
  · rintro ⟨hne, happs, hdocs⟩
    obtain ⟨chars, hstart⟩ := (relayPrefix_of_valid hvalid).resolve_left hne
    refine (Endpoint.compatible_fixed settings.environment).append
      (compatible_plain hstart hplain) ?_
    intro text htext relay hrelay hdiffer
    obtain ⟨entry, hentry, rfl⟩ := List.mem_map.mp htext
    simp only [relayTexts, List.mem_cons, List.not_mem_nil, or_false] at hrelay
    rcases hrelay with rfl | rfl
    · exact textsClash_fixed_of_plain hstart hplain hentry hdiffer
    · exact textsClash_fixed_below_of_plain hstart hplain hentry happs hdocs

/-! ## Starting -/

theorem ofOrigins?_eq_none_iff {origins : List String} {tokenHeader : String} :
    OriginPolicy.ofOrigins? origins tokenHeader = none ↔ "*" ∈ origins := by
  have hvalue : Headers.isValue "*" = true := by decide
  simp [OriginPolicy.ofOrigins?, hvalue]

theorem of_frame_eq_error {failure : StartFailure} (h : frame settings = .error failure) :
    (failure = .refused (tokenHeaderError settings.token.header) ∧
        Headers.name? settings.token.header = none) ∨
      ((∃ fault, failure = .badRoute fault) ∧ ¬ Compatible (routeTexts settings)) ∨
        (failure = .wildcardOrigin ∧ "*" ∈ settings.allowedOrigins) := by
  cases h ▸ frameOf_frame settings with
  | unguarded hguarded =>
      refine .inr (.inl ⟨⟨_, rfl⟩, fun hcompatible => ?_⟩)
      obtain ⟨guarded, hbuilt⟩ := exists_guardedRoutes hcompatible
      cases hguarded.symm.trans hbuilt
  | unnamed _ hname => exact .inl ⟨rfl, hname⟩
  | unmerged hguarded _ hmerged =>
      refine .inr (.inl ⟨⟨_, rfl⟩, fun hcompatible => ?_⟩)
      obtain ⟨opened, hopened⟩ := Endpoint.exists_openRoutes settings.environment
      obtain ⟨routes, hroutes⟩ := exists_routes hcompatible hopened hguarded
      rw [hopened] at hmerged
      cases hmerged.symm.trans hroutes
  | wildcard _ _ _ hpolicy => exact .inr (.inr ⟨rfl, ofOrigins?_eq_none_iff.mp hpolicy⟩)

theorem frame_eq_ok_iff :
    (∃ built, frame settings = .ok built) ↔
      Compatible (routeTexts settings) ∧
        (Headers.name? settings.token.header).isSome = true ∧
          "*" ∉ settings.allowedOrigins := by
  constructor
  · rintro ⟨⟨routes, policy⟩, hframe⟩
    refine ⟨compatible_of_frame hframe, ?_⟩
    cases hframe ▸ frameOf_frame settings with
    | built _ hname _ hpolicy =>
        rw [hname]
        refine ⟨rfl, fun hwildcard => ?_⟩
        cases hpolicy.symm.trans (ofOrigins?_eq_none_iff.mpr hwildcard)
  · rintro ⟨hcompatible, hname, hwildcard⟩
    cases hframe : frame settings with
    | ok built => exact ⟨built, rfl⟩
    | error failure =>
        rcases of_frame_eq_error hframe with ⟨-, hnone⟩ | ⟨-, hclash⟩ | ⟨-, hmem⟩
        · rw [hnone] at hname
          cases hname
        · exact absurd hcompatible hclash
        · exact absurd hmem hwildcard

theorem guardedRoutes_of_unreadable {relayPrefix : String} (h : parse? relayPrefix = none) :
    Endpoint.guardedRoutes relayPrefix = .error (.badTemplate relayPrefix) := by
  obtain ⟨fixed, hfixed⟩ := Endpoint.exists_fixedGuarded
  rw [Endpoint.guardedRoutes, hfixed, ok_bind, add, h]
  rfl

theorem frame_of_unguarded {fault : RouteFault}
    (h : Endpoint.guardedRoutes (relayPrefix settings.proxy) = .error fault) :
    frame settings = .error (.badRoute fault) := by
  generalize hbuilt : frame settings = built
  cases hbuilt ▸ frameOf_frame settings with
  | unguarded hguarded =>
      cases h.symm.trans hguarded
      rfl
  | unnamed hguarded | unmerged hguarded | wildcard hguarded | built hguarded =>
      cases h.symm.trans hguarded

theorem frame_of_wildcard (hcompatible : Compatible (routeTexts settings))
    (hname : (Headers.name? settings.token.header).isSome = true)
    (hwildcard : "*" ∈ settings.allowedOrigins) : frame settings = .error .wildcardOrigin := by
  cases hframe : frame settings with
  | ok built =>
      obtain ⟨-, -, hnone⟩ := frame_eq_ok_iff.mp ⟨built, hframe⟩
      exact absurd hwildcard hnone
  | error failure =>
      rcases of_frame_eq_error hframe with ⟨-, hnone⟩ | ⟨-, hclash⟩ | ⟨rfl, -⟩
      · rw [hnone] at hname
        cases hname
      · exact absurd hcompatible hclash
      · rfl

/-- With valid settings a gateway is built if its templates are compatible, the token's header
has a name and no origin is a wildcard.  If the header has no name, that is refused; otherwise
building breaks off, over the templates or over a wildcard that is allowed in development.
Without parameters in it, the prefix has compatible templates unless nothing but slashes is
written there, or one of two fixed paths. -/
theorem frame_of_valid (h : settings.validate = .ok ()) :
    ((∃ built, frame settings = .ok built) ↔
        Compatible (routeTexts settings) ∧
          (Headers.name? settings.token.header).isSome = true ∧
            "*" ∉ settings.allowedOrigins) ∧
      (∀ failure, frame settings = .error failure →
        (failure = .refused (tokenHeaderError settings.token.header) ∧
          Headers.name? settings.token.header = none) ∨
        ((∃ fault, failure = .badRoute fault) ∧ ¬ Compatible (routeTexts settings)) ∨
        (failure = .wildcardOrigin ∧ settings.environment = .dev ∧
          "*" ∈ settings.allowedOrigins)) ∧
      (Plain (relayPrefix settings.proxy).toList →
        (Compatible (routeTexts settings) ↔
          relayPrefix settings.proxy ≠ "" ∧ relayPrefix settings.proxy ≠ "/apps" ∧
            (settings.environment = .dev → relayPrefix settings.proxy ≠ "/docs"))) := by
  have hvalid := Settings.validate_eq_ok_iff.mp h
  refine ⟨frame_eq_ok_iff, fun failure hfailure => ?_, compatible_iff_of_plain hvalid⟩
  rcases of_frame_eq_error hfailure with hrefused | hbad | ⟨hwildcard, hmem⟩
  · exact .inl hrefused
  · exact .inr (.inl hbad)
  · refine .inr (.inr ⟨hwildcard, ?_, hmem⟩)
    cases henvironment : settings.environment with
    | dev => rfl
    | prod => exact absurd hmem (hvalid.wildcardOrigin henvironment)

/-- There are valid settings with any prefix and any origins that are allowed in development. -/
theorem exists_valid (pathPrefix : String) (origins : List String)
    (hslash : Text.startsWith "/" pathPrefix = true) (hsize : 2 ≤ Text.Utf8.size pathPrefix) :
    ∃ settings : Settings, settings.validate = .ok () ∧
      settings.proxy.pathPrefix = pathPrefix ∧ settings.allowedOrigins = origins ∧
        (Headers.name? settings.token.header).isSome = true := by
  let base : Settings := {
    token := ⟨"0123456789abcdef0123456789abcdef0123456789abcdef0123456789abcdef", "gateway", 60,
      "Authorization", "Bearer"⟩
    directory :=
      { url := "ldap://directory", baseDn := "dc=org", bindDn := "", bindPassword := "" }
    store := { url := "https://store" }
    proxy := { target := "http://target" } }
  have haccepted : base.validate = .ok () := by decide +kernel
  have hbase := Settings.validate_eq_ok_iff.mp haccepted
  have hname : (Headers.name? base.token.header).isSome = true := by decide +kernel
  let settings : Settings :=
    { base with
      proxy := { base.proxy with pathPrefix := pathPrefix }
      allowedOrigins := origins }
  have hvalid : settings.Valid :=
    { hbase with
      pathPrefix := hslash
      pathPrefixSize := hsize
      wildcardOrigin := nofun }
  exact ⟨settings, Settings.validate_eq_ok_iff.mpr hvalid, rfl, rfl, hname⟩

theorem relayPrefix_of_default (h : settings.proxy.pathPrefix = "/proxy") :
    relayPrefix settings.proxy = "/proxy" := by
  rw [relayPrefix, h]
  rfl

theorem compatible_of_default (hvalid : settings.Valid)
    (h : settings.proxy.pathPrefix = "/proxy") : Compatible (routeTexts settings) := by
  have hrelay := relayPrefix_of_default h
  have hplain : Plain "/proxy".toList := by
    simp only [String.reduceToList]
    decide
  rw [compatible_iff_of_plain hvalid (hrelay ▸ hplain), hrelay]
  exact ⟨by decide, by decide, fun _ => by decide⟩

/-- With the prefix that is set where none is given, a gateway starts. -/
theorem frame_of_valid_of_default :
    ∃ settings : Settings, settings.validate = .ok () ∧
      relayPrefix settings.proxy = "/proxy" ∧ ∃ built, frame settings = .ok built := by
  obtain ⟨settings, hvalid, hwritten, horigins, hname⟩ := exists_valid "/proxy" [] rfl (by decide)
  have hcompatible := compatible_of_default (Settings.validate_eq_ok_iff.mp hvalid) hwritten
  obtain ⟨hok, -, -⟩ := frame_of_valid hvalid
  exact ⟨settings, hvalid, relayPrefix_of_default hwritten,
    hok.mpr ⟨hcompatible, hname, by simp [horigins]⟩⟩

/-- A prefix of two slashes is accepted and leaves no template; a wildcard is accepted in
development and is no origin. -/
theorem frame_breaks_off :
    (∃ settings : Settings, settings.validate = .ok () ∧ settings.proxy.pathPrefix = "//" ∧
      frame settings = .error (.badRoute (.badTemplate ""))) ∧
    ∃ settings : Settings, settings.validate = .ok () ∧ settings.allowedOrigins = ["*"] ∧
      frame settings = .error .wildcardOrigin := by
  constructor
  · obtain ⟨settings, hvalid, hwritten, -, -⟩ := exists_valid "//" [] rfl (by decide)
    have hrelay : relayPrefix settings.proxy = "" := by
      rw [relayPrefix, hwritten]
      rfl
    refine ⟨settings, hvalid, hwritten, ?_⟩
    rw [← hrelay]
    exact frame_of_unguarded (guardedRoutes_of_unreadable (by rw [hrelay]; rfl))
  · obtain ⟨settings, hvalid, hwritten, horigins, hname⟩ :=
      exists_valid "/proxy" ["*"] rfl (by decide)
    have hcompatible := compatible_of_default (Settings.validate_eq_ok_iff.mp hvalid) hwritten
    exact ⟨settings, hvalid, horigins, frame_of_wildcard hcompatible hname (by simp [horigins])⟩

end Gateway

end AccessGateway
