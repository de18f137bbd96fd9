import AccessGateway.Proofs.Text.PercentWords
import AccessGateway.Proofs.Url.Sites

/-!
# Hosts and blanks

A host that can be read has a name or an address, and neither a host nor a port ends
in a blank.  A blank is no part of a percent code and has no other spelling in a
domain name, so it is met again wherever the name is checked.
-/

namespace AccessGateway

namespace Url

/-- What holds of every code point up to the space holds of blanks. -/
theorem of_blank (p : Char → Prop) (h : ∀ n ≤ 0x20, p (Char.ofNat n)) {c : Char}
    (hc : isPlain c = false) : p c := by
  have hle : c.toNat ≤ 0x20 := by simpa [isPlain, isControlOrSpace] using hc
  simpa using h c.toNat hle

theorem ne_of_blank {c d : Char} (hc : isPlain c = false) (hd : isPlain d = true) : c ≠ d := by
  rintro rfl
  rw [hd] at hc
  cases hc

end Url

namespace Host

open Url

/-! ## Domain names -/

theorem output_pass (basic : Nat) (label : List Char) (state : Encoder) :
    state.output <+: (state.pass basic label).output := by
  unfold Encoder.pass
  dsimp only
  induction label generalizing state with
  | nil => exact List.prefix_rfl
  | cons c rest ih =>
      rw [List.foldl_cons]
      refine List.IsPrefix.trans ?_ (ih _)
      split
      · exact List.prefix_rfl
      · split
        · exact List.prefix_append _ _
        · exact List.prefix_rfl

theorem output_run (basic : Nat) (label : List Char) (points : List Nat) (state : Encoder) :
    state.output <+: (Encoder.run basic label points state).output := by
  induction points generalizing state with
  | nil => exact List.prefix_rfl
  | cons m rest ih =>
      unfold Encoder.run
      exact List.IsPrefix.trans (output_pass basic label { state with delta := _, n := m }) (ih _)

/-- Punycode keeps the characters of the ASCII range. -/
theorem mem_labelToAscii {label : List Char} {c : Char} (hc : c ∈ label)
    (hascii : Text.Ascii.isAscii c = true) : c ∈ labelToAscii label := by
  unfold labelToAscii
  split
  · exact hc
  · have hbasic : c ∈ label.filter Text.Ascii.isAscii := List.mem_filter.mpr ⟨hc, hascii⟩
    apply List.mem_append_right
    unfold punycode
    apply (output_run _ _ _ _).subset
    dsimp only
    split
    next hempty =>
      rw [List.isEmpty_iff.mp hempty] at hbasic
      cases hbasic
    next => exact List.mem_append_left _ hbasic

theorem isPlain_of_domainToAscii? {name ascii : String} (h : domainToAscii? name = some ascii)
    {c : Char} (hc : c ∈ name.toList) : isPlain c = true := by
  rw [← Bool.not_eq_false]
  intro hblank
  have hspelling := of_blank (fun c => mapDomainChar c = [c]) (by decide +kernel) hblank
  have hascii := of_blank (Text.Ascii.isAscii · = true) (by decide +kernel) hblank
  have hforbidden := of_blank (isForbiddenInDomain · = true) (by decide +kernel) hblank
  have hmapped : c ∈ name.toList.flatMap mapDomainChar :=
    List.mem_flatMap.mpr ⟨c, hc, by simp [hspelling]⟩
  have hdot : c ≠ '.' := ne_of_blank hblank (by decide)
  obtain ⟨label, hlabel, hmem⟩ := Text.exists_piece_of_mem hdot hmapped
  have hkept : c ∈ ['.'].intercalate
      ((Text.pieces '.' (name.toList.flatMap mapDomainChar)).map labelToAscii) :=
    Text.mem_intercalate (List.mem_map_of_mem hlabel) (mem_labelToAscii hmem hascii)
  unfold domainToAscii? at h
  dsimp only at h
  rw [List.any_eq_true.mpr ⟨c, hkept, hforbidden⟩] at h
  cases h

/-! ## Hosts -/

theorem isPlain_of_parseSpecial {front : List Char} {c : Char} {host : Host}
    (h : parseSpecial (front ++ [c]) = .ok host) : isPlain c = true := by
  rw [← Bool.not_eq_false]
  intro hblank
  have hne : ∀ {d : Char}, isPlain d = true → c ≠ d := ne_of_blank hblank
  unfold parseSpecial at h
  split at h
  next hnil => simp at hnil
  next rest hbracket =>
    cases front with
    | nil => exact hne (by decide) (List.cons.inj hbracket).1
    | cons first front =>
        rw [List.cons_append] at hbracket
        obtain ⟨rfl, rfl⟩ := List.cons.inj hbracket
        rw [List.reverse_append, List.reverse_singleton, List.singleton_append] at h
        split at h
        next inner hlast => exact hne (by decide) (List.cons.inj hlast).1
        next => cases h
  next =>
    split at h
    · cases h
    next name hname =>
      obtain ⟨decoded, hdecoded, hname⟩ := Option.bind_eq_some_iff.mp hname
      have hascii := of_blank (Text.Ascii.isAscii · = true) (by decide +kernel) hblank
      have hdigit := of_blank (Text.Ascii.hexValue? · = none) (by decide +kernel) hblank
      have hmem : c ∈ decoded.toList :=
        Text.Percent.mem_of_decode? hdecoded (by simp) hascii (hne (by decide)) hdigit
      rw [isPlain_of_domainToAscii? hname hmem] at hblank
      cases hblank

theorem ne_empty_of_parseSpecial {chars : List Char} {host : Host}
    (h : parseSpecial chars = .ok host) : host ≠ .domain "" := by
  rintro rfl
  unfold parseSpecial at h
  split at h
  · cases h
  · split at h
    · split at h <;> cases h
    · cases h
  · split at h
    · cases h
    · split at h
      · cases h
      next hname =>
        split at h
        · split at h <;> cases h
        · cases h
          exact hname rfl

end Host

/-! ## Authorities -/

namespace Url

theorem cutPort_append {inBrackets : Bool} {chars host : List Char} {port : Option (List Char)}
    (h : cutPort inBrackets chars = (host, port)) :
    chars = host ++ (port.map (':' :: ·)).getD [] := by
  fun_induction cutPort inBrackets chars generalizing host with
  | case1 =>
      cases h
      rfl
  | case2 rest front back hcut ih =>
      cases h
      rw [List.cons_append, ← ih hcut]
  | case3 inBrackets rest hbrackets =>
      cases h
      rfl
  | case4 inBrackets c rest hcolon front back hcut ih =>
      cases h
      rw [List.cons_append, ← ih hcut]

theorem isPlain_of_parsePort {scheme : String} {front : List Char} {c : Char} {port : Option Nat}
    (h : parsePort scheme (some (front ++ [c])) = .ok port) : isPlain c = true := by
  rw [← Bool.not_eq_false]
  intro hblank
  have hdigit := of_blank (Char.isDigit · = false) (by decide +kernel) hblank
  have hdigits : (front ++ [c]).all Char.isDigit = false := by simp [hdigit]
  unfold parsePort at h
  split at h
  next hnone => cases hnone
  next hnil => simp at hnil
  next digits hnil hsome =>
    cases hsome
    rw [hdigits] at h
    cases h

theorem exists_concat {front before after : List Char} {c d : Char} (hne : c ≠ d)
    (h : front ++ [c] = before ++ d :: after) : ∃ rest, after = rest ++ [c] := by
  rcases List.eq_nil_or_concat after with rfl | ⟨rest, last, rfl⟩
  · exact absurd (List.append_singleton_inj.mp h).2 hne
  · rw [List.concat_eq_append] at h ⊢
    rw [← List.cons_append, ← List.append_assoc, List.append_singleton_inj] at h
    exact ⟨rest, by rw [h.2]⟩

theorem exists_cutUserInfo {front : List Char} {c : Char} (hne : c ≠ '@') :
    ∃ rest, (cutUserInfo (front ++ [c])).2 = rest ++ [c] := by
  unfold cutUserInfo
  split
  next before after hcut => exact exists_concat hne (Text.of_cutLast?_eq_some hcut).1
  next => exact ⟨front, rfl⟩

theorem of_parseAuthority_eq_ok {scheme : String} (hspecial : isSpecial scheme = true)
    {chars : List Char} {authority : Authority} (h : parseAuthority scheme chars = .ok authority) :
    ∃ hostChars portChars, cutPort false (cutUserInfo chars).2 = (hostChars, portChars) ∧
      Host.parseSpecial hostChars = .ok authority.host ∧
        parsePort scheme portChars = .ok authority.port := by
  unfold parseAuthority at h
  rw [hspecial] at h
  dsimp only at h
  split at h
  · cases h
  next host hhost =>
    split at h
    · cases h
    · split at h
      · cases h
      next port hport =>
        cases h
        exact ⟨_, _, rfl, hhost, hport⟩

/-- No authority that can be read ends in a blank. -/
theorem isPlain_of_parseAuthority {scheme : String} (hspecial : isSpecial scheme = true)
    {front : List Char} {c : Char} {authority : Authority}
    (h : parseAuthority scheme (front ++ [c]) = .ok authority) : isPlain c = true := by
  obtain ⟨host, port, hcut, hhost, hport⟩ := of_parseAuthority_eq_ok hspecial h
  rw [← Bool.not_eq_false]
  intro hblank
  obtain ⟨rest, hrest⟩ := @exists_cutUserInfo front c (ne_of_blank hblank (by decide))
  rw [hrest] at hcut
  have happend := cutPort_append hcut
  have hplain : isPlain c = true := by
    cases port with
    | none =>
        have hwhole : host = rest ++ [c] := by simpa using happend.symm
        exact Host.isPlain_of_parseSpecial (hwhole ▸ hhost)
    | some digits =>
        obtain ⟨others, hdigits⟩ := exists_concat (ne_of_blank hblank (by decide)) happend
        exact isPlain_of_parsePort (hdigits ▸ hport)
  rw [hplain] at hblank
  cases hblank

end Url

end AccessGateway
