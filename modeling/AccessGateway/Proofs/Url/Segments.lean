import AccessGateway.Proofs.Text.Separators
import AccessGateway.Url.Parser

/-!
# Where the dots of a path lead

Segments that are no dot segments are kept in their order.  A path that is appended
to such segments stays below them as long as it never climbs above where it began,
and one that begins with as many double dots as there are segments leads anywhere
below the last drive letter among them.
-/

namespace AccessGateway.Url

/-- A segment names a place below the one it is in. -/
def isOrdinary (segment : String) : Bool := !isDoubleDot segment && !isSingleDot segment

/-- No beginning of a path leads above the place that lies `depth` places above its start. -/
def staysBelow (depth : Nat) : List String → Bool
  | [] => true
  | segment :: rest =>
    if isDoubleDot segment then
      match depth with
      | 0 => false
      | depth + 1 => staysBelow depth rest
    else if isSingleDot segment then staysBelow depth rest
    else staysBelow (depth + 1) rest

section

variable {before rest : List String} {segment : String}

theorem resolveAfter_cons (h : rest ≠ []) :
    resolveAfter before (segment :: rest) =
      if isDoubleDot segment then resolveAfter (above before) rest
      else if isSingleDot segment then resolveAfter before rest
      else resolveAfter (segment :: before) rest := by
  obtain ⟨next, others, rfl⟩ := List.exists_cons_of_ne_nil h
  rfl

theorem resolveAfter_cons_of_ordinary (h : rest ≠ []) (hsegment : isOrdinary segment = true) :
    resolveAfter before (segment :: rest) = resolveAfter (segment :: before) rest := by
  obtain ⟨hdouble, hsingle⟩ : isDoubleDot segment = false ∧ isSingleDot segment = false := by
    simpa [isOrdinary] using hsegment
  rw [resolveAfter_cons h, hdouble, hsingle]
  rfl

theorem resolveAfter_append_of_ordinary {segments : List String}
    (h : ∀ segment ∈ segments, isOrdinary segment = true) (hrest : rest ≠ []) :
    resolveAfter before (segments ++ rest) = resolveAfter (segments.reverse ++ before) rest := by
  induction segments generalizing before with
  | nil => rfl
  | cons segment segments ih =>
      obtain ⟨hsegment, hsegments⟩ := List.forall_mem_cons.mp h
      have hmore : segments ++ rest ≠ [] := List.append_ne_nil_of_right_ne_nil _ hrest
      rw [List.cons_append, resolveAfter_cons_of_ordinary hmore hsegment, ih hsegments,
        List.reverse_cons, List.append_assoc, List.singleton_append]

end

theorem staysBelow_mono {lower higher : Nat} (hle : lower ≤ higher) {segments : List String}
    (h : staysBelow lower segments = true) : staysBelow higher segments = true := by
  induction segments generalizing lower higher with
  | nil => rfl
  | cons segment rest ih =>
      unfold staysBelow at h ⊢
      split at h
      next hdouble =>
        rw [if_pos hdouble]
        obtain _ | lower := lower
        · cases h
        · obtain _ | higher := higher
          · cases hle
          · exact ih (Nat.le_of_succ_le_succ hle) h
      next hdouble =>
        rw [if_neg hdouble]
        split at h
        next hsingle =>
          rw [if_pos hsingle]
          exact ih hle h
        next hsingle =>
          rw [if_neg hsingle]
          exact ih (Nat.succ_le_succ hle) h

theorem above_append {before : List String} (h : before ≠ []) (kept : List String) :
    above (before ++ kept) = above before ++ kept := by
  obtain ⟨segment, before, rfl⟩ := List.exists_cons_of_ne_nil h
  simp only [List.cons_append, above]
  split <;> rfl

theorem length_le_length_above (segment : String) (before : List String) :
    before.length ≤ (above (segment :: before)).length := by
  rw [above]
  split
  · exact Nat.le_succ _
  · exact Nat.le_refl _

/-- What a path is appended to stays as it is, if the path does not climb above it. -/
theorem resolveAfter_of_staysBelow (kept : List String) {before segments : List String}
    (h : staysBelow before.length segments = true) :
    resolveAfter (before ++ kept) segments = kept.reverse ++ resolveAfter before segments := by
  induction segments generalizing before with
  | nil => simp [resolveAfter]
  | cons segment rest ih =>
      unfold staysBelow at h
      cases rest with
      | nil =>
          unfold resolveAfter
          split
          next hdouble =>
            cases before with
            | nil => simp [hdouble] at h
            | cons last before =>
                rw [above_append (List.cons_ne_nil last before)]
                simp
          next => split <;> simp
      | cons next others =>
          have hne : next :: others ≠ [] := List.cons_ne_nil next others
          rw [resolveAfter_cons hne, resolveAfter_cons hne]
          split at h
          next hdouble =>
            cases before with
            | nil => cases h
            | cons last before =>
                rw [if_pos hdouble, if_pos hdouble, above_append (List.cons_ne_nil last before)]
                exact ih (staysBelow_mono (length_le_length_above last before) h)
          next hdouble =>
            rw [if_neg hdouble, if_neg hdouble]
            split at h
            next hsingle =>
              rw [if_pos hsingle, if_pos hsingle]
              exact ih h
            next hsingle =>
              rw [if_neg hsingle, if_neg hsingle]
              exact @ih (segment :: before) h

theorem resolveAfter_double_dot (before : List String) {rest : List String} (h : rest ≠ []) :
    resolveAfter before (".." :: rest) = resolveAfter (above before) rest := by
  have hdouble : isDoubleDot ".." = true := by decide +kernel
  rw [resolveAfter_cons h, if_pos hdouble]

theorem resolveAfter_replicate_of_above {before : List String} (hheld : above before = before)
    (n : Nat) {segments : List String} (h : segments ≠ []) :
    resolveAfter before (List.replicate n ".." ++ segments) = resolveAfter before segments := by
  induction n with
  | zero => rfl
  | succ n ih =>
      have hmore : List.replicate n ".." ++ segments ≠ [] :=
        List.append_ne_nil_of_right_ne_nil _ h
      rw [List.replicate_succ, List.cons_append, resolveAfter_double_dot _ hmore, hheld, ih]

/-- Double dots undo the segments before them, up to a drive letter. -/
theorem resolveAfter_double_dots (before : List String) {segments : List String}
    (h : segments ≠ []) :
    resolveAfter before (List.replicate before.length ".." ++ segments) =
      resolveAfter (before.dropWhile (!isDriveLetter ·)) segments := by
  induction before with
  | nil => rfl
  | cons last before ih =>
      cases hdrive : isDriveLetter last with
      | true =>
          have hheld : above (last :: before) = last :: before := if_pos hdrive
          rw [resolveAfter_replicate_of_above hheld _ h, List.dropWhile_cons, hdrive]
          rfl
      | false =>
          have hmore : List.replicate before.length ".." ++ segments ≠ [] :=
            List.append_ne_nil_of_right_ne_nil _ h
          rw [List.length_cons, List.replicate_succ, List.cons_append,
            resolveAfter_double_dot _ hmore, above, hdrive, List.dropWhile_cons, hdrive]
          exact ih

/-! ## Segments of texts -/

theorem cutSegments_ne_nil (chars : List Char) : cutSegments true chars ≠ [] :=
  Text.pieces_ne_nil _ _

/-- The text of a path: a slash before every segment. -/
def slashed (segments : List (List Char)) : List Char := segments.flatMap ('/' :: ·)

section

variable {segment : List Char} (h : ∀ c ∈ segment, c ≠ '/' ∧ c ≠ '\\')

include h

theorem map_slash_eq_self : segment.map (fun c => if c = '\\' then '/' else c) = segment := by
  rw [List.map_congr_left fun c hc => if_neg (h c hc).2, List.map_id']

theorem cutSegments_eq_singleton : cutSegments true segment = [segment] := by
  unfold cutSegments
  rw [if_pos rfl, map_slash_eq_self h]
  exact Text.pieces_eq_singleton fun hslash => (h '/' hslash).1 rfl

theorem cutSegments_append_slash (rest : List Char) :
    cutSegments true (segment ++ '/' :: rest) = segment :: cutSegments true rest := by
  unfold cutSegments
  simp only [if_true, List.map_append, List.map_cons, map_slash_eq_self h]
  exact Text.pieces_append_cons _ fun hslash => (h '/' hslash).1 rfl

end

/-- A path below segments is cut into them and its own segments. -/
theorem exists_cutSegments_slashed {segments : List (List Char)} (path : List Char)
    (h : ∀ segment ∈ segments, ∀ c ∈ segment, c ≠ '/' ∧ c ≠ '\\') :
    ∃ body, slashed segments ++ '/' :: path = '/' :: body ∧
      cutSegments true body = segments ++ cutSegments true path := by
  induction segments with
  | nil => exact ⟨path, rfl, rfl⟩
  | cons segment segments ih =>
      obtain ⟨hsegment, hsegments⟩ := List.forall_mem_cons.mp h
      obtain ⟨body, htext, hcut⟩ := ih hsegments
      refine ⟨segment ++ '/' :: body, ?_, ?_⟩
      · rw [← htext]
        simp [slashed]
      · rw [cutSegments_append_slash hsegment body, hcut, List.cons_append]

/-- The path of a text `/base/path` is the base with the dots of the path resolved below it. -/
theorem parsePath_slashed {segments : List (List Char)} (path : List Char)
    (h : ∀ segment ∈ segments, ∀ c ∈ segment, c ≠ '/' ∧ c ≠ '\\')
    (hordinary : ∀ segment ∈ segments, isOrdinary (encodeSegment segment) = true) :
    parsePath true (slashed segments ++ '/' :: path) =
      resolveAfter (segments.map encodeSegment).reverse
        ((cutSegments true path).map encodeSegment) := by
  obtain ⟨body, htext, hcut⟩ := exists_cutSegments_slashed path h
  have hne : (cutSegments true path).map encodeSegment ≠ [] := by
    simp [cutSegments_ne_nil]
  rw [htext, parsePath, if_pos (.inl rfl), hcut, List.map_append, resolveDots,
    resolveAfter_append_of_ordinary (by simpa using hordinary) hne, List.append_nil]

end AccessGateway.Url
