import AccessGateway.Json.Decode
import AccessGateway.Proofs.Json.Scanning

/-!
# Reading back what was written

The tokens of a value are read into the draft of that value, whatever containers
are open around it.  With the scanner this gives that a written value is read back
with nothing left over.
-/

namespace AccessGateway.Json

namespace Draft

/-- Goes on after a complete value with the given containers open. -/
def resume (value : Draft) (frames : List Frame) (rest : List Token) : Draft × List Token :=
  match frames with
  | [] => (value, rest)
  | frame :: outer => parseFrom .next (place value frame :: outer) rest

mutual

theorem parseFrom_tokens (value : Json) (mayClose : Bool) (frames : List Frame)
    (rest : List Token) :
    parseFrom (.value mayClose) frames (value.tokens ++ rest) =
      resume (ofJson value) frames rest := by
  cases value with
  | null | bool | integer | decimal | string => cases frames <;> rfl
  | array items =>
      by_cases hitems : items = []
      · subst hitems
        cases frames <;> rfl
      · simp only [tokens, List.cons_append, List.append_assoc, List.nil_append]
        exact parseFrom_itemTokens items hitems true [] frames rest
  | object members =>
      by_cases hmembers : members = []
      · subst hmembers
        cases frames <;> rfl
      · simp only [tokens, List.cons_append, List.append_assoc, List.nil_append]
        exact parseFrom_memberTokens members hmembers true [] frames rest

theorem parseFrom_itemTokens (items : List Json) (h : items ≠ []) (mayClose : Bool)
    (done : List Draft) (frames : List Frame) (rest : List Token) :
    parseFrom (.value mayClose) (.array done :: frames)
        (itemTokens items ++ .closeArray :: rest) =
      resume (.array (done.reverse ++ itemsOfJson items)) frames rest := by
  match items with
  | [item] =>
      rw [itemTokens, parseFrom_tokens]
      show resume (.array (ofJson item :: done).reverse) frames rest = _
      simp [itemsOfJson]
  | item :: second :: others =>
      simp only [itemTokens, List.append_assoc, List.cons_append]
      rw [parseFrom_tokens]
      show parseFrom (.value false) (.array (ofJson item :: done) :: frames)
        (itemTokens (second :: others) ++ .closeArray :: rest) = _
      rw [parseFrom_itemTokens (second :: others) (List.cons_ne_nil _ _)]
      simp [itemsOfJson]

theorem parseFrom_memberTokens (members : List (String × Json)) (h : members ≠ [])
    (mayClose : Bool) (done : List (Option String × Draft)) (frames : List Frame)
    (rest : List Token) :
    parseFrom (.key mayClose) (.object done none :: frames)
        (memberTokens members ++ .closeObject :: rest) =
      resume (.object (done.reverse ++ membersOfJson members)) frames rest := by
  match members with
  | [(name, value)] =>
      simp only [memberTokens, List.cons_append]
      show parseFrom (.value false) (.object done (some name) :: frames)
        (value.tokens ++ .closeObject :: rest) = _
      rw [parseFrom_tokens]
      show resume (.object ((some name, ofJson value) :: done).reverse) frames rest = _
      simp [membersOfJson]
  | (name, value) :: second :: others =>
      simp only [memberTokens, List.append_assoc, List.cons_append]
      show parseFrom (.value false) (.object done (some name) :: frames)
        (value.tokens ++ .comma :: (memberTokens (second :: others) ++
          .closeObject :: rest)) = _
      rw [parseFrom_tokens]
      show parseFrom (.key false)
        (.object ((some name, ofJson value) :: done) none :: frames)
        (memberTokens (second :: others) ++ .closeObject :: rest) = _
      rw [parseFrom_memberTokens (second :: others) (List.cons_ne_nil _ _)]
      simp [membersOfJson]

end

/-- A written value is read back, and nothing is left of the text. -/
theorem parse_print {value : Json} (h : value.isIntegral = true) :
    parse value.print = (ofJson value, []) := by
  have hparse := parseFrom_tokens value false [] []
  rw [List.append_nil] at hparse
  rw [parse, Token.scan_print h, hparse]
  rfl

end Draft

theorem decodeText_print {α : Type} (decoder : Decoder α) {value : Json}
    (h : value.isIntegral = true) :
    decodeText decoder value.print = decodeValue decoder value := by
  unfold decodeText decodeValue
  rw [Draft.parse_print h]
  dsimp only
  split
  next a heq => simp [heq]
  next e heq => rw [heq]

end AccessGateway.Json
