import AccessGateway.Authorization.Client
import AccessGateway.Proofs.Json.Records

/-!
# Decisions by the replies of owners

The owner of a group is asked once, and the last reply decides.  Without success it denies,
whatever it holds; with success its body has to be there, and permits only as one of the
documents that are described here.
-/

namespace AccessGateway

open Json

namespace FinalReply

/-- Replies that decide nothing. -/
inductive Lost : FinalReply → SendError → Prop
  | unanswered (cause : SendError) : Lost (.error cause) cause
  | brokenOff {status : Nat} (hstatus : isSuccess status = true) :
      Lost (.ok (status, none)) .undecodable

/-- What is decided for each reply, by the bodies that permit. -/
structure Decides (owner : String) (Permits : List UInt8 → Prop)
    (decision : FinalReply → Except GatewayError Bool) : Prop where
  permits_iff : ∀ reply, decision reply = .ok true ↔
    ∃ status body, reply = .ok (status, some body) ∧ isSuccess status = true ∧ Permits body
  denies_iff : ∀ reply, decision reply = .ok false ↔
    ∃ status body, reply = .ok (status, body) ∧
      (isSuccess status = false ∨ ∃ bytes, body = some bytes ∧ ¬ Permits bytes)
  fails_iff : ∀ reply e, decision reply = .error e ↔
    ∃ cause, reply.Lost cause ∧ e = .serviceUnavailable (owner ++ ": " ++ cause.message)

theorem decides_decide {permits : List UInt8 → Bool} {Permits : List UInt8 → Prop}
    (hpermits : ∀ body, permits body = true ↔ Permits body) (owner : String) :
    Decides owner Permits (decide owner permits) := by
  refine ⟨?_, ?_, ?_⟩
  · rintro (cause | ⟨status, body⟩)
    · simp [decide]
    · cases hstatus : isSuccess status <;> cases body <;> simp [decide, hstatus, hpermits]
  · rintro (cause | ⟨status, body⟩)
    · simp [decide]
    · cases hstatus : isSuccess status <;> cases body <;> simp [decide, hstatus, ← hpermits]
  · rintro (cause | ⟨status, body⟩) e
    · constructor
      · rintro ⟨⟩
        exact ⟨cause, .unanswered cause, rfl⟩
      · rintro ⟨cause, ⟨⟩, rfl⟩
        rfl
    · constructor
      · intro h
        cases hstatus : isSuccess status <;> cases body <;> simp [decide, hstatus] at h
        exact ⟨_, .brokenOff hstatus, h.symm⟩
      · rintro ⟨cause, hlost, rfl⟩
        cases hlost with
        | brokenOff hstatus => simp [decide, hstatus, decide.unavailable]

end FinalReply

namespace ManagedService

/-- What may stand for a flag: nothing if it is not set, else its value. -/
inductive Flagged : List Json → Bool → Prop
  | absent : Flagged [] false
  | present (flag : Bool) : Flagged [.bool flag] flag

theorem flagged_iff {values : List Json} {flag : Bool} :
    (values = [] ∧ flag = false ∨
        ∃ value, values = [value] ∧ Decoder.bool (Draft.ofJson value) = .ok flag) ↔
      Flagged values flag := by
  simp only [Decoder.bool_ofJson_eq_ok_iff, exists_eq_right]
  constructor
  · rintro (⟨rfl, rfl⟩ | rfl)
    · exact .absent
    · exact .present flag
  · rintro (_ | _)
    · exact .inl ⟨rfl, rfl⟩
    · exact .inr rfl

/-- How a decision may be written: as an object with one user, at most one flag and whatever
else, or as the list of user and flag. -/
inductive Verdict.Written : Json → Verdict → Prop
  | object {members : List (String × Json)} {v : Verdict}
      (huser : Json.named "user" members = [.string v.user])
      (hflag : Flagged (Json.named "authorized" members) v.authorized) :
      Written (.object members) v
  | array {rest : List Json} {v : Verdict} (hflag : Flagged rest v.authorized) :
      Written (.array (.string v.user :: rest)) v

/-- Documents that list decisions: alone, or as the one member `credential` of an object. -/
inductive Listed : Json → List Verdict → Prop
  | bare {items : List Json} {list : List Verdict}
      (hitems : List.Forall₂ Verdict.Written items list) : Listed (.array items) list
  | wrapped {members : List (String × Json)} {items : List Json} {list : List Verdict}
      (hmember : Json.named "credential" members = [.array items])
      (hitems : List.Forall₂ Verdict.Written items list) : Listed (.object members) list

/-- The fields of a decision. -/
def userField : Field := .of "user" .required Decoder.string

def flagField : Field := .of "authorized" .defaulted Decoder.bool

theorem mk_seq_eq_ok_iff {user : Except DecodeError String} {flag : Except DecodeError Bool}
    {v : Verdict} :
    Verdict.mk <$> user <*> flag = .ok v ↔ user = .ok v.user ∧ flag = .ok v.authorized := by
  obtain ⟨name, authorized⟩ := v
  cases user <;> cases flag <;> simp [seq_eq_bind_map, bind, Except.bind]

theorem verdict_object_eq_ok_iff {members : List (String × Json)} {v : Verdict} :
    verdict (Draft.ofJson (.object members)) = .ok v ↔ Verdict.Written (.object members) v := by
  let record := Record.known [userField, flagField] (Draft.membersOfJson members)
  have hdecoded : verdict (Draft.ofJson (.object members)) = .ok v ↔
      (∀ field ∈ [userField, flagField],
          field.Takes ((Json.named field.name members).map Draft.ofJson)) ∧
        Verdict.mk <$> record.get "user" Decoder.string <*>
          record.getD "authorized" Decoder.bool false = .ok v := by
    rw [Draft.ofJson, verdict, Shape.decoder_object_eq_ok_iff (by decide),
      Record.fits_membersOfJson, Shape.read_seq, Shape.read_map]
    rfl
  have huserField : userField ∈ [userField, flagField] := by simp
  have hflagField : flagField ∈ [userField, flagField] := by simp
  have huser : userField.Takes _ ∧ record.get "user" Decoder.string = .ok v.user ↔ _ :=
    Field.required_reads_ofJson (Record.lookup_known_membersOfJson huserField members) v.user
  have hflag : flagField.Takes _ ∧ record.getD "authorized" Decoder.bool false =
      .ok v.authorized ↔ _ :=
    Field.defaulted_reads_ofJson (Record.lookup_known_membersOfJson hflagField members)
      v.authorized false
  simp only [Decoder.string_ofJson_eq_ok_iff, exists_eq_right] at huser
  rw [hdecoded, mk_seq_eq_ok_iff, List.forall_mem_cons, List.forall_mem_singleton,
    and_and_and_comm]
  constructor
  · rintro ⟨huserRead, hflagRead⟩
    exact .object (huser.mp huserRead) (flagged_iff.mp (hflag.mp hflagRead))
  · rintro ⟨huserWritten, hflagWritten⟩
    exact ⟨huser.mpr huserWritten, hflag.mpr (flagged_iff.mpr hflagWritten)⟩

theorem verdict_array_eq_ok_iff {items : List Json} {v : Verdict} :
    verdict (Draft.ofJson (.array items)) = .ok v ↔ Verdict.Written (.array items) v := by
  have hdecoded : verdict (Draft.ofJson (.array items)) = .ok v ↔
      ∃ record, Record.ofItems [userField, flagField] (items.map Draft.ofJson) = .ok record ∧
        record.get "user" Decoder.string = .ok v.user ∧
          record.getD "authorized" Decoder.bool false = .ok v.authorized := by
    rw [Draft.ofJson, Draft.itemsOfJson_eq, verdict, Shape.decoder_array_eq_ok_iff]
    simp only [Shape.read_seq, Shape.read_map, ← mk_seq_eq_ok_iff]
    rfl
  rw [hdecoded]
  cases items with
  | nil =>
      constructor
      · rintro ⟨record, hitems, -⟩
        cases hitems
      · intro h
        cases h
  | cons user rest =>
      let record : Record := ("user", Draft.ofJson user) ::
        (rest.map Draft.ofJson).map fun value => ("authorized", value)
      have hlookup : record.lookup "authorized" = (rest.map Draft.ofJson).head? := by
        cases rest <;> simp [record, List.lookup_cons]
      have hpresence : flagField.presence = .defaulted := rfl
      have hitems : ∀ read, Record.ofItems [userField, flagField]
            ((user :: rest).map Draft.ofJson) = .ok read ↔
          userField.accepts (Draft.ofJson user) = .ok () ∧
            flagField.Takes (rest.map Draft.ofJson) ∧ read = record := by
        intro read
        rw [List.map_cons, Record.ofItems_cons_eq_ok_iff]
        simp only [Record.ofItems_defaulted_eq_ok_iff hpresence, and_assoc, exists_and_left,
          exists_eq_left]
        rfl
      have hflag : flagField.Takes _ ∧ record.getD "authorized" Decoder.bool false =
          .ok v.authorized ↔ _ := Field.defaulted_reads_ofJson hlookup v.authorized false
      constructor
      · rintro ⟨read, hread, huser, hflagRead⟩
        obtain ⟨-, htakes, rfl⟩ := (hitems read).mp hread
        obtain rfl := Decoder.string_ofJson_eq_ok_iff.mp huser
        exact .array (flagged_iff.mp (hflag.mp ⟨htakes, hflagRead⟩))
      · intro h
        cases h with
        | array hwritten =>
            obtain ⟨htakes, hflagRead⟩ := hflag.mpr (flagged_iff.mpr hwritten)
            exact ⟨record, (hitems record).mpr ⟨rfl, htakes, rfl⟩, rfl, hflagRead⟩

theorem verdict_eq_ok_iff {value : Json} {v : Verdict} :
    verdict (Draft.ofJson value) = .ok v ↔ Verdict.Written value v := by
  cases value with
  | object members => exact verdict_object_eq_ok_iff
  | array items => exact verdict_array_eq_ok_iff
  | _ =>
      constructor
      · intro h
        cases h
      · intro h
        cases h

theorem list_eq_ok_iff {items : List Json} {list : List Verdict} :
    Decoder.list verdict (Draft.ofJson (.array items)) = .ok list ↔
      List.Forall₂ Verdict.Written items list := by
  simp only [Decoder.list_ofJson_eq_ok_iff, verdict_eq_ok_iff]

theorem verdicts_eq_ok_iff {document : Json} {list : List Verdict} :
    verdicts (Draft.ofJson document) = .ok list ↔ Listed document list := by
  cases document with
  | array items =>
      change Decoder.list verdict (Draft.ofJson (.array items)) = .ok list ↔ _
      rw [list_eq_ok_iff]
      constructor
      · exact .bare
      · rintro ⟨hitems⟩
        exact hitems
  | object members =>
      rw [Draft.ofJson, verdicts, Shape.decoder_required_membersOfJson_eq_ok_iff]
      constructor
      · rintro ⟨value, hnamed, hread⟩
        cases value with
        | array items => exact .wrapped hnamed (list_eq_ok_iff.mp hread)
        | _ => cases hread
      · intro h
        cases h with
        | wrapped hmember hitems => exact ⟨_, hmember, list_eq_ok_iff.mpr hitems⟩
  | _ =>
      constructor
      · intro h
        cases h
      · intro h
        cases h

/-- Bodies that permit a user: documents that list a decision for the user with the flag set,
whatever the case of the name. -/
def Permits (username : String) (body : List UInt8) : Prop :=
  ∃ document list, Json.parseKept? body = some document ∧ Listed document list ∧
    ∃ v ∈ list, v.authorized = true ∧ Text.Ascii.equalIgnoringCase v.user username = true

theorem bodyPermits_iff (username : String) (body : List UInt8) :
    bodyPermits username body = true ↔ Permits username body := by
  have hpermits : ∀ list, permits list username = true ↔ ∃ v ∈ list, v.authorized = true ∧
      Text.Ascii.equalIgnoringCase v.user username = true := by
    intro list
    simp only [permits, List.any_eq_true, Bool.and_eq_true]
  unfold bodyPermits Permits
  cases hkept : Json.parseKept? body with
  | none => simp
  | some document =>
      simp only [← verdicts_eq_ok_iff, ← hpermits, Option.some.injEq, exists_and_left,
        exists_eq_left']
      cases verdicts (Draft.ofJson document) <;> simp

/-- The managed service is asked once and its last reply decides: it permits exactly if it is a
success with a body that permits the user, and fails exactly if it is lost. -/
theorem authorize_by_verdicts (endpoint : TenantEndpoint) (tokenHeader : String)
    (teams : TeamRepository) (network : Network) (group : Group) (principal : Principal) :
    let sent := (plan endpoint tokenHeader group principal.username).send network
    let decision := FinalReply.decide "managed service" (bodyPermits principal.username)
    (GroupClient.managedService endpoint tokenHeader).authorize teams network group principal =
        (decision (.ofAnswer sent.1), teams, sent.2) ∧
      FinalReply.Decides "managed service" (Permits principal.username) decision :=
  ⟨map_askOwner _ _ _ _ _, FinalReply.decides_decide (bodyPermits_iff principal.username) "managed service"⟩

end ManagedService

namespace Tenant

/-- Texts by which a tenant permits: an object with one flag, which is set, and readable names,
or the list of that flag. -/
inductive Granting : Draft → Prop
  | object {members : List (Option String × Draft)}
      (hnames : ∀ member ∈ members, member.1 ≠ none)
      (hothers : ∀ name value, (some name, value) ∈ members → name ≠ "authorized" →
        value.isWellFormed = true)
      (hflag : Draft.named "authorized" members = [.bool true]) : Granting (.object members)
  | array : Granting (.array [.bool true])

theorem verdict_eq_true_iff {draft : Draft} : verdict draft = .ok true ↔ Granting draft := by
  cases draft with
  | object members =>
      rw [verdict, Shape.decoder_defaulted_object_eq_ok_iff]
      constructor
      · rintro ⟨hnames, hothers, ⟨-, habsurd⟩ | ⟨value, hvalue, hread⟩⟩
        · cases habsurd
        · exact .object hnames hothers (by rw [hvalue, Decoder.bool_eq_ok_iff.mp hread])
      · rintro ⟨hnames, hothers, hflag⟩
        exact ⟨hnames, hothers, .inr ⟨_, hflag, rfl⟩⟩
  | array items =>
      rw [verdict, Shape.decoder_defaulted_array_eq_ok_iff]
      constructor
      · rintro (⟨-, habsurd⟩ | ⟨value, rfl, hread⟩)
        · cases habsurd
        · rw [Decoder.bool_eq_ok_iff.mp hread]
          exact .array
      · rintro ⟨⟩
        exact .inr ⟨_, rfl, rfl⟩
  | string s =>
      constructor
      · intro h
        cases s <;> cases h
      · intro h
        cases h
  | _ =>
      constructor
      · intro h
        cases h
      · intro h
        cases h

/-- Bodies that permit. -/
def Permits (body : List UInt8) : Prop :=
  ∃ draft, Draft.parseBytes body = (draft, []) ∧ Granting draft

theorem bodyPermits_iff (body : List UInt8) : bodyPermits body = true ↔ Permits body := by
  unfold bodyPermits Permits
  rcases Draft.parseBytes body with ⟨draft, _ | ⟨token, rest⟩⟩
  · simp only [← verdict_eq_true_iff, Prod.mk.injEq, and_true, exists_eq_left']
    cases verdict draft <;> simp
  · simp

/-- A tenant is asked once, if the name of the group has its three parts, and the last reply
decides: it permits exactly if it is a success with a body that permits, and fails exactly if it
is lost. -/
theorem authorize_by_flag (endpoint : TenantEndpoint) (teams : TeamRepository)
    (network : Network) (group : Group) (principal : Principal) :
    let decision := FinalReply.decide "delegated tenant" bodyPermits
    (GroupClient.tenant endpoint).authorize teams network group principal =
        (match segments? group.name with
        | none => (.error (nameError group), teams, network)
        | some segments =>
          let sent := (plan endpoint principal.username segments).send network
          (decision (.ofAnswer sent.1), teams, sent.2)) ∧
      FinalReply.Decides "delegated tenant" Permits decision := by
  intro decision
  refine ⟨?_, FinalReply.decides_decide bodyPermits_iff "delegated tenant"⟩
  unfold GroupClient.authorize
  cases segments? group.name with
  | none => rfl
  | some segments => exact map_askOwner _ _ _ _ _

/-- A tenant permits by the list of a flag, which is no object. -/
theorem authorize_by_position :
    let endpoint : TenantEndpoint := { url := "http://stub/authz", token := "t" }
    let network : Network :=
      { deliver := fun _ _ => .reply 200 [] (some (Text.Utf8.encode "[true]")) }
    ((GroupClient.tenant endpoint).authorize (.ofTable []) network
        (Group.ofName .tenantProd "acme_web_prod") ⟨"alice", none, .prod, []⟩).1.toOption =
        some true ∧
      Json.parse? "[true]" = some (.array [.bool true]) := by
  intro endpoint network
  have hscan : Token.scan "[true]" = [.openArray, .bool true, .closeArray] := by decide +kernel
  refine ⟨by decide +kernel, ?_⟩
  rw [Json.parse?, Draft.parse, hscan]
  rfl

end Tenant

end AccessGateway
