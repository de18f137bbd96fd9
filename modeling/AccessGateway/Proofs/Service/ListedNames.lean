import AccessGateway.Proofs.Names.NameForms
import AccessGateway.Proofs.Service.StoreFailures
import AccessGateway.Proofs.Store.Addresses

/-!
# Listed names

A listing of the store may hold any names.  Those that can be read are shown by their
short names, whatever group they belong to, and each is looked up in the group that was
asked for.  The lookup meets a listed name again only where the store has that short name
in this very group, with the token of its domain in the canonical form.
-/

namespace AccessGateway

variable {δ : Type}

namespace SecretName

theorem exists_spelling_of_ok {unique : String} {name : SecretName}
    (h : ofUniqueName unique = .ok name) :
    ∃ spelling : Spelling, spelling.text = unique ∧ spelling.name = name := by
  rcases exists_spelling_or_error unique with ⟨spelling, rfl⟩ | ⟨e, herror, -⟩
  · rw [spelling.ofUniqueName_text] at h
    exact ⟨spelling, rfl, Except.ok.inj h⟩
  · rw [herror] at h
    cases h

theorem Valid.uniqueName_eq_text_iff {name : SecretName} (h : name.Valid) (spelling : Spelling) :
    name.uniqueName = spelling.text ↔
      spelling.name = name ∧ spelling.token = spelling.domain.token := by
  constructor
  · intro htext
    have hname : spelling.name = name := by
      have hread := spelling.ofUniqueName_text
      rw [← htext, h.ofUniqueName_eq] at hread
      exact (Except.ok.inj hread).symm
    refine ⟨hname, spelling.uniqueName_eq_text_iff.mp ?_⟩
    rw [hname, htext]
  · rintro ⟨rfl, htoken⟩
    exact spelling.uniqueName_eq_text_iff.mpr htoken

theorem Valid.uniqueName_mem_iff {name : SecretName} (h : name.Valid) {listed : List String} :
    name.uniqueName ∈ listed ↔
      ∃ spelling : Spelling, spelling.text ∈ listed ∧ spelling.name = name ∧
        spelling.token = spelling.domain.token := by
  constructor
  · intro hlisted
    obtain ⟨spelling, htext, -⟩ := exists_spelling_of_ok h.ofUniqueName_eq
    exact ⟨spelling, htext ▸ hlisted, (h.uniqueName_eq_text_iff spelling).mp htext.symm⟩
  · rintro ⟨spelling, hlisted, hname⟩
    rw [(h.uniqueName_eq_text_iff spelling).mpr hname]
    exact hlisted

end SecretName

namespace ApplicationRequest

open SecretName

theorem shortName?_eq_some_iff {detail : SecretDetail} {short : String} :
    shortName? detail = some short ↔
      ∃ spelling : Spelling, spelling.text = detail.name ∧ spelling.short = short := by
  unfold shortName?
  constructor
  · intro h
    split at h
    next name hread =>
      obtain ⟨spelling, htext, rfl⟩ := exists_spelling_of_ok hread
      exact ⟨spelling, htext, Option.some.inj h⟩
    · cases h
  · rintro ⟨spelling, htext, rfl⟩
    rw [← htext, spelling.ofUniqueName_text]
    rfl

theorem mem_shortNames_iff {details : List SecretDetail} {short : String} :
    short ∈ shortNames details ↔
      ∃ spelling : Spelling,
        spelling.text ∈ details.map SecretDetail.name ∧ spelling.short = short := by
  rw [shortNames, List.mem_mergeSort, List.mem_filterMap]
  constructor
  · rintro ⟨detail, hdetail, hshort⟩
    obtain ⟨spelling, htext, hspelled⟩ := shortName?_eq_some_iff.mp hshort
    exact ⟨spelling, htext ▸ List.mem_map_of_mem hdetail, hspelled⟩
  · rintro ⟨spelling, hlisted, hspelled⟩
    obtain ⟨detail, hdetail, htext⟩ := List.mem_map.mp hlisted
    exact ⟨detail, hdetail, shortName?_eq_some_iff.mpr ⟨spelling, htext.symm, hspelled⟩⟩

theorem isShortName_of_mem_shortNames {details : List SecretDetail} {short : String}
    (h : short ∈ shortNames details) : isShortName short = true := by
  obtain ⟨spelling, -, rfl⟩ := mem_shortNames_iff.mp h
  exact spelling.isShortName_short

theorem pairwise_shortNames (details : List SecretDetail) :
    (shortNames details).Pairwise (· ≤ ·) := by
  have hsorted : (shortNames details).Pairwise fun a b => decide (a ≤ b) = true := by
    apply List.pairwise_mergeSort
    · intro a b c hab hbc
      exact decide_eq_true (String.le_trans (of_decide_eq_true hab) (of_decide_eq_true hbc))
    · intro a b
      simpa using String.le_total a b
  exact hsorted.imp fun h => of_decide_eq_true h

end ApplicationRequest

namespace Visit

open SecretName

variable {visit : Visit δ} {store : RemoteStore}

theorem serveRemote_listSecrets (hasked : visit.asked = .ok .listSecrets)
    {details : List SecretDetail} {after : Network}
    (hlisting : store.answer visit.networkAuthorized
      (.listSecrets visit.group.qualifiedName) = (.ok details, after)) :
    (visit.serveRemote store).1 =
        .ofJson 200 (.texts (ApplicationRequest.shortNames details)) ∧
      (visit.serveRemote store).2.network = after := by
  have hrun : (ApplicationRequest.listSecrets.program visit.principal visit.group).run
      store.answer visit.networkAuthorized =
        (.ok (.ofJson 200 (.texts (ApplicationRequest.shortNames details))), after) :=
    StoreProgram.run_demandOr_ok hlisting
  obtain ⟨hresponse, hnetwork⟩ := serveRemote_of_ok hasked store
  rw [hrun] at hresponse hnetwork
  exact ⟨hresponse, hnetwork⟩

theorem sent_getSecret {short : String} (hasked : visit.asked = .ok (.getSecret short))
    (hshort : isShortName short = true) (store : RemoteStore) :
    (visit.serveRemote store).2.network.sent = visit.networkAuthorized.sent ++
      (store.request? (.getSecret (uniqueName ⟨short, visit.group⟩))).toList := by
  obtain ⟨-, hnetwork⟩ := serveRemote_of_ok hasked store
  rw [hnetwork, ← store.sent_answer, ApplicationRequest.program, ApplicationRequest.named, ofShort,
    if_pos hshort]
  cases hanswer : store.answer visit.networkAuthorized
      (.getSecret (uniqueName ⟨short, visit.group⟩)) with
  | mk answer after =>
      cases answer with
      | ok detail =>
          dsimp only
          rw [StoreProgram.run_demand_ok hanswer]
          rfl
      | error e =>
          dsimp only
          rw [StoreProgram.run_demand_error hanswer]

/-- What is told of a listing: the short names of all names in it that can be read.  Fetching one
of them asks for it in the group of the caller, and this name is in the listing exactly if it is
listed there for this group in canonical form. -/
theorem serveRemote_lists (hasked : visit.asked = .ok .listSecrets)
    {details : List SecretDetail} {after : Network}
    (hlisting : store.answer visit.networkAuthorized
      (.listSecrets visit.group.qualifiedName) = (.ok details, after)) :
    let listed := details.map SecretDetail.name
    let shown := ApplicationRequest.shortNames details
    let sought (short : String) : String := uniqueName ⟨short, visit.group⟩
    (visit.serveRemote store).1 = .ofJson 200 (.texts shown) ∧
      shown.Pairwise (· ≤ ·) ∧
      (∀ short, short ∈ shown ↔
        ∃ spelling : Spelling, spelling.text ∈ listed ∧ spelling.short = short) ∧
      (∀ short ∈ shown, ∀ getting : Visit δ, getting.group = visit.group →
        getting.asked = .ok (.getSecret short) →
          (getting.serveRemote store).2.network.sent = getting.networkAuthorized.sent ++
            (store.request? (.getSecret (sought short))).toList) ∧
      (∀ short, isShortName short = true → (sought short ∈ listed ↔
        ∃ spelling : Spelling, spelling.text ∈ listed ∧ spelling.name = ⟨short, visit.group⟩ ∧
          spelling.token = spelling.domain.token)) ∧
      (∀ short, isShortName short = true → sought short ∈ listed → short ∈ shown) ∧
      ((∀ spelling : Spelling, spelling.text ∈ listed → spelling.name.group = visit.group ∧
          spelling.token = spelling.domain.token) →
        ∀ short ∈ shown, sought short ∈ listed) := by
  intro listed shown sought
  have hvalid {short : String} (hshort : isShortName short = true) :
      SecretName.Valid ⟨short, visit.group⟩ :=
    ⟨hshort, Group.name_ne_empty_of_parse visit.parsed⟩
  have hshown {short : String} := @ApplicationRequest.mem_shortNames_iff details short
  refine ⟨(serveRemote_listSecrets hasked hlisting).1, ApplicationRequest.pairwise_shortNames details,
    fun short => hshown, ?_, fun short hshort => (hvalid hshort).uniqueName_mem_iff, ?_, ?_⟩
  · intro short hmem getting hgroup hgetting
    have hshort := ApplicationRequest.isShortName_of_mem_shortNames hmem
    rw [sent_getSecret hgetting hshort store, hgroup]
  · intro short hshort hsought
    obtain ⟨spelling, hlisted, hname, -⟩ := (hvalid hshort).uniqueName_mem_iff.mp hsought
    exact hshown.mpr ⟨spelling, hlisted, congrArg SecretName.short hname⟩
  · intro hown short hmem
    obtain ⟨spelling, hlisted, rfl⟩ := hshown.mp hmem
    obtain ⟨hgroup, htoken⟩ := hown spelling hlisted
    have hshort := spelling.isShortName_short
    refine (hvalid hshort).uniqueName_mem_iff.mpr ⟨spelling, hlisted, ?_, htoken⟩
    rw [← hgroup]
    rfl

/-- A network where the store lists a secret of another group and one under a token in capitals. -/
def foreignNetwork : Network where
  deliver := fun _ _ => .reply 200 [] (some (Text.Utf8.encode
    "[\x7b\"name\":\"prod_Org_Asm_dev@key\"\x7d,\x7b\"name\":\"DEV_Org_Asm_dev@pin\"\x7d]"))

/-- An admin lists the secrets of a group there. -/
def foreignListing : Visit Unit :=
  { state := { muteCreation.state with network := foreignNetwork }
    principal := muteCreation.principal
    request := ⟨"GET", ⟨"/apps/Org_Asm_dev/secrets", none⟩, [], ""⟩
    endpoint := .listSecrets
    names := ["app_name"]
    values := ["Org_Asm_dev"]
    app := "Org_Asm_dev"
    short := ""
    group := muteCreation.group
    decoded := eq_ok_of_toOption (by decide +kernel)
    parsed := muteCreation.parsed
    authorized := eq_ok_of_toOption (by decide +kernel) }

def foreignDetails : List SecretDetail :=
  [{ name := "prod_Org_Asm_dev@key" }, { name := "DEV_Org_Asm_dev@pin" }]

theorem foreignListing_answer :
    ∃ after, RemoteStore.answer ⟨"http://store"⟩ foreignListing.networkAuthorized
      (.listSecrets foreignListing.group.qualifiedName) = (.ok foreignDetails, after) := by
  let answer : Except StoreError (List SecretDetail) :=
    (RemoteStore.answer ⟨"http://store"⟩ foreignListing.networkAuthorized
      (.listSecrets foreignListing.group.qualifiedName)).1
  have hanswer : answer.toOption = some foreignDetails := by decide +kernel
  exact ⟨_, Prod.ext (eq_ok_of_toOption hanswer) rfl⟩

theorem shortNames_foreignDetails :
    ApplicationRequest.shortNames foreignDetails = ["key", "pin"] := by
  have hread : foreignDetails.filterMap ApplicationRequest.shortName? = ["key", "pin"] := by
    decide +kernel
  rw [ApplicationRequest.shortNames, hread]
  exact List.mergeSort_of_pairwise (by decide +kernel)

/-- Both short names are shown, one for a name of another group. -/
theorem serveRemote_lists_foreign :
    foreignListing.asked = .ok .listSecrets ∧
      (∃ after, RemoteStore.answer ⟨"http://store"⟩ foreignListing.networkAuthorized
        (.listSecrets foreignListing.group.qualifiedName) = (.ok foreignDetails, after)) ∧
        (foreignListing.serveRemote ⟨"http://store"⟩).1 = .ofJson 200 (.texts ["key", "pin"]) ∧
          ∃ spelling : Spelling, spelling.text ∈ foreignDetails.map SecretDetail.name ∧
            spelling.short = "key" := by
  have hasked : foreignListing.asked = .ok .listSecrets := rfl
  obtain ⟨after, hanswer⟩ := foreignListing_answer
  obtain ⟨hresponse, -, hshown, -⟩ := serveRemote_lists hasked hanswer
  rw [shortNames_foreignDetails] at hresponse hshown
  exact ⟨hasked, ⟨after, hanswer⟩, hresponse, (hshown "key").mp (by decide)⟩

/-- Short names are shown that the group of the caller does not have: neither of the names that
fetching them asks for is listed. -/
theorem serveRemote_shows_foreign :
    let store : RemoteStore := ⟨"http://store"⟩
    (∃ after, store.answer foreignListing.networkAuthorized
        (.listSecrets foreignListing.group.qualifiedName) = (.ok foreignDetails, after)) ∧
      (foreignListing.serveRemote store).1 = .ofJson 200 (.texts ["key", "pin"]) ∧
        ∀ short ∈ ["key", "pin"], uniqueName ⟨short, foreignListing.group⟩ ∉
          foreignDetails.map SecretDetail.name := by
  intro store
  have hasked : foreignListing.asked = .ok .listSecrets := rfl
  obtain ⟨after, hanswer⟩ := foreignListing_answer
  obtain ⟨hresponse, -⟩ := serveRemote_listSecrets hasked hanswer
  rw [shortNames_foreignDetails] at hresponse
  exact ⟨⟨after, hanswer⟩, hresponse, by decide +kernel⟩

end Visit

end AccessGateway
