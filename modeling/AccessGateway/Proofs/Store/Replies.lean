import AccessGateway.Proofs.Json.Records
import AccessGateway.Store.Remote

/-!
# Failing questions

A question fails by the reply to it: by its status, or by a body that is not what the question
wants.  That a group is there already and that nothing is there to be listed are no failures.
Each failure has a status of its own for the caller.
-/

namespace AccessGateway

open Json

namespace StoreOperation

def secretFields : List Field := [
  .of "name" .required Decoder.string,
  .of "description" .defaulted (Decoder.option Decoder.string),
  .of "checksum" .defaulted (Decoder.option Decoder.string),
  .of "createdBy" .defaulted (Decoder.option Decoder.string),
  .of "createdAtSeconds" .defaulted (Decoder.option Decoder.signed64),
  .of "expiry" .defaulted (Decoder.option Decoder.signed64)]

def clientFields : List Field := [
  .of "name" .required Decoder.string,
  .of "description" .defaulted (Decoder.option Decoder.string),
  .of "createdBy" .defaulted (Decoder.option Decoder.string)]

/-- A body that did not break off and is one document of a kind, with nothing after it. -/
def IsDocument (Kind : Draft → Prop) (body : Option (List UInt8)) : Prop :=
  ∃ bytes draft, body = some bytes ∧ Draft.parseBytes bytes = (draft, []) ∧ Kind draft

def ListOf (Kind : Draft → Prop) (draft : Draft) : Prop :=
  ∃ items, draft = .array items ∧ ∀ item ∈ items, Kind item

/-- The bodies that a question can be answered with.  Where only the status counts, these are all
bodies, also one that breaks off. -/
def Readable : StoreOperation → Option (List UInt8) → Prop
  | .listSecrets _ => IsDocument (ListOf (Record.Written secretFields))
  | .listClients _ => IsDocument (ListOf (Record.Written clientFields))
  | .getSecret _ => IsDocument (Record.Written secretFields)
  | _ => fun _ => True

def IsListing : StoreOperation → Prop
  | .listSecrets _ | .listClients _ => True
  | _ => False

def IsEnsuring : StoreOperation → Prop
  | .ensureGroup .. => True
  | _ => False

/-- The replies by which a question fails, with the status that the caller is told. -/
inductive Fails (operation : StoreOperation) : FinalReply → Nat → Prop
  | unanswered (cause : SendError) : Fails operation (.error cause) 503
  | notFound (h : ¬ operation.IsListing) (body : Option (List UInt8)) :
      Fails operation (.ok (404, body)) 404
  | conflict (h : ¬ operation.IsEnsuring) (body : Option (List UInt8)) :
      Fails operation (.ok (409, body)) 409
  | refused {status : Nat} (hstatus : isSuccess status = false) (hnotFound : status ≠ 404)
      (hconflict : status ≠ 409) (body : Option (List UInt8)) :
      Fails operation (.ok (status, body)) 502
  | unreadable {status : Nat} {body : Option (List UInt8)} (hstatus : isSuccess status = true)
      (hbody : ¬ operation.Readable body) : Fails operation (.ok (status, body)) 502

end StoreOperation

/-! ## Bodies -/

theorem SecretDetail.exists_decoder_iff {draft : Draft} :
    (∃ detail, SecretDetail.decoder draft = .ok detail) ↔
      Record.Written StoreOperation.secretFields draft := by
  have htext : ∀ name, (Shape.omissible name Decoder.string).Reads :=
    fun name => Shape.reads_defaulted name _ none
  have hseconds : ∀ name, (Shape.omissible name Decoder.signed64).Reads :=
    fun name => Shape.reads_defaulted name _ none
  have hname := (Shape.reads_required "name" Decoder.string).map SecretDetail.mk
  have htexts :=
    ((hname.seq (htext "description")).seq (htext "checksum")).seq (htext "createdBy")
  have hall := (htexts.seq (hseconds "createdAtSeconds")).seq (hseconds "expiry")
  exact Shape.exists_decoder_iff hall (by decide)

theorem ClientDetail.exists_decoder_iff {draft : Draft} :
    (∃ detail, ClientDetail.decoder draft = .ok detail) ↔
      Record.Written StoreOperation.clientFields draft := by
  have htext : ∀ name, (Shape.omissible name Decoder.string).Reads :=
    fun name => Shape.reads_defaulted name _ none
  have hname := (Shape.reads_required "name" Decoder.string).map ClientDetail.mk
  have hall := (hname.seq (htext "description")).seq (htext "createdBy")
  exact Shape.exists_decoder_iff hall (by decide)

namespace RemoteStore

theorem exists_decodeBody_iff {α : Type} {decoder : Decoder α} {Kind : Draft → Prop}
    (hkind : ∀ draft, (∃ a, decoder draft = .ok a) ↔ Kind draft) {body : Option (List UInt8)} :
    (∃ a, decodeBody decoder body = .ok a) ↔ StoreOperation.IsDocument Kind body := by
  have hbytes : ∀ bytes, (∃ a, decodeBody decoder (some bytes) = .ok a) ↔
      ∃ a, decodeBytes decoder bytes = .ok a := by
    intro bytes
    rw [decodeBody]
    cases decodeBytes decoder bytes <;> simp
  cases body with
  | none => simp [decodeBody, StoreOperation.IsDocument]
  | some bytes => simp [hbytes, exists_decodeBytes_iff, hkind, StoreOperation.IsDocument]

theorem exists_list_iff {α : Type} {decoder : Decoder α} {Kind : Draft → Prop}
    (hkind : ∀ draft, (∃ a, decoder draft = .ok a) ↔ Kind draft) (draft : Draft) :
    (∃ list, Decoder.list decoder draft = .ok list) ↔ StoreOperation.ListOf Kind draft := by
  simp only [Decoder.exists_list_iff, hkind, StoreOperation.ListOf]

theorem exists_readBody_iff {operation : StoreOperation} {body : Option (List UInt8)} :
    (∃ answer, readBody operation body = .ok answer) ↔ operation.Readable body := by
  cases operation with
  | listSecrets group =>
      exact exists_decodeBody_iff (exists_list_iff fun _ => SecretDetail.exists_decoder_iff)
  | listClients group =>
      exact exists_decodeBody_iff (exists_list_iff fun _ => ClientDetail.exists_decoder_iff)
  | getSecret name => exact exists_decodeBody_iff fun _ => SecretDetail.exists_decoder_iff
  | _ => exact iff_of_true ⟨(), rfl⟩ trivial

theorem eq_unreadable_of_readBody {operation : StoreOperation} {body : Option (List UInt8)}
    {e : StoreError} (h : readBody operation body = .error e) : e = unreadable := by
  have hdecode : ∀ {α : Type} (decoder : Decoder α), decodeBody decoder body = .error e →
      e = unreadable := by
    intro α decoder h
    unfold decodeBody at h
    split at h
    · cases h
      rfl
    · split at h
      · cases h
      · cases h
        rfl
  cases operation with
  | listSecrets group => exact hdecode _ h
  | listClients group => exact hdecode _ h
  | getSecret name => exact hdecode _ h
  | _ => cases h

end RemoteStore

/-! ## What a reply comes to -/

namespace StoreOperation

/-- The reply that there is nothing to be listed. -/
def Absent (operation : StoreOperation) (reply : FinalReply) : Prop :=
  operation.IsListing ∧ ∃ body, reply = .ok (404, body)

namespace Fails

variable {operation : StoreOperation} {reply : FinalReply} {status other : Nat}

theorem unique (h : operation.Fails reply status) (hother : operation.Fails reply other) :
    status = other := by
  cases h <;> cases hother <;> first
    | rfl
    | contradiction

theorem isSuccess_eq_false (h : operation.Fails reply status) : isSuccess status = false := by
  cases h <;> rfl

theorem not_absent (h : operation.Fails reply status) : ¬ operation.Absent reply := by
  rintro ⟨hlisting, body, rfl⟩
  cases h with
  | notFound hno => exact hno hlisting
  | refused hstatus hnotFound => exact hnotFound rfl
  | unreadable hstatus => cases hstatus

end Fails

/-- What a reply comes to: an answer, nothing to be listed, or a failure. -/
inductive Reading (operation : StoreOperation) (reply : FinalReply) :
    Except StoreError operation.Answer → Prop
  | answered (answer : operation.Answer) (hholds : ∀ status, ¬ operation.Fails reply status)
      (hthere : ¬ operation.Absent reply) : Reading operation reply (.ok answer)
  | absent (what : String) (h : operation.Absent reply) :
      Reading operation reply (.error (.notFound what))
  | failed {e : StoreError} (h : operation.Fails reply e.toGateway.toApi.status)
      (hthere : operation.IsListing → ∀ what, e ≠ .notFound what) :
      Reading operation reply (.error e)

variable {operation : StoreOperation} {status : Nat} {body : Option (List UInt8)}

theorem not_fails_of_readable (hstatus : isSuccess status = true)
    (hbody : operation.Readable body) (told : Nat) :
    ¬ operation.Fails (.ok (status, body)) told := by
  intro h
  cases h with
  | notFound => cases hstatus
  | conflict => cases hstatus
  | refused hrefused => simp [hstatus] at hrefused
  | unreadable _ hunreadable => exact hunreadable hbody

theorem not_absent_of_isSuccess (hstatus : isSuccess status = true) :
    ¬ operation.Absent (.ok (status, body)) := by
  rintro ⟨-, found, heq⟩
  cases heq
  cases hstatus

theorem reading_statusError (hstatus : isSuccess status = false)
    (hensuring : operation.IsEnsuring → status ≠ 409) (subject detail : String) :
    Reading operation (.ok (status, body))
      (.error (RemoteStore.statusError subject status detail)) := by
  unfold RemoteStore.statusError
  by_cases hnotFound : status = 404
  · subst hnotFound
    rw [if_pos rfl]
    by_cases hlisting : operation.IsListing
    · exact .absent subject ⟨hlisting, body, rfl⟩
    · exact .failed (.notFound hlisting body) fun h => absurd h hlisting
  · rw [if_neg hnotFound]
    by_cases hconflict : status = 409
    · subst hconflict
      rw [if_pos rfl]
      exact .failed (.conflict (fun h => hensuring h rfl) body) (by simp)
    · rw [if_neg hconflict]
      exact .failed (.refused hstatus hnotFound hconflict body) (by simp)

/-- A group that is there already was ensured. -/
theorem reading_ensured (group description : String) (body : Option (List UInt8)) :
    Reading (.ensureGroup group description) (.ok (409, body)) (.ok ()) := by
  apply Reading.answered
  · intro told h
    cases h with
    | conflict hno => exact hno trivial
    | refused _ _ hno => exact hno rfl
    | unreadable hsuccess => cases hsuccess
  · rintro ⟨hlisting, -⟩
    exact hlisting

theorem reading_read (operation : StoreOperation) (detail : String) (reply : FinalReply) :
    Reading operation reply (RemoteStore.read operation detail reply) := by
  rcases reply with cause | ⟨status, body⟩
  · exact .failed (.unanswered cause) (by simp)
  · unfold RemoteStore.read
    dsimp only
    cases hstatus : isSuccess status with
    | true =>
        rw [if_pos rfl]
        cases hread : RemoteStore.readBody operation body with
        | ok answer =>
            have hbody : operation.Readable body :=
              RemoteStore.exists_readBody_iff.mp ⟨answer, hread⟩
            exact .answered answer (not_fails_of_readable hstatus hbody)
              (not_absent_of_isSuccess hstatus)
        | error e =>
            obtain rfl := RemoteStore.eq_unreadable_of_readBody hread
            have hbody : ¬ operation.Readable body := by
              intro hbody
              obtain ⟨answer, hok⟩ := RemoteStore.exists_readBody_iff.mpr hbody
              rw [hread] at hok
              cases hok
            exact .failed (.unreadable hstatus hbody) (by simp [RemoteStore.unreadable])
    | false =>
        rw [if_neg Bool.false_ne_true]
        cases operation with
        | ensureGroup group description =>
            dsimp only
            by_cases hconflict : status = 409
            · subst hconflict
              rw [if_pos rfl]
              exact reading_ensured group description body
            · rw [if_neg hconflict]
              exact reading_statusError hstatus (fun _ => hconflict) group detail
        | _ => exact reading_statusError hstatus False.elim _ detail

end StoreOperation

end AccessGateway
