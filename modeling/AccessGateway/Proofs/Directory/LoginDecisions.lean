import AccessGateway.Directory.Pool
import AccessGateway.Proofs.Directory.CachedNames

/-!
# The decision table of logins

A login is decided by the first of a few things that is not in order: the username, the
password, the directory, the number of entries, the bind.  Whatever a directory does, each
answer arises exactly under its condition; what is asked of the directory, kept in the cache and
counted belongs to the same row of the table.  An outage is never told as wrong credentials, and
a name is kept only if a search found it alone.
-/

namespace AccessGateway

namespace Connector

variable {σ : Type}

/-- The same directory, which also writes down what it is asked. -/
def recorded (connector : Connector σ) : Connector (σ × List DirectoryRequest) where
  search := fun (directory, asked) base filter =>
    let (answer, after) := connector.search directory base filter
    (answer, after, asked ++ [.search base filter])
  bind := fun (directory, asked) name password =>
    let (answer, after) := connector.bind directory name password
    (answer, after, asked ++ [.bind name password])

theorem search_recorded (connector : Connector σ) (directory : σ) (asked : List DirectoryRequest)
    (base filter : String) :
    connector.recorded.search (directory, asked) base filter =
      ((connector.search directory base filter).1, (connector.search directory base filter).2,
        asked ++ [.search base filter]) := rfl

theorem bind_recorded (connector : Connector σ) (directory : σ) (asked : List DirectoryRequest)
    (name password : String) :
    connector.recorded.bind (directory, asked) name password =
      ((connector.bind directory name password).1, (connector.bind directory name password).2,
        asked ++ [.bind name password]) := rfl

end Connector

namespace Authenticator

def IsNameChar (c : Char) : Prop :=
  'A' ≤ c ∧ c ≤ 'Z' ∨ 'a' ≤ c ∧ c ≤ 'z' ∨ '0' ≤ c ∧ c ≤ '9' ∨ c = '.' ∨ c = '_' ∨ c = '-'

def IsName (username : String) : Prop :=
  username ≠ "" ∧ ∀ c ∈ username.toList, IsNameChar c

theorem isUsernameChar_iff {c : Char} : isUsernameChar c = true ↔ IsNameChar c := by
  have hupper : c.isUpper = true ↔ 'A' ≤ c ∧ c ≤ 'Z' := decide_eq_true_iff
  have hlower : c.isLower = true ↔ 'a' ≤ c ∧ c ≤ 'z' :=
    Bool.and_eq_true_iff.trans (and_congr decide_eq_true_iff decide_eq_true_iff)
  have hdigit : c.isDigit = true ↔ '0' ≤ c ∧ c ≤ '9' :=
    Bool.and_eq_true_iff.trans (and_congr decide_eq_true_iff decide_eq_true_iff)
  have hletter : c.isAlpha = (c.isUpper || c.isLower) := rfl
  simp only [isUsernameChar, Text.Ascii.isLetterOrDigit, Text.Ascii.isLetter, Text.Ascii.isDigit,
    hletter, hupper, hlower, hdigit, IsNameChar, Bool.or_eq_true, decide_eq_true_eq, or_assoc]

theorem isUsername_iff {username : String} : isUsername username = true ↔ IsName username := by
  simp only [isUsername, IsName, Bool.and_eq_true, Bool.not_eq_true', String.isEmpty_eq_false_iff,
    List.all_eq_true, isUsernameChar_iff]

section

variable {σ : Type} (auth : Authenticator) (connector : Connector σ) (directory : σ)
  (username password : String) (domain : Domain)

/-- The name that is kept for a username, unless it has expired. -/
def kept? : Option String := (auth.names.get (auth.cacheKey username)).1

def lookup : DirectoryRequest := .search auth.baseDn (auth.filterFor username)

/-- The entries of a username: the kept name alone, or what a search finds. -/
def entries : Except DirectoryError (List String) × σ :=
  match auth.kept? username with
  | some name => (.ok [name], directory)
  | none => connector.search directory auth.baseDn (auth.filterFor username)

def lookups : List DirectoryRequest :=
  match auth.kept? username with
  | some _ => []
  | none => [auth.lookup username]

/-- The password is tried with the only entry of the username, and this comes of it. -/
def Binds (name : String) (outcome : Except DirectoryError BindOutcome) : Prop :=
  (auth.entries connector directory username).1 = .ok [name] ∧
    (connector.bind (auth.entries connector directory username).2 name password).1 = outcome

/-- The rows of the table: the answer to a login, the outcome it is counted as, and what the
directory is asked. -/
inductive Ends :
    Except GatewayError Principal → LoginOutcome → List DirectoryRequest → Prop
  | malformed (hname : ¬ IsName username) : Ends (.error .invalidUsername) .rejectedInput []
  | passwordless (hname : IsName username) (hpassword : password = "") :
      Ends (.error .invalidCredentials) .invalidCredentials []
  | unsearched (hname : IsName username) (hpassword : password ≠ "") {e : DirectoryError}
      (hentries : (auth.entries connector directory username).1 = .error e) :
      Ends (.error (.serviceUnavailable e.message)) .unavailable (auth.lookups username)
  | undetermined (hname : IsName username) (hpassword : password ≠ "") {found : List String}
      (hentries : (auth.entries connector directory username).1 = .ok found)
      (hmany : found.length ≠ 1) :
      Ends (.error .invalidCredentials) .invalidCredentials (auth.lookups username)
  | unbound (hname : IsName username) (hpassword : password ≠ "") {name : String}
      {e : DirectoryError} (hbind : auth.Binds connector directory username password name (.error e)) :
      Ends (.error (.serviceUnavailable e.message)) .unavailable
        (auth.lookups username ++ [.bind name password])
  | rejected (hname : IsName username) (hpassword : password ≠ "") {name : String}
      (hbind : auth.Binds connector directory username password name (.ok .rejected)) :
      Ends (.error .invalidCredentials) .invalidCredentials
        (auth.lookups username ++ [.bind name password])
  | accepted (hname : IsName username) (hpassword : password ≠ "") {name : String}
      (hbind : auth.Binds connector directory username password name (.ok .accepted)) :
      Ends (.ok ⟨username, DistinguishedName.commonName name, domain, [auth.defaultRole]⟩) .success
        (auth.lookups username ++ [.bind name password])

def sole? : List String → Option String
  | [name] => some name
  | _ => none

/-- What is kept after a lookup was kept before, or is the only entry that a search has found. -/
def KeepsSole (names : Cache String String) : Prop :=
  ∀ {key name : String}, names.Holds key name →
    auth.names.Holds key name ∨
      key = auth.cacheKey username ∧ auth.kept? username = none ∧
        (connector.search directory auth.baseDn (auth.filterFor username)).1 = .ok [name]

end

section

variable {σ : Type} {auth : Authenticator} {connector : Connector σ} {directory : σ}
  {username password : String} {domain : Domain}

/-- A lookup comes to the only entry of the username, with the questions of the table. -/
theorem exists_resolve (auth : Authenticator) (connector : Connector σ) (directory : σ)
    (username : String) :
    ∃ names, auth.KeepsSole connector directory username names ∧
      auth.resolve connector directory username =
        ((auth.entries connector directory username).1.map sole?, { auth with names := names },
          (auth.entries connector directory username).2) ∧
      auth.resolve connector.recorded (directory, []) username =
        ((auth.entries connector directory username).1.map sole?, { auth with names := names },
          (auth.entries connector directory username).2, auth.lookups username) := by
  simp only [entries, lookups, lookup, KeepsSole, kept?]
  cases hget : auth.names.get (auth.cacheKey username) with
  | mk found names =>
    cases found with
    | some name =>
        refine ⟨names, ?_, ?_, ?_⟩
        · intro key name hheld
          exact .inl (hheld.of_get hget)
        · exact resolve_of_hit hget connector directory
        · exact resolve_of_hit hget connector.recorded (directory, [])
    | none =>
        have hbefore : ∀ {key name : String}, names.Holds key name → auth.names.Holds key name :=
          fun hheld => hheld.of_get hget
        simp only [resolve, hget, Connector.search_recorded, List.nil_append]
        cases hsearch : connector.search directory auth.baseDn (auth.filterFor username) with
        | mk answer searched =>
          rcases answer with e | _ | ⟨name, _ | ⟨second, others⟩⟩
          · exact ⟨names, fun hheld => .inl (hbefore hheld), rfl, rfl⟩
          · exact ⟨names, fun hheld => .inl (hbefore hheld), rfl, rfl⟩
          · refine ⟨names.insert (auth.cacheKey username) name, ?_, rfl, rfl⟩
            intro key other hheld
            rcases hheld.of_insert with ⟨hkey, hname⟩ | hheld
            · exact .inr ⟨hkey, trivial, by rw [hname]⟩
            · exact .inl (hbefore hheld)
          · exact ⟨names, fun hheld => .inl (hbefore hheld), rfl, rfl⟩

theorem eq_of_sole? {found : List String} {name : String} (h : sole? found = some name) :
    found = [name] := by
  match found with
  | [_] =>
      cases h
      rfl

theorem length_of_sole? {found : List String} (h : sole? found = none) : found.length ≠ 1 := by
  intro hlength
  obtain ⟨name, rfl⟩ := List.length_eq_one_iff.mp hlength
  cases h

theorem authenticate_of_decide {answer : Answer} {after : Authenticator} {directoryAfter : σ}
    (h : auth.decide connector directory username password domain =
      (answer, after, directoryAfter)) :
    auth.authenticate connector directory username password domain =
      (answer, { after with logins := after.logins.add (.ofResult answer) }, directoryAfter) := by
  rw [authenticate, h]

/-- A login takes a row of the table: it ends with the answer of the row, counts its outcome once
and asks its questions. -/
structure Takes (auth : Authenticator) (connector : Connector σ) (directory : σ)
    (username password : String) (domain : Domain) (answer : Answer) (outcome : LoginOutcome)
    (asked : List DirectoryRequest) (names : Cache String String) (directoryAfter : σ) : Prop where
  ends : auth.Ends connector directory username password domain answer outcome asked
  keeps : auth.KeepsSole connector directory username names
  untouched : ¬ IsName username ∨ password = "" →
    names = auth.names ∧ directoryAfter = directory
  authenticate_eq : auth.authenticate connector directory username password domain =
    (answer, { auth with names := names, logins := auth.logins.add outcome }, directoryAfter)
  recorded_eq : auth.authenticate connector.recorded (directory, []) username password domain =
    (answer, { auth with names := names, logins := auth.logins.add outcome }, directoryAfter,
      asked)

theorem takes_of_refused {answer : Answer} {outcome : LoginOutcome}
    (hends : auth.Ends connector directory username password domain answer outcome [])
    (houtcome : .ofResult answer = outcome)
    (hdecide : ∀ {τ : Type} (connector : Connector τ) (directory : τ),
      auth.decide connector directory username password domain = (answer, auth, directory)) :
    auth.Takes connector directory username password domain answer outcome [] auth.names
      directory where
  ends := hends
  keeps := .inl
  untouched := fun _ => ⟨rfl, rfl⟩
  authenticate_eq := by rw [authenticate_of_decide (hdecide connector directory), houtcome]
  recorded_eq := by
    rw [authenticate_of_decide (hdecide connector.recorded (directory, [])), houtcome]

/-- A username and a password that are in order leave the decision to the directory. -/
theorem exists_takes_of_name (hname : IsName username) (hpassword : password ≠ "") :
    ∃ answer outcome asked names directoryAfter,
      auth.Takes connector directory username password domain answer outcome asked names
        directoryAfter := by
  obtain ⟨names, hkeeps, hresolve, hrecorded⟩ :=
    exists_resolve auth connector directory username
  have huser : isUsername username = true := isUsername_iff.mpr hname
  have hdecide := decide_eq huser hpassword hresolve domain
  have hdecideRecorded := decide_eq huser hpassword hrecorded domain
  have htakes : ∀ {answer : Answer} {outcome : LoginOutcome} {asked : List DirectoryRequest}
      {directoryAfter : σ},
      auth.Ends connector directory username password domain answer outcome asked →
      .ofResult answer = outcome →
      auth.decide connector directory username password domain =
        (answer, { auth with names := names }, directoryAfter) →
      auth.decide connector.recorded (directory, []) username password domain =
        (answer, { auth with names := names }, directoryAfter, asked) →
      auth.Takes connector directory username password domain answer outcome asked names
        directoryAfter := by
    intro answer outcome asked directoryAfter hends houtcome hplain hasked
    refine ⟨hends, hkeeps, ?_, ?_, ?_⟩
    · intro hrefused
      exact (hrefused.elim (fun h => h hname) hpassword).elim
    · rw [authenticate_of_decide hplain, houtcome]
    · rw [authenticate_of_decide hasked, houtcome]
  cases hentries : auth.entries connector directory username with
  | mk found searched =>
    have hfound : (auth.entries connector directory username).1 = found := congrArg Prod.fst hentries
    rw [hentries] at hdecide hdecideRecorded
    cases found with
    | error e =>
        exact ⟨_, _, _, _, _, htakes (.unsearched hname hpassword hfound) rfl hdecide
          hdecideRecorded⟩
    | ok found =>
        cases hsole : sole? found with
        | none =>
            simp only [Except.map, hsole] at hdecide hdecideRecorded
            exact ⟨_, _, _, _, _,
              htakes (.undetermined hname hpassword hfound (length_of_sole? hsole)) rfl hdecide
                hdecideRecorded⟩
        | some name =>
            obtain rfl := eq_of_sole? hsole
            simp only [Except.map, hsole, conclude, Connector.bind_recorded]
              at hdecide hdecideRecorded
            cases hbind : connector.bind searched name password with
            | mk bound directoryAfter =>
              have hbinds : auth.Binds connector directory username password name bound := by
                rw [Binds, hentries]
                exact ⟨rfl, congrArg Prod.fst hbind⟩
              rw [hbind] at hdecide hdecideRecorded
              cases bound with
              | error e =>
                  exact ⟨_, _, _, _, _, htakes (.unbound hname hpassword hbinds) rfl hdecide
                    hdecideRecorded⟩
              | ok bound =>
                  cases bound with
                  | rejected =>
                      exact ⟨_, _, _, _, _, htakes (.rejected hname hpassword hbinds) rfl hdecide
                        hdecideRecorded⟩
                  | accepted =>
                      exact ⟨_, _, _, _, _, htakes (.accepted hname hpassword hbinds) rfl hdecide
                        hdecideRecorded⟩

theorem exists_takes (auth : Authenticator) (connector : Connector σ) (directory : σ)
    (username password : String) (domain : Domain) :
    ∃ answer outcome asked names directoryAfter,
      auth.Takes connector directory username password domain answer outcome asked names
        directoryAfter := by
  by_cases hname : IsName username
  · by_cases hpassword : password = ""
    · refine ⟨_, _, _, _, _, takes_of_refused (.passwordless hname hpassword) rfl ?_⟩
      intro τ connector directory
      simp [decide, isUsername_iff.mpr hname, hpassword]
    · exact exists_takes_of_name hname hpassword
  · refine ⟨_, _, _, _, _, takes_of_refused (.malformed hname) rfl ?_⟩
    intro τ connector directory
    simp [decide, isUsername_iff, hname]

/-- The conditions of two rows exclude each other, by the username, the password, the entries or
what comes of the bind. -/
theorem Ends.unique {answer other : Answer} {outcome outcomeOther : LoginOutcome}
    {asked askedOther : List DirectoryRequest}
    (h : auth.Ends connector directory username password domain answer outcome asked)
    (hother : auth.Ends connector directory username password domain other outcomeOther
      askedOther) :
    answer = other ∧ asked = askedOther := by
  cases h <;> cases hother <;> simp_all [Binds]

/-- A row without a bind that leaves the entries undetermined has searched for them. -/
theorem lookups_ne_nil {found : List String}
    (h : (auth.entries connector directory username).1 = .ok found) (hmany : found.length ≠ 1) :
    auth.lookups username ≠ [] := by
  unfold entries at h
  unfold lookups
  cases hkept : auth.kept? username with
  | some name =>
      rw [hkept] at h
      cases h
      exact absurd rfl hmany
  | none => simp

end

/-- The outcome that an answer is counted as. -/
inductive Counts : Answer → LoginOutcome → Prop
  | success (principal : Principal) : Counts (.ok principal) .success
  | rejectedInput : Counts (.error .invalidUsername) .rejectedInput
  | invalidCredentials : Counts (.error .invalidCredentials) .invalidCredentials
  | unavailable (reason : String) : Counts (.error (.serviceUnavailable reason)) .unavailable

/-- Each answer arises exactly under its condition. -/
structure DecisionTable {σ : Type} (auth : Authenticator) (connector : Connector σ)
    (directory : σ) (username password : String) (domain : Domain) (answer : Answer)
    (asked : List DirectoryRequest) : Prop where
  malformed_iff : answer = .error .invalidUsername ↔ ¬ IsName username
  passwordless_iff : answer = .error .invalidCredentials ∧ asked = [] ↔
    IsName username ∧ password = ""
  unavailable_iff : ∀ reason, answer = .error (.serviceUnavailable reason) ↔
    IsName username ∧ password ≠ "" ∧
      ∃ e : DirectoryError, reason = e.message ∧
        ((auth.entries connector directory username).1 = .error e ∨
          ∃ name, auth.Binds connector directory username password name (.error e))
  refused_iff : answer = .error .invalidCredentials ∧ asked ≠ [] ↔
    IsName username ∧ password ≠ "" ∧
      ((∃ found, (auth.entries connector directory username).1 = .ok found ∧ found.length ≠ 1) ∨
        ∃ name, auth.Binds connector directory username password name (.ok .rejected))
  accepted_iff : ∀ principal, answer = .ok principal ↔
    IsName username ∧ password ≠ "" ∧
      ∃ name, auth.Binds connector directory username password name (.ok .accepted) ∧
        principal = ⟨username, DistinguishedName.commonName name, domain, [auth.defaultRole]⟩

section

variable {σ : Type} {auth : Authenticator} {connector : Connector σ} {directory : σ}
  {username password : String} {domain : Domain} {answer : Answer} {outcome : LoginOutcome}
  {asked : List DirectoryRequest}

theorem Ends.counts
    (h : auth.Ends connector directory username password domain answer outcome asked) :
    Counts answer outcome := by
  cases h <;> constructor

theorem Ends.decisionTable
    (h : auth.Ends connector directory username password domain answer outcome asked) :
    auth.DecisionTable connector directory username password domain answer asked where
  malformed_iff := by
    constructor
    · rintro rfl
      cases h with
      | malformed hname => exact hname
    · intro hname
      exact (h.unique (.malformed hname)).1
  passwordless_iff := by
    constructor
    · rintro ⟨rfl, hasked⟩
      cases h with
      | passwordless hname hpassword => exact ⟨hname, hpassword⟩
      | undetermined _ _ hentries hmany => exact absurd hasked (lookups_ne_nil hentries hmany)
      | rejected => simp at hasked
    · rintro ⟨hname, hpassword⟩
      exact h.unique (.passwordless hname hpassword)
  unavailable_iff := by
    intro reason
    constructor
    · rintro rfl
      cases h with
      | unsearched hname hpassword hentries =>
          exact ⟨hname, hpassword, _, rfl, .inl hentries⟩
      | unbound hname hpassword hbind => exact ⟨hname, hpassword, _, rfl, .inr ⟨_, hbind⟩⟩
    · rintro ⟨hname, hpassword, e, rfl, hentries | ⟨name, hbind⟩⟩
      · exact (h.unique (.unsearched hname hpassword hentries)).1
      · exact (h.unique (.unbound hname hpassword hbind)).1
  refused_iff := by
    constructor
    · rintro ⟨rfl, hasked⟩
      cases h with
      | passwordless => exact absurd rfl hasked
      | undetermined hname hpassword hentries hmany =>
          exact ⟨hname, hpassword, .inl ⟨_, hentries, hmany⟩⟩
      | rejected hname hpassword hbind => exact ⟨hname, hpassword, .inr ⟨_, hbind⟩⟩
    · rintro ⟨hname, hpassword, ⟨found, hentries, hmany⟩ | ⟨name, hbind⟩⟩
      · obtain ⟨rfl, rfl⟩ := h.unique (.undetermined hname hpassword hentries hmany)
        exact ⟨rfl, lookups_ne_nil hentries hmany⟩
      · obtain ⟨rfl, rfl⟩ := h.unique (.rejected hname hpassword hbind)
        exact ⟨rfl, by simp⟩
  accepted_iff := by
    intro principal
    constructor
    · rintro rfl
      cases h with
      | accepted hname hpassword hbind => exact ⟨hname, hpassword, _, hbind, rfl⟩
    · rintro ⟨hname, hpassword, name, hbind, rfl⟩
      exact (h.unique (.accepted hname hpassword hbind)).1

/-- The questions of a row: none for a username or a password that is not in order; else a search,
unless a name is kept, and a bind as the only entry. -/
theorem Ends.asked_eq
    (h : auth.Ends connector directory username password domain answer outcome asked) :
    (¬ IsName username ∨ password = "" → asked = []) ∧
      (IsName username → password ≠ "" →
        (∀ name, (auth.entries connector directory username).1 = .ok [name] →
            asked = auth.lookups username ++ [.bind name password]) ∧
          ((∀ name, (auth.entries connector directory username).1 ≠ .ok [name]) →
            asked = auth.lookups username)) := by
  cases h with
  | undetermined hname hpassword hentries hmany =>
      refine ⟨?_, fun _ _ => ⟨?_, fun _ => rfl⟩⟩
      · intro hrefused
        exact (hrefused.elim (fun h => h hname) hpassword).elim
      · intro name hsole
        cases hentries.symm.trans hsole
        exact absurd rfl hmany
  | _ => simp_all [Binds]

end

/-- Whatever the directory does and whatever is kept, a login takes exactly one row of the table.
Its answer is counted once, under its own outcome; the directory is asked the questions of the row
and no others, none of them before username and password are in order, when the cache is left
alone too; and a name is kept only after a search that found no other. -/
theorem authenticate_decides {σ : Type} (auth : Authenticator) (connector : Connector σ)
    (directory : σ) (username password : String) (domain : Domain) :
    ∃ answer outcome asked names directoryAfter,
      auth.authenticate connector directory username password domain =
          (answer, { auth with names := names, logins := auth.logins.add outcome },
            directoryAfter) ∧
        auth.authenticate connector.recorded (directory, []) username password domain =
          (answer, { auth with names := names, logins := auth.logins.add outcome },
            directoryAfter, asked) ∧
        auth.DecisionTable connector directory username password domain answer asked ∧
        Counts answer outcome ∧
        (¬ IsName username ∨ password = "" →
          asked = [] ∧ names = auth.names ∧ directoryAfter = directory) ∧
        (IsName username → password ≠ "" →
          (∀ name, (auth.entries connector directory username).1 = .ok [name] →
              asked = auth.lookups username ++ [.bind name password]) ∧
            ((∀ name, (auth.entries connector directory username).1 ≠ .ok [name]) →
              asked = auth.lookups username)) ∧
        ∀ {key name : String}, names.Holds key name → auth.names.Holds key name ∨
          key = auth.cacheKey username ∧ auth.lookup username ∈ asked ∧
            (connector.search directory auth.baseDn (auth.filterFor username)).1 = .ok [name] := by
  obtain ⟨answer, outcome, asked, names, directoryAfter, h⟩ :=
    exists_takes auth connector directory username password domain
  obtain ⟨hunasked, hasked⟩ := h.ends.asked_eq
  refine ⟨answer, outcome, asked, names, directoryAfter, h.authenticate_eq, h.recorded_eq,
    h.ends.decisionTable, h.ends.counts, ?_, hasked, ?_⟩
  · intro hrefused
    exact ⟨hunasked hrefused, h.untouched hrefused⟩
  · intro key name hheld
    by_cases hrefused : ¬ IsName username ∨ password = ""
    · rw [(h.untouched hrefused).1] at hheld
      exact .inl hheld
    · rw [not_or, Classical.not_not] at hrefused
      rcases h.keeps hheld with hbefore | ⟨hkey, hkept, hsearch⟩
      · exact .inl hbefore
      · have hentries : (auth.entries connector directory username).1 = .ok [name] := by
          rw [entries, hkept]
          exact hsearch
        refine .inr ⟨hkey, ?_, hsearch⟩
        rw [(hasked hrefused.1 hrefused.2).1 name hentries, lookups, hkept]
        simp

end Authenticator

end AccessGateway
