import AccessGateway.Directory.Authenticator
import AccessGateway.Directory.Memory
import AccessGateway.Proofs.Cache.Contents

/-!
# Logins with and without kept names

An authenticator keeps the name that a search has found under a key that tells
the username, and the users of a directory do not change.  So a kept name is
what a search would find now, and every login ends as it does for an
authenticator that searches each time.  Only the questions differ: a hit saves a
search, and while the directory fails it makes a bind that fails instead of the
search that would have failed.
-/

namespace AccessGateway

namespace Authenticator

/-- A login, or what happens between logins. -/
inductive Event where
  | login (username password : String) (domain : Domain)
  | fail (failure : Option DirectoryError)
  | advance (milliseconds : Nat)
  | purge

abbrev Answer := Except GatewayError Principal

def perform (auth : Authenticator) (directory : MemoryDirectory) :
    Event → Option Answer × Authenticator × MemoryDirectory
  | .login username password domain =>
    let (answer, auth, directory) :=
      auth.authenticate MemoryDirectory.connector directory username password domain
    (some answer, auth, directory)
  | .fail failure => (none, auth, { directory with failure := failure })
  | .advance milliseconds =>
    (none, { auth with names := auth.names.advance milliseconds }, directory)
  | .purge => (none, { auth with names := auth.names.purge.2 }, directory)

/-- The answers of a run, and authenticator and directory after it. -/
def run (auth : Authenticator) (directory : MemoryDirectory) :
    List Event → List (Option Answer) × Authenticator × MemoryDirectory
  | [] => ([], auth, directory)
  | event :: events =>
    let (answer, auth, directory) := auth.perform directory event
    let (answers, last) := run auth directory events
    (answer :: answers, last)

variable {σ : Type}

/-- The name of the only entry of a username, by a search. -/
def search (settings : DirectorySettings) (connector : Connector σ) (directory : σ)
    (username : String) : Except DirectoryError (Option String) × σ :=
  match connector.search directory settings.baseDn
      (SearchFilter.fill settings.filterTemplate username) with
  | (.error e, directory) => (.error e, directory)
  | (.ok [name], directory) => (.ok (some name), directory)
  | (.ok _, directory) => (.ok none, directory)

/-- Ends a login for which there is a name, no name or no answer. -/
def conclude (role : String) (connector : Connector σ) (directory : σ)
    (username password : String) (domain : Domain) :
    Except DirectoryError (Option String) → Answer × σ
  | .error e => (.error e.toGateway, directory)
  | .ok none => (.error .invalidCredentials, directory)
  | .ok (some name) =>
    match connector.bind directory name password with
    | (.error e, directory) => (.error e.toGateway, directory)
    | (.ok .rejected, directory) => (.error .invalidCredentials, directory)
    | (.ok .accepted, directory) =>
      (.ok ⟨username, DistinguishedName.commonName name, domain, [role]⟩, directory)

/-- Decides a login by a search. -/
def decideAfresh (settings : DirectorySettings) (connector : Connector σ)
    (directory : σ) (username password : String) (domain : Domain) : Answer × σ :=
  if !isUsername username then (.error .invalidUsername, directory)
  else if password.isEmpty then (.error .invalidCredentials, directory)
  else
    let (found, directory) := search settings connector directory username
    conclude settings.defaultRole connector directory username password domain found

def performAfresh (settings : DirectorySettings) (logins : Tally LoginOutcome)
    (directory : MemoryDirectory) :
    Event → Option Answer × Tally LoginOutcome × MemoryDirectory
  | .login username password domain =>
    let (answer, directory) :=
      decideAfresh settings MemoryDirectory.connector directory username password domain
    (some answer, logins.add (.ofResult answer), directory)
  | .fail failure => (none, logins, { directory with failure := failure })
  | .advance _ | .purge => (none, logins, directory)

/-- A run in which every login searches. -/
def runAfresh (settings : DirectorySettings) (logins : Tally LoginOutcome)
    (directory : MemoryDirectory) :
    List Event → List (Option Answer) × Tally LoginOutcome × MemoryDirectory
  | [] => ([], logins, directory)
  | event :: events =>
    let (answer, logins, directory) := performAfresh settings logins directory event
    let (answers, last) := runAfresh settings logins directory events
    (answer :: answers, last)

/-- A login is answered from the cache while the directory fails. -/
def isBlind (auth : Authenticator) (directory : MemoryDirectory) : Event → Bool
  | .login username password _ =>
    isUsername username && !password.isEmpty &&
      (auth.names.get (auth.cacheKey username)).1.isSome && directory.failure.isSome
  | _ => false

/-- How many logins of a run are answered from the cache while the directory fails. -/
def blindBinds (auth : Authenticator) (directory : MemoryDirectory) : List Event → Nat
  | [] => 0
  | event :: events =>
    let (_, after, directoryAfter) := auth.perform directory event
    (if auth.isBlind directory event then 1 else 0) + blindBinds after directoryAfter events

/-- A run and the run in which every login searches have come to the same point; `blind` logins
were answered from the cache while the directory failed. -/
structure Mirrors (settings : DirectorySettings) (users : List DirectoryUser)
    (auth : Authenticator) (directory : MemoryDirectory) (logins : Tally LoginOutcome)
    (afresh : MemoryDirectory) (blind : Nat) : Prop where
  baseDn_eq : auth.baseDn = settings.baseDn
  filterTemplate_eq : auth.filterTemplate = settings.filterTemplate
  defaultRole_eq : auth.defaultRole = settings.defaultRole
  logins_eq : auth.logins = logins
  users_eq : directory.users = users
  users_afresh : afresh.users = users
  failure_eq : afresh.failure = directory.failure
  searches_eq : directory.searches + auth.names.hits = afresh.searches
  binds_eq : directory.binds = afresh.binds + blind
  sole : ∀ {key name : String}, auth.names.Holds key name →
    ∃ username, key = auth.cacheKey username ∧
      directory.found (SearchFilter.fill settings.filterTemplate username) = [name]

theorem cacheKey_injective (auth : Authenticator) {a b : String}
    (h : auth.cacheKey a = auth.cacheKey b) : a = b := by
  unfold cacheKey at h
  rw [← String.toList_inj] at h ⊢
  simpa using h

/-! ## One login -/

section

variable {auth : Authenticator} {connector : Connector σ} {directory : σ}
  {username password : String}

theorem decide_eq (huser : isUsername username = true) (hpassword : password ≠ "")
    {found : Except DirectoryError (Option String)} {after : Authenticator} {searched : σ}
    (h : auth.resolve connector directory username = (found, after, searched))
    (domain : Domain) :
    auth.decide connector directory username password domain =
      let concluded :=
        conclude after.defaultRole connector searched username password domain found
      (concluded.1, after, concluded.2) := by
  have hempty : password.isEmpty = false := by simpa using hpassword
  unfold decide
  rw [if_neg (by simp [huser]), if_neg (by simp [hempty]), h]
  rcases found with e | _ | name
  · rfl
  · rfl
  · dsimp only [conclude]
    rcases connector.bind searched name password with ⟨_ | outcome, bound⟩
    · rfl
    · cases outcome <;> rfl

theorem decideAfresh_eq {settings : DirectorySettings} (huser : isUsername username = true)
    (hpassword : password ≠ "") {found : Except DirectoryError (Option String)} {searched : σ}
    (h : search settings connector directory username = (found, searched)) (domain : Domain) :
    decideAfresh settings connector directory username password domain =
      conclude settings.defaultRole connector searched username password domain found := by
  have hempty : password.isEmpty = false := by simpa using hpassword
  rw [decideAfresh, if_neg (by simp [huser]), if_neg (by simp [hempty]), h]

theorem resolve_of_hit {name : String} {names : Cache String String}
    (h : auth.names.get (auth.cacheKey username) = (some name, names))
    (connector : Connector σ) (directory : σ) :
    auth.resolve connector directory username =
      (.ok (some name), { auth with names := names }, directory) := by
  rw [resolve, h]

/-- The cache after a search: a name that was found alone is kept. -/
def keep (auth : Authenticator) (username : String) (names : Cache String String) :
    Except DirectoryError (Option String) → Cache String String
  | .ok (some name) => names.insert (auth.cacheKey username) name
  | _ => names

theorem resolve_of_miss {settings : DirectorySettings} (hbase : auth.baseDn = settings.baseDn)
    (htemplate : auth.filterTemplate = settings.filterTemplate) {names : Cache String String}
    (h : auth.names.get (auth.cacheKey username) = (none, names))
    {found : Except DirectoryError (Option String)} {searched : σ}
    (hsearch : search settings connector directory username = (found, searched)) :
    auth.resolve connector directory username =
      (found, { auth with names := auth.keep username names found }, searched) := by
  rw [resolve, h]
  dsimp only [filterFor]
  rw [hbase, htemplate]
  unfold search at hsearch
  generalize connector.search directory settings.baseDn
    (SearchFilter.fill settings.filterTemplate username) = asked at hsearch ⊢
  rcases asked with ⟨e | hits, after⟩
  · cases hsearch
    rfl
  · match hits with
    | [] =>
        cases hsearch
        rfl
    | [name] =>
        cases hsearch
        rfl
    | _ :: _ :: _ =>
        cases hsearch
        rfl

theorem bind_of_conclude {role : String} {domain : Domain}
    {found : Except DirectoryError (Option String)} {principal : Principal}
    (h : (conclude role connector directory username password domain found).1 = .ok principal) :
    ∃ name, found = .ok (some name) ∧
      connector.bind directory name password =
        (.ok .accepted,
          (conclude role connector directory username password domain found).2) := by
  rcases found with e | _ | name
  · cases h
  · cases h
  · refine ⟨name, rfl, ?_⟩
    dsimp only [conclude] at h ⊢
    rcases hbind : connector.bind directory name password with ⟨_ | outcome, bound⟩
    · rw [hbind] at h
      cases h
    · rw [hbind] at h
      cases outcome with
      | rejected => cases h
      | accepted => rfl

end

/-! ## Directories alike but for their counts -/

section

variable {directory afresh : MemoryDirectory}

theorem search_memory (settings : DirectorySettings) (hfailure : afresh.failure = directory.failure)
    (husers : afresh.users = directory.users) (username : String) :
    ∃ found,
      search settings MemoryDirectory.connector directory username =
          (found, { directory with searches := directory.searches + 1 }) ∧
        search settings MemoryDirectory.connector afresh username =
          (found, { afresh with searches := afresh.searches + 1 }) ∧
        (∀ e, directory.failure = some e → found = .error e) ∧
        (directory.failure = none → ∀ name, found = .ok (some name) ↔
          directory.found (SearchFilter.fill settings.filterTemplate username) = [name]) := by
  have hfound : ∀ filter, afresh.found filter = directory.found filter := by
    intro filter
    rw [MemoryDirectory.found, MemoryDirectory.found, husers]
  unfold search
  rcases Option.eq_none_or_eq_some directory.failure with hfail | ⟨e, hfail⟩
  · rw [MemoryDirectory.search_of_running hfail,
      MemoryDirectory.search_of_running (hfailure.trans hfail), hfound]
    match directory.found (SearchFilter.fill settings.filterTemplate username) with
    | [] => exact ⟨.ok none, rfl, rfl, by simp [hfail], by simp⟩
    | [name] => exact ⟨.ok (some name), rfl, rfl, by simp [hfail], by simp⟩
    | _ :: _ :: _ => exact ⟨.ok none, rfl, rfl, by simp [hfail], by simp⟩
  · rw [MemoryDirectory.search_of_failure hfail,
      MemoryDirectory.search_of_failure (hfailure.trans hfail)]
    exact ⟨.error e, rfl, rfl, by simp [hfail], by simp [hfail]⟩

/-- A login ends alike, with as many binds. -/
theorem conclude_memory (directory afresh : MemoryDirectory)
    (hfailure : afresh.failure = directory.failure)
    (husers : afresh.users = directory.users) (role username password : String) (domain : Domain)
    (found : Except DirectoryError (Option String)) :
    ∃ answer binds,
      conclude role MemoryDirectory.connector directory username password domain found =
          (answer, { directory with binds := directory.binds + binds }) ∧
        conclude role MemoryDirectory.connector afresh username password domain found =
          (answer, { afresh with binds := afresh.binds + binds }) := by
  rcases found with e | _ | name
  · exact ⟨_, 0, rfl, rfl⟩
  · exact ⟨_, 0, rfl, rfl⟩
  · have haccepts : afresh.accepts name password = directory.accepts name password := by
      rw [MemoryDirectory.accepts, MemoryDirectory.accepts, husers]
    dsimp only [conclude]
    rcases Option.eq_none_or_eq_some directory.failure with hfail | ⟨e, hfail⟩
    · rw [MemoryDirectory.bind_of_running hfail,
        MemoryDirectory.bind_of_running (hfailure.trans hfail), haccepts]
      cases directory.accepts name password with
      | true => exact ⟨_, 1, rfl, rfl⟩
      | false => exact ⟨_, 1, rfl, rfl⟩
    · rw [MemoryDirectory.bind_of_failure hfail,
        MemoryDirectory.bind_of_failure (hfailure.trans hfail)]
      exact ⟨_, 1, rfl, rfl⟩

theorem conclude_of_failure {e : DirectoryError} (hfail : directory.failure = some e)
    (role username name password : String) (domain : Domain) :
    conclude role MemoryDirectory.connector directory username password domain (.ok (some name)) =
      (.error e.toGateway, { directory with binds := directory.binds + 1 }) := by
  rw [conclude, MemoryDirectory.bind_of_failure hfail]

end

/-! ## Runs -/

namespace Mirrors

variable {settings : DirectorySettings} {users : List DirectoryUser} {auth : Authenticator}
  {directory afresh : MemoryDirectory} {logins : Tally LoginOutcome} {blind : Nat}

theorem start (settings : DirectorySettings) (capacity timeToLive : Nat)
    (users : List DirectoryUser) :
    Mirrors settings users (withCache settings capacity timeToLive) { users := users } []
      { users := users } 0 where
  baseDn_eq := rfl
  filterTemplate_eq := rfl
  defaultRole_eq := rfl
  logins_eq := rfl
  users_eq := rfl
  users_afresh := rfl
  failure_eq := rfl
  searches_eq := rfl
  binds_eq := rfl
  sole h := absurd h (Cache.not_holds_ofCapacity _ _ _ _)

theorem users_alike (h : Mirrors settings users auth directory logins afresh blind) :
    afresh.users = directory.users := h.users_afresh.trans h.users_eq.symm

/-- A kept name is the only one a search for its username finds. -/
theorem found_eq (h : Mirrors settings users auth directory logins afresh blind)
    {username name : String} (hheld : auth.names.Holds (auth.cacheKey username) name) :
    directory.found (SearchFilter.fill settings.filterTemplate username) = [name] := by
  obtain ⟨other, hkey, hfound⟩ := h.sole hheld
  rw [auth.cacheKey_injective hkey]
  exact hfound

theorem sole_keep (h : Mirrors settings users auth directory logins afresh blind)
    {username : String} {names : Cache String String}
    (hnames : ∀ {key name : String}, names.Holds key name → auth.names.Holds key name)
    {found : Except DirectoryError (Option String)}
    (hfound : ∀ name, found = .ok (some name) →
      directory.found (SearchFilter.fill settings.filterTemplate username) = [name])
    {key name : String} (hheld : (auth.keep username names found).Holds key name) :
    ∃ other, key = auth.cacheKey other ∧
      directory.found (SearchFilter.fill settings.filterTemplate other) = [name] := by
  rcases found with e | _ | only
  · exact h.sole (hnames hheld)
  · exact h.sole (hnames hheld)
  · rcases Cache.Holds.of_insert hheld with ⟨rfl, rfl⟩ | hbefore
    · exact ⟨username, rfl, hfound _ rfl⟩
    · exact h.sole (hnames hbefore)

theorem hits_keep (auth : Authenticator) (username : String) (names : Cache String String)
    (found : Except DirectoryError (Option String)) :
    (auth.keep username names found).hits = names.hits := by
  unfold keep
  split
  · exact Cache.hits_insert _ _ _
  · rfl

/-- A login ends alike for both authenticators, which are at the same point after it. -/
def EndsAlike (settings : DirectorySettings) (users : List DirectoryUser)
    (auth : Authenticator) (directory : MemoryDirectory) (logins : Tally LoginOutcome)
    (afresh : MemoryDirectory) (blind : Nat) (username password : String) (domain : Domain) :
    Prop :=
  let cached := auth.decide MemoryDirectory.connector directory username password domain
  let searched := decideAfresh settings MemoryDirectory.connector afresh username password domain
  cached.1 = searched.1 ∧ Mirrors settings users cached.2.1 cached.2.2 logins searched.2 blind

theorem endsAlike_of_eq {username password : String} {domain : Domain} {answer : Answer}
    {after : Authenticator} {directoryAfter afreshAfter : MemoryDirectory}
    (hcached : auth.decide MemoryDirectory.connector directory username password domain =
      (answer, after, directoryAfter))
    (hsearched :
      decideAfresh settings MemoryDirectory.connector afresh username password domain =
        (answer, afreshAfter))
    (h : Mirrors settings users after directoryAfter logins afreshAfter blind) :
    EndsAlike settings users auth directory logins afresh blind username password domain := by
  rw [EndsAlike, hcached, hsearched]
  exact ⟨rfl, h⟩

section

variable {username password : String}

theorem endsAlike_of_miss (h : Mirrors settings users auth directory logins afresh blind)
    (huser : isUsername username = true) (hpassword : password ≠ "")
    {names : Cache String String}
    (hget : auth.names.get (auth.cacheKey username) = (none, names)) (domain : Domain) :
    EndsAlike settings users auth directory logins afresh blind username password domain := by
  obtain ⟨found, hsearch, hafresh, hfailing, hrunning⟩ :=
    search_memory settings h.failure_eq h.users_alike username
  have hresolve := resolve_of_miss h.baseDn_eq h.filterTemplate_eq hget hsearch
  obtain ⟨answer, binds, hcached, hsearched⟩ :=
    conclude_memory { directory with searches := directory.searches + 1 }
      { afresh with searches := afresh.searches + 1 } h.failure_eq h.users_alike
      auth.defaultRole username password domain found
  have hdecide := decide_eq huser hpassword hresolve domain
  simp only [hcached] at hdecide
  have hdecideAfresh := decideAfresh_eq huser hpassword hafresh domain
  rw [← h.defaultRole_eq, hsearched] at hdecideAfresh
  have hfound : ∀ name, found = .ok (some name) →
      directory.found (SearchFilter.fill settings.filterTemplate username) = [name] := by
    intro name hok
    rcases Option.eq_none_or_eq_some directory.failure with hfail | ⟨e, hfail⟩
    · exact (hrunning hfail name).mp hok
    · rw [hfailing e hfail] at hok
      cases hok
  have hsearches := h.searches_eq
  have hbinds := h.binds_eq
  refine endsAlike_of_eq hdecide hdecideAfresh { h with
    searches_eq := ?_
    binds_eq := ?_
    sole := h.sole_keep (fun hheld => hheld.of_get hget) hfound }
  · rw [hits_keep, Cache.hits_get_of_none hget]
    dsimp only
    omega
  · dsimp only
    omega

theorem endsAlike_of_hit (h : Mirrors settings users auth directory logins afresh blind)
    (huser : isUsername username = true) (hpassword : password ≠ "")
    {name : String} {names : Cache String String}
    (hget : auth.names.get (auth.cacheKey username) = (some name, names)) (domain : Domain) :
    EndsAlike settings users auth directory logins afresh
      (blind + if directory.failure.isSome then 1 else 0) username password domain := by
  obtain ⟨found, -, hafresh, hfailing, hrunning⟩ :=
    search_memory settings h.failure_eq h.users_alike username
  have hsole := h.found_eq (Cache.holds_of_get hget)
  have hhits := Cache.hits_get_of_some hget
  have hsearches := h.searches_eq
  have hbinds := h.binds_eq
  rcases Option.eq_none_or_eq_some directory.failure with hfail | ⟨e, hfail⟩
  · have hok := (hrunning hfail name).mpr hsole
    obtain ⟨answer, binds, hcached, hsearched⟩ :=
      conclude_memory directory { afresh with searches := afresh.searches + 1 }
        h.failure_eq h.users_alike auth.defaultRole username password domain found
    have hdecide := decide_eq huser hpassword
      (resolve_of_hit hget MemoryDirectory.connector directory) domain
    simp only [← hok, hcached] at hdecide
    have hdecideAfresh := decideAfresh_eq huser hpassword hafresh domain
    rw [← h.defaultRole_eq, hsearched] at hdecideAfresh
    refine endsAlike_of_eq hdecide hdecideAfresh { h with
      searches_eq := ?_
      binds_eq := ?_
      sole := fun hheld => h.sole (hheld.of_get hget) }
    · dsimp only
      omega
    · simp only [hfail, Option.isSome_none, Bool.false_eq_true, if_false]
      omega
  · -- The bind fails here where the search fails there, with the same error.
    have hdecide := decide_eq huser hpassword
      (resolve_of_hit hget MemoryDirectory.connector directory) domain
    simp only [conclude_of_failure hfail] at hdecide
    have hdecideAfresh := decideAfresh_eq huser hpassword hafresh domain
    rw [hfailing e hfail, conclude] at hdecideAfresh
    refine endsAlike_of_eq hdecide hdecideAfresh { h with
      searches_eq := ?_
      binds_eq := ?_
      sole := fun hheld => h.sole (hheld.of_get hget) }
    · dsimp only
      omega
    · simp only [hfail, Option.isSome_some, if_true]
      omega

end

theorem decide (h : Mirrors settings users auth directory logins afresh blind)
    (username password : String) (domain : Domain) :
    EndsAlike settings users auth directory logins afresh
      (blind + if auth.isBlind directory (.login username password domain) then 1 else 0)
      username password domain := by
  by_cases huser : isUsername username = true
  · by_cases hpassword : password = ""
    · have hdecide : auth.decide MemoryDirectory.connector directory username password domain =
          (.error .invalidCredentials, auth, directory) := by
        simp [Authenticator.decide, huser, hpassword]
      have hdecideAfresh :
          decideAfresh settings MemoryDirectory.connector afresh username password domain =
            (.error .invalidCredentials, afresh) := by
        simp [decideAfresh, huser, hpassword]
      refine endsAlike_of_eq hdecide hdecideAfresh ?_
      simpa [isBlind, hpassword] using h
    · rcases hget : auth.names.get (auth.cacheKey username) with ⟨_ | name, names⟩
      · simpa [isBlind, hget] using h.endsAlike_of_miss huser hpassword hget domain
      · simpa [isBlind, hget, huser, hpassword] using
          h.endsAlike_of_hit huser hpassword hget domain
  · have hdecide : auth.decide MemoryDirectory.connector directory username password domain =
        (.error .invalidUsername, auth, directory) := by
      simp [Authenticator.decide, huser]
    have hdecideAfresh :
        decideAfresh settings MemoryDirectory.connector afresh username password domain =
          (.error .invalidUsername, afresh) := by
      simp [decideAfresh, huser]
    refine endsAlike_of_eq hdecide hdecideAfresh ?_
    simpa [isBlind, huser] using h

theorem login (h : Mirrors settings users auth directory logins afresh blind)
    (username password : String) (domain : Domain) :
    let event : Event := .login username password domain
    let cached := auth.perform directory event
    let searched := performAfresh settings logins afresh event
    cached.1 = searched.1 ∧
      Mirrors settings users cached.2.1 cached.2.2 searched.2.1 searched.2.2
        (blind + if auth.isBlind directory event then 1 else 0) := by
  intro event
  obtain ⟨hanswer, hafter⟩ := h.decide username password domain
  have houtcome := congrArg LoginOutcome.ofResult hanswer
  exact ⟨congrArg some hanswer,
    { hafter with logins_eq := congr (congrArg Tally.add hafter.logins_eq) houtcome }⟩

theorem perform (h : Mirrors settings users auth directory logins afresh blind) (event : Event) :
    let cached := auth.perform directory event
    let searched := performAfresh settings logins afresh event
    cached.1 = searched.1 ∧
      Mirrors settings users cached.2.1 cached.2.2 searched.2.1 searched.2.2
        (blind + if auth.isBlind directory event then 1 else 0) := by
  cases event with
  | login username password domain => exact h.login username password domain
  | fail failure => exact ⟨rfl, { h with failure_eq := rfl }⟩
  | advance milliseconds => exact ⟨rfl, { h with sole := fun hheld => h.sole hheld }⟩
  | purge =>
      refine ⟨rfl, { h with searches_eq := ?_, sole := ?_ }⟩
      · show _ + auth.names.purge.2.hits = _
        rw [Cache.hits_purge]
        exact h.searches_eq
      · intro key name hheld
        exact h.sole (Cache.Holds.of_subset (Cache.entries_purge_subset auth.names) hheld)

theorem run (h : Mirrors settings users auth directory logins afresh blind) (events : List Event) :
    let cached := auth.run directory events
    let searched := runAfresh settings logins afresh events
    cached.1 = searched.1 ∧
      Mirrors settings users cached.2.1 cached.2.2 searched.2.1 searched.2.2
        (blind + auth.blindBinds directory events) := by
  induction events generalizing auth directory logins afresh blind with
  | nil => exact ⟨rfl, h⟩
  | cons event events ih =>
      obtain ⟨hanswer, hafter⟩ := h.perform event
      obtain ⟨hanswers, hlast⟩ := ih hafter
      refine ⟨congr (congrArg List.cons hanswer) hanswers, ?_⟩
      rw [Nat.add_assoc] at hlast
      exact hlast

/-- A login that succeeds binds, with the password it was given, as the only entry that a search
for its username finds. -/
theorem accepted (h : Mirrors settings users auth directory logins afresh blind)
    {username password : String} {domain : Domain} {principal : Principal}
    (hok : (auth.decide MemoryDirectory.connector directory username password domain).1 =
      .ok principal) :
    ∃ name asked,
      directory.found (SearchFilter.fill settings.filterTemplate username) = [name] ∧
        asked.binds = directory.binds ∧
        MemoryDirectory.connector.bind asked name password =
          (.ok .accepted,
            (auth.decide MemoryDirectory.connector directory username password domain).2.2) := by
  have huser : isUsername username = true := by
    cases huser : isUsername username with
    | true => rfl
    | false => simp [Authenticator.decide, huser] at hok
  have hpassword : password ≠ "" := by
    intro hempty
    simp [Authenticator.decide, huser, hempty] at hok
  obtain ⟨found, hsearch, -, hfailing, hrunning⟩ :=
    search_memory settings h.failure_eq h.users_alike username
  rcases hget : auth.names.get (auth.cacheKey username) with ⟨_ | kept, names⟩
  · have hdecide := decide_eq huser hpassword
      (resolve_of_miss h.baseDn_eq h.filterTemplate_eq hget hsearch) domain
    rw [hdecide] at hok ⊢
    obtain ⟨name, rfl, hbind⟩ := bind_of_conclude hok
    rcases Option.eq_none_or_eq_some directory.failure with hfail | ⟨e, hfail⟩
    · exact ⟨name, { directory with searches := directory.searches + 1 },
        (hrunning hfail name).mp rfl, rfl, hbind⟩
    · cases hfailing e hfail
  · have hdecide := decide_eq huser hpassword
      (resolve_of_hit hget MemoryDirectory.connector directory) domain
    rw [hdecide] at hok ⊢
    obtain ⟨_, hname, hbind⟩ := bind_of_conclude hok
    cases hname
    exact ⟨kept, directory, h.found_eq (Cache.holds_of_get hget), rfl, hbind⟩

end Mirrors

/-- Whatever is kept and for how long, logins end, and are counted, as if each of them searched.
Each hit saves one search, and while the directory fails it costs one bind, which fails.  A name
is kept only if the search for its username finds no other, and whoever is logged in has been
bound in this very login. -/
theorem answers_eq_afresh (settings : DirectorySettings) (capacity timeToLive : Nat)
    (users : List DirectoryUser) (events : List Event) :
    let directory : MemoryDirectory := { users := users }
    let auth := withCache settings capacity timeToLive
    let cached := auth.run directory events
    let afresh := runAfresh settings [] directory events
    let found (username : String) :=
      directory.found (SearchFilter.fill settings.filterTemplate username)
    cached.1 = afresh.1 ∧
      cached.2.1.logins = afresh.2.1 ∧
      cached.2.2.searches + cached.2.1.names.hits = afresh.2.2.searches ∧
      cached.2.2.binds = afresh.2.2.binds + auth.blindBinds directory events ∧
      (∀ username, (∀ name, found username ≠ [name]) →
        ∀ name, ¬ cached.2.1.names.Holds (cached.2.1.cacheKey username) name) ∧
      ∀ {username password : String} {domain : Domain} {principal : Principal}
        {after : Authenticator} {directoryAfter : MemoryDirectory},
        cached.2.1.authenticate MemoryDirectory.connector cached.2.2 username password domain =
            (.ok principal, after, directoryAfter) →
          ∃ name asked, found username = [name] ∧ asked.binds = cached.2.2.binds ∧
            MemoryDirectory.connector.bind asked name password =
              (.ok .accepted, directoryAfter) := by
  intro directory auth cached afresh found
  obtain ⟨hanswers, hlast⟩ := (Mirrors.start settings capacity timeToLive users).run events
  have hfound : ∀ username,
      cached.2.2.found (SearchFilter.fill settings.filterTemplate username) = found username := by
    intro username
    rw [MemoryDirectory.found, hlast.users_eq]
    rfl
  refine ⟨hanswers, hlast.logins_eq, hlast.searches_eq, ?_, ?_, ?_⟩
  · rw [hlast.binds_eq, Nat.zero_add]
  · intro username hnone name hheld
    exact hnone name ((hfound username).symm.trans (hlast.found_eq hheld))
  · intro username password domain principal after directoryAfter hlogin
    have hok := congrArg Prod.fst hlogin
    obtain ⟨name, asked, hsole, hbinds, hbind⟩ := hlast.accepted hok
    have hafter := congrArg (fun outcome => outcome.2.2) hlogin
    refine ⟨name, asked, (hfound username).symm.trans hsole, hbinds, ?_⟩
    rw [hbind]
    exact congrArg (Prod.mk _) hafter

/-- While the directory fails, a login with a kept name binds and one without does not. -/
theorem binds_of_failing_hit :
    let settings : DirectorySettings :=
      { url := "ldap://127.0.0.1:1", baseDn := "OU=Users,DC=example,DC=com"
        bindDn := "CN=svc,DC=example,DC=com", bindPassword := "svc-password" }
    let directory : MemoryDirectory :=
      { users := [⟨"alice", "CN=Alice,OU=Users,DC=example,DC=com", "s3cret"⟩] }
    let events : List Event :=
      [.login "alice" "s3cret" .prod, .fail (some (.unavailable "down")),
        .login "alice" "s3cret" .prod]
    let cached := (withCache settings 100 1800000).run directory events
    let afresh := runAfresh settings [] directory events
    cached.2.2.binds = 2 ∧ afresh.2.2.binds = 1 := by
  decide +kernel

end Authenticator

end AccessGateway
