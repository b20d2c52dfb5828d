import ValidityTables.Proofs.FirstEntry
import ValidityTables.Updater.Open

/-! # The password is not shown

A password reaches the client program as its last argument, and nothing else in the account depends
on it. What is shown of an account is masked by how its arguments begin. Other arguments that begin
like a password are masked as well, but the last one always is, so all passwords look alike, also in
the error of a run that cannot be opened.
-/

namespace ValidityTables

namespace Access

def withoutPassword (access : Access) : Access := { access with password := none }

theorem redactArgument_password (password : String) :
    redactArgument (passwordOption ++ password) = passwordOption ++ "XXX" := by
  have hBegins : passwordOption.toList.isPrefixOf (passwordOption ++ password).toList := by
    rw [List.isPrefixOf_iff_prefix, String.toList_append]
    exact List.prefix_append _ _
  rw [redactArgument, if_pos hBegins]

theorem clientArgs_password {access : Access} {password : String}
    (h : access.password = some password) :
    access.clientArgs = access.withoutPassword.clientArgs ++ [passwordOption ++ password] := by
  simp only [clientArgs, withoutPassword, h, List.append_nil]
  rfl

/-- What is shown of an account with a password depends on the other parts alone. -/
theorem redacted_password {access : Access} {password : String}
    (h : access.password = some password) : access.redacted = " ".intercalate
      (access.withoutPassword.clientArgs.map redactArgument ++ [passwordOption ++ "XXX"]) := by
  rw [redacted, clientArgs_password h, List.map_append, List.map_singleton,
    redactArgument_password]

section Parts

variable {url user password other : String}

/-- The address and the user decide whether there is an account, and all of it but the password. -/
theorem ofParts_passwords (url user password other : String) :
    (∃ failure, ofParts url user password = .error failure ∧
      ofParts url user other = .error failure) ∨
    ∃ access accessOther, ofParts url user password = .ok access ∧
      ofParts url user other = .ok accessOther ∧
      access.withoutPassword = accessOther.withoutPassword := by
  unfold ofParts
  cases readAddress? url.toList with
  | none => exact .inl ⟨_, rfl, rfl⟩
  | some found =>
    simp only
    cases readPort found.1 with
    | error failure => exact .inl ⟨failure, rfl, rfl⟩
    | ok place => exact .inr ⟨_, _, rfl, rfl, rfl⟩

theorem password_of_ofParts {access : Access} (h : ofParts url user password = .ok access)
    (hPassword : firstEntry password ≠ "\\0") : access.password = some (firstEntry password) := by
  rw [(ofParts_eq_ok h).2.2, if_neg hPassword]

theorem ofParts_shown (hPassword : firstEntry password ≠ "\\0")
    (hOther : firstEntry other ≠ "\\0") :
    (ofParts url user password).map redacted = (ofParts url user other).map redacted := by
  obtain ⟨failure, hFirst, hSecond⟩ | ⟨access, accessOther, hFirst, hSecond, hSame⟩ :=
    ofParts_passwords url user password other
  · rw [hFirst, hSecond]
  · rw [hFirst, hSecond, Except.map, Except.map,
      redacted_password (password_of_ofParts hFirst hPassword),
      redacted_password (password_of_ofParts hSecond hOther), hSame]

theorem ofVariables_texts (hUrl : url ≠ "") (hUser : user ≠ "") (hPassword : password ≠ "") :
    ofVariables ⟨some url, some user, some password⟩ = ofParts url user password := by
  simp [ofVariables, Option.filter, hUrl, hUser, hPassword]

theorem ofVariables_shown (hPassword : firstEntry password ≠ "\\0")
    (hOther : firstEntry other ≠ "\\0") (hSome : password ≠ "") (hSomeOther : other ≠ "") :
    (ofVariables ⟨some url, some user, some password⟩).map redacted =
      (ofVariables ⟨some url, some user, some other⟩).map redacted := by
  by_cases hUrl : url = ""
  · simp [ofVariables, Option.filter, hUrl]
  by_cases hUser : user = ""
  · simp [ofVariables, Option.filter, hUser]
  rw [ofVariables_texts hUrl hUser hSome, ofVariables_texts hUrl hUser hSomeOther,
    ofParts_shown hPassword hOther]

end Parts

end Access

namespace Updater

open Access

variable {config : Config} {host : Host}

/-- The store does not answer the statement that a durable run sends first. -/
def Unanswered (config : Config) (access : Access) (host : Host) : Prop :=
  ∃ failure, (Backend.query ⟨programs config access, config.maxAttempts, .durable⟩ connectionProbe
    { world := host }).1 = .error failure

theorem withBackend_valid (hValid : config.validate = .ok ()) (backend : Backend Host) :
    withBackend config backend = .ok ⟨config, backend⟩ := by
  rw [withBackend, hValid]

theorem connect_unanswered {access : Access} (h : Unanswered config access host) :
    (connect config access host).1 = .error (.unavailable access.redacted) := by
  obtain ⟨failure, hFailure⟩ := h
  unfold connect
  simp only
  split
  · rename_i hAnswer
    rw [hAnswer] at hFailure
    cases hFailure
  · rfl

theorem connect_failure {access : Access} {failure : UpdateError}
    (hValid : config.validate = .ok ()) (h : (connect config access host).1 = .error failure) :
    failure = .unavailable access.redacted := by
  unfold connect at h
  simp only at h
  split at h
  · rw [withBackend_valid hValid] at h
    cases h
  · cases h
    rfl

/-- The failure of a run with settings, and with what its account shows, if it has one. -/
def failureOf (config : Config) (shown : Except UpdateError String) : UpdateError :=
  match config.validate, shown with
  | .error failure, _ => failure
  | .ok (), .error failure => failure
  | .ok (), .ok text => .unavailable text

/-- A run fails for its settings, for its account, or because the store does not answer. -/
theorem openRun_failure {failure : UpdateError} (h : (openRun config host).1 = .error failure) :
    failure = failureOf config ((ofVariables host.account).map redacted) := by
  unfold openRun at h
  unfold failureOf
  cases hValid : config.validate with
  | error fault =>
    rw [hValid] at h
    cases h
    rfl
  | ok =>
    rw [hValid] at h
    simp only at h
    split at h
    · rw [withBackend_valid hValid] at h
      cases h
    · cases hAccount : ofVariables host.account with
      | error fault =>
        rw [hAccount] at h
        cases h
        rfl
      | ok access =>
        rw [hAccount] at h
        exact connect_failure hValid h

/-- What is seen of the account that three texts give: the client gets the password after the other
arguments, and no one else sees more than the text that is shown. -/
structure Shows (access : Access) (url user password : String) (arguments : List String)
    (shown : String) : Prop where
  account : ofParts url user password = .ok access
  clientArgs : access.clientArgs = arguments ++ ["--password=" ++ firstEntry password]
  redacted : access.redacted = shown
  unavailable : ∀ config host, config.validate = .ok () → config.temporaryTables = false →
    url ≠ "" → user ≠ "" → password ≠ "" → host.account = ⟨some url, some user, some password⟩ →
    Unanswered config access host → (openRun config host).1 = .error (.unavailable shown)

theorem shows_of_ofParts {access : Access} {url user password : String}
    (hParts : ofParts url user password = .ok access) (hPassword : firstEntry password ≠ "\\0") :
    Shows access url user password access.withoutPassword.clientArgs (" ".intercalate
      (access.withoutPassword.clientArgs.map redactArgument ++ [passwordOption ++ "XXX"])) := by
  have hStored := password_of_ofParts hParts hPassword
  refine ⟨hParts, clientArgs_password hStored, redacted_password hStored, ?_⟩
  intro config host hValid hDurable hUrl hUser hSome hAccount hUnanswered
  have hVariables : ofVariables host.account = .ok access := by
    rw [hAccount, ofVariables_texts hUrl hUser hSome, hParts]
  rw [openRun, hValid]
  simp only [hDurable, hVariables, Bool.false_eq_true, if_false]
  rw [connect_unanswered hUnanswered, redacted_password hStored]

/-- Two passwords cannot be told apart by what is shown of their accounts, nor by the error of a run
that cannot be opened, whatever the hosts are. -/
theorem openRun_passwords (url user : String) {password other : String}
    (hPassword : firstEntry password ≠ "\\0") (hOther : firstEntry other ≠ "\\0") :
    ((∃ failure, ofParts url user password = .error failure ∧
        ofParts url user other = .error failure) ∨
      ∃ arguments shown access accessOther, Shows access url user password arguments shown ∧
        Shows accessOther url user other arguments shown) ∧
    ∀ config host hostOther failure failureOther, password ≠ "" → other ≠ "" →
      host.account = ⟨some url, some user, some password⟩ →
      hostOther.account = ⟨some url, some user, some other⟩ →
      (openRun config host).1 = .error failure →
      (openRun config hostOther).1 = .error failureOther → failure = failureOther := by
  constructor
  · obtain hFails | ⟨access, accessOther, hFirst, hSecond, hSame⟩ :=
      ofParts_passwords url user password other
    · exact .inl hFails
    · have hShows := shows_of_ofParts hFirst hPassword
      rw [hSame] at hShows
      exact .inr ⟨_, _, access, accessOther, hShows, shows_of_ofParts hSecond hOther⟩
  · intro config host hostOther failure failureOther hSome hSomeOther hAccount hAccountOther hFirst
      hSecond
    rw [openRun_failure hFirst, openRun_failure hSecond, hAccount, hAccountOther,
      ofVariables_shown hPassword hOther hSome hSomeOther]

/-- A host whose address looks like a password. -/
def guest (password : String) : Host :=
  Host.ofInput ⟨some "mysql://--password=db:3307/calib", some "me", some password⟩
    "2020-01-01 00:00:00"

theorem openRun_passwords_refused :
    firstEntry "secret;other" ≠ "\\0" ∧ firstEntry "a=b --host c" ≠ "\\0" ∧
      ∀ password ∈ ["secret;other", "a=b --host c"],
        (openRun { clientProgram := "false" } (guest password)).1 = .error (.unavailable
          "calib --compress --host --password=XXX --port=3307 --user=me --password=XXX") := by
  have hFirst : firstEntry "secret;other" ≠ "\\0" := by decide
  have hSecond : firstEntry "a=b --host c" ≠ "\\0" := by decide
  have hParts : ofParts "mysql://--password=db:3307/calib" "me" "secret;other" =
      .ok ⟨"calib", "--password=db", some 3307, "me", some "secret"⟩ := by decide +kernel
  have hPartsOther : ofParts "mysql://--password=db:3307/calib" "me" "a=b --host c" =
      .ok ⟨"calib", "--password=db", some 3307, "me", some "a=b --host c"⟩ := by decide +kernel
  obtain ⟨⟨failure, hFails, -⟩ | ⟨arguments, shown, access, accessOther, hShows, hShowsOther⟩, -⟩ :=
    openRun_passwords "mysql://--password=db:3307/calib" "me" hFirst hSecond
  · rw [hParts] at hFails
    cases hFails
  · obtain rfl := Except.ok.inj (hParts.symm.trans hShows.account)
    obtain rfl := Except.ok.inj (hPartsOther.symm.trans hShowsOther.account)
    have hShown : shown =
        "calib --compress --host --password=XXX --port=3307 --user=me --password=XXX" := by
      rw [← hShows.redacted]
      decide +kernel
    subst hShown
    refine ⟨hFirst, hSecond, ?_⟩
    simp only [List.forall_mem_cons, List.not_mem_nil, false_implies, implies_true, and_true]
    exact ⟨hShows.unavailable _ _ rfl rfl (by decide) (by decide) (by decide) rfl
        ⟨.execution "select 1" 1 [], by decide +kernel⟩,
      hShowsOther.unavailable _ _ rfl rfl (by decide) (by decide) (by decide) rfl
        ⟨.execution "select 1" 1 [], by decide +kernel⟩⟩

end Updater

end ValidityTables
