import FakeBolt.AccountRegistry

/-!
# One account per email

What concurrent registrations and logins mean to the users: of the
registrations of a free email one is answered with a token, a token names an
account whose password was given, and a login that starts after a registration
has answered finds the account.
-/

namespace FakeBolt.Auth

open Await Interleaving Profile Store Transition

variable {τ : Type} [DecidableEq τ] {runtime : AuthRuntime}
  {requests : τ → AuthRequest} {world : AuthWorld}
  {events : List (τ × AuthInput)}
  {last : Interleaving τ AuthCall.Reply JsError String AuthWorld}
  {marks : List (Option (Access String UserEntity))}

theorem IsNewUser.id_eq {newId : String} {dto : RegisterDto}
    {user : UserEntity} (hnew : IsNewUser runtime newId dto user) :
    user.id = newId := by
  obtain ⟨salt, huser⟩ := hnew
  rw [huser]
  rfl

theorem IsNewUser.email_eq {newId : String} {dto : RegisterDto}
    {user : UserEntity} (hnew : IsNewUser runtime newId dto user) :
    user.email = dto.email := by
  obtain ⟨salt, huser⟩ := hnew
  rw [huser]
  rfl

theorem IsNewUser.compare {newId : String} {dto : RegisterDto}
    {user : UserEntity} (hnew : IsNewUser runtime newId dto user)
    (given : String) :
    runtime.bcrypt.compare given user.password =
      decide (runtime.bcrypt.secret given =
        runtime.bcrypt.secret dto.password) := by
  obtain ⟨salt, huser⟩ := hnew
  rw [huser]
  exact runtime.bcrypt.compare_hash salt dto.password given

theorem hasEmail_iff {email : String} {user : UserEntity} :
    hasEmail email user = true ↔ user.email = email := by
  simp [hasEmail]

theorem clash_iff {first second : UserEntity} :
    Indexed.clash first second = true ↔
      first.id = second.id ∨ first.email = second.email := by
  simp [Indexed.clash]

theorem clash_of_hasEmail {email : String} (first second : UserEntity)
    (hfirst : hasEmail email first = true)
    (hsecond : hasEmail email second = true) :
    Indexed.clash first second := by
  rw [hasEmail_iff] at hfirst hsecond
  rw [clash_iff]
  right
  rw [hfirst, hsecond]

/-! ## Histories -/

theorem Served.replayed
    (hserved : Served runtime requests world events last marks)
    (hrun : run (step (AuthWorld.answer runtime)) (requested requests world)
      events = some last) :
    replay (Access.apply hasEmail) world.users (taken events marks) =
      some last.world.users :=
  hserved.replays events last (List.prefix_refl events) hrun

theorem Served.access_unique
    (hserved : Served runtime requests world events last marks) {thread : τ}
    {first second : Access String UserEntity}
    (hfirst : (thread, first) ∈ taken events marks)
    (hsecond : (thread, second) ∈ taken events marks) : first = second := by
  rw [← mem_ownAccesses] at hfirst hsecond
  have hone := hserved.once thread
  match hown : ownAccesses thread (taken events marks) with
  | [] => simp [hown] at hfirst
  | [only] =>
      rw [hown, List.mem_singleton] at hfirst hsecond
      rw [hfirst, hsecond]
  | _ :: _ :: _ => simp [hown] at hone

theorem Served.head?_of_mem
    (hserved : Served runtime requests world events last marks) {thread : τ}
    {access : Access String UserEntity}
    (hmem : (thread, access) ∈ taken events marks) :
    (ownAccesses thread (taken events marks)).head? = some access := by
  have hown := mem_ownAccesses.mpr hmem
  cases hhead : (ownAccesses thread (taken events marks)).head? with
  | none =>
      rw [List.head?_eq_none_iff] at hhead
      simp [hhead] at hown
  | some first =>
      have hfirst := mem_ownAccesses.mp (List.mem_of_head? hhead)
      rw [hserved.access_unique hfirst hmem]

theorem mem_taken_of_head? {thread : τ} {access : Access String UserEntity}
    (hhead : (ownAccesses thread (taken events marks)).head? = some access) :
    (thread, access) ∈ taken events marks :=
  mem_ownAccesses.mp (List.mem_of_head? hhead)

/-- Whoever is in the table was there before or has been registered. -/
theorem Served.registered
    (hserved : Served runtime requests world events last marks)
    (hrun : run (step (AuthWorld.answer runtime)) (requested requests world)
      events = some last) {user : UserEntity}
    (hmem : user ∈ last.world.users.rows) :
    user ∈ world.users.rows ∨
      ∃ thread newId dto, (thread, Access.inserted user) ∈ taken events marks ∧
        requests thread = .register newId dto ∧
        IsNewUser runtime newId dto user := by
  rcases mem_or_inserted (hserved.replayed hrun) hmem with hold | ⟨thread, hin⟩
  · exact Or.inl hold
  · obtain ⟨newId, dto, hrequest, hnew⟩ := hserved.inserts thread user hin
    exact Or.inr ⟨thread, newId, dto, hin, hrequest, hnew⟩

/-- A registration of the email that no failure disturbs leaves somebody
registered with it. -/
theorem Served.exists_inserted
    (hserved : Served runtime requests world events last marks)
    (hrun : run (step (AuthWorld.answer runtime)) (requested requests world)
      events = some last)
    (hids : ∀ thread other newId dto dto',
      requests thread = .register newId dto →
      requests other = .register newId dto' → thread = other)
    (hfresh : ∀ thread newId dto, requests thread = .register newId dto →
      ∀ user ∈ world.users.rows, user.id ≠ newId)
    {thread : τ} {newId : String} {dto : RegisterDto}
    (hfree : ∀ user ∈ world.users.rows, user.email ≠ dto.email)
    (hrequest : requests thread = .register newId dto)
    (hhealthy : Healthy events thread) {result : Except JsError String}
    (hended : (last.program thread).outcome = some result) :
    ∃ winner user, (winner, Access.inserted user) ∈ taken events marks ∧
      user.email = dto.email := by
  have hreplay := hserved.replayed hrun
  have hexplained := hserved.answers thread result hended
  rw [hrequest] at hexplained
  cases hhead : (ownAccesses thread (taken events marks)).head? with
  | none =>
      rw [hhead] at hexplained
      cases hexplained with
      | notRegistered hfault _ => exact (hfault hhealthy).elim
  | some access =>
      rw [hhead] at hexplained
      have hmem := mem_taken_of_head? hhead
      cases hexplained with
      | registered now huser => exact ⟨thread, _, hmem, huser.email_eq⟩
      | taken =>
          obtain ⟨hrow, hselect⟩ := mem_rows_of_read hreplay hmem
          rw [hasEmail_iff] at hselect
          rcases hserved.registered hrun hrow with hold | ⟨winner, _, _, hin, _, _⟩
          · exact (hfree _ hold hselect).elim
          · exact ⟨winner, _, hin, hselect⟩
      | @clashed _ _ user huser =>
          obtain ⟨other, hother, hclash⟩ := exists_clash_of_refused hreplay hmem
          rw [clash_iff] at hclash
          rcases hserved.registered hrun hother with
            hold | ⟨winner, otherId, otherDto, hin, hwinner, hnew⟩
          · rcases hclash with hid | hemail
            · rw [huser.id_eq] at hid
              exact (hfresh thread newId dto hrequest other hold hid).elim
            · rw [huser.email_eq] at hemail
              exact (hfree other hold hemail).elim
          · rcases hclash with hid | hemail
            · -- the request itself would have to be the winner
              rw [huser.id_eq, hnew.id_eq] at hid
              subst hid
              have hsame := hids thread winner _ _ _ hrequest hwinner
              subst hsame
              cases hserved.access_unique hin hmem
            · rw [huser.email_eq] at hemail
              exact ⟨winner, other, hin, hemail⟩
      | notRegistered hfault _ => exact (hfault hhealthy).elim

/-- A registration of an email that another one has been registered with, not
disturbed by a failure, is refused. -/
theorem Served.loser_refused
    (hserved : Served runtime requests world events last marks)
    (hrun : run (step (AuthWorld.answer runtime)) (requested requests world)
      events = some last) {winner other : τ} {user : UserEntity}
    (hin : (winner, Access.inserted user) ∈ taken events marks)
    (hne : other ≠ winner) {newId : String} {dto : RegisterDto}
    (hother : requests other = .register newId dto)
    (hemail : dto.email = user.email) (hhealthy : Healthy events other)
    (hended : (last.program other).outcome.isSome) :
    (last.program other).outcome = some (.error EMAIL_TAKEN) ∨
      (last.program other).outcome = some (.error NOT_REGISTERED) := by
  obtain ⟨refusal, hrefusal⟩ := Option.isSome_iff_exists.mp hended
  have hwhy := hserved.answers other refusal hrefusal
  rw [hother] at hwhy
  generalize hhead : (ownAccesses other (taken events marks)).head? = access
    at hwhy
  cases hwhy with
  | @registered _ _ loser now hloser =>
      -- a second user with the same email would clash with the first
      have hclash : Indexed.clash loser user := by
        rw [clash_iff]
        right
        rw [hloser.email_eq, hemail]
      have hsame := winner_unique (hserved.replayed hrun)
        (mem_taken_of_head? hhead) hin hclash
      exact (hne hsame.1).elim
  | taken => exact Or.inl hrefusal
  | clashed hloser => exact Or.inr hrefusal
  | notRegistered hfault _ => exact (hfault hhealthy).elim

/-- A token that a request is answered with was signed for a user of the
request's email: the one it has registered, if it is a registration. -/
theorem user_of_token
    (hrun : run (step (AuthWorld.answer runtime)) (requested requests world)
      events = some last)
    {thread : τ} {token : String}
    (htoken : (last.program thread).outcome = some (.ok token)) :
    ∃ user issued, user ∈ last.world.users.rows ∧
      user.email = (requests thread).email ∧
      (∀ newId dto, requests thread = .register newId dto →
        IsNewUser runtime newId dto user) ∧
      token = runtime.sign issued (payloadOf user) := by
  obtain ⟨marks, hserved⟩ := exists_served hrun
  have hreplay := hserved.replayed hrun
  have hexplained := hserved.answers thread _ htoken
  generalize hhead : (ownAccesses thread (taken events marks)).head? = access
    at hexplained
  generalize hrequest : requests thread = request at hexplained
  cases hexplained with
  | @registered newId dto user issued hnew =>
      refine ⟨user, issued, mem_rows_of_inserted hreplay
        (mem_taken_of_head? hhead), hnew.email_eq, ?_, rfl⟩
      intro newId' dto' hregister
      cases hregister
      exact hnew
  | @loggedIn dto user issued hvalid =>
      obtain ⟨hrow, hselect⟩ := mem_rows_of_read hreplay
        (mem_taken_of_head? hhead)
      refine ⟨user, issued, hrow, hasEmail_iff.mp hselect, ?_, rfl⟩
      intro newId' dto' hregister
      cases hregister

/-- A lookup by a request that has not started yet finds whoever is there. -/
theorem Served.found_of_later {before after : List (τ × AuthInput)}
    (hserved : Served runtime requests world (before ++ after) last marks)
    {middle : Interleaving τ AuthCall.Reply JsError String AuthWorld}
    (hbefore : run (step (AuthWorld.answer runtime))
      (requested requests world) before = some middle)
    (hrun : run (step (AuthWorld.answer runtime)) (requested requests world)
      (before ++ after) = some last) {user : UserEntity}
    (hrow : user ∈ middle.world.users.rows) {thread : τ}
    (hstarts : ∀ event ∈ before, event.1 ≠ thread)
    {found : Option UserEntity}
    (hread : (thread, Access.read user.email found) ∈
      taken (before ++ after) marks) : found = some user := by
  have hreplay := hserved.replayed hrun
  rw [taken_append, replay_append, hserved.replays before middle
    (List.prefix_append before after) hbefore] at hreplay
  rw [taken_append, List.mem_append] at hread
  rcases hread with hearly | hlate
  · obtain ⟨event, hevent, hthread⟩ := exists_event_of_taken hearly
    exact (hstarts event hevent hthread).elim
  · exact found_of_read clash_of_hasEmail hreplay hlate hrow
      (hasEmail_iff.mpr rfl)

/-! ## Requests for one email -/

/-- Digests are the passwords themselves. -/
def plainBcrypt : Bcrypt where
  hash _ password := password
  compare password digest :=
    decide ((password.toList.flatMap String.utf8EncodeChar).take 72 =
      (digest.toList.flatMap String.utf8EncodeChar).take 72)
  secret password := (password.toList.flatMap String.utf8EncodeChar).take 72
  compare_hash _ _ _ := rfl

def plainRuntime : AuthRuntime where
  bcrypt := plainBcrypt
  sign _ payload := payload.sub ++ "." ++ payload.email

def emptyAuth : AuthWorld where
  users := Table.empty
  httpRequestsTotal := []

def annRegisters (name : String) : RegisterDto where
  email := "ann@x"
  password := "secret"
  name := name
  role := .rider

def registeringTwice : Bool → AuthRequest
  | false => .register "u1" (annRegisters "Ann")
  | true => .register "u2" (annRegisters "Anna")

/-- Both have looked the email up before either is saved. -/
def bothLooking : List (Bool × AuthInput) :=
  [(false, {}), (true, {}), (false, {}), (true, {}), (true, {}), (false, {}),
    (true, {}), (true, {})]

/-- Registers, logs in with the same password, and with another one. -/
def registerThenLogin : Fin 3 → AuthRequest
  | 0 => .register "u1" (annRegisters "Ann")
  | 1 => .login { email := "ann@x", password := "secret" }
  | 2 => .login { email := "ann@x", password := "guess" }

def registering : List (Fin 3 × AuthInput) :=
  [(0, {}), (0, {}), (0, {}), (0, {}), (0, {})]

def loggingIn : List (Fin 3 × AuthInput) :=
  [(1, {}), (2, {}), (1, {}), (2, {}), (1, {}), (1, {}), (2, {})]

/-! ## Main results -/

/-- However registrations and logins overlap and whichever of their calls
fail, the users are at every moment what the accesses so far have made of
them, each request has at most one access, and its answer follows from it. -/
theorem accounts_linearizable
    (hrun : run (step (AuthWorld.answer runtime)) (requested requests world)
      events = some last) :
    ∃ marks, Served runtime requests world events last marks ∧
      (∀ user ∈ world.users.rows, user ∈ last.world.users.rows) := by
  obtain ⟨marks, hserved⟩ := exists_served hrun
  refine ⟨marks, hserved, ?_⟩
  intro user huser
  exact mem_rows_of_replay (hserved.replayed hrun) huser

theorem two_registrations_linearizable :
    ∃ last marks, Served plainRuntime registeringTwice emptyAuth bothLooking
        last marks ∧
      ∀ user ∈ emptyAuth.users.rows, user ∈ last.world.users.rows := by
  have hcheck : (run (step (AuthWorld.answer plainRuntime))
      (requested registeringTwice emptyAuth) bothLooking).any (fun last =>
        (last.program false).outcome.isSome) = true := by
    decide +kernel
  obtain ⟨last, hrun, -⟩ := exists_of_run_any hcheck
  exact ⟨last, accounts_linearizable hrun⟩

/-- Concurrent registrations of a free email, none of which is disturbed by a
failure: one is answered with a token, and its user is the one the email then
belongs to; all others are answered with an error. -/
theorem one_account_per_email (email : String)
    (hrun : run (step (AuthWorld.answer runtime)) (requested requests world)
      events = some last)
    (hfree : ∀ user ∈ world.users.rows, user.email ≠ email)
    (hids : ∀ thread other newId dto dto',
      requests thread = .register newId dto →
      requests other = .register newId dto' → thread = other)
    (hfresh : ∀ thread newId dto, requests thread = .register newId dto →
      ∀ user ∈ world.users.rows, user.id ≠ newId)
    (hended : ∀ thread newId dto, requests thread = .register newId dto →
      dto.email = email →
      Healthy events thread ∧ (last.program thread).outcome.isSome)
    (hsome : ∃ thread newId dto, requests thread = .register newId dto ∧
      dto.email = email) :
    ∃ winner newId dto user now,
      requests winner = .register newId dto ∧
      IsNewUser runtime newId dto user ∧
      last.world.users.find? (hasEmail email) = some user ∧
      (last.program winner).outcome =
        some (.ok (runtime.sign now (payloadOf user))) ∧
      ∀ other otherId otherDto, other ≠ winner →
        requests other = .register otherId otherDto →
        otherDto.email = email →
        (last.program other).outcome = some (.error EMAIL_TAKEN) ∨
          (last.program other).outcome = some (.error NOT_REGISTERED) := by
  obtain ⟨marks, hserved⟩ := exists_served hrun
  have hreplay := hserved.replayed hrun
  obtain ⟨thread, newId, dto, hrequest, hemail⟩ := hsome
  subst hemail
  obtain ⟨hhealthy, houtcome⟩ := hended thread newId dto hrequest rfl
  obtain ⟨result, hresult⟩ := Option.isSome_iff_exists.mp houtcome
  obtain ⟨winner, user, hin, huser⟩ := hserved.exists_inserted hrun hids hfresh
    hfree hrequest hhealthy hresult
  obtain ⟨winnerId, winnerDto, hwinner, hnew⟩ := hserved.inserts winner user hin
  have hwinnerEmail : winnerDto.email = dto.email := by
    rw [← hnew.email_eq, huser]
  obtain ⟨hwinnerHealthy, hwinnerEnded⟩ :=
    hended winner winnerId winnerDto hwinner hwinnerEmail
  obtain ⟨answer, hanswer⟩ := Option.isSome_iff_exists.mp hwinnerEnded
  have hexplained := hserved.answers winner answer hanswer
  rw [hwinner, hserved.head?_of_mem hin] at hexplained
  have hfind : last.world.users.find? (hasEmail dto.email) = some user := by
    rw [Table.find?_eq_some_iff clash_of_hasEmail]
    exact ⟨mem_rows_of_inserted hreplay hin, hasEmail_iff.mpr huser⟩
  have hothers : ∀ other otherId otherDto, other ≠ winner →
      requests other = .register otherId otherDto →
      otherDto.email = dto.email →
      (last.program other).outcome = some (.error EMAIL_TAKEN) ∨
        (last.program other).outcome = some (.error NOT_REGISTERED) := by
    intro other otherId otherDto hne hother hotherEmail
    obtain ⟨hotherHealthy, hotherEnded⟩ :=
      hended other otherId otherDto hother hotherEmail
    exact hserved.loser_refused hrun hin hne hother
      (hotherEmail.trans huser.symm) hotherHealthy hotherEnded
  cases hexplained with
  | registered now _ =>
      exact ⟨winner, winnerId, winnerDto, user, now, hwinner, hnew, hfind,
        hanswer, hothers⟩
  | notRegistered hfault _ => exact (hfault hwinnerHealthy).elim

theorem one_account_of_two :
    ∃ last, run (step (AuthWorld.answer plainRuntime))
        (requested registeringTwice emptyAuth) bothLooking = some last ∧
      ∃ winner newId dto user now,
        registeringTwice winner = .register newId dto ∧
        IsNewUser plainRuntime newId dto user ∧
        last.world.users.find? (hasEmail "ann@x") = some user ∧
        (last.program winner).outcome =
          some (.ok (plainRuntime.sign now (payloadOf user))) ∧
        ∀ other otherId otherDto, other ≠ winner →
          registeringTwice other = .register otherId otherDto →
          otherDto.email = "ann@x" →
          (last.program other).outcome = some (.error EMAIL_TAKEN) ∨
            (last.program other).outcome = some (.error NOT_REGISTERED) := by
  have hcheck : (run (step (AuthWorld.answer plainRuntime))
      (requested registeringTwice emptyAuth) bothLooking).any (fun last =>
        (last.program false).outcome.isSome &&
          (last.program true).outcome.isSome) = true := by
    decide +kernel
  obtain ⟨last, hrun, hlast⟩ := exists_of_run_any hcheck
  rw [Bool.and_eq_true] at hlast
  refine ⟨last, hrun, ?_⟩
  have hhealthy : ∀ thread, Healthy bothLooking thread := by
    intro thread event hevent _
    simp only [bothLooking, List.mem_cons, List.not_mem_nil, or_false] at hevent
    rcases hevent with h | h | h | h | h | h | h | h <;> rw [h]
  apply one_account_per_email "ann@x" hrun
  · intro user huser
    cases huser
  · intro thread other newId dto dto' hthread hother
    cases thread <;> cases other <;>
      simp only [registeringTwice, AuthRequest.register.injEq] at hthread hother
    · rfl
    · exact absurd (hthread.1.trans hother.1.symm) (by decide)
    · exact absurd (hthread.1.trans hother.1.symm) (by decide)
    · rfl
  · intro thread newId dto _ user huser
    cases huser
  · intro thread newId dto _ _
    refine ⟨hhealthy thread, ?_⟩
    cases thread
    · exact hlast.1
    · exact hlast.2
  · exact ⟨false, "u1", annRegisters "Ann", rfl, rfl⟩

/-- A token that a login is answered with names an account of the login's
email.  The account was there before, or one of the registrations made it and
the login gave the password of that registration. -/
theorem login_token_sound
    (hrun : run (step (AuthWorld.answer runtime)) (requested requests world)
      events = some last)
    {thread : τ} {dto : LoginDto} (hlogin : requests thread = .login dto)
    {token : String} (htoken : (last.program thread).outcome = some (.ok token)) :
    ∃ user now, user ∈ last.world.users.rows ∧ user.email = dto.email ∧
      token = runtime.sign now (payloadOf user) ∧
      ((user ∈ world.users.rows ∧
          runtime.bcrypt.compare dto.password user.password = true) ∨
        ∃ registrar newId given, requests registrar = .register newId given ∧
          IsNewUser runtime newId given user ∧
          runtime.bcrypt.secret dto.password =
            runtime.bcrypt.secret given.password) := by
  obtain ⟨marks, hserved⟩ := exists_served hrun
  have hexplained := hserved.answers thread _ htoken
  rw [hlogin] at hexplained
  generalize hhead : (ownAccesses thread (taken events marks)).head? = access
    at hexplained
  cases hexplained with
  | @loggedIn _ user now hvalid =>
      obtain ⟨hrow, hselect⟩ := mem_rows_of_read (hserved.replayed hrun)
        (mem_taken_of_head? hhead)
      refine ⟨user, now, hrow, hasEmail_iff.mp hselect, rfl, ?_⟩
      rcases hserved.registered hrun hrow with
        hold | ⟨registrar, newId, given, -, hregister, hnew⟩
      · exact Or.inl ⟨hold, hvalid⟩
      · right
        rw [hnew.compare, decide_eq_true_eq] at hvalid
        exact ⟨registrar, newId, given, hregister, hnew, hvalid⟩

theorem login_of_registered_sound :
    ∃ last, run (step (AuthWorld.answer plainRuntime))
        (requested registerThenLogin emptyAuth) (registering ++ loggingIn) =
          some last ∧
      ∃ user now, user ∈ last.world.users.rows ∧ user.email = "ann@x" ∧
        "u1.ann@x" = plainRuntime.sign now (payloadOf user) ∧
        ((user ∈ emptyAuth.users.rows ∧
            plainBcrypt.compare "secret" user.password = true) ∨
          ∃ registrar newId given,
            registerThenLogin registrar = .register newId given ∧
            IsNewUser plainRuntime newId given user ∧
            plainBcrypt.secret "secret" = plainBcrypt.secret given.password) := by
  have hcheck : (run (step (AuthWorld.answer plainRuntime))
      (requested registerThenLogin emptyAuth) (registering ++ loggingIn)).any
        (fun last => decide ((last.program 1).outcome =
          some (.ok "u1.ann@x"))) = true := by
    decide +kernel
  obtain ⟨last, hrun, hlast⟩ := exists_of_run_any hcheck
  have hlogin : registerThenLogin 1 =
      .login { email := "ann@x", password := "secret" } := rfl
  exact ⟨last, hrun, login_token_sound hrun hlogin (of_decide_eq_true hlast)⟩

/-- A login that makes its first call after a registration of its email has
been answered with a token: if none of its calls fails it is answered with a
token of the registered user, provided it gives the registered password, and is
denied otherwise. -/
theorem login_after_registration {before after : List (τ × AuthInput)}
    {middle : Interleaving τ AuthCall.Reply JsError String AuthWorld}
    (hbefore : run (step (AuthWorld.answer runtime))
      (requested requests world) before = some middle)
    (hafter : run (step (AuthWorld.answer runtime)) middle after = some last)
    {registrar : τ} {newId : String} {given : RegisterDto}
    (hregister : requests registrar = .register newId given) {token : String}
    (htoken : (middle.program registrar).outcome = some (.ok token))
    {thread : τ} {dto : LoginDto} (hlogin : requests thread = .login dto)
    (hemail : dto.email = given.email)
    (hstarts : ∀ event ∈ before, event.1 ≠ thread)
    (hhealthy : Healthy after thread) {result : Except JsError String}
    (hended : (last.program thread).outcome = some result) :
    ∃ now, result =
      if runtime.bcrypt.secret dto.password =
          runtime.bcrypt.secret given.password then
        .ok (runtime.sign now
          { sub := newId, email := given.email, role := given.role })
      else .error DENIED := by
  obtain ⟨user, issued, hrow, -, hregistered, -⟩ := user_of_token hbefore htoken
  have hnew := hregistered newId given hregister
  -- the login takes effect after that
  have hrun : run (step (AuthWorld.answer runtime))
      (requested requests world) (before ++ after) = some last := by
    rw [run_append, hbefore]
    exact hafter
  obtain ⟨marks', hwhole⟩ := exists_served hrun
  have hwhy := hwhole.answers thread result hended
  rw [hlogin] at hwhy
  have hallHealthy : Healthy (before ++ after) thread := by
    intro event hevent hthread
    rcases List.mem_append.mp hevent with hearly | hlate
    · exact (hstarts event hearly hthread).elim
    · exact hhealthy event hlate hthread
  have hsees : ∀ found, (ownAccesses thread
        (taken (before ++ after) marks')).head? =
      some (.read dto.email found) → found = some user := by
    intro found hread
    rw [hemail, ← hnew.email_eq] at hread
    exact hwhole.found_of_later hbefore hrun hrow hstarts
      (mem_taken_of_head? hread)
  generalize hread : (ownAccesses thread
    (taken (before ++ after) marks')).head? = access at hwhy
  cases hwhy with
  | @loggedIn _ found now hvalid =>
      have hfound := Option.some.inj (hsees _ hread)
      rw [hfound, hnew.compare, decide_eq_true_eq] at hvalid
      refine ⟨now, ?_⟩
      obtain ⟨salt, huser⟩ := hnew
      rw [if_pos hvalid, hfound, huser]
      rfl
  | denied hinvalid =>
      have hfalse := hinvalid user (hsees _ hread)
      rw [hnew.compare, decide_eq_false_iff_not] at hfalse
      refine ⟨0, ?_⟩
      rw [if_neg hfalse]
  | loginFailed hfault _ => exact (hfault hallHealthy).elim

theorem logins_after_registration :
    ∃ middle last, run (step (AuthWorld.answer plainRuntime))
        (requested registerThenLogin emptyAuth) registering = some middle ∧
      run (step (AuthWorld.answer plainRuntime)) middle loggingIn =
        some last ∧
      ∃ accepted refused,
        (last.program 1).outcome = some accepted ∧
        (last.program 2).outcome = some refused ∧
        (∃ now, accepted =
          if plainBcrypt.secret "secret" = plainBcrypt.secret "secret" then
            .ok (plainRuntime.sign now
              { sub := "u1", email := "ann@x", role := .rider })
          else .error DENIED) ∧
        ∃ now, refused =
          if plainBcrypt.secret "guess" = plainBcrypt.secret "secret" then
            .ok (plainRuntime.sign now
              { sub := "u1", email := "ann@x", role := .rider })
          else .error DENIED := by
  have hcheck : (run (step (AuthWorld.answer plainRuntime))
      (requested registerThenLogin emptyAuth) registering).any (fun middle =>
        decide ((middle.program 0).outcome = some (.ok "u1.ann@x")) &&
          (run (step (AuthWorld.answer plainRuntime)) middle loggingIn).any
            fun last => (last.program 1).outcome.isSome &&
              (last.program 2).outcome.isSome) = true := by
    decide +kernel
  obtain ⟨middle, hbefore, hmiddle⟩ := exists_of_run_any hcheck
  rw [Bool.and_eq_true, decide_eq_true_eq] at hmiddle
  obtain ⟨last, hafter, hlast⟩ := exists_of_run_any hmiddle.2
  rw [Bool.and_eq_true] at hlast
  obtain ⟨accepted, haccepted⟩ := Option.isSome_iff_exists.mp hlast.1
  obtain ⟨refused, hrefused⟩ := Option.isSome_iff_exists.mp hlast.2
  have hhealthy : ∀ thread, Healthy loggingIn thread := by
    intro thread event hevent _
    simp only [loggingIn, List.mem_cons, List.not_mem_nil, or_false] at hevent
    rcases hevent with h | h | h | h | h | h | h <;> rw [h]
  have hstarts : ∀ thread, thread ≠ 0 →
      ∀ event ∈ registering, event.1 ≠ thread := by
    intro thread hthread event hevent
    simp only [registering, List.mem_cons, List.not_mem_nil, or_false,
      or_self] at hevent
    rw [hevent]
    exact hthread.symm
  refine ⟨middle, last, hbefore, hafter, accepted, refused, haccepted,
    hrefused, ?_, ?_⟩
  · exact login_after_registration hbefore hafter rfl hmiddle.1 rfl rfl
      (hstarts 1 (by decide)) (hhealthy 1) haccepted
  · exact login_after_registration hbefore hafter rfl hmiddle.1 rfl rfl
      (hstarts 2 (by decide)) (hhealthy 2) hrefused

end FakeBolt.Auth
