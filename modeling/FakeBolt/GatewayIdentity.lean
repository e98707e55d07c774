import FakeBolt.GatewayService

/-!
# Who the gateway says a user is

The middleware and the router read the same raw URL in different ways.  Here
no URL is public to the one and private to the other, and what is sent on
about the user depends on the token alone.
-/

namespace FakeBolt.Gateway

def isPlain (c : Char) : Bool :=
  c.isAlphanum || ['-', '.', '_', '~', '/'].contains c

/-- A path that no URL parser changes: letters, digits, `-._~` and slashes.
What opens with two slashes may be read as a host. -/
def PlainPath (path : String) : Prop :=
  (∃ c rest, path.toList = '/' :: c :: rest ∧ c ≠ '/') ∧
    path.toList.all isPlain = true

/-- The pathname of a plain path is the path, with or without a query. -/
structure ParsesUrls (pathname : String → String) : Prop where
  path : ∀ path, PlainPath path → pathname path = path
  query : ∀ path query, PlainPath path →
    pathname (path ++ "?" ++ query) = path

def Handler.isPublic : Handler → Bool
  | .check => true
  | .register => true
  | .login => true
  | .getMetrics => true
  | _ => false

theorem mem_of_isPublic {handler : Handler}
    (hpublic : handler.isPublic = true) :
    handler ∈ [.register, .login, .check, .getMetrics] := by
  cases handler with
  | check => decide
  | register => decide
  | login => decide
  | getMetrics => decide
  | _ => cases hpublic

/-- The handlers under `/users/me`, with that of `/users/me/receipts`. -/
def Handler.isOfUser : Handler → Bool
  | .getProfile => true
  | .createPhotoUploadUrl => true
  | .confirmPhoto => true
  | .deletePhoto => true
  | .getMyReceipts => true
  | _ => false

/-! ## The two readings of a URL -/

theorem pathname_of_plain {pathname : String → String}
    (hparse : ParsesUrls pathname) {url : String}
    (hplain : PlainPath (String.ofList (beforeQuery url.toList))) :
    pathname url = String.ofList (beforeQuery url.toList) := by
  have hsplit : url.toList = beforeQuery url.toList ++
      url.toList.dropWhile fun c => c != '?' :=
    (List.takeWhile_append_dropWhile).symm
  cases hrest : url.toList.dropWhile fun c => c != '?' with
  | nil =>
      rw [hrest, List.append_nil] at hsplit
      have hurl : url = String.ofList (beforeQuery url.toList) := by
        rw [← hsplit, String.ofList_toList]
      rw [← hurl] at hplain ⊢
      exact hparse.path url hplain
  | cons mark query =>
      have hmark : mark = '?' := by
        have hne : url.toList.dropWhile (fun c => c != '?') ≠ [] := by
          simp [hrest]
        have hnot := List.head_dropWhile_not _ hne
        simpa [hrest] using hnot
      subst hmark
      have hurl : url = String.ofList (beforeQuery url.toList) ++ "?" ++
          String.ofList query := by
        apply String.toList_injective
        rw [String.toList_append, String.toList_append, String.toList_ofList,
          String.toList_ofList]
        rw [hrest] at hsplit
        simpa using hsplit
      calc pathname url
          = pathname (String.ofList (beforeQuery url.toList) ++ "?" ++
              String.ofList query) := by rw [← hurl]
        _ = String.ofList (beforeQuery url.toList) :=
              hparse.query _ _ hplain

/-- What is left without its trailing slashes, and they. -/
theorem eq_dropTrailingSlashes_append (path : List Char) :
    ∃ slashes, path = dropTrailingSlashes path ++ slashes ∧
      ∀ c ∈ slashes, c = '/' := by
  refine ⟨path.rtakeWhile fun c => c == '/', ?_, ?_⟩
  · exact List.rdropWhile_append_rtakeWhile.symm
  · intro c hc
    simpa using List.mem_rtakeWhile_imp hc

/-- A first letter that no route for users or drivers starts with. -/
def opensPublic (c : Char) : Bool :=
  c == 'a' || c == 'h' || c == 'm' || c == 'p'

theorem dispatch_of_opensPublic {pathname : String → String} {β : Type}
    {request : Request β} {c : Char} {rest : List Char} {handler : Handler}
    (hpath : (pathname request.originalUrl).toList = '/' :: c :: rest)
    (hopens : opensPublic c = true)
    (hdispatch : dispatch pathname request = some handler) :
    handler.isPublic = true := by
  unfold dispatch at hdispatch
  obtain ⟨route, hfind, hhandler⟩ := Option.map_eq_some_iff.mp hdispatch
  subst hhandler
  have hmatches := List.find?_some hfind
  have hroute := List.mem_of_find?_eq_some hfind
  rw [Bool.and_eq_true, hpath] at hmatches
  have hother : ∀ text segments, text.toList.head? = some 'd' ∨
      text.toList.head? = some 'u' →
        matchesPath (.literal text :: segments) ('/' :: c :: rest) = false := by
    intro text segments hfirst
    have hletters : sameLetter 'd' c = false ∧ sameLetter 'u' c = false := by
      simp only [opensPublic, Bool.or_eq_true, beq_iff_eq] at hopens
      rcases hopens with ((hc | hc) | hc) | hc <;> subst hc <;> decide
    cases htext : text.toList with
    | nil => simp [htext] at hfirst
    | cons d text' =>
        rw [htext] at hfirst
        have hd : sameLetter d c = false := by
          rcases hfirst with hd | hd
          · cases hd
            exact hletters.1
          · cases hd
            exact hletters.2
        have hslash : sameLetter '/' '/' = true := rfl
        simp only [matchesPath, htext, dropLiteral, hslash, hd, if_true,
          Bool.false_eq_true, if_false]
  simp only [ROUTES, List.mem_cons, List.not_mem_nil, or_false] at hroute
  rcases hroute with hroute | hroute | hroute | hroute | hroute | hroute |
    hroute | hroute | hroute | hroute | hroute | hroute <;> subst hroute
  · rfl
  · rfl
  · rfl
  · rfl
  all_goals
    rw [hother _ _ (by decide)] at hmatches
    exact absurd hmatches.2 (by decide)

/-- The paths of the public routes are plain and open with such a letter. -/
theorem plain_of_public {path : String}
    (hpath : path ∈ PUBLIC_ROUTES.map PublicRoute.path) :
    (∃ c rest, path.toList = '/' :: c :: rest ∧ opensPublic c = true) ∧
      PlainPath path := by
  simp only [PUBLIC_ROUTES, List.map_cons, List.map_nil, List.mem_cons,
    List.not_mem_nil, or_false] at hpath
  rcases hpath with hpath | hpath | hpath | hpath | hpath <;> subst hpath <;>
    exact ⟨⟨_, _, rfl, rfl⟩, ⟨_, _, rfl, by decide⟩, by decide⟩

/-- Where the middleware asks for no token, the router finds no handler but
the public ones, for every raw URL. -/
theorem public_of_use {pathname : String → String} (hparse : ParsesUrls pathname)
    {jwt : JwtService} {now : Instant} {β : Type} {request : Request β}
    (huse : AuthMiddleware.use jwt now request = .ok none) {handler : Handler}
    (hdispatch : dispatch pathname request = some handler) :
    handler.isPublic = true := by
  have hpublic : AuthMiddleware.isPublic request = true := by
    unfold AuthMiddleware.use at huse
    split at huse
    · assumption
    · split at huse
      · cases huse
      · split at huse <;> cases huse
  obtain ⟨route, hroute, hsame⟩ := List.any_eq_true.mp hpublic
  rw [Bool.and_eq_true, beq_iff_eq, beq_iff_eq] at hsame
  have hmem : AuthMiddleware.requestPath request.originalUrl ∈
      PUBLIC_ROUTES.map PublicRoute.path := by
    rw [← hsame.1]
    exact List.mem_map_of_mem hroute
  obtain ⟨⟨c, rest, hchars, hopens⟩, -, hplain⟩ := plain_of_public hmem
  have hstripped : dropTrailingSlashes
      (beforeQuery request.originalUrl.toList) = '/' :: c :: rest := by
    unfold AuthMiddleware.requestPath at hchars
    simp only at hchars
    split at hchars
    · simp at hchars
    · simpa using hchars
  obtain ⟨slashes, hbefore, hslashes⟩ :=
    eq_dropTrailingSlashes_append (beforeQuery request.originalUrl.toList)
  rw [hstripped] at hbefore
  have hplainUrl : PlainPath
      (String.ofList (beforeQuery request.originalUrl.toList)) := by
    rw [hbefore]
    refine ⟨⟨_, _, String.toList_ofList, ?_⟩, ?_⟩
    · rintro rfl
      cases hopens
    rw [hchars] at hplain
    rw [String.toList_ofList, List.all_append, hplain, Bool.true_and,
      List.all_eq_true]
    intro d hd
    rw [hslashes d hd]
    rfl
  have hpathname : (pathname request.originalUrl).toList =
      '/' :: c :: (rest ++ slashes) := by
    rw [pathname_of_plain hparse hplainUrl, String.toList_ofList, hbefore]
    rfl
  exact dispatch_of_opensPublic hpathname hopens hdispatch

/-! ## What is sent on about the user -/

section Identity

variable {β : Type} {jwt : JwtService} {pathname : String → String}
  {config : GatewayConfig} {now : Instant} {request : Request β}

theorem token_of_use {user : RequestUser}
    (huse : AuthMiddleware.use jwt now request = .ok (some user)) :
    ∃ token, AuthMiddleware.tokenOf request.headers = .ok token ∧
      jwt.verify now token = .ok (jwt.payload token) ∧
      user.id = (jwt.payload token).sub := by
  unfold AuthMiddleware.use at huse
  split at huse
  · cases huse
  · split at huse
    · cases huse
    · rename_i token htoken
      split at huse
      · cases huse
      · rename_i payload hverify
        cases huse
        have hpayload : payload = jwt.payload token := by
          unfold JwtService.verify at hverify
          split at hverify <;> cases hverify
          rfl
        subst hpayload
        exact ⟨token, htoken, hverify, rfl⟩

variable (config) in
theorem handle_ofUser {handler : Handler} (hhandler : handler.isOfUser = true)
    (user : RequestUser) (body : β) :
    ∃ sent, handle config handler (some user) body = .ok (some sent) ∧
      sent.headers = [("x-user-id", user.id)] := by
  cases handler with
  | getProfile => exact ⟨_, rfl, rfl⟩
  | createPhotoUploadUrl => exact ⟨_, rfl, rfl⟩
  | confirmPhoto => exact ⟨_, rfl, rfl⟩
  | deletePhoto => exact ⟨_, rfl, rfl⟩
  | getMyReceipts => exact ⟨_, rfl, rfl⟩
  | _ => cases hhandler

/-- A handler of the user runs only behind a verified token, and names its
subject. -/
theorem sent_of_serve (hparse : ParsesUrls pathname) {handler : Handler}
    {outcome : Except JsError (Option (HttpRequest β))}
    (hserve : serve config jwt pathname now request = .handled handler outcome)
    (hhandler : handler.isOfUser = true) :
    ∃ token sent, AuthMiddleware.tokenOf request.headers = .ok token ∧
      jwt.verify now token = .ok (jwt.payload token) ∧
      outcome = .ok (some sent) ∧
      sent.headers = [("x-user-id", (jwt.payload token).sub)] := by
  unfold serve at hserve
  split at hserve
  · cases hserve
  · rename_i user huse
    split at hserve
    · cases hserve
    · rename_i found hdispatch
      cases hserve
      cases user with
      | none =>
          have hpublic := public_of_use hparse huse hdispatch
          cases handler <;> cases hhandler <;> cases hpublic
      | some user =>
          obtain ⟨token, htoken, hverify, hid⟩ := token_of_use huse
          obtain ⟨sent, hsent, hheaders⟩ :=
            handle_ofUser config hhandler user request.body
          rw [hid] at hheaders
          exact ⟨token, sent, htoken, hverify, hsent, hheaders⟩

end Identity

/-- Without a verified token only the four public handlers run.  The handlers
of the user send on the subject of the verified token, the same for any two
requests with the same token. -/
theorem identity_from_token {β : Type} (config : GatewayConfig)
    (jwt : JwtService) {pathname : String → String}
    (hparse : ParsesUrls pathname) :
    (∀ now (request : Request β) handler,
      AuthMiddleware.use jwt now request = .ok none →
        dispatch pathname request = some handler →
          handler ∈ [.register, .login, .check, .getMetrics]) ∧
    (∀ now (request : Request β) handler outcome,
      serve config jwt pathname now request = .handled handler outcome →
        handler.isOfUser = true →
          ∃ token sent, AuthMiddleware.tokenOf request.headers = .ok token ∧
            jwt.verify now token = .ok (jwt.payload token) ∧
            outcome = .ok (some sent) ∧
            sent.headers = [("x-user-id", (jwt.payload token).sub)]) ∧
    ∀ now now' (request request' : Request β) handler handler' sent sent',
      serve config jwt pathname now request =
          .handled handler (.ok (some sent)) →
        serve config jwt pathname now' request' =
            .handled handler' (.ok (some sent')) →
          handler.isOfUser = true → handler'.isOfUser = true →
            AuthMiddleware.tokenOf request.headers =
                AuthMiddleware.tokenOf request'.headers →
              sent.headers = sent'.headers := by
  refine ⟨?_, ?_, ?_⟩
  · intro now request handler huse hdispatch
    have hpublic := public_of_use hparse huse hdispatch
    exact mem_of_isPublic hpublic
  · intro now request handler outcome hserve hhandler
    exact sent_of_serve hparse hserve hhandler
  · intro now now' request request' handler handler' sent sent' hserve hserve'
      hhandler hhandler' hsame
    obtain ⟨token, _, htoken, -, heq, hheaders⟩ :=
      sent_of_serve hparse hserve hhandler
    obtain ⟨token', _, htoken', -, heq', hheaders'⟩ :=
      sent_of_serve hparse hserve' hhandler'
    cases heq
    cases heq'
    rw [hsame, htoken'] at htoken
    cases htoken
    rw [hheaders, hheaders']

/-! ## A parser and two requests -/

/-- What stands before the query and the fragment. -/
def beforeMarks (url : String) : String :=
  String.ofList (url.toList.takeWhile fun c => c != '?' && c != '#')

theorem takeWhile_of_plain {path : String} (hplain : PlainPath path)
    (rest : List Char) :
    (path.toList ++ rest).takeWhile (fun c => c != '?' && c != '#') =
      path.toList ++ rest.takeWhile fun c => c != '?' && c != '#' := by
  apply List.takeWhile_append_of_pos
  intro c hc
  have hletter := List.all_eq_true.mp hplain.2 c hc
  by_contra hmark
  simp only [Bool.and_eq_true, bne_iff_ne, ne_eq, not_and_or, not_not] at hmark
  rcases hmark with hmark | hmark <;> subst hmark <;>
    exact absurd hletter (by decide)

theorem parsesUrls_beforeMarks : ParsesUrls beforeMarks := by
  constructor
  · intro path hplain
    have htake := takeWhile_of_plain hplain []
    rw [List.append_nil] at htake
    unfold beforeMarks
    rw [htake, List.takeWhile_nil, List.append_nil, String.ofList_toList]
  · intro path query hplain
    unfold beforeMarks
    rw [String.toList_append, String.toList_append, List.append_assoc,
      takeWhile_of_plain hplain]
    simp

def acceptsAll : JwtService where
  payload token := ⟨some token, none, none⟩
  refuses _ _ := none

def ownProfile : Request Unit :=
  ⟨"GET", "/users/me", [("authorization", "Bearer ann")], ()⟩

/-- The same token, and a client that names another user. -/
def pretending : Request Unit :=
  ⟨"DELETE", "/Users/ME/photo/?x-user-id=bob",
    [("x-user-id", "bob"), ("authorization", "Bearer ann")], ()⟩

theorem pretending_changes_nothing :
    ∃ sent sent', serve ⟨"auth", "email"⟩ acceptsAll beforeMarks 0 ownProfile =
        .handled .getProfile (.ok (some sent)) ∧
      serve ⟨"auth", "email"⟩ acceptsAll beforeMarks 0 pretending =
        .handled .deletePhoto (.ok (some sent')) ∧
      sent.headers = sent'.headers := by
  have hserve : serve ⟨"auth", "email"⟩ acceptsAll beforeMarks 0 ownProfile =
      .handled .getProfile (.ok (some
        (UsersService.getProfile ⟨"auth", "email"⟩ (some "ann")))) := by
    decide +kernel
  have hserve' : serve ⟨"auth", "email"⟩ acceptsAll beforeMarks 0 pretending =
      .handled .deletePhoto (.ok (some
        (UsersService.deletePhoto ⟨"auth", "email"⟩ (some "ann")))) := by
    decide +kernel
  refine ⟨_, _, hserve, hserve', ?_⟩
  exact (identity_from_token ⟨"auth", "email"⟩ acceptsAll
    parsesUrls_beforeMarks).2.2 _ _ _ _ _ _ _ _ hserve hserve' rfl rfl rfl

end FakeBolt.Gateway
