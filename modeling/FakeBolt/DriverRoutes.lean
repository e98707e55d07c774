import FakeBolt.GatewayService
import FakeBolt.UrlPaths

/-!
# Driver requests and their routes

The driver requests of the gateway and the routes of driver-service, whose
handlers get the decoded values of the path.  On a path of segments the router
is a comparison segment by segment.
-/

namespace FakeBolt.Forwarding

open Gateway Url

/-! ## Routing with parameters -/

/-- `matchesPath` with the values of the parameters, as the path has them. -/
def capture : List Segment → List Char → Option (List (List Char))
  | [], rest => if rest == [] || rest == ['/'] then some [] else none
  | .literal text :: segments, rest =>
      match dropLiteral ('/' :: text.toList) rest with
      | some rest => capture segments rest
      | none => none
  | .param :: segments, '/' :: rest =>
      let value := rest.takeWhile fun c => c != '/'
      if value = [] then none
      else
        (capture segments (rest.dropWhile fun c => c != '/')).map fun values =>
          value :: values
  | .param :: _, _ => none

/-- The routes that the gateway sends on to driver-service. -/
inductive ForwardedRoute where
  | getDriver
  | updateStatus
  | updateLocation
  deriving DecidableEq, Repr

def ForwardedRoute.route : ForwardedRoute → Route
  | .getDriver => ⟨"GET", [.literal "drivers", .param], .getDriver⟩
  | .updateStatus =>
      ⟨"PATCH", [.literal "drivers", .param, .literal "status"], .updateStatus⟩
  | .updateLocation =>
      ⟨"PATCH", [.literal "drivers", .param, .literal "location"],
        .updateLocation⟩

/-! ## DriverService of the gateway -/

section Call

variable {β : Type} (origin : Origin)

namespace DriverService

def call (method path : String) (body : Option β) : HttpRequest β where
  method := method
  url := String.ofList origin.text ++ path
  data := body
  headers := []

def getDriver (id : String) : HttpRequest β :=
  call origin "get" ("/drivers/" ++ id) none

def updateStatus (id : String) (body : β) : HttpRequest β :=
  call origin "patch" ("/drivers/" ++ id ++ "/status") (some body)

def updateLocation (id : String) (body : β) : HttpRequest β :=
  call origin "patch" ("/drivers/" ++ id ++ "/location") (some body)

end DriverService

def ForwardedRoute.request (route : ForwardedRoute) (id : String) (body : β) :
    HttpRequest β :=
  match route with
  | .getDriver => DriverService.getDriver origin id
  | .updateStatus => DriverService.updateStatus origin id body
  | .updateLocation => DriverService.updateLocation origin id body

end Call

/-! ## Routes of driver-service -/

inductive DriverHandler where
  | check
  | getMetrics
  | createDriver
  | getDriver
  | updateStatus
  | updateLocation
  deriving DecidableEq, Repr

structure DriverRoute where
  method : String
  path : List Segment
  handler : DriverHandler
  deriving DecidableEq, Repr

def DRIVER_ROUTES : List DriverRoute :=
  [⟨"get", [.literal "health"], .check⟩,
    ⟨"get", [.literal "metrics"], .getMetrics⟩,
    ⟨"post", [.literal "drivers"], .createDriver⟩,
    ⟨"get", [.literal "drivers", .param], .getDriver⟩,
    ⟨"patch", [.literal "drivers", .param, .literal "status"], .updateStatus⟩,
    ⟨"patch", [.literal "drivers", .param, .literal "location"],
      .updateLocation⟩]

/-- A path or parameter that cannot be decoded is a bad request. -/
inductive Answer where
  | handled (handler : DriverHandler) (params : List String)
  | badRequest
  | notFound
  deriving DecidableEq, Repr

def findRoute (method : String) (path : List Char) :
    Option (DriverHandler × List (List Char)) :=
  DRIVER_ROUTES.findSome? fun route =>
    if route.method = method then
      (capture route.path path).map fun values => (route.handler, values)
    else none

/-- `MetricsMiddleware` is bound to all paths, and its layer decodes what
follows the first slash. -/
def pathDecodes (path : List Char) : Bool :=
  (decodeURIComponent path.tail).isSome

def answer (method : String) (path : List Char) : Answer :=
  if pathDecodes path = false then .badRequest
  else
    match findRoute method path with
    | none => .notFound
    | some (handler, values) =>
        match values.mapM decodeURIComponent with
        | none => .badRequest
        | some params => .handled handler (params.map String.ofList)

/-- What driver-service makes of a request of the gateway. -/
def send {β : Type} (request : HttpRequest β) : Answer :=
  answer request.method (pathname request.url.toList)

/-- A request that the gateway sends on: the id it has decoded, and what it
sends. -/
def forward {β : Type} (origin : Origin) (route : ForwardedRoute)
    (path : List Char) (body : β) : Option (String × HttpRequest β) :=
  match capture route.route.path path with
  | some [raw] =>
      (decodeURIComponent raw).map fun chars =>
        let id := String.ofList chars
        (id, route.request origin id body)
  | _ => none

def ForwardedRoute.handler : ForwardedRoute → DriverHandler
  | .getDriver => .getDriver
  | .updateStatus => .updateStatus
  | .updateLocation => .updateLocation

/-- The handler of the same name gets the id, or there is no route. -/
def SameRouteAndId {β : Type} (route : ForwardedRoute) (id : String)
    (request : HttpRequest β) : Prop :=
  send request = .handled route.handler [id] ∨ send request = .notFound

/-! ## Routing by segments -/

/-- A word of a route, whose case is ignored. -/
def sameWord (text : String) (segment : List Char) : Bool :=
  dropLiteral text.toList segment == some []

def captureSegments :
    List Segment → List (List Char) → Option (List (List Char))
  | [], rest => if rest == [] || rest == [[]] then some [] else none
  | .literal text :: pattern, segment :: rest =>
      if sameWord text segment then captureSegments pattern rest else none
  | .param :: pattern, segment :: rest =>
      if segment = [] then none
      else (captureSegments pattern rest).map fun values => segment :: values
  | _ :: _, [] => none

theorem ne_slash_of_sameLetter {c d : Char} (hc : c ≠ '/')
    (hsame : sameLetter c d = true) : d ≠ '/' := by
  rintro rfl
  unfold sameLetter at hsame
  rw [beq_iff_eq] at hsame
  exact hc (eq_of_toLower_eq (by decide) hsame)

/-- A text that ends or goes on with a slash. -/
def AtSlash (rest : List Char) : Prop :=
  rest = [] ∨ ∃ others, rest = '/' :: others

theorem joinSegments_cons (segment : List Char)
    (segments : List (List Char)) :
    joinSegments (segment :: segments) =
      '/' :: (segment ++ joinSegments segments) :=
  rfl

theorem atSlash_joinSegments (segments : List (List Char)) :
    AtSlash (joinSegments segments) := by
  cases segments with
  | nil => exact Or.inl rfl
  | cons segment segments => exact Or.inr ⟨_, rfl⟩

theorem takeWhile_segment {segment rest : List Char} (hsegment : '/' ∉ segment)
    (hrest : AtSlash rest) :
    (segment ++ rest).takeWhile (fun c => c != '/') = segment ∧
      (segment ++ rest).dropWhile (fun c => c != '/') = rest := by
  have hall : ∀ c ∈ segment, (c != '/') = true := by
    intro c hc
    rw [bne_iff_ne]
    rintro rfl
    exact hsegment hc
  rw [List.takeWhile_append_of_pos hall, List.dropWhile_append_of_pos hall]
  rcases hrest with rfl | ⟨others, rfl⟩
  · simp
  · rw [List.takeWhile_cons_of_neg (by decide),
      List.dropWhile_cons_of_neg (by decide)]
    simp

theorem dropLiteral_append {text front : List Char}
    (hfront : dropLiteral text front = some []) (rest : List Char) :
    dropLiteral text (front ++ rest) = some rest := by
  induction text generalizing front with
  | nil =>
      cases hfront
      rfl
  | cons c text ih =>
      cases front with
      | nil => cases hfront
      | cons d front =>
          rw [List.cons_append]
          unfold dropLiteral at hfront ⊢
          split at hfront
          · rename_i hsame
            rw [if_pos hsame]
            exact ih hfront
          · cases hfront

theorem exists_of_dropLiteral {text path rest : List Char}
    (htext : '/' ∉ text) (hdrop : dropLiteral text path = some rest) :
    ∃ front, path = front ++ rest ∧ '/' ∉ front ∧
      dropLiteral text front = some [] := by
  induction text generalizing path with
  | nil =>
      cases hdrop
      exact ⟨[], rfl, List.not_mem_nil, rfl⟩
  | cons c text ih =>
      rw [List.mem_cons, not_or] at htext
      cases path with
      | nil => cases hdrop
      | cons d path =>
          unfold dropLiteral at hdrop
          split at hdrop
          · rename_i hsame
            obtain ⟨front, rfl, hfront, hliteral⟩ := ih htext.2 hdrop
            refine ⟨d :: front, rfl, ?_, ?_⟩
            · rw [List.mem_cons, not_or]
              have hne := ne_slash_of_sameLetter (Ne.symm htext.1) hsame
              exact ⟨Ne.symm hne, hfront⟩
            · unfold dropLiteral
              rw [if_pos hsame, hliteral]
          · cases hdrop

theorem atSlash_of_capture {pattern : List Segment} {rest : List Char}
    {values : List (List Char)} (hcapture : capture pattern rest = some values) :
    AtSlash rest := by
  cases pattern with
  | nil =>
      unfold capture at hcapture
      split at hcapture
      · rename_i hend
        rw [Bool.or_eq_true, beq_iff_eq, beq_iff_eq] at hend
        exact hend.imp id fun heq => ⟨[], heq⟩
      · cases hcapture
  | cons first pattern =>
      cases rest with
      | nil => exact Or.inl rfl
      | cons c rest =>
          by_cases hc : c = '/'
          · exact Or.inr ⟨rest, by rw [hc]⟩
          · cases first with
            | literal text =>
                unfold capture at hcapture
                have hdrop : dropLiteral ('/' :: text.toList) (c :: rest) =
                    none := by
                  unfold dropLiteral
                  rw [if_neg]
                  intro hsame
                  have hsame' : sameLetter c '/' = true := by
                    unfold sameLetter at hsame ⊢
                    rw [beq_iff_eq] at hsame ⊢
                    exact hsame.symm
                  exact ne_slash_of_sameLetter hc hsame' rfl
                rw [hdrop] at hcapture
                cases hcapture
            | param =>
                rw [capture] at hcapture
                · cases hcapture
                · intro others heq
                  cases heq
                  exact hc rfl

def SlashFree (pattern : List Segment) : Prop :=
  ∀ text, Segment.literal text ∈ pattern → '/' ∉ text.toList

/-- Express routes a path by its segments. -/
theorem capture_joinSegments {pattern : List Segment}
    (hpattern : SlashFree pattern) {segments : List (List Char)}
    (hsegments : ∀ segment ∈ segments, '/' ∉ segment) :
    capture pattern (joinSegments segments) =
      captureSegments pattern segments := by
  induction pattern generalizing segments with
  | nil =>
      cases segments with
      | nil => rfl
      | cons segment segments =>
          unfold capture captureSegments
          rw [joinSegments_cons]
          cases segment with
          | nil =>
              cases segments with
              | nil => rfl
              | cons _ _ => rfl
          | cons c segment => simp
  | cons first pattern ih =>
      have hpattern' : SlashFree pattern := fun text htext =>
        hpattern text (List.mem_cons_of_mem _ htext)
      cases segments with
      | nil =>
          cases first with
          | literal text => rfl
          | param => rfl
      | cons segment segments =>
          have hsegment := hsegments segment List.mem_cons_self
          have hrest := ih hpattern' fun other hother =>
            hsegments other (List.mem_cons_of_mem _ hother)
          have hat := atSlash_joinSegments segments
          rw [joinSegments_cons]
          cases first with
          | literal text =>
              have htext := hpattern text List.mem_cons_self
              have hslash : sameLetter '/' '/' = true := rfl
              unfold capture captureSegments
              rw [dropLiteral, if_pos hslash]
              by_cases hword : sameWord text segment = true
              · rw [if_pos hword]
                unfold sameWord at hword
                rw [dropLiteral_append (beq_iff_eq.mp hword)]
                exact hrest
              · rw [if_neg hword]
                split
                · rename_i left hdrop
                  by_contra hsome
                  obtain ⟨values, hvalues⟩ := Option.ne_none_iff_exists'.mp hsome
                  obtain ⟨front, heq, hfront, hliteral⟩ :=
                    exists_of_dropLiteral htext hdrop
                  have hleft := takeWhile_segment hfront
                    (atSlash_of_capture hvalues)
                  rw [← heq, (takeWhile_segment hsegment hat).1] at hleft
                  rw [hleft.1] at hword
                  apply hword
                  unfold sameWord
                  rw [hliteral]
                  rfl
                · rfl
          | param =>
              unfold capture captureSegments
              simp only [(takeWhile_segment hsegment hat).1,
                (takeWhile_segment hsegment hat).2, hrest]

/-- The paths that driver-service has a route for, with the method of a
forwarded request; one empty segment may follow. -/
inductive Routed : ForwardedRoute → List (List Char) → Prop
  | page {word tail}
      (hword : sameWord "health" word = true ∨ sameWord "metrics" word = true)
      (htail : tail = [] ∨ tail = [[]]) : Routed .getDriver (word :: tail)
  | driver {word value tail} (hword : sameWord "drivers" word = true)
      (hvalue : value ≠ []) (htail : tail = [] ∨ tail = [[]]) :
      Routed .getDriver (word :: value :: tail)
  | change {route word value last tail} (hroute : route ≠ .getDriver)
      (hword : sameWord "drivers" word = true) (hvalue : value ≠ [])
      (hlast : sameWord "status" last = true ∨ sameWord "location" last = true)
      (htail : tail = [] ∨ tail = [[]]) :
      Routed route (word :: value :: last :: tail)

section Captures

variable {pattern : List Segment} {segments values : List (List Char)}

theorem captureSegments_nil_eq_some
    (hcapture : captureSegments [] segments = some values) :
    (segments = [] ∨ segments = [[]]) ∧ values = [] := by
  unfold captureSegments at hcapture
  split at hcapture
  · rename_i hend
    rw [Bool.or_eq_true, beq_iff_eq, beq_iff_eq] at hend
    cases hcapture
    exact ⟨hend, rfl⟩
  · cases hcapture

theorem captureSegments_nil_of_tail
    (htail : segments = [] ∨ segments = [[]]) :
    captureSegments [] segments = some [] := by
  rcases htail with rfl | rfl <;> rfl

theorem captureSegments_literal_eq_some {text : String}
    (hcapture : captureSegments (.literal text :: pattern) segments =
      some values) :
    ∃ word rest, segments = word :: rest ∧ sameWord text word = true ∧
      captureSegments pattern rest = some values := by
  cases segments with
  | nil => cases hcapture
  | cons word rest =>
      unfold captureSegments at hcapture
      split at hcapture
      · rename_i hword
        exact ⟨word, rest, rfl, hword, hcapture⟩
      · cases hcapture

theorem captureSegments_param_eq_some
    (hcapture : captureSegments (.param :: pattern) segments = some values) :
    ∃ value rest others, segments = value :: rest ∧ value ≠ [] ∧
      captureSegments pattern rest = some others ∧ values = value :: others := by
  cases segments with
  | nil => cases hcapture
  | cons value rest =>
      unfold captureSegments at hcapture
      split at hcapture
      · cases hcapture
      · rename_i hvalue
        rw [Option.map_eq_some_iff] at hcapture
        obtain ⟨others, hothers, rfl⟩ := hcapture
        exact ⟨value, rest, others, rfl, hvalue, hothers, rfl⟩

theorem captureSegments_literal {text : String} {word : List Char}
    (hword : sameWord text word = true) (rest : List (List Char)) :
    captureSegments (.literal text :: pattern) (word :: rest) =
      captureSegments pattern rest := by
  rw [captureSegments, if_pos hword]

theorem captureSegments_param {value : List Char} (hvalue : value ≠ [])
    (rest : List (List Char)) :
    captureSegments (.param :: pattern) (value :: rest) =
      (captureSegments pattern rest).map fun values => value :: values := by
  rw [captureSegments, if_neg hvalue]

/-- What a path looks like that `/drivers/:id/<last>` captures. -/
theorem of_capture_change {last : String} {values : List (List Char)}
    (hcapture : captureSegments
      [.literal "drivers", .param, .literal last] segments = some values) :
    ∃ word value ending tail, segments = word :: value :: ending :: tail ∧
      sameWord "drivers" word = true ∧ value ≠ [] ∧
      sameWord last ending = true ∧ (tail = [] ∨ tail = [[]]) ∧
      values = [value] := by
  obtain ⟨word, rest, rfl, hword, hrest⟩ :=
    captureSegments_literal_eq_some hcapture
  obtain ⟨value, rest, others, rfl, hvalue, hothers, rfl⟩ :=
    captureSegments_param_eq_some hrest
  obtain ⟨ending, tail, rfl, hending, hnil⟩ :=
    captureSegments_literal_eq_some hothers
  obtain ⟨htail, rfl⟩ := captureSegments_nil_eq_some hnil
  exact ⟨word, value, ending, tail, rfl, hword, hvalue, hending, htail, rfl⟩

theorem of_capture_driver {values : List (List Char)}
    (hcapture : captureSegments [.literal "drivers", .param] segments =
      some values) :
    ∃ word value tail, segments = word :: value :: tail ∧
      sameWord "drivers" word = true ∧ value ≠ [] ∧
      (tail = [] ∨ tail = [[]]) ∧ values = [value] := by
  obtain ⟨word, rest, rfl, hword, hrest⟩ :=
    captureSegments_literal_eq_some hcapture
  obtain ⟨value, tail, others, rfl, hvalue, hothers, rfl⟩ :=
    captureSegments_param_eq_some hrest
  obtain ⟨htail, rfl⟩ := captureSegments_nil_eq_some hothers
  exact ⟨word, value, tail, rfl, hword, hvalue, htail, rfl⟩

end Captures

def ForwardedRoute.method : ForwardedRoute → String
  | .getDriver => "get"
  | .updateStatus => "patch"
  | .updateLocation => "patch"

theorem ForwardedRoute.eq_getDriver {route : ForwardedRoute}
    (hmethod : "get" = route.method) : route = .getDriver := by
  cases route with
  | getDriver => rfl
  | updateStatus => exact absurd hmethod (by decide)
  | updateLocation => exact absurd hmethod (by decide)

theorem ForwardedRoute.ne_getDriver {route : ForwardedRoute}
    (hmethod : "patch" = route.method) : route ≠ .getDriver := by
  rintro rfl
  exact absurd hmethod (by decide)

/-- What the routes capture, with the method of a forwarded request. -/
theorem routed_iff_exists_capture {route : ForwardedRoute}
    {segments : List (List Char)} :
    Routed route segments ↔ ∃ found ∈ DRIVER_ROUTES,
      found.method = route.method ∧
      (captureSegments found.path segments).isSome := by
  constructor
  · intro hrouted
    cases hrouted with
    | page hword htail =>
        rcases hword with hword | hword
        · refine ⟨⟨"get", [.literal "health"], .check⟩, by decide, rfl, ?_⟩
          rw [captureSegments_literal hword, captureSegments_nil_of_tail htail]
          rfl
        · refine ⟨⟨"get", [.literal "metrics"], .getMetrics⟩, by decide, rfl, ?_⟩
          rw [captureSegments_literal hword, captureSegments_nil_of_tail htail]
          rfl
    | driver hword hvalue htail =>
        refine ⟨⟨"get", [.literal "drivers", .param], .getDriver⟩, by decide,
          rfl, ?_⟩
        rw [captureSegments_literal hword, captureSegments_param hvalue,
          captureSegments_nil_of_tail htail]
        rfl
    | change hroute hword hvalue hlast htail =>
        have hmethod : "patch" = route.method := by
          cases route with
          | getDriver => exact absurd rfl hroute
          | updateStatus => rfl
          | updateLocation => rfl
        rcases hlast with hlast | hlast
        · refine ⟨⟨"patch", [.literal "drivers", .param, .literal "status"],
            .updateStatus⟩, by decide, hmethod, ?_⟩
          rw [captureSegments_literal hword, captureSegments_param hvalue,
            captureSegments_literal hlast, captureSegments_nil_of_tail htail]
          rfl
        · refine ⟨⟨"patch", [.literal "drivers", .param, .literal "location"],
            .updateLocation⟩, by decide, hmethod, ?_⟩
          rw [captureSegments_literal hword, captureSegments_param hvalue,
            captureSegments_literal hlast, captureSegments_nil_of_tail htail]
          rfl
  · rintro ⟨found, hfound, hmethod, hcapture⟩
    obtain ⟨values, hvalues⟩ := Option.isSome_iff_exists.mp hcapture
    simp only [DRIVER_ROUTES, List.mem_cons, List.not_mem_nil,
      or_false] at hfound
    rcases hfound with rfl | rfl | rfl | rfl | rfl | rfl
    · obtain ⟨word, tail, rfl, hword, hrest⟩ :=
        captureSegments_literal_eq_some hvalues
      rw [ForwardedRoute.eq_getDriver hmethod]
      exact .page (Or.inl hword) (captureSegments_nil_eq_some hrest).1
    · obtain ⟨word, tail, rfl, hword, hrest⟩ :=
        captureSegments_literal_eq_some hvalues
      rw [ForwardedRoute.eq_getDriver hmethod]
      exact .page (Or.inr hword) (captureSegments_nil_eq_some hrest).1
    · cases route with
      | getDriver => exact absurd hmethod (by decide)
      | updateStatus => exact absurd hmethod (by decide)
      | updateLocation => exact absurd hmethod (by decide)
    · obtain ⟨word, value, tail, rfl, hword, hvalue, htail, -⟩ :=
        of_capture_driver hvalues
      rw [ForwardedRoute.eq_getDriver hmethod]
      exact .driver hword hvalue htail
    · obtain ⟨word, value, last, tail, rfl, hword, hvalue, hlast, htail, -⟩ :=
        of_capture_change hvalues
      exact .change (ForwardedRoute.ne_getDriver hmethod) hword hvalue
        (Or.inl hlast) htail
    · obtain ⟨word, value, last, tail, rfl, hword, hvalue, hlast, htail, -⟩ :=
        of_capture_change hvalues
      exact .change (ForwardedRoute.ne_getDriver hmethod) hword hvalue
        (Or.inr hlast) htail

def isSlashFree : Segment → Bool
  | .literal text => !text.toList.contains '/'
  | .param => true

theorem slashFree_of_mem_DRIVER_ROUTES {found : DriverRoute}
    (hfound : found ∈ DRIVER_ROUTES) : SlashFree found.path := by
  intro text htext
  have hall : (DRIVER_ROUTES.all fun route => route.path.all isSlashFree) =
      true := by decide
  have hsegment := List.all_eq_true.mp (List.all_eq_true.mp hall found hfound)
    _ htext
  simpa [isSlashFree] using hsegment

section Answers

variable {route : ForwardedRoute} {segments : List (List Char)}

theorem answer_eq_notFound_iff
    (hsegments : ∀ segment ∈ segments, '/' ∉ segment) :
    answer route.method (joinSegments segments) = .notFound ↔
      ¬ Routed route segments ∧ pathDecodes (joinSegments segments) = true := by
  have hfind : answer route.method (joinSegments segments) = .notFound ↔
      findRoute route.method (joinSegments segments) = none ∧
        pathDecodes (joinSegments segments) = true := by
    unfold answer
    split
    · rename_i hbroken
      simp [hbroken]
    · rename_i hdecodes
      rw [Bool.not_eq_false] at hdecodes
      split
      · rename_i hnone
        simp [hnone, hdecodes]
      · rename_i hsome
        rw [hsome]
        split <;> simp
  rw [hfind]
  refine and_congr_left fun _ => ?_
  rw [routed_iff_exists_capture, findRoute, List.findSome?_eq_none_iff]
  constructor
  · rintro hnone ⟨found, hfound, hmethod, hcapture⟩
    have hfree := slashFree_of_mem_DRIVER_ROUTES hfound
    have hfailed := hnone found hfound
    rw [if_pos hmethod, Option.map_eq_none_iff,
      capture_joinSegments hfree hsegments] at hfailed
    rw [hfailed] at hcapture
    cases hcapture
  · intro hnot found hfound
    split
    · rename_i hmethod
      rw [Option.map_eq_none_iff, capture_joinSegments
        (slashFree_of_mem_DRIVER_ROUTES hfound) hsegments,
        ← Option.not_isSome_iff_eq_none]
      exact fun hcapture => hnot ⟨found, hfound, hmethod, hcapture⟩
    · rfl

theorem of_findRoute {method : String} {path : List Char}
    {handler : DriverHandler} {values : List (List Char)}
    (hfind : findRoute method path = some (handler, values)) :
    ∃ found ∈ DRIVER_ROUTES, found.handler = handler ∧
      capture found.path path = some values := by
  obtain ⟨found, hfound, hsome⟩ := List.exists_of_findSome?_eq_some hfind
  split at hsome
  · rw [Option.map_eq_some_iff] at hsome
    obtain ⟨captured, hcapture, heq⟩ := hsome
    cases heq
    exact ⟨found, hfound, rfl, hcapture⟩
  · cases hsome

theorem dropLiteral_nil {text rest : List Char} (htext : text ≠ []) :
    dropLiteral text [] ≠ some rest := by
  cases text with
  | nil => exact absurd rfl htext
  | cons c text => simp [dropLiteral]

theorem ne_nil_of_sameWord {text : String} {word : List Char}
    (htext : text.toList ≠ []) (hword : sameWord text word = true) :
    word ≠ [] := by
  rintro rfl
  unfold sameWord at hword
  exact dropLiteral_nil htext (beq_iff_eq.mp hword)

theorem mapM_singleton {value : List Char} {params : List (List Char)}
    (hparams : [value].mapM decodeURIComponent = some params) :
    ∃ id, decodeURIComponent value = some id ∧ params = [id] := by
  cases hid : decodeURIComponent value with
  | none => simp [hid] at hparams
  | some id =>
      refine ⟨id, rfl, ?_⟩
      simpa [hid] using hparams.symm

/-- What `/drivers/:id/<last>` makes of a path it captures and decodes. -/
theorem of_change_decoded {last : String} {values params : List (List Char)}
    (hlast : last.toList ≠ [])
    (hcapture : captureSegments
      [.literal "drivers", .param, .literal last] segments = some values)
    (hparams : values.mapM decodeURIComponent = some params) :
    ∃ word value ending tail id, segments = word :: value :: ([ending] ++ tail) ∧
      word ≠ [] ∧ value ≠ [] ∧ (∀ segment ∈ [ending], segment ≠ []) ∧
      decodeURIComponent value = some id ∧ params = [id] := by
  obtain ⟨word, value, ending, tail, rfl, hword, hvalue, hending, -, rfl⟩ :=
    of_capture_change hcapture
  obtain ⟨id, hid, rfl⟩ := mapM_singleton hparams
  have hnonempty := ne_nil_of_sameWord hlast hending
  refine ⟨word, value, ending, tail, id, rfl,
    ne_nil_of_sameWord (by decide) hword, hvalue, ?_, hid, rfl⟩
  simpa using hnonempty

/-- What a request looks like that reaches the handler of the same name. -/
theorem of_answer_eq_handled {params : List String}
    (hsegments : ∀ segment ∈ segments, '/' ∉ segment)
    (hanswer : answer route.method (joinSegments segments) =
      .handled route.handler params) :
    ∃ word value more rest id, segments = word :: value :: (more ++ rest) ∧
      word ≠ [] ∧ value ≠ [] ∧ (∀ segment ∈ more, segment ≠ []) ∧
      more.length = (if route = .getDriver then 0 else 1) ∧
      decodeURIComponent value = some id ∧ params = [String.ofList id] := by
  unfold answer at hanswer
  split at hanswer
  · cases hanswer
  split at hanswer
  · cases hanswer
  · rename_i handler values hfind
    split at hanswer
    · cases hanswer
    · rename_i ids hids
      rw [Answer.handled.injEq] at hanswer
      obtain ⟨rfl, rfl⟩ := hanswer
      obtain ⟨found, hfound, hhandler, hcapture⟩ := of_findRoute hfind
      rw [capture_joinSegments (slashFree_of_mem_DRIVER_ROUTES hfound)
        hsegments] at hcapture
      simp only [DRIVER_ROUTES, List.mem_cons, List.not_mem_nil,
        or_false] at hfound
      rcases hfound with rfl | rfl | rfl | rfl | rfl | rfl
      · cases route <;> cases hhandler
      · cases route <;> cases hhandler
      · cases route <;> cases hhandler
      · obtain ⟨word, value, tail, rfl, hword, hvalue, -, rfl⟩ :=
          of_capture_driver hcapture
        obtain ⟨id, hid, rfl⟩ := mapM_singleton hids
        refine ⟨word, value, [], tail, id, rfl,
          ne_nil_of_sameWord (by decide) hword, hvalue, by simp, ?_, hid,
          rfl⟩
        cases route with
        | getDriver => rfl
        | updateStatus => cases hhandler
        | updateLocation => cases hhandler
      · obtain ⟨word, value, ending, tail, id, rfl, hword, hvalue, hmore, hid,
          rfl⟩ := of_change_decoded (by decide) hcapture hids
        refine ⟨word, value, [ending], tail, id, rfl, hword, hvalue, hmore, ?_,
          hid, rfl⟩
        cases route with
        | getDriver => cases hhandler
        | updateStatus => rfl
        | updateLocation => cases hhandler
      · obtain ⟨word, value, ending, tail, id, rfl, hword, hvalue, hmore, hid,
          rfl⟩ := of_change_decoded (by decide) hcapture hids
        refine ⟨word, value, [ending], tail, id, rfl, hword, hvalue, hmore, ?_,
          hid, rfl⟩
        cases route with
        | getDriver => cases hhandler
        | updateStatus => cases hhandler
        | updateLocation => rfl

end Answers

end FakeBolt.Forwarding
