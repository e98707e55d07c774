import FakeBolt.DriverRoutes

/-!
# Driver requests through the gateway

The gateway decodes the id of a driver request and puts it into a second URL,
which driver-service routes and decodes again.
-/

namespace FakeBolt.Forwarding

open Gateway Url

/-! ## The path that is sent -/

def driversWord : List Char :=
  ['d', 'r', 'i', 'v', 'e', 'r', 's']

/-- What follows the id in the URL. -/
def ForwardedRoute.ending : ForwardedRoute → List (List Char)
  | .getDriver => []
  | .updateStatus => [['s', 't', 'a', 't', 'u', 's']]
  | .updateLocation => [['l', 'o', 'c', 'a', 't', 'i', 'o', 'n']]

section Sent

variable {β : Type} (origin : Origin) (route : ForwardedRoute) (id : String)
  (body : β)

theorem request_url :
    (route.request origin id body).url.toList =
      origin.text ++ '/' :: (driversWord ++ '/' ::
        (id.toList ++ joinSegments route.ending)) := by
  cases route with
  | getDriver =>
      simp [ForwardedRoute.request, DriverService.getDriver, DriverService.call,
        ForwardedRoute.ending, joinSegments, driversWord]
  | updateStatus =>
      simp [ForwardedRoute.request, DriverService.updateStatus,
        DriverService.call, ForwardedRoute.ending, joinSegments, driversWord]
  | updateLocation =>
      simp [ForwardedRoute.request, DriverService.updateLocation,
        DriverService.call, ForwardedRoute.ending, joinSegments, driversWord]

/-- What the client leaves of the path after cutting and resolving it. -/
def sentSegments : List (List Char) :=
  pathSegments (route.request origin id body).url.toList

theorem send_request :
    send (route.request origin id body) =
      answer route.method (joinSegments (sentSegments origin route id body)) := by
  have hmethod : (route.request origin id body).method = route.method := by
    cases route <;> rfl
  unfold send
  rw [hmethod]
  rfl

/-- Blanks at the end of the URL go, and the id of `getDriver` stands there. -/
def ForwardedRoute.KeepsEnd (route : ForwardedRoute) (id : String) : Prop :=
  route = .getDriver → id.toList.rdropWhile isC0OrSpace = id.toList

def Uncut (text : List Char) : Prop :=
  ∀ c ∈ text, isTabOrNewline c = false ∧ endsPath c = false

theorem readPath_drivers (rest : List Char) :
    (readPath (driversWord ++ '/' :: rest)).splitOnP isSlash =
      driversWord :: (readPath rest).splitOnP isSlash := by
  have hfront : ∀ c ∈ driversWord ++ ['/'],
      isTabOrNewline c = false ∧ endsPath c = false := by
    have hall : (driversWord ++ ['/']).all (fun c =>
        !isTabOrNewline c && !endsPath c) = true := by decide
    intro c hc
    simpa using List.all_eq_true.mp hall c hc
  have htrim := rdropWhile_append_cons driversWord
    (show isC0OrSpace '/' = false by decide) rest
  rw [List.append_cons, readPath_append hfront (by simpa using htrim),
    List.append_assoc]
  apply List.splitOnP_append_cons_of_forall_mem _ _ (by decide)
  have hall : driversWord.all (fun c => !isSlash c) = true := by decide
  intro c hc
  simpa using List.all_eq_true.mp hall c hc

/-- What the URL still has of the id. -/
theorem readPath_id :
    ∃ part tail, (readPath (driversWord ++ '/' ::
        (id.toList ++ joinSegments route.ending))).splitOnP isSlash =
        driversWord :: (part.splitOnP isSlash ++ tail) ∧
      List.Sublist part id.toList ∧ (tail = [] ∨ tail = route.ending) ∧
      Uncut part ∧ (part = id.toList → route.KeepsEnd id) ∧
      (Uncut id.toList → route.KeepsEnd id →
        part = id.toList ∧ tail = route.ending) := by
  have hchange : ∀ last, route.ending = [last] → route ≠ .getDriver →
      last.all (fun c => !isTabOrNewline c && (!endsPath c && !isSlash c)) =
        true → last.rdropWhile isC0OrSpace = last →
      ∃ part tail, (readPath (driversWord ++ '/' ::
          (id.toList ++ joinSegments route.ending))).splitOnP isSlash =
          driversWord :: (part.splitOnP isSlash ++ tail) ∧
        List.Sublist part id.toList ∧ (tail = [] ∨ tail = route.ending) ∧
        Uncut part ∧ (part = id.toList → route.KeepsEnd id) ∧
        (Uncut id.toList → route.KeepsEnd id →
          part = id.toList ∧ tail = route.ending) := by
    intro last hending hroute hall htrim
    have hlast : ∀ c ∈ last,
        isTabOrNewline c = false ∧ endsPath c = false ∧ isSlash c = false := by
      intro c hc
      simpa using List.all_eq_true.mp hall c hc
    obtain ⟨part, tail, hread, hpart, htail, huncut, hkept⟩ :=
      readPath_ending id.toList hlast htrim
    have hjoin : joinSegments route.ending = '/' :: last := by
      rw [hending, joinSegments_cons]
      simp [joinSegments]
    refine ⟨part, tail, ?_, hpart, ?_, huncut, ?_, ?_⟩
    · rw [readPath_drivers, hjoin, hread]
    · rw [hending]
      exact htail
    · exact fun _ hget => absurd hget hroute
    · rw [hending]
      exact fun hid _ => hkept hid
  cases route with
  | getDriver =>
      refine ⟨readPath id.toList, [], ?_, readPath_sublist, Or.inl rfl,
        fun c hc => of_mem_readPath hc, ?_, ?_⟩
      · rw [readPath_drivers]
        simp [ForwardedRoute.ending, joinSegments]
      · intro hread _
        have htrim : List.Sublist (id.toList.rdropWhile isC0OrSpace)
            id.toList := (List.rdropWhile_prefix _ _).sublist
        have hkept := readPath_sublist_rdropWhile id.toList
        rw [hread] at hkept
        exact htrim.antisymm hkept
      · intro hid hend
        exact ⟨readPath_eq_self hid (hend rfl), rfl⟩
  | updateStatus =>
      exact hchange _ rfl (by decide) (by decide) (by decide)
  | updateLocation =>
      exact hchange _ rfl (by decide) (by decide) (by decide)

/-- An id that reaches driver-service as it is. -/
structure PlainId : Prop where
  chars : ∀ c ∈ id.toList, isSlash c = false ∧ endsPath c = false ∧
    isTabOrNewline c = false ∧ c ≠ '%'
  dots : id ≠ "." ∧ id ≠ ".."
  blank : route.KeepsEnd id

variable {origin route id body}

theorem writtenSegments_request :
    writtenSegments (route.request origin id body).url.toList =
      (readPath (driversWord ++ '/' ::
        (id.toList ++ joinSegments route.ending))).splitOnP isSlash := by
  rw [request_url, writtenSegments_origin]

theorem PlainId.isDot_eq_false (hplain : PlainId route id) :
    isDot id.toList = false := by
  have hpercent : '%' ∉ id.toList :=
    fun hmem => (hplain.chars _ hmem).2.2.2 rfl
  rw [← Bool.not_eq_true, isDot_of_no_percent hpercent]
  rintro (hdot | hdots)
  · exact hplain.dots.1 (String.toList_injective hdot)
  · exact hplain.dots.2 (String.toList_injective hdots)

theorem sentSegments_of_plain (hplain : PlainId route id) :
    sentSegments origin route id body =
      driversWord :: escape isPathEscaped id.toList :: route.ending := by
  obtain ⟨part, tail, hread, -, -, -, -, hkept⟩ := readPath_id route id
  have huncut : Uncut id.toList :=
    fun c hc => ⟨(hplain.chars c hc).2.2.1, (hplain.chars c hc).2.1⟩
  obtain ⟨rfl, rfl⟩ := hkept huncut hplain.blank
  have hwhole : id.toList.splitOnP isSlash = [id.toList] :=
    List.splitOnP_eq_singleton fun c hc => (hplain.chars c hc).1
  have hwritten : writtenSegments (route.request origin id body).url.toList =
      driversWord :: id.toList :: route.ending := by
    rw [writtenSegments_request, hread, hwhole]
    rfl
  have hdots : ∀ segment ∈ driversWord :: id.toList :: route.ending,
      isDot segment = false := by
    intro segment hsegment
    rcases List.mem_cons.mp hsegment with rfl | hsegment
    · decide
    · rcases List.mem_cons.mp hsegment with rfl | hending
      · exact hplain.isDot_eq_false
      · have hall : route.ending.all (fun word => !isDot word) = true := by
          cases route <;> decide
        simpa using List.all_eq_true.mp hall segment hending
  have hwords : driversWord :: route.ending =
      (driversWord :: route.ending).map (escape isPathEscaped) := by
    cases route <;> decide
  unfold sentSegments pathSegments
  rw [hwritten, resolve_of_no_dots hdots, List.nil_append, List.map_cons,
    List.map_cons]
  rw [List.map_cons, List.cons.injEq] at hwords
  rw [← hwords.1, ← hwords.2]

theorem findSome?_congr {α γ : Type*} {f g : α → Option γ} {items : List α}
    (hsame : ∀ item ∈ items, f item = g item) :
    items.findSome? f = items.findSome? g := by
  induction items with
  | nil => rfl
  | cons item items ih =>
      rw [List.findSome?_cons, List.findSome?_cons,
        hsame item List.mem_cons_self,
        ih fun other hother => hsame other (List.mem_cons_of_mem _ hother)]

theorem findRoute_joinSegments {method : String} {segments : List (List Char)}
    (hsegments : ∀ segment ∈ segments, '/' ∉ segment) :
    findRoute method (joinSegments segments) =
      DRIVER_ROUTES.findSome? fun route =>
        if route.method = method then
          (captureSegments route.path segments).map fun values =>
            (route.handler, values)
        else none := by
  apply findSome?_congr
  intro found hfound
  rw [capture_joinSegments (slashFree_of_mem_DRIVER_ROUTES hfound) hsegments]

/-- A word that is not one of the route is not taken for it. -/
theorem captureSegments_other {text : String} {word : List Char}
    (hword : sameWord text word = false) (pattern : List Segment)
    (rest : List (List Char)) :
    captureSegments (.literal text :: pattern) (word :: rest) = none := by
  rw [captureSegments, hword]
  rfl

theorem findRoute_same {value : List Char} (hvalue : value ≠ [])
    (hslash : '/' ∉ value) :
    findRoute route.method
        (joinSegments (driversWord :: value :: route.ending)) =
      some (route.handler, [value]) := by
  have hsegments : ∀ segment ∈ driversWord :: value :: route.ending,
      '/' ∉ segment := by
    intro segment hsegment
    rcases List.mem_cons.mp hsegment with rfl | hsegment
    · decide
    · rcases List.mem_cons.mp hsegment with rfl | hending
      · exact hslash
      · have hall : route.ending.all (fun word => !word.contains '/') = true := by
          cases route <;> decide
        simpa using List.all_eq_true.mp hall segment hending
  have hdrivers : sameWord "drivers" driversWord = true := by decide
  rw [findRoute_joinSegments hsegments]
  cases route with
  | getDriver =>
      have hhealth : sameWord "health" driversWord = false := by decide
      have hmetrics : sameWord "metrics" driversWord = false := by decide
      simp [DRIVER_ROUTES, ForwardedRoute.method, ForwardedRoute.ending,
        ForwardedRoute.handler, captureSegments_other hhealth,
        captureSegments_other hmetrics, captureSegments_literal hdrivers, captureSegments_param hvalue,
        captureSegments_nil_of_tail]
  | updateStatus =>
      have hstatus : sameWord "status" ['s', 't', 'a', 't', 'u', 's'] = true := by
        decide
      simp [DRIVER_ROUTES, ForwardedRoute.method, ForwardedRoute.ending,
        ForwardedRoute.handler, captureSegments_literal hdrivers,
        captureSegments_param hvalue, captureSegments_literal hstatus,
        captureSegments_nil_of_tail]
  | updateLocation =>
      have hstatus : sameWord "status"
          ['l', 'o', 'c', 'a', 't', 'i', 'o', 'n'] = false := by decide
      have hlocation : sameWord "location"
          ['l', 'o', 'c', 'a', 't', 'i', 'o', 'n'] = true := by decide
      simp [DRIVER_ROUTES, ForwardedRoute.method, ForwardedRoute.ending,
        ForwardedRoute.handler, captureSegments_literal hdrivers,
        captureSegments_param hvalue, captureSegments_other hstatus,
        captureSegments_literal hlocation, captureSegments_nil_of_tail]

theorem escape_ne_nil {text : List Char} (htext : text ≠ []) :
    escape isPathEscaped text ≠ [] := by
  cases text with
  | nil => exact absurd rfl htext
  | cons c text =>
      rw [escape_cons]
      split
      · obtain ⟨digits, hdigits⟩ := escapeChar_eq_cons c
        simp [hdigits]
      · simp

theorem decodes_of_plain (hplain : PlainId route id) :
    pathDecodes (joinSegments (sentSegments origin route id body)) = true := by
  have hescaped : (joinSegments (driversWord ::
      escape isPathEscaped id.toList :: route.ending)).tail =
        escape isPathEscaped (driversWord ++ '/' ::
          (id.toList ++ joinSegments route.ending)) := by
    have hdrivers : escape isPathEscaped driversWord = driversWord := by decide
    have hslash : isPathEscaped '/' = false := by decide
    have hending : escape isPathEscaped (joinSegments route.ending) =
        joinSegments route.ending := by
      cases route <;> decide
    rw [escape_append, hdrivers, escape_cons, hslash, escape_append, hending,
      joinSegments_cons, joinSegments_cons]
    rfl
  have hpercent : '%' ∉ driversWord ++ '/' ::
      (id.toList ++ joinSegments route.ending) := by
    have hfixed : '%' ∉ driversWord ∧ '%' ∉ joinSegments route.ending := by
      cases route <;> decide
    simp only [List.mem_append, List.mem_cons, not_or]
    exact ⟨hfixed.1, by decide,
      fun hmem => (hplain.chars _ hmem).2.2.2 rfl, hfixed.2⟩
  unfold pathDecodes
  rw [sentSegments_of_plain hplain, hescaped, Option.isSome_iff_exists]
  exact ⟨_, decodeURIComponent_eq_some_iff.mpr (unescape_escape hpercent)⟩

theorem send_of_plain (hplain : PlainId route id) (hid : id ≠ "") :
    send (route.request origin id body) = .handled route.handler [id] := by
  have hchars : id.toList ≠ [] := by
    intro hnil
    exact hid (String.toList_injective hnil)
  have hslash : '/' ∉ escape isPathEscaped id.toList := by
    have hmem : escape isPathEscaped id.toList ∈
        sentSegments origin route id body := by
      rw [sentSegments_of_plain hplain]
      exact List.mem_cons_of_mem _ List.mem_cons_self
    exact slash_not_mem_of_mem_pathSegments hmem
  have hpercent : '%' ∉ id.toList :=
    fun hmem => (hplain.chars _ hmem).2.2.2 rfl
  have hdecode : decodeURIComponent (escape isPathEscaped id.toList) =
      some id.toList :=
    (decode_escape_eq_some_iff (by decide) (List.Sublist.refl _)).mpr
      ⟨rfl, hpercent⟩
  have hdecodes : pathDecodes
      (joinSegments (sentSegments origin route id body)) = true :=
    decodes_of_plain hplain
  rw [sentSegments_of_plain hplain] at hdecodes
  rw [send_request, sentSegments_of_plain hplain, answer, hdecodes,
    if_neg (by decide), findRoute_same (escape_ne_nil hchars) hslash]
  simp [hdecode]

theorem not_routed_of_empty (hplain : PlainId route "") :
    ¬ Routed route (sentSegments origin route "" body) := by
  rw [sentSegments_of_plain hplain]
  generalize hsent : driversWord :: escape isPathEscaped "".toList ::
    route.ending = segments
  intro hrouted
  cases hrouted with
  | page hword htail =>
      rw [List.cons.injEq] at hsent
      rw [← hsent.1] at hword
      rcases hword with hword | hword
      · exact absurd hword (by decide)
      · exact absurd hword (by decide)
  | driver hword hvalue htail =>
      rw [List.cons.injEq, List.cons.injEq] at hsent
      exact hvalue hsent.2.1.symm
  | change hroute hword hvalue hlast htail =>
      rw [List.cons.injEq, List.cons.injEq] at hsent
      exact hvalue hsent.2.1.symm

theorem ne_nil_of_escape {text : List Char}
    (htext : escape isPathEscaped text ≠ []) : text ≠ [] := by
  rintro rfl
  exact htext rfl

/-- The first of enough items is not among those that were added. -/
theorem mem_of_sublist_append {α : Type*} {item : α} {items parts tail : List α}
    (hitems : List.Sublist (item :: items) (parts ++ tail))
    (hlength : tail.length ≤ items.length) : item ∈ parts := by
  obtain ⟨front, added, heq, hfront, hadded⟩ := List.sublist_append_iff.mp hitems
  cases front with
  | nil =>
      have hlong := hadded.length_le
      rw [List.nil_append] at heq
      rw [← heq, List.length_cons] at hlong
      omega
  | cons first front =>
      rw [List.cons_append, List.cons.injEq] at heq
      rw [heq.1]
      exact hfront.subset List.mem_cons_self

/-- The segment that arrives in the place of the id is a piece of the id. -/
theorem mem_pieces_of_resolve {part first second : List Char}
    {tail ending after : List (List Char)}
    (hresolve : resolve [] (driversWord :: (part.splitOnP isSlash ++ tail)) =
      first :: second :: (ending ++ after))
    (hnonempty : ∀ segment ∈ first :: second :: ending, segment ≠ [])
    (hlength : tail.length ≤ ending.length) :
    second ∈ part.splitOnP isSlash := by
  have hkept : List.Sublist (first :: second :: ending)
      (resolve [] (driversWord :: (part.splitOnP isSlash ++ tail))) := by
    rw [hresolve]
    exact List.sublist_append_left (first :: second :: ending) after
  have hfound := sublist_of_sublist_resolve hkept hnonempty
  exact mem_of_sublist_append hfound.tail hlength

/-- What reaches the handler of the same name with the same id was plain. -/
theorem plain_of_handled
    (hsend : send (route.request origin id body) =
      .handled route.handler [id]) : PlainId route id := by
  rw [send_request] at hsend
  obtain ⟨word, value, more, rest, chars, hsegments, hword, hvalue, hmore,
    hlength, hdecode, hparams⟩ := of_answer_eq_handled
      (fun segment hsegment => slash_not_mem_of_mem_pathSegments hsegment) hsend
  have hid : chars = id.toList := by
    simp only [List.cons.injEq, and_true] at hparams
    rw [hparams, String.toList_ofList]
  subst hid
  unfold pathSegments at hsegments
  obtain ⟨first, others, hresolve, rfl, hmap⟩ :=
    List.map_eq_cons_iff.mp hsegments
  obtain ⟨second, others, rfl, rfl, hrest⟩ := List.map_eq_cons_iff.mp hmap
  obtain ⟨ending, after, rfl, rfl, -⟩ := List.map_eq_append_iff.mp hrest
  obtain ⟨part, tail, hread, hpart, htail, huncut, hend, -⟩ :=
    readPath_id route id
  rw [writtenSegments_request, hread] at hresolve
  have hnonempty : ∀ segment ∈ first :: second :: ending, segment ≠ [] := by
    intro segment hsegment
    rcases List.mem_cons.mp hsegment with rfl | hsegment
    · exact ne_nil_of_escape hword
    · rcases List.mem_cons.mp hsegment with rfl | hsegment
      · exact ne_nil_of_escape hvalue
      · exact ne_nil_of_escape (hmore _ (List.mem_map_of_mem hsegment))
  have hshort : tail.length ≤ ending.length := by
    rw [List.length_map] at hlength
    rcases htail with rfl | rfl
    · exact Nat.zero_le _
    · rw [hlength]
      cases route <;> decide
  have hpiece := mem_pieces_of_resolve hresolve hnonempty hshort
  have hpiecePart := of_mem_splitOnP hpiece
  have hwhole := (decode_escape_eq_some_iff (by decide)
    (hpiecePart.1.trans hpart)).mp hdecode
  obtain ⟨hsecond, hpercent⟩ := hwhole
  rw [hsecond] at hpiecePart
  have hsame : part = id.toList := hpart.antisymm hpiecePart.1
  have hdot : isDot id.toList = false := by
    have hnone : ∀ segment ∈ ([] : List (List Char)), isDot segment = false := by
      simp
    apply isDot_eq_false_of_mem_resolve hnone
    rw [hresolve, ← hsecond]
    simp
  rw [← Bool.not_eq_true, isDot_of_no_percent hpercent] at hdot
  constructor
  · intro c hc
    have hread := huncut c (by rw [hsame]; exact hc)
    refine ⟨hpiecePart.2 c hc, hread.2, hread.1, ?_⟩
    rintro rfl
    exact hpercent hc
  · constructor
    · rintro rfl
      exact hdot (Or.inl rfl)
    · rintro rfl
      exact hdot (Or.inr rfl)
  · exact hend hsame

/-- The answers that forwarding may give, and when it gives one of them. -/
theorem sameRouteAndId_iff :
    SameRouteAndId route id (route.request origin id body) ↔
      PlainId route id ∨
        ¬ Routed route (sentSegments origin route id body) ∧
          pathDecodes (joinSegments (sentSegments origin route id body)) =
            true := by
  have hnotFound : send (route.request origin id body) = .notFound ↔
      ¬ Routed route (sentSegments origin route id body) ∧
        pathDecodes (joinSegments (sentSegments origin route id body)) =
          true := by
    rw [send_request]
    exact answer_eq_notFound_iff fun segment hsegment =>
      slash_not_mem_of_mem_pathSegments hsegment
  constructor
  · rintro (hhandled | hnone)
    · exact Or.inl (plain_of_handled hhandled)
    · exact Or.inr (hnotFound.mp hnone)
  · rintro (hplain | hrouted)
    · by_cases hid : id = ""
      · subst hid
        exact Or.inr (hnotFound.mpr
          ⟨not_routed_of_empty hplain, decodes_of_plain hplain⟩)
      · exact Or.inl (send_of_plain hplain hid)
    · exact Or.inr (hnotFound.mpr hrouted)

end Sent

theorem of_forward {β : Type} {origin : Origin} {route : ForwardedRoute}
    {path : List Char} {body : β} {id : String} {request : HttpRequest β}
    (hforward : forward origin route path body = some (id, request)) :
    request = route.request origin id body := by
  unfold forward at hforward
  split at hforward
  · rw [Option.map_eq_some_iff] at hforward
    obtain ⟨chars, -, heq⟩ := hforward
    cases heq
    rfl
  · cases hforward

/-- The gateway forwards a request to the same route and id exactly if the id
is plain, or what is left of its path has no route and can be decoded. -/
theorem forward_same_route_and_id_iff {β : Type} {origin : Origin}
    {route : ForwardedRoute} {path : List Char} {body : β} {id : String}
    {request : HttpRequest β}
    (hforward : forward origin route path body = some (id, request)) :
    SameRouteAndId route id request ↔
      PlainId route id ∨
        ¬ Routed route (sentSegments origin route id body) ∧
          pathDecodes (joinSegments (sentSegments origin route id body)) =
            true := by
  rw [of_forward hforward]
  exact sameRouteAndId_iff

/-! ## Two requests -/

def driverServiceUrl : Origin where
  host := "driver-service:3002".toList
  plain := by
    have hall : "driver-service:3002".toList.all (fun c =>
        !isC0OrSpace c && (!isSlash c && !endsPath c)) = true := by decide
    intro c hc
    simpa using List.all_eq_true.mp hall c hc

theorem forward_getDriver (raw id : String)
    (hraw : raw.toList ≠ [] ∧ '/' ∉ raw.toList)
    (hid : decodeURIComponent raw.toList = some id.toList) :
    forward driverServiceUrl .getDriver
        ('/' :: (driversWord ++ '/' :: raw.toList)) () =
      some (id, DriverService.getDriver driverServiceUrl id) := by
  have hcapture : capture [.literal "drivers", .param]
      (joinSegments [driversWord, raw.toList]) = some [raw.toList] := by
    have hdrivers : sameWord "drivers" driversWord = true := by decide
    have hroute : (⟨"get", [.literal "drivers", .param], .getDriver⟩ :
        DriverRoute) ∈ DRIVER_ROUTES := by decide
    have hfree := slashFree_of_mem_DRIVER_ROUTES hroute
    have hsegments : ∀ segment ∈ [driversWord, raw.toList], '/' ∉ segment := by
      intro segment hsegment
      simp only [List.mem_cons, List.not_mem_nil, or_false] at hsegment
      rcases hsegment with rfl | rfl
      · decide
      · exact hraw.2
    rw [capture_joinSegments hfree hsegments,
      captureSegments_literal hdrivers, captureSegments_param hraw.1,
      captureSegments_nil_of_tail (Or.inl rfl)]
    rfl
  have hjoin : joinSegments [driversWord, raw.toList] =
      '/' :: (driversWord ++ '/' :: raw.toList) := by
    simp [joinSegments]
  rw [← hjoin]
  unfold forward ForwardedRoute.route
  simp only [hcapture, hid, Option.map_some, String.ofList_toList]
  rfl

theorem plainId_of_all {route : ForwardedRoute} {id : String}
    (hchars : id.toList.all (fun c => !isSlash c && (!endsPath c &&
      (!isTabOrNewline c && c != '%'))) = true)
    (hdots : id ≠ "." ∧ id ≠ "..")
    (hblank : id.toList.rdropWhile isC0OrSpace = id.toList) :
    PlainId route id := by
  constructor
  · intro c hc
    simpa using List.all_eq_true.mp hchars c hc
  · exact hdots
  · exact fun _ => hblank

theorem forward_driver_42 :
    forward driverServiceUrl .getDriver
        ('/' :: (driversWord ++ '/' :: "42".toList)) () =
      some ("42", DriverService.getDriver driverServiceUrl "42") ∧
    SameRouteAndId .getDriver "42"
      (DriverService.getDriver driverServiceUrl "42" : HttpRequest Unit) := by
  have hforward := forward_getDriver "42" "42" (by decide)
    (decodeURIComponent_eq_some_iff.mpr (by decide))
  refine ⟨hforward, (forward_same_route_and_id_iff hforward).mpr (Or.inl ?_)⟩
  exact plainId_of_all (by decide) (by decide) (by decide)

/-- `GET /drivers/x%3Fy` asks driver-service for the driver `x`. -/
theorem forward_drops_query :
    forward driverServiceUrl .getDriver
        ('/' :: (driversWord ++ '/' :: "x%3Fy".toList)) () =
      some ("x?y", DriverService.getDriver driverServiceUrl "x?y") ∧
    send (DriverService.getDriver driverServiceUrl "x?y" : HttpRequest Unit) =
      .handled .getDriver ["x"] ∧
    ¬ SameRouteAndId .getDriver "x?y"
      (DriverService.getDriver driverServiceUrl "x?y" : HttpRequest Unit) := by
  have hforward := forward_getDriver "x%3Fy" "x?y" (by decide)
    (decodeURIComponent_eq_some_iff.mpr (by decide))
  have hsent : send (DriverService.getDriver driverServiceUrl "x?y" :
      HttpRequest Unit) = .handled .getDriver ["x"] := by
    have hplain : PlainId .getDriver "x" :=
      plainId_of_all (by decide) (by decide) (by decide)
    have hx : send (ForwardedRoute.getDriver.request driverServiceUrl "x" ()) =
        .handled .getDriver ["x"] := send_of_plain hplain (by decide)
    have hsegments : sentSegments driverServiceUrl .getDriver "x?y" () =
        sentSegments driverServiceUrl .getDriver "x" () := by
      unfold sentSegments pathSegments
      rw [writtenSegments_request, writtenSegments_request]
      decide
    calc send (DriverService.getDriver driverServiceUrl "x?y" :
          HttpRequest Unit)
        = answer "get" (joinSegments
            (sentSegments driverServiceUrl .getDriver "x?y" ())) :=
          send_request driverServiceUrl .getDriver "x?y" ()
      _ = answer "get" (joinSegments
            (sentSegments driverServiceUrl .getDriver "x" ())) := by
          rw [hsegments]
      _ = send (DriverService.getDriver driverServiceUrl "x" :
            HttpRequest Unit) :=
          (send_request driverServiceUrl .getDriver "x" ()).symm
      _ = .handled .getDriver ["x"] := hx
  refine ⟨hforward, hsent, ?_⟩
  unfold SameRouteAndId
  rw [hsent]
  decide

end FakeBolt.Forwarding
