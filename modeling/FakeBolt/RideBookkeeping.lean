import FakeBolt.DispatchSystem

/-!
# Rides, requests and assignments

Along every run a ride is requested once and assigned at most once: its
request is in flight, or one driver has been announced for it, or nobody was
in range.  The driver stored with a ride is the one announced.
-/

namespace FakeBolt.Dispatch

open Await Geo Kafka Store Transition

def Assigned (log : List Message) (rideId driverId : String) : Prop :=
  ∃ message ∈ log, Assigns message rideId driverId

def requestedRide : Service × Message → Option String
  | (.matching, .rideRequested request) => some request.rideId
  | _ => none

def System.requests (system : System) : List String :=
  system.inFlight.filterMap requestedRide

structure Accounted (system : System) : Prop where
  requestedOnce : system.requests.Nodup
  requestedKnown : ∀ rideId ∈ system.requests,
    (system.rides.get? rideId).isSome
  requestedOpen : ∀ rideId ∈ system.requests,
    ∀ driverId, ¬ Assigned system.log rideId driverId
  assignedKnown : ∀ rideId driverId,
    Assigned system.log rideId driverId → (system.rides.get? rideId).isSome
  assignedNamed : ∀ rideId driverId,
    Assigned system.log rideId driverId → driverId ≠ ""
  assignedOnce : ∀ rideId driverId other,
    Assigned system.log rideId driverId →
      Assigned system.log rideId other → driverId = other
  mailed : ∀ mail ∈ system.inFlight, ∀ rideId driverId,
    Assigns mail.2 rideId driverId → Assigned system.log rideId driverId
  stored : ∀ rideId ride driverId, system.rides.get? rideId = some ride →
    ride.driverId = some driverId → Assigned system.log rideId driverId

/-! ## Parts of a step -/

theorem assigned_append_iff {log more : List Message}
    {rideId driverId : String} :
    Assigned (log ++ more) rideId driverId ↔
      Assigned log rideId driverId ∨ Assigned more rideId driverId := by
  simp only [Assigned, List.mem_append, or_and_right, exists_or]

theorem assigned_append_quiet {log : List Message} {message : Message}
    {rideId driverId : String}
    (hquiet : ¬ Assigns message rideId driverId) :
    Assigned (log ++ [message]) rideId driverId ↔
      Assigned log rideId driverId := by
  rw [assigned_append_iff, or_iff_left]
  rintro ⟨other, hother, hassigns⟩
  rw [List.mem_singleton] at hother
  subst other
  exact hquiet hassigns

theorem DriverStep.assigned_iff {system next : System} {event : Event}
    (hstep : DriverStep system event next) (rideId driverId : String) :
    Assigned next.log rideId driverId ↔
      Assigned system.log rideId driverId := by
  obtain ⟨records, hevents, hlog⟩ := hstep.log
  rw [hlog, assigned_append_iff, or_iff_left]
  rintro ⟨message, hmessage, hassigns⟩
  obtain ⟨record, hrecord, heq⟩ := List.mem_map.mp hmessage
  subst heq
  exact driverEvent_not_assigns (hevents record hrecord) _ _ hassigns

theorem remaining_sublist (system : System) (event : Event) :
    (remaining system event).Sublist system.inFlight := by
  cases event with
  | deliver position now hint => exact List.eraseIdx_sublist _ _
  | _ => exact List.Sublist.refl _

/-- A step that assigns nobody keeps the books when it forgets no ride. -/
theorem Accounted.of_quiet {system next : System} (hinv : Accounted system)
    (hassigned : ∀ rideId driverId, Assigned next.log rideId driverId ↔
      Assigned system.log rideId driverId)
    (hmail : ∀ mail ∈ next.inFlight, mail ∈ system.inFlight ∨
      ∀ rideId driverId, ¬ Assigns mail.2 rideId driverId)
    (honce : next.requests.Nodup)
    (hrequests : ∀ rideId ∈ next.requests, rideId ∈ system.requests ∨
      (next.rides.get? rideId).isSome ∧
        ∀ driverId, ¬ Assigned system.log rideId driverId)
    (hknown : ∀ rideId, (system.rides.get? rideId).isSome →
      (next.rides.get? rideId).isSome)
    (hstored : ∀ rideId ride driverId, next.rides.get? rideId = some ride →
      ride.driverId = some driverId → Assigned system.log rideId driverId) :
    Accounted next := by
  constructor
  · exact honce
  · intro rideId hmem
    rcases hrequests rideId hmem with hold | ⟨hsome, -⟩
    · exact hknown rideId (hinv.requestedKnown rideId hold)
    · exact hsome
  · intro rideId hmem driverId
    rw [hassigned]
    rcases hrequests rideId hmem with hold | ⟨-, hopen⟩
    · exact hinv.requestedOpen rideId hold driverId
    · exact hopen driverId
  · intro rideId driverId hwas
    rw [hassigned] at hwas
    exact hknown rideId (hinv.assignedKnown rideId driverId hwas)
  · intro rideId driverId hwas
    rw [hassigned] at hwas
    exact hinv.assignedNamed rideId driverId hwas
  · intro rideId driverId other hwas hother
    rw [hassigned] at hwas hother
    exact hinv.assignedOnce rideId driverId other hwas hother
  · intro mail hmem rideId driverId hassigns
    rw [hassigned]
    rcases hmail mail hmem with hold | hquiet
    · exact hinv.mailed mail hold rideId driverId hassigns
    · exact (hquiet rideId driverId hassigns).elim
  · intro rideId ride driverId hget hdriver
    rw [hassigned]
    exact hstored rideId ride driverId hget hdriver

theorem Accounted.consume {system next : System} (hinv : Accounted system)
    (hmail : next.inFlight.Sublist system.inFlight)
    (hrides : next.rides = system.rides)
    (hlog : ∀ rideId driverId, Assigned next.log rideId driverId ↔
      Assigned system.log rideId driverId) : Accounted next := by
  have hrequests : next.requests.Sublist system.requests :=
    hmail.filterMap requestedRide
  apply hinv.of_quiet hlog
  · exact fun mail hmem => Or.inl (hmail.subset hmem)
  · exact hinv.requestedOnce.sublist hrequests
  · exact fun rideId hmem => Or.inl (hrequests.subset hmem)
  · intro rideId hsome
    rw [hrides]
    exact hsome
  · rw [hrides]
    exact hinv.stored

theorem Accounted.announce {system next : System} (hinv : Accounted system)
    {message : Message}
    (hquiet : ∀ rideId driverId, ¬ Assigns message rideId driverId)
    (hlog : next.log = system.log ++ [message])
    (hmail : next.inFlight = system.inFlight ++ [(.driver, message)])
    (hknown : ∀ rideId, (next.rides.get? rideId).isSome =
      (system.rides.get? rideId).isSome)
    (hstored : ∀ rideId ride driverId, next.rides.get? rideId = some ride →
      ride.driverId = some driverId → Assigned system.log rideId driverId) :
    Accounted next := by
  have hassigned : ∀ rideId driverId, Assigned next.log rideId driverId ↔
      Assigned system.log rideId driverId := by
    intro rideId driverId
    rw [hlog]
    exact assigned_append_quiet (hquiet rideId driverId)
  have hrequests : next.requests = system.requests := by
    unfold System.requests
    rw [hmail]
    simp [requestedRide]
  apply hinv.of_quiet hassigned
  · intro mail hmem
    rw [hmail, List.mem_append, List.mem_singleton] at hmem
    rcases hmem with hold | hnew
    · exact Or.inl hold
    · subst mail
      exact Or.inr hquiet
  · rw [hrequests]
    exact hinv.requestedOnce
  · intro rideId hmem
    rw [hrequests] at hmem
    exact Or.inl hmem
  · intro rideId hsome
    rw [hknown]
    exact hsome
  · exact hstored

/-- A ride without a row is neither assigned nor requested. -/
theorem Accounted.of_unknown {system : System} (hinv : Accounted system)
    {rideId : String} (hnew : system.rides.get? rideId = none) :
    (∀ driverId, ¬ Assigned system.log rideId driverId) ∧
      rideId ∉ system.requests := by
  constructor
  · intro driverId hassigned
    have hknown := hinv.assignedKnown _ _ hassigned
    rw [hnew] at hknown
    cases hknown
  · intro hmem
    have hknown := hinv.requestedKnown rideId hmem
    rw [hnew] at hknown
    cases hknown

theorem Accounted.request {system : System} (hinv : Accounted system)
    {ride : Ride.RideEntity} {rides : Table Ride.RideEntity}
    {request : RideRequested} (hfresh : ride.driverId = none)
    (hid : request.rideId = ride.id)
    (hinsert : system.rides.insert? ride = some rides) :
    Accounted
      { system with
        rides := rides
        log := system.log ++ [.rideRequested request]
        inFlight := system.inFlight ++
          [(.matching, .rideRequested request)] } := by
  have hget := Table.get?_of_insert? hinsert
  have hkey : Indexed.key ride = ride.id := rfl
  rw [hkey] at hget
  have hnew : system.rides.get? ride.id = none := by
    rw [Table.get?_eq_none_iff]
    intro row hrow heq
    apply (Table.rows_of_insert? hinsert).2 row hrow
    apply Indexed.clash_of_key_eq
    rw [heq, hkey]
  obtain ⟨hunassigned, hnotRequested⟩ := hinv.of_unknown hnew
  have hquiet : ∀ rideId driverId,
      ¬ Assigns (.rideRequested request) rideId driverId := by
    simp [Assigns]
  have hrequests : (system.inFlight ++
      [(Service.matching, Message.rideRequested request)]).filterMap
        requestedRide =
        system.requests ++ [ride.id] := by
    rw [List.filterMap_append, System.requests]
    simp [requestedRide, hid]
  apply hinv.of_quiet
  · exact fun rideId driverId =>
      assigned_append_quiet (hquiet rideId driverId)
  · intro mail hmem
    rw [List.mem_append, List.mem_singleton] at hmem
    rcases hmem with hold | heq
    · exact Or.inl hold
    · subst mail
      exact Or.inr hquiet
  · change (List.filterMap requestedRide _).Nodup
    rw [hrequests, ← List.concat_eq_append]
    exact hinv.requestedOnce.concat hnotRequested
  · intro rideId hmem
    change rideId ∈ List.filterMap requestedRide _ at hmem
    rw [hrequests, List.mem_append, List.mem_singleton] at hmem
    rcases hmem with hold | heq
    · exact Or.inl hold
    · subst rideId
      refine Or.inr ⟨?_, hunassigned⟩
      simp [hget]
  · intro rideId hold
    change (rides.get? rideId).isSome
    rw [hget]
    split
    · rfl
    · exact hold
  · intro rideId found driverId hfound hdriver
    change rides.get? rideId = some found at hfound
    rw [hget] at hfound
    split at hfound
    · cases hfound
      rw [hfresh] at hdriver
      cases hdriver
    · exact hinv.stored rideId found driverId hfound hdriver

/-- A ride whose request is handled has not been assigned before. -/
theorem Accounted.assign {system : System} (hinv : Accounted system)
    {mail : List (Service × Message)} {pool : AvailablePool}
    {request : RideRequested} {announced : DriverAssigned}
    (hperm : system.inFlight.Perm
      ((.matching, .rideRequested request) :: mail))
    (hride : announced.rideId = request.rideId)
    (hdriver : announced.driverId ≠ "") :
    Accounted
      { system with
        pool := pool
        log := system.log ++ [.driverAssigned announced]
        inFlight := mail ++
          [(.driver, .driverAssigned announced),
            (.ride, .driverAssigned announced)] } := by
  have hrequests : system.requests.Perm
      (announced.rideId :: mail.filterMap requestedRide) := by
    have hfilter := hperm.filterMap requestedRide
    simpa [System.requests, requestedRide, hride] using hfilter
  have hnodup := hrequests.nodup_iff.mp hinv.requestedOnce
  have hhandled : announced.rideId ∈ system.requests :=
    hrequests.mem_iff.mpr (List.mem_cons_self)
  have hopen := hinv.requestedOpen announced.rideId hhandled
  have hnew : ∀ rideId driverId,
      Assigned (system.log ++ [.driverAssigned announced]) rideId driverId ↔
        Assigned system.log rideId driverId ∨
          (announced.rideId = rideId ∧ announced.driverId = driverId) := by
    intro rideId driverId
    rw [assigned_append_iff]
    simp [Assigned, Assigns]
  have hleft : (mail ++ [(Service.driver, Message.driverAssigned announced),
      (.ride, .driverAssigned announced)]).filterMap requestedRide =
        mail.filterMap requestedRide := by
    rw [List.filterMap_append]
    simp [requestedRide]
  have hsub : ∀ rideId ∈ mail.filterMap requestedRide,
      rideId ∈ system.requests := by
    intro rideId hmem
    exact hrequests.mem_iff.mpr (List.mem_cons_of_mem _ hmem)
  constructor
  · change (List.filterMap requestedRide _).Nodup
    rw [hleft]
    exact (List.nodup_cons.mp hnodup).2
  · intro rideId hmem
    change rideId ∈ List.filterMap requestedRide _ at hmem
    rw [hleft] at hmem
    exact hinv.requestedKnown rideId (hsub rideId hmem)
  · intro rideId hmem driverId hassigned
    change rideId ∈ List.filterMap requestedRide _ at hmem
    rw [hleft] at hmem
    rcases (hnew rideId driverId).mp hassigned with hold | ⟨heq, -⟩
    · exact hinv.requestedOpen rideId (hsub rideId hmem) driverId hold
    · subst rideId
      exact (List.nodup_cons.mp hnodup).1 hmem
  · intro rideId driverId hassigned
    rcases (hnew rideId driverId).mp hassigned with hold | ⟨heq, -⟩
    · exact hinv.assignedKnown rideId driverId hold
    · subst rideId
      exact hinv.requestedKnown announced.rideId hhandled
  · intro rideId driverId hassigned
    rcases (hnew rideId driverId).mp hassigned with hold | ⟨-, heq⟩
    · exact hinv.assignedNamed rideId driverId hold
    · subst driverId
      exact hdriver
  · intro rideId driverId other hassigned hother
    rcases (hnew rideId driverId).mp hassigned with hold | ⟨heq, hname⟩ <;>
      rcases (hnew rideId other).mp hother with hotherOld |
        ⟨hotherEq, hotherName⟩
    · exact hinv.assignedOnce rideId driverId other hold hotherOld
    · subst rideId
      exact (hopen driverId hold).elim
    · subst rideId
      exact (hopen other hotherOld).elim
    · rw [← hname, ← hotherName]
  · intro sent hmem rideId driverId hassigns
    apply (hnew rideId driverId).mpr
    rw [List.mem_append] at hmem
    rcases hmem with hold | hsent
    · left
      apply hinv.mailed sent _ rideId driverId hassigns
      exact hperm.mem_iff.mpr (List.mem_cons_of_mem _ hold)
    · right
      simp only [List.mem_cons, List.not_mem_nil, or_false] at hsent
      rcases hsent with heq | heq <;>
        · subst sent
          exact hassigns
  · intro rideId ride driverId hget hstored
    apply (hnew rideId driverId).mpr
    exact Or.inl (hinv.stored rideId ride driverId hget hstored)

/-! ## Every step -/

theorem get?_statusPatch {rides : Table Ride.RideEntity} {id rideId : String}
    {dto : Ride.UpdateStatusDto} {found : Ride.RideEntity}
    (hget : (rides.update id (Ride.statusPatch dto)).get? rideId =
      some found) :
    ∃ ride, rides.get? rideId = some ride ∧ found.driverId = ride.driverId ∧
      found.status = if rideId = id then dto.status else ride.status := by
  rw [Table.get?_update, Option.map_eq_some_iff] at hget
  obtain ⟨ride, hride, hfound⟩ := hget
  refine ⟨ride, hride, ?_⟩
  subst found
  split
  · exact ⟨rfl, rfl⟩
  · exact ⟨rfl, rfl⟩

theorem get?_matchedPatch {rides : Table Ride.RideEntity} {rideId : String}
    {announced : DriverAssigned} {found : Ride.RideEntity}
    (hget : (rides.update announced.rideId
      (Ride.matchedPatch ⟨announced.rideId, announced.driverId⟩)).get?
        rideId = some found) :
    ∃ ride, rides.get? rideId = some ride ∧
      (rideId = announced.rideId →
        found.driverId = some announced.driverId ∧
          found.status = .matched) ∧
      (rideId ≠ announced.rideId → found = ride) := by
  rw [Table.get?_update, Option.map_eq_some_iff] at hget
  obtain ⟨ride, hride, hfound⟩ := hget
  refine ⟨ride, hride, ?_, ?_⟩
  · intro heq
    rw [if_pos heq] at hfound
    subst found
    exact ⟨rfl, rfl⟩
  · intro hne
    rw [if_neg hne] at hfound
    exact hfound.symm

theorem Accounted.effect {system next : System} {event : Event}
    (hinv : Accounted system) (heffect : Effect system event next) :
    Accounted next := by
  have hsublist := remaining_sublist system event
  have hperm := inFlight_perm system event
  cases heffect with
  | driver hstep =>
      apply hinv.consume
      · rw [hstep.inFlight]
        exact hsublist
      · exact hstep.rides
      · exact hstep.assigned_iff
  | nothing hconsumed =>
      exact hinv.consume hsublist rfl (fun _ _ => Iff.rfl)
  | discarded hmember hconsumed =>
      exact hinv.consume hsublist rfl (fun _ _ => Iff.rfl)
  | requested ride rides request hevent hmail hfresh hid hinsert =>
      exact hinv.request hfresh hid hinsert
  | updated now id dto ride hevent hget =>
      apply hinv.announce (updateMessage_not_assigns now id ride dto) rfl rfl
      · intro rideId
        simp [Table.get?_update]
      · intro rideId found driverId hfound hdriver
        obtain ⟨old, hold, hsame, -⟩ := get?_statusPatch hfound
        rw [hsame] at hdriver
        exact hinv.stored rideId old driverId hold hdriver
  | assigned request announced hmessage hride hdriver hmember =>
      rw [hmessage] at hperm
      exact hinv.assign hperm hride hdriver
  | matched now announced ride hmessage hget =>
      have hsent : (.ride, .driverAssigned announced) ∈ system.inFlight :=
        (mem_inFlight_iff event).mpr (Or.inl hmessage)
      have hassigned := hinv.mailed _ hsent announced.rideId
        announced.driverId ⟨rfl, rfl⟩
      have hconsumed : Accounted
          { system with inFlight := remaining system event } :=
        hinv.consume hsublist rfl (fun _ _ => Iff.rfl)
      apply hconsumed.announce _ rfl rfl
      · intro rideId
        simp [Table.get?_update]
      · intro rideId found driverId hfound hdriver
        obtain ⟨old, hold, hhere, helsewhere⟩ := get?_matchedPatch hfound
        by_cases heq : rideId = announced.rideId
        · obtain ⟨hnamed, -⟩ := hhere heq
          rw [hnamed] at hdriver
          cases hdriver
          subst rideId
          exact hassigned
        · rw [helsewhere heq] at hdriver
          exact hinv.stored rideId old driverId hold hdriver
      · simp [Assigns]

theorem Accounted.initial : Accounted System.initial := by
  constructor <;>
    simp [System.initial, System.requests, Assigned]

end FakeBolt.Dispatch
