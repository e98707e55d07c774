import FakeBolt.RemainingWork
import FakeBolt.RideOutcomes

/-!
# Every ride is settled

A request leads to four deliveries at most and a status update to one, and a
message that waits can always be delivered.  So whatever order the messages are
delivered in, nothing waits any more after that many deliveries, and every ride
has the driver that the claim for it found.
-/

namespace FakeBolt.Dispatch

open Await Geo Kafka Store Transition

/-! ## Deliveries to come -/

/-- The deliveries that a message leads to, its own among them. -/
def mailWork : Service × Message → ℕ
  | (.matching, .rideRequested _) => 4
  | (.ride, .driverAssigned _) => 2
  | _ => 1

def System.remainingWork (system : System) : ℕ :=
  (system.inFlight.map mailWork).sum

def brings : Event → ℕ
  | .requestRide _ _ _ _ => 4
  | .updateRideStatus _ _ _ => 1
  | _ => 0

def isDelivery : Event → Bool
  | .deliver _ _ _ => true
  | _ => false

theorem one_le_mailWork (mail : Service × Message) : 1 ≤ mailWork mail := by
  unfold mailWork
  split <;> decide

theorem length_le_sum (mails : List (Service × Message)) :
    mails.length ≤ (mails.map mailWork).sum := by
  induction mails with
  | nil => exact Nat.le_refl 0
  | cons mail mails ih =>
      have hone := one_le_mailWork mail
      rw [List.map_cons, List.sum_cons, List.length_cons]
      omega

theorem inFlight_eq_nil {system : System} (hdone : system.remainingWork = 0) :
    system.inFlight = [] := by
  have hlength := length_le_sum system.inFlight
  rw [← List.length_eq_zero_iff]
  unfold System.remainingWork at hdone
  omega

theorem remainingWork_taken (system : System) (event : Event) :
    system.remainingWork =
      ((taken system event).toList.map mailWork).sum +
        ((remaining system event).map mailWork).sum := by
  have hsum := ((inFlight_perm system event).map mailWork).sum_eq
  rw [List.map_append, List.sum_append] at hsum
  exact hsum

variable {deployment : Deployment} {system next : System} {event : Event}

theorem mailWork_updateMessage (now : Instant) (id : String)
    (ride : Ride.RideEntity) (dto : Ride.UpdateStatusDto) :
    mailWork (.driver, Ride.updateMessage now id ride dto) = 1 := by
  unfold Ride.updateMessage
  split <;> rfl

theorem remainingWork_effect {mail : Service × Message}
    (heffect : Effect system event next) (htaken : taken system event = some mail) :
    next.remainingWork + 1 ≤ system.remainingWork := by
  have hwork := remainingWork_taken system event
  have hone := one_le_mailWork mail
  rw [htaken] at hwork
  simp only [Option.toList_some, List.map_cons, List.map_nil, List.sum_cons,
    List.sum_nil, Nat.add_zero] at hwork
  cases heffect with
  | driver hstep =>
      unfold System.remainingWork at hwork ⊢
      rw [hstep.inFlight]
      omega
  | nothing hconsumed =>
      unfold System.remainingWork at hwork ⊢
      simp only
      omega
  | requested ride rides request hevent hmail hfresh hid hinsert =>
      rw [hevent] at htaken
      cases htaken
  | updated now id dto ride hevent hget =>
      rw [hevent] at htaken
      cases htaken
  | discarded hmember hconsumed =>
      unfold System.remainingWork at hwork ⊢
      simp only
      omega
  | assigned request announced hmessage hride hdriver hmember =>
      rw [htaken, Option.some.injEq] at hmessage
      rw [hmessage] at hwork
      unfold System.remainingWork at hwork ⊢
      simp only [List.map_append, List.sum_append, List.map_cons, List.map_nil,
        List.sum_cons, List.sum_nil, mailWork] at hwork ⊢
      omega
  | matched now announced ride hmessage hget =>
      rw [htaken, Option.some.injEq] at hmessage
      rw [hmessage] at hwork
      unfold System.remainingWork at hwork ⊢
      simp only [List.map_append, List.sum_append, List.map_cons, List.map_nil,
        List.sum_cons, List.sum_nil, mailWork] at hwork ⊢
      omega

theorem remainingWork_request {request : Driver.Request}
    (hrequest : driverRequest system event = some request)
    (hevent : taken system event = none)
    (hstep : system.step deployment event = some next) :
    next.remainingWork = system.remainingWork := by
  have hwork := remainingWork_taken system event
  rw [hevent] at hwork
  rw [step_driverRequest deployment hrequest] at hstep
  cases hstep
  unfold System.remainingWork at hwork ⊢
  rw [(driverStep_serveDriver hrequest).inFlight, hwork]
  simp

theorem remainingWork_step
    (hstep : system.step deployment event = some next) :
    next.remainingWork + (if isDelivery event then 1 else 0) ≤
      system.remainingWork + brings event := by
  cases event with
  | createDriver newId dto => exact (remainingWork_request rfl rfl hstep).le
  | updateDriverStatus now id dto => exact (remainingWork_request rfl rfl hstep).le
  | updateDriverLocation now id dto => exact (remainingWork_request rfl rfl hstep).le
  | photoUpdated now photo => exact (remainingWork_request rfl rfl hstep).le
  | requestRide newId createdAt now dto =>
      rcases step_requestRide hstep with heq | ⟨rides, -, heq⟩
      · rw [heq]
        exact Nat.le_add_right _ _
      · rw [heq]
        simp [System.remainingWork, brings, isDelivery, mailWork]
  | updateRideStatus now id dto =>
      rcases step_updateRideStatus hstep with heq | ⟨ride, -, heq⟩
      · rw [heq]
        exact Nat.le_add_right _ _
      · rw [heq]
        simp [System.remainingWork, brings, isDelivery, mailWork_updateMessage]
  | deliver position now hint =>
      cases hmail : system.inFlight[position]? with
      | none => simp [System.step, hmail] at hstep
      | some mail => exact remainingWork_effect (step_effect hstep) hmail

/-! ## A message that waits can be delivered -/

def Readable : Service × Message → Prop
  | (.driver, message) => ∀ now, (decodeForDriver now message).isSome
  | (.matching, message) => ∃ request, message = .rideRequested request
  | (.ride, message) => ∃ announced, message = .driverAssigned announced

structure Deliverable (system : System) : Prop where
  accounted : Accounted system
  readable : ∀ mail ∈ system.inFlight, Readable mail

theorem readable_updateMessage (now : Instant) (id : String)
    (ride : Ride.RideEntity) (dto : Ride.UpdateStatusDto) :
    Readable (.driver, Ride.updateMessage now id ride dto) := by
  intro later
  unfold Ride.updateMessage
  split <;> rfl

theorem Deliverable.step (hdeliverable : Deliverable system)
    (hstep : system.step deployment event = some next) : Deliverable next := by
  have heffect := step_effect hstep
  refine ⟨hdeliverable.accounted.effect heffect, ?_⟩
  have hremaining : ∀ mail ∈ remaining system event, Readable mail :=
    fun mail hmem => hdeliverable.readable mail (mem_of_mem_remaining hmem)
  have hsent : ∀ {more}, (∀ mail ∈ more, Readable mail) →
      ∀ mail ∈ remaining system event ++ more, Readable mail := by
    intro more hmore mail hmem
    rcases List.mem_append.mp hmem with hold | hnew
    · exact hremaining mail hold
    · exact hmore mail hnew
  cases heffect with
  | driver hdriver =>
      rw [hdriver.inFlight]
      exact hremaining
  | nothing hconsumed => exact hremaining
  | requested ride rides request hevent hmail hfresh hid hinsert =>
      simp only
      rw [← hmail]
      apply hsent
      simp [Readable]
  | updated now id dto ride hevent hget =>
      subst hevent
      apply hsent
      simpa using readable_updateMessage now id ride dto
  | discarded hmember hconsumed => exact hremaining
  | assigned request announced hmessage hride hdriver hmember =>
      apply hsent
      simp [Readable, decodeForDriver]
  | matched now announced ride hmessage hget =>
      apply hsent
      simp [Readable, decodeForDriver]

theorem Deliverable.initial : Deliverable System.initial :=
  ⟨.initial, fun _ hmem => absurd hmem List.not_mem_nil⟩

theorem Deliverable.deliver (hdeliverable : Deliverable system) {position : ℕ}
    (hposition : position < system.inFlight.length) (now : Instant)
    (hint : Option String) :
    (system.step deployment (.deliver position now hint)).isSome := by
  obtain ⟨⟨service, message⟩, hget⟩ :
      ∃ mail, system.inFlight[position]? = some mail :=
    ⟨_, List.getElem?_eq_getElem hposition⟩
  have hmem := List.mem_of_getElem? hget
  have hreadable := hdeliverable.readable _ hmem
  simp only [System.step, hget]
  cases service with
  | driver =>
      rw [handle, Option.isSome_map]
      exact hreadable now
  | matching =>
      obtain ⟨request, hmessage⟩ := hreadable
      subst hmessage
      simp only [handle, Matching.MatchingService.eachMessage, exec_eachMessage,
        Matching.MatchingService.onMessage, Matching.exec_handleRideRequested]
      split <;> rfl
  | ride =>
      obtain ⟨announced, hmessage⟩ := hreadable
      subst hmessage
      have hassigned := hdeliverable.accounted.mailed _ hmem announced.rideId
        announced.driverId ⟨rfl, rfl⟩
      obtain ⟨ride, hride⟩ := Option.isSome_iff_exists.mp
        (hdeliverable.accounted.assignedKnown _ _ hassigned)
      simp only [handle, Ride.RideService.eachMessage, exec_eachMessage,
        Ride.exec_handleDriverAssigned, System.rideWorld, hride]
      rfl

theorem working (deployment : Deployment) :
    Working (System.step deployment) Deliverable System.remainingWork brings
      isDelivery where
  keeps _ _ _ hdeliverable hstep := hdeliverable.step hstep
  pays _ _ _ _ hstep := remainingWork_step hstep

/-! ## All messages are delivered -/

theorem ride_known_step {id : String}
    (hstep : system.step deployment event = some next)
    (hknown : (system.rides.get? id).isSome) :
    (next.rides.get? id).isSome := by
  have heffect := step_effect hstep
  cases heffect with
  | driver hdriver =>
      rw [hdriver.rides]
      exact hknown
  | nothing hconsumed => exact hknown
  | requested ride rides request hevent hmail hfresh hid hinsert =>
      simp only
      rw [Table.get?_of_insert? hinsert]
      split
      · rfl
      · exact hknown
  | updated now rideId dto ride hevent hget =>
      simpa [Table.get?_update] using hknown
  | discarded hmember hconsumed => exact hknown
  | assigned request announced hmessage hride hdriver hmember => exact hknown
  | matched now announced ride hmessage hget =>
      simpa [Table.get?_update] using hknown

theorem ride_known_run {id : String} {events : List Event} {last : System}
    (hrun : run (System.step deployment) system events = some last)
    (hknown : (system.rides.get? id).isSome) :
    (last.rides.get? id).isSome := by
  have hstep : ∀ state event next, (state.rides.get? id).isSome →
      System.step deployment state event = some next →
        (next.rides.get? id).isSome :=
    fun _ _ _ hinv hstep => ride_known_step hstep hinv
  exact invariant_of_step hstep hknown hrun

structure Choice where
  position : ℕ
  now : Instant
  hint : Option String

/-- The delivery of one of the messages that wait, whichever. -/
def nextDelivery (choice : Choice) (system : System) : Event :=
  .deliver (choice.position % system.inFlight.length) choice.now choice.hint

/-- After any run, as many deliveries as its requests and updates can still
lead to, of whatever messages, leave none waiting, and every ride then has the
driver that the claim for it found. -/
theorem rides_settle_in_any_order (deployment : Deployment)
    {events : List Event} {system : System}
    (hrun : run (System.step deployment) System.initial events = some system)
    {choices : List Choice}
    (hlong : (events.map brings).sum ≤
      events.countP isDelivery + choices.length) :
    ∃ deliveries last,
      last = follow (System.step deployment) nextDelivery system choices ∧
      (∀ delivery ∈ deliveries, isDelivery delivery = true) ∧
      run (System.step deployment) System.initial (events ++ deliveries) =
        some last ∧
      last.inFlight = [] ∧
      ∀ id, (system.rides.get? id).isSome → ∃ ride,
        last.rides.get? id = some ride ∧
          ClaimFound deployment (events ++ deliveries) ride ride.driverId := by
  have hbound := (working deployment).run .initial hrun
  have hinitial : System.initial.remainingWork = 0 := rfl
  rw [hinitial, Nat.zero_add] at hbound
  have hdeliverable : Deliverable system :=
    invariant_of_step (fun _ _ _ hinv hstep => hinv.step hstep) .initial hrun
  have hready : ∀ (choice : Choice) (state : System), Deliverable state →
      state.remainingWork ≠ 0 →
        (state.step deployment (nextDelivery choice state)).isSome := by
    intro choice state hstate hleft
    apply hstate.deliver
    apply Nat.mod_lt
    rw [List.length_pos_iff]
    intro hnone
    apply hleft
    rw [System.remainingWork, hnone]
    rfl
  have hleft : system.remainingWork ≤ choices.length := by omega
  obtain ⟨hdone, deliveries, hdeliveries, hmore⟩ :=
    (working deployment).done_of_follow (fun _ _ => ⟨rfl, rfl⟩) hready
      hdeliverable hleft
  have hall : run (System.step deployment) System.initial
      (events ++ deliveries) =
        some (follow (System.step deployment) nextDelivery system choices) := by
    rw [run_append, hrun]
    exact hmore
  refine ⟨deliveries, _, rfl, hdeliveries, hall, inFlight_eq_nil hdone, ?_⟩
  intro id hknown
  obtain ⟨ride, hride⟩ :=
    Option.isSome_iff_exists.mp (ride_known_run hmore hknown)
  exact ⟨ride, hride, ((settling_of_run hall).settled (inFlight_eq_nil hdone)
    hride).1⟩

/-- A driver goes online, and a ride is requested while nothing has been
delivered yet. -/
def rideWaits : List Event := goesOnline "d" ++ [requestsRide "r"]

def lastFirst : List Choice := List.replicate 4 ⟨1, 0, none⟩

theorem waiting_ride_settles :
    ∃ system deliveries last ride,
      run (System.step flatDeployment) System.initial rideWaits =
        some system ∧
      last = follow (System.step flatDeployment) nextDelivery system
        lastFirst ∧
      (∀ delivery ∈ deliveries, isDelivery delivery = true) ∧
      last.inFlight = [] ∧ last.rides.get? "r" = some ride ∧
      ClaimFound flatDeployment (rideWaits ++ deliveries) ride
        ride.driverId := by
  have hcheck : (run (System.step flatDeployment) System.initial rideWaits).any
      (fun system => (system.rides.get? "r").isSome) = true := by
    decide +kernel
  obtain ⟨system, hrun, hknown⟩ := exists_of_run_any hcheck
  obtain ⟨deliveries, last, hlast, hdeliveries, -, hquiet, hsettled⟩ :=
    rides_settle_in_any_order flatDeployment hrun
      (show (rideWaits.map brings).sum ≤
        rideWaits.countP isDelivery + lastFirst.length by decide)
  obtain ⟨ride, hride, hfound⟩ := hsettled "r" hknown
  exact ⟨system, deliveries, last, ride, hrun, hlast, hdeliveries, hquiet,
    hride, hfound⟩

end FakeBolt.Dispatch
