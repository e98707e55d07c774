import FakeBolt.DispatchSpellings

/-!
# One live assignment at a time

An assignment is live from its `driver.assigned` until the ride is completed
or cancelled.  A driver has at most one as long as nothing puts a driver with
a live assignment back into the pool, and no driver into it twice; the row
protects them from the first only once driver-service has consumed
`driver.assigned`.
-/

namespace FakeBolt.Dispatch

open Await Geo Kafka Store Transition

/-- The driver was assigned to the ride and the ride has not ended since. -/
def Alive (log : List Message) (rideId driverId : String) : Prop :=
  ∃ before message after, log = before ++ message :: after ∧
    Assigns message rideId driverId ∧ ∀ later ∈ after, ¬ Ends later rideId

def DoublyAssigned (system : System) : Prop :=
  ∃ driverId rideId other, rideId ≠ other ∧
    Alive system.log rideId driverId ∧ Alive system.log other driverId

/-- No driver enters the pool with a live assignment. -/
def KeepsAssignedOut (system : System) (event : Event) : Prop :=
  ∀ driverId action, driverAction system event = some (driverId, action) →
    (system.driverState driverId).Enters action →
      ∀ rideId, ¬ Alive system.log rideId driverId

/-! ## Checking a log -/

theorem alive_cons_iff {message : Message} {log : List Message}
    {rideId driverId : String} :
    Alive (message :: log) rideId driverId ↔
      (Assigns message rideId driverId ∧ ∀ later ∈ log, ¬ Ends later rideId) ∨
        Alive log rideId driverId := by
  constructor
  · rintro ⟨before, found, after, hlog, hassigns, hopen⟩
    cases before with
    | nil =>
        rw [List.nil_append, List.cons.injEq] at hlog
        obtain ⟨hfound, hafter⟩ := hlog
        subst found after
        exact Or.inl ⟨hassigns, hopen⟩
    | cons first before =>
        rw [List.cons_append, List.cons.injEq] at hlog
        exact Or.inr ⟨before, found, after, hlog.2, hassigns, hopen⟩
  · rintro (⟨hassigns, hopen⟩ | ⟨before, found, after, hlog, hfound⟩)
    · exact ⟨[], message, log, rfl, hassigns, hopen⟩
    · exact ⟨message :: before, found, after, by rw [hlog]; rfl, hfound⟩

theorem not_alive_nil (rideId driverId : String) :
    ¬ Alive [] rideId driverId := by
  rintro ⟨before, message, after, hlog, -⟩
  simp at hlog

instance decidableAlive (rideId driverId : String) :
    ∀ log, Decidable (Alive log rideId driverId)
  | [] => isFalse (not_alive_nil rideId driverId)
  | _ :: log =>
      have := decidableAlive rideId driverId log
      decidable_of_iff _ alive_cons_iff.symm

def AssignsAlive (log : List Message) (driverId : String) : Message → Prop
  | .driverAssigned event => Alive log event.rideId driverId
  | _ => False

instance (log : List Message) (driverId : String) :
    DecidablePred (AssignsAlive log driverId) := fun message =>
  match message with
  | .driverAssigned event => decidableAlive event.rideId driverId log
  | .rideRequested _ => isFalse id
  | .rideStatusUpdated _ => isFalse id
  | .rideCompleted _ => isFalse id
  | .userPhotoUpdated _ => isFalse id
  | .driverStatusUpdated _ => isFalse id
  | .driverLocationUpdated _ => isFalse id

theorem exists_alive_iff {log : List Message} {driverId : String} :
    (∃ rideId, Alive log rideId driverId) ↔
      ∃ message ∈ log, AssignsAlive log driverId message := by
  constructor
  · rintro ⟨rideId, halive⟩
    obtain ⟨before, message, after, hlog, hassigns, hopen⟩ := halive
    refine ⟨message, by simp [hlog], ?_⟩
    cases message with
    | driverAssigned event =>
        obtain ⟨hride, hdriver⟩ := hassigns
        subst rideId
        exact ⟨before, _, after, hlog, ⟨rfl, hdriver⟩, hopen⟩
    | _ => exact hassigns.elim
  · rintro ⟨message, -, halive⟩
    cases message with
    | driverAssigned event => exact ⟨event.rideId, halive⟩
    | _ => exact halive.elim

instance (log : List Message) (driverId : String) :
    Decidable (∃ rideId, Alive log rideId driverId) :=
  have := List.decidableBEx (AssignsAlive log driverId) log
  decidable_of_iff _ exists_alive_iff.symm

theorem keepsAssignedOut_iff {system : System} {event : Event} :
    KeepsAssignedOut system event ↔
      match driverAction system event with
      | none => True
      | some (driverId, action) =>
          (system.driverState driverId).Enters action →
            ¬ ∃ rideId, Alive system.log rideId driverId := by
  unfold KeepsAssignedOut
  cases driverAction system event with
  | none => simp
  | some target => simp [Prod.ext_iff]

instance (system : System) (event : Event) :
    Decidable (KeepsAssignedOut system event) :=
  have : Decidable (match driverAction system event with
      | none => True
      | some (driverId, action) =>
          (system.driverState driverId).Enters action →
            ¬ ∃ rideId, Alive system.log rideId driverId) := by
    split <;> infer_instance
  decidable_of_iff _ keepsAssignedOut_iff.symm

/-! ## The log grows -/

theorem Alive.of_append {log more : List Message} {rideId driverId : String}
    (halive : Alive (log ++ more) rideId driverId) :
    Alive log rideId driverId ∨
      ∃ message ∈ more, Assigns message rideId driverId := by
  obtain ⟨before, message, after, hlog, hassigns, hopen⟩ := halive
  rcases List.append_eq_append_iff.mp hlog with
    ⟨gap, hbefore, hmore⟩ | ⟨gap, hsplit, hafter⟩
  · right
    refine ⟨message, ?_, hassigns⟩
    rw [hmore]
    simp
  · cases gap with
    | nil =>
        right
        refine ⟨message, ?_, hassigns⟩
        rw [List.nil_append] at hafter
        rw [← hafter]
        simp
    | cons first gap =>
        left
        rw [List.cons_append, List.cons.injEq] at hafter
        obtain ⟨hfirst, hafter⟩ := hafter
        subst first
        refine ⟨before, message, gap, hsplit, hassigns, ?_⟩
        intro later hlater
        apply hopen later
        rw [hafter]
        exact List.mem_append_left _ hlater

theorem Alive.of_append_quiet {log : List Message} {message : Message}
    {rideId driverId : String}
    (halive : Alive (log ++ [message]) rideId driverId)
    (hquiet : ¬ Assigns message rideId driverId) :
    Alive log rideId driverId := by
  rcases halive.of_append with hold | ⟨other, hother, hassigns⟩
  · exact hold
  · rw [List.mem_singleton] at hother
    subst other
    exact (hquiet hassigns).elim

/-! ## The invariant -/

/-- Drivers with a live assignment are not in the pool, and have only one. -/
structure AssignedOnce (system : System) : Prop where
  out : ∀ rideId driverId, Alive system.log rideId driverId →
    system.pool.lookup driverId = none
  one : ∀ driverId rideId other, Alive system.log rideId driverId →
    Alive system.log other driverId → rideId = other

theorem AssignedOnce.mono {system next : System}
    (hinv : AssignedOnce system)
    (hlog : ∀ rideId driverId, Alive next.log rideId driverId →
      Alive system.log rideId driverId)
    (hpool : ∀ rideId driverId, Alive next.log rideId driverId →
      system.pool.lookup driverId = none → next.pool.lookup driverId = none) :
    AssignedOnce next := by
  constructor
  · intro rideId driverId halive
    have hout := hinv.out rideId driverId (hlog _ _ halive)
    exact hpool rideId driverId halive hout
  · intro driverId rideId other halive hother
    exact hinv.one driverId rideId other (hlog _ _ halive) (hlog _ _ hother)

theorem lookup_zrem_none {pool : AvailablePool} {driverId : String}
    (hnone : pool.lookup driverId = none) (member : String) :
    (pool.zrem member).lookup driverId = none := by
  by_cases heq : driverId = member
  · subst driverId
    simp
  · rwa [AvailablePool.lookup_zrem_of_ne heq]

theorem Alive.of_driverStep {system next : System} {event : Event}
    (hstep : DriverStep system event next) {rideId driverId : String}
    (halive : Alive next.log rideId driverId) :
    Alive system.log rideId driverId := by
  obtain ⟨records, hevents, hlog⟩ := hstep.log
  rw [hlog] at halive
  rcases halive.of_append with hbefore | ⟨message, hmessage, hassigns⟩
  · exact hbefore
  · obtain ⟨record, hrecord, heq⟩ := List.mem_map.mp hmessage
    subst heq
    have hquiet := driverEvent_not_assigns (hevents record hrecord)
      rideId driverId
    exact (hquiet hassigns).elim

theorem DriverStep.pooled {system next : System} {event : Event}
    (hstep : DriverStep system event next) {driverId : String}
    (hpooled : (next.pool.lookup driverId).isSome) :
    (system.pool.lookup driverId).isSome ∨
      ∃ action, driverAction system event = some (driverId, action) ∧
        (system.driverState driverId).Enters action := by
  have hentry : (next.driverState driverId).entry.isSome := hpooled
  rw [hstep.state] at hentry
  cases haction : driverAction system event with
  | none =>
      rw [haction] at hentry
      exact Or.inl hentry
  | some target =>
      obtain ⟨changed, action⟩ := target
      simp only [haction, Driver.actOn] at hentry
      split at hentry
      · rename_i heq
        subst changed
        rcases Driver.DriverState.entry_of_apply hentry with hwas | henters
        · exact Or.inl hwas
        · exact Or.inr ⟨action, rfl, henters⟩
      · exact Or.inl hentry

theorem AssignedOnce.driverStep {system next : System} {event : Event}
    (hinv : AssignedOnce system) (hguard : KeepsAssignedOut system event)
    (hstep : DriverStep system event next) : AssignedOnce next := by
  apply hinv.mono
  · intro rideId driverId halive
    exact halive.of_driverStep hstep
  · intro rideId driverId halive hout
    by_contra hpooled
    have hsome := Option.isSome_iff_ne_none.mpr hpooled
    rcases hstep.pooled hsome with hwas | ⟨action, haction, henters⟩
    · rw [hout] at hwas
      cases hwas
    · exact hguard driverId action haction henters rideId
        (halive.of_driverStep hstep)

/-- A driver taken from the pool has no live assignment. -/
theorem AssignedOnce.assigned {system next : System} (hinv : AssignedOnce system)
    {announced : DriverAssigned}
    (hmember : (system.pool.lookup announced.driverId).isSome)
    (hpool : next.pool = system.pool.zrem announced.driverId)
    (hlog : next.log = system.log ++ [.driverAssigned announced]) :
    AssignedOnce next := by
  have hfree : ∀ rideId, ¬ Alive system.log rideId announced.driverId := by
    intro rideId halive
    have hout := hinv.out rideId _ halive
    rw [hout] at hmember
    cases hmember
  have hlive : ∀ rideId driverId, Alive next.log rideId driverId →
      Alive system.log rideId driverId ∨
        (announced.rideId = rideId ∧ announced.driverId = driverId) := by
    intro rideId driverId halive
    rw [hlog] at halive
    rcases halive.of_append with hold | ⟨message, hmem, hassigns⟩
    · exact Or.inl hold
    · rw [List.mem_singleton] at hmem
      subst message
      exact Or.inr hassigns
  constructor
  · intro rideId driverId halive
    rw [hpool]
    rcases hlive rideId driverId halive with hold | ⟨-, hnew⟩
    · exact lookup_zrem_none (hinv.out rideId driverId hold) _
    · subst driverId
      exact AvailablePool.lookup_zrem_self
  · intro driverId rideId other halive hother
    rcases hlive rideId driverId halive with hold | ⟨hride, hnew⟩ <;>
      rcases hlive other driverId hother with hotherOld |
        ⟨hotherRide, hotherNew⟩
    · exact hinv.one driverId rideId other hold hotherOld
    · subst driverId
      exact (hfree rideId hold).elim
    · subst driverId
      exact (hfree other hotherOld).elim
    · rw [← hride, ← hotherRide]

theorem AssignedOnce.effect {system next : System} {event : Event}
    (hinv : AssignedOnce system) (hguard : KeepsAssignedOut system event)
    (heffect : Effect system event next) : AssignedOnce next := by
  cases heffect with
  | driver hstep => exact hinv.driverStep hguard hstep
  | nothing hconsumed => exact ⟨hinv.out, hinv.one⟩
  | requested ride rides request hevent hmail hfresh hid hinsert =>
      apply hinv.mono
      · intro rideId driverId halive
        exact halive.of_append_quiet (by simp [Assigns])
      · intro rideId driverId halive hout
        exact hout
  | updated now id dto ride hevent hget =>
      apply hinv.mono
      · intro rideId driverId halive
        exact halive.of_append_quiet
          (updateMessage_not_assigns now id ride dto rideId driverId)
      · intro rideId driverId halive hout
        exact hout
  | discarded hmember hconsumed =>
      apply hinv.mono
      · intro rideId driverId halive
        exact halive
      · intro rideId driverId halive hout
        exact lookup_zrem_none hout _
  | matched now announced ride hmessage hget =>
      apply hinv.mono
      · intro rideId driverId halive
        exact halive.of_append_quiet (by simp [Assigns])
      · intro rideId driverId halive hout
        exact hout
  | assigned request announced hmessage hride hdriver hmember =>
      exact hinv.assigned hmember rfl rfl

theorem AssignedOnce.initial : AssignedOnce System.initial := by
  constructor
  · intro rideId driverId halive
    exact (not_alive_nil rideId driverId halive).elim
  · intro driverId rideId other halive
    exact (not_alive_nil rideId driverId halive).elim

/-- If the requests that write the pool name drivers as their rows do, and no
driver enters the pool with a live assignment, no driver ever has two. -/
theorem never_doubly_assigned (uuid : UuidType) (deployment : Deployment)
    {events before : List Event} {last : System}
    (hnames : RunMeets (System.stepUuid uuid deployment)
      (fun system event => event.NamesRow uuid system) System.initial events)
    (hout : RunMeets (System.stepUuid uuid deployment)
      (fun system event =>
        KeepsAssignedOut (system.printed uuid) (event.printed uuid))
      System.initial events)
    (hsegment : before <+: events)
    (hrun : run (System.stepUuid uuid deployment) System.initial before =
      some last) :
    ¬ DoublyAssigned (last.printed uuid) := by
  have hstep : ∀ system event next,
      (Sound uuid system ∧ AssignedOnce (system.printed uuid)) →
      (event.NamesRow uuid system ∧
        KeepsAssignedOut (system.printed uuid) (event.printed uuid)) →
      system.stepUuid uuid deployment event = some next →
        Sound uuid next ∧ AssignedOnce (next.printed uuid) := by
    intro system event next hinv hguard hnext
    obtain ⟨heffect, hsound⟩ := stepUuid_effect hinv.1 hguard.1 hnext
    exact ⟨hsound, hinv.2.effect hguard.2 heffect⟩
  have hmeets := RunMeets.of_prefix hsegment (hnames.and hout)
  have hinv := invariant_of_guarded hstep
    ⟨Sound.initial, AssignedOnce.initial⟩ hmeets hrun
  rintro ⟨driverId, rideId, other, hne, halive, hother⟩
  exact hne (hinv.2.one driverId rideId other halive hother)

/-! ## Two rides at one place -/

def firstRide : String := "4f9d1c02-77aa-4e5b-9c1d-0a1b2c3d4e5f"

def secondRide : String := "5a8e2d13-88bb-4f6c-8d2e-1b2c3d4e5f60"

/-- A rider asks for a ride where the driver is. -/
def asksFor (rideId : String) : Event :=
  .requestRide rideId 0 0
    { riderId := "8b0c6f1e-2d3a-4b5c-8d7e-aabbccddeeff"
      pickupLat := 0, pickupLng := 0
      destinationLat := 1, destinationLng := 1 }

/-- The ride is over before the next is asked for, and its end is told in
capitals. -/
def oneAfterTheOther : List Event :=
  goesOnline Driver.lowerId ++
    [asksFor firstRide, deliverAt 0, deliverAt 0, deliverAt 0, deliverAt 0,
      .updateRideStatus 0 "4F9D1C02-77AA-4E5B-9C1D-0A1B2C3D4E5F"
        ⟨.completed, none⟩,
      deliverAt 0, asksFor secondRide, deliverAt 0]

theorem second_ride_after_first :
    ∃ last, run (System.stepUuid hyphenated flatDeployment) System.initial
        oneAfterTheOther = some last ∧
      Alive (last.printed hyphenated).log secondRide Driver.lowerId ∧
      ¬ DoublyAssigned (last.printed hyphenated) := by
  have hnames : RunMeets (System.stepUuid hyphenated flatDeployment)
      (fun system event => event.NamesRow hyphenated system) System.initial
      oneAfterTheOther := by
    decide +kernel
  have hout : RunMeets (System.stepUuid hyphenated flatDeployment)
      (fun system event => KeepsAssignedOut (system.printed hyphenated)
        (event.printed hyphenated)) System.initial oneAfterTheOther := by
    decide +kernel
  have hcheck : (run (System.stepUuid hyphenated flatDeployment) System.initial
      oneAfterTheOther).any (fun last => decide
        (Alive (last.printed hyphenated).log secondRide Driver.lowerId)) =
          true := by
    decide +kernel
  obtain ⟨last, hrun, halive⟩ := exists_of_run_any hcheck
  exact ⟨last, hrun, of_decide_eq_true halive,
    never_doubly_assigned hyphenated flatDeployment hnames hout
      (List.prefix_refl _) hrun⟩

/-- A position report between the claim and the delivery of `driver.assigned`
puts the driver back into the pool. -/
theorem claimed_driver_reports_position :
    ∃ last, run (System.stepUuid hyphenated flatDeployment) System.initial
        (goesOnline Driver.lowerId ++
          [asksFor firstRide, deliverAt 0,
            .updateDriverLocation 0 Driver.lowerId ⟨0, 0⟩,
            asksFor secondRide, deliverAt 2]) = some last ∧
      DoublyAssigned (last.printed hyphenated) := by
  have hcheck : (run (System.stepUuid hyphenated flatDeployment) System.initial
      (goesOnline Driver.lowerId ++
        [asksFor firstRide, deliverAt 0,
          .updateDriverLocation 0 Driver.lowerId ⟨0, 0⟩,
          asksFor secondRide, deliverAt 2])).any (fun last => decide
        (Alive (last.printed hyphenated).log firstRide Driver.lowerId ∧
          Alive (last.printed hyphenated).log secondRide Driver.lowerId)) =
            true := by
    decide +kernel
  obtain ⟨last, hrun, hlast⟩ := exists_of_run_any hcheck
  rw [decide_eq_true_eq] at hlast
  exact ⟨last, hrun, Driver.lowerId, firstRide, secondRide, by decide, hlast.1,
    hlast.2⟩

-- going online under two spellings of one id, before any ride, does too
example : (run (System.stepUuid hyphenated flatDeployment) System.initial
    (goesOnline Driver.lowerId ++
      [.updateDriverStatus 0 Driver.capitalId ⟨.available⟩,
        asksFor firstRide, asksFor secondRide, deliverAt 0,
        deliverAt 0])).any (fun last => decide
      (Alive (last.printed hyphenated).log firstRide Driver.lowerId ∧
        Alive (last.printed hyphenated).log secondRide Driver.lowerId)) =
          true := by
  decide +kernel

end FakeBolt.Dispatch
