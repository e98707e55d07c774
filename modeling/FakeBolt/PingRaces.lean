import FakeBolt.PingViews

/-!
# A ping and a status change

The result of a location update interleaved with a status change is that of a
serial order exactly if the last write of Redis is one that knows the other's
write.
-/

namespace FakeBolt.Driver

open Await Interleaving Kafka Store Transition

variable {d : String} {lat lng : Num} {action : DriverAction}

/-! ## Runs -/

/-- A ping (`false`) and a status change (`true`). -/
def pingAnd (ping other : Request) : Bool → Request
  | false => ping
  | true => other

def pingActions (lat lng : Num) (action : DriverAction) : Bool → DriverAction
  | false => .ping lat lng
  | true => action

/-- The ping reports to an AVAILABLE row or before a removal; the status
change places an AVAILABLE driver at the position of the ping or before the
ping does. -/
structure KnowsOther (d : String) (lat lng : Num) (system : DriverRace Bool)
    (thread : Bool) : Prop where
  report : thread = false →
    (system.program false).pending = some (.geoadd lng lat d) →
      ∀ driver, system.world.drivers.get? d = some driver →
        driver.status = .available ∨
          .zrem d ∈ system.ahead DriverWorld.answer true
  place : thread = true → ∀ call,
    (system.program true).pending = some call → IsPoolWrite d call →
      ∀ driver, system.world.drivers.get? d = some driver →
        driver.status = .available →
          call = .geoadd lng lat d ∨
            .geoadd lng lat d ∈ system.ahead DriverWorld.answer false

section Runs

variable {requests : Bool → Request} {actions : Bool → DriverAction}
  {origin : DriverEntity} {system next : DriverRace Bool} {thread : Bool}

theorem not_create_of_ping (haction : ChangesStatus (actions true))
    (hping : actions false = .ping lat lng) (t : Bool)
    (driver : DriverEntity) : actions t ≠ .create driver := by
  intro heq
  cases t with
  | false =>
      rw [hping] at heq
      cases heq
  | true =>
      rw [heq] at haction
      exact haction

theorem serializing_of_turn (haction : ChangesStatus (actions true))
    (hping : actions false = .ping lat lng)
    (hracing : Racing requests actions d system)
    (hserial : Serializing d lat lng (actions true) origin (raceView d system))
    (hguard : KnowsOther d lat lng system thread)
    (hturn : turn DriverWorld.answer system thread = some next) :
    Serializing d lat lng (actions true) origin (raceView d next) := by
  obtain ⟨-, call, hpending, ⟨-, hquiet⟩ | ⟨-, hwriting⟩⟩ :=
    hracing.turn (not_create_of_ping haction hping) hturn
  · exact hserial.quiet hquiet
  · have hmakes := hracing.makes_call hwriting
    cases thread with
    | true =>
        apply hserial.status_writes hping hwriting hmakes
        intro driver hrow hpool hstatus
        rw [mem_left_iff d rfl]
        exact hguard.place rfl call hpending hpool driver hrow hstatus
    | false =>
        have hcall := hmakes
        rw [hping] at hcall
        rcases makes_ping hcall with hgeoadd | hupdate
        · subst hgeoadd
          obtain ⟨driver, hpinging, -⟩ := hserial
          apply Serializing.report haction rfl hping hwriting hpinging
          rw [mem_left_iff d rfl]
          exact hguard.report rfl hpending driver hpinging.row
        · subst hupdate
          exact hserial.ping_row haction rfl hping hwriting

theorem skewed_of_turn (haction : ChangesStatus (actions true))
    (hping : actions false = .ping lat lng)
    (hracing : Racing requests actions d system)
    (hserial : Serializing d lat lng (actions true) origin (raceView d system))
    (hguard : ¬ KnowsOther d lat lng system thread)
    (hturn : turn DriverWorld.answer system thread = some next) :
    Skewed d lat lng (actions true) origin (raceView d next) := by
  obtain ⟨driver, hpinging, -⟩ := hserial
  by_contra hnot
  apply hguard
  obtain ⟨-, call, hpending, ⟨hchanges, -⟩ | ⟨-, hwriting⟩⟩ :=
    hracing.turn (not_create_of_ping haction hping) hturn
  · constructor
    · intro hthread hgeoadd
      subst thread
      rw [hpending] at hgeoadd
      cases hgeoadd
      cases hchanges
    · intro hthread made hmade hpool
      subst thread
      rw [hpending] at hmade
      cases hmade
      rcases hpool with hzrem | ⟨_, _, hgeoadd⟩
      · rw [hzrem] at hchanges
        cases hchanges
      · rw [hgeoadd] at hchanges
        cases hchanges
  · constructor
    · intro hthread hgeoadd other hother
      subst thread
      rw [hpending] at hgeoadd
      cases hgeoadd
      have hsame : some driver = some other := hpinging.row.symm.trans hother
      cases hsame
      rw [← mem_left_iff d rfl]
      by_contra hcases
      rw [not_or] at hcases
      exact hnot (skewed_of_report haction rfl hping hwriting hpinging
        hcases.1 hcases.2)
    · intro hthread made hmade hpool other hother hstatus
      subst thread
      rw [hpending] at hmade
      cases hmade
      have hsame : some driver = some other := hpinging.row.symm.trans hother
      cases hsame
      rw [← mem_left_iff d rfl]
      by_contra hcases
      rw [not_or] at hcases
      exact hnot (skewed_of_pool hping hwriting (hracing.makes_call hwriting)
        hpinging hpool hstatus hcases.1 hcases.2)

theorem Skewed.turn (haction : ChangesStatus (actions true))
    (hping : actions false = .ping lat lng)
    (hracing : Racing requests actions d system)
    (hskewed : Skewed d lat lng (actions true) origin (raceView d system))
    (hturn : turn DriverWorld.answer system thread = some next) :
    Skewed d lat lng (actions true) origin (raceView d next) := by
  obtain ⟨-, call, -, ⟨-, hquiet⟩ | ⟨-, hwriting⟩⟩ :=
    hracing.turn (not_create_of_ping haction hping) hturn
  · exact hskewed.quiet hquiet
  · have hmakes := hracing.makes_call hwriting
    cases thread with
    | true => exact hskewed.status_writes hping hwriting hmakes
    | false => exact hskewed.ping_writes haction rfl hping hwriting hmakes

/-- A consistent state has nobody in the pool whose row is not AVAILABLE. -/
theorem entry_of_consistent {state : DriverState}
    (hconsistent : state.Consistent) {driver : DriverEntity}
    (hrow : state.row = some driver) (hstatus : driver.status ≠ .available) :
    state.entry = none := by
  by_contra hentry
  obtain ⟨position, hposition⟩ := Option.ne_none_iff_exists'.mp hentry
  obtain ⟨pooled, hpooled, havailable, -⟩ :=
    hconsistent.pooled position hposition
  rw [hrow] at hpooled
  cases hpooled
  exact hstatus havailable

theorem serializing_start (haction : ChangesStatus (actions true))
    (hping : actions false = .ping lat lng) {world : DriverWorld}
    (hnamed : ∀ t, (requests t).action world = some (d, actions t))
    (hconsistent : (world.state d).Consistent)
    (hdriver : world.drivers.get? d = some origin) :
    Serializing d lat lng (actions true) origin
      (raceView d (Interleaving.start (fun t => (requests t).program) world)) := by
  have hcreate := not_create_of_ping haction hping
  have hleft : ∀ t, (raceView d
      (Interleaving.start (fun t => (requests t).program) world)).left t =
        (actions t).writes d origin := by
    intro t
    rw [left_of_start rfl (hnamed t) (hcreate t)]
    simp [DriverAction.writesFrom, Interleaving.start, hdriver]
  refine ⟨origin, ⟨hdriver, ?_, ?_, ?_, ?_⟩, ?_, ?_⟩
  · rw [hleft]
    exact phase_of_unread haction rfl rfl
  · intro _
    exact ⟨rfl, rfl⟩
  · left
    rw [hleft, hping, mem_writes_ping]
    exact Or.inr rfl
  · intro hreport _
    rw [hleft, hping, mem_writes_ping] at hreport
    rcases hreport with ⟨-, havailable⟩ | hupdate
    · exact havailable
    · cases hupdate
  · intro hstatus
    exact Or.inl (entry_of_consistent hconsistent hdriver hstatus)
  · intro havailable
    right
    left
    rw [hleft, hping, mem_writes_ping]
    exact Or.inl ⟨rfl, havailable⟩

/-- Either order of the two requests leaves the same to be seen. -/
theorem seen_run {ping other : Request} {world : DriverWorld}
    (hping : ping.action world = some (d, .ping lat lng))
    (hother : other.action world = some (d, action))
    (haction : ChangesStatus action)
    (hconsistent : (world.state d).Consistent)
    (hdriver : world.drivers.get? d = some origin) :
    ((other.run (ping.run world)).state d).seen =
        serialSeen action lat lng origin ∧
      ((ping.run (other.run world)).state d).seen =
        serialSeen action lat lng origin := by
  have hcreate : ∀ driver, action ≠ .create driver := by
    intro driver heq
    rw [heq] at haction
    exact haction
  have hsecond := action_run hping (by simp) hother hcreate
  have hfirst := action_run hother hcreate hping (by simp)
  have hrow : (world.state d).row = some origin := hdriver
  have hserial := @seen_serial lat lng action haction (world.state d) origin
    hrow (entry_of_consistent hconsistent hrow)
  constructor
  · rw [Request.state_run, hsecond]
    simp only [actOn, if_true]
    rw [Request.state_run, hping]
    simp only [actOn, if_true]
    exact hserial.1
  · rw [Request.state_run, hfirst]
    simp only [actOn, if_true]
    rw [Request.state_run, hother]
    simp only [actOn, if_true]
    exact hserial.2

theorem Phase.of_finished {status : DriverStatus}
    (hphase : Phase d action origin [] status) :
    status = settledStatus action origin := by
  generalize hleft : ([] : List DriverCall) = left at hphase
  cases hphase with
  | pending hflags houtcome hpool hremoval => simp at hleft
  | half houtcome hpool hremoval => cases hleft
  | settled hflags => rfl

theorem Pinging.finished {view : RaceView Bool} {driver : DriverEntity}
    (hpinging : Pinging d lat lng action origin view driver)
    (hleft : ∀ t, view.left t = []) :
    driver.status = settledStatus action origin ∧ driver.lat = some lat ∧
      driver.lng = some lng := by
  have hphase := hpinging.phase
  rw [hleft] at hphase
  refine ⟨hphase.of_finished, ?_⟩
  rcases hpinging.pinged with hmem | hdone
  · rw [hleft] at hmem
    cases hmem
  · exact hdone

/-- From a consistent state, a location update interleaved with a status
change leaves the row and the pool entry of a serial order exactly if each
write of the pool knows the other operation. -/
theorem ping_serializable_iff (ping other : Request) {world : DriverWorld}
    (hping : ping.action world = some (d, .ping lat lng))
    (hother : other.action world = some (d, action))
    (haction : ChangesStatus action)
    (hconsistent : (world.state d).Consistent)
    (hdriver : world.drivers.get? d = some origin)
    {schedule : List Bool} {last : DriverRace Bool}
    (hrun : run (turn DriverWorld.answer)
      (Interleaving.start (fun t => (pingAnd ping other t).program) world)
        schedule = some last)
    (hfinished : last.Finished) :
    ((last.world.state d).seen =
          ((other.run (ping.run world)).state d).seen ∨
        (last.world.state d).seen =
          ((ping.run (other.run world)).state d).seen) ↔
      RunMeets (turn DriverWorld.answer) (KnowsOther d lat lng)
        (Interleaving.start (fun t => (pingAnd ping other t).program) world)
        schedule := by
  obtain ⟨hfirst, hsecond⟩ :=
    seen_run hping hother haction hconsistent hdriver
  rw [hfirst, hsecond, or_self]
  have hnamed : ∀ t, (pingAnd ping other t).action world =
      some (d, pingActions lat lng action t) := by
    intro t
    cases t with
    | false => exact hping
    | true => exact hother
  have hcreate : ∀ t driver,
      pingActions lat lng action t ≠ .create driver :=
    not_create_of_ping haction rfl
  have hends := good_or_bad_of_race (Serializing d lat lng action origin)
    (Skewed d lat lng action origin) hcreate
    (serializing_of_turn haction rfl) (skewed_of_turn haction rfl)
    (Skewed.turn haction rfl) (racing_start hcreate hnamed)
    (serializing_start haction rfl hnamed hconsistent hdriver) hrun
  have hleft : ∀ t, (raceView d last).left t = [] :=
    left_of_finished hfinished
  rcases hends with ⟨hmeets, driver, hpinging, hother, havailable⟩ |
    ⟨hnot, driver, hpinging, -, -, hskewed⟩
  · refine iff_of_true ?_ hmeets
    obtain ⟨hstatus, hlat, hlng⟩ := hpinging.finished hleft
    have hrow : (last.world.state d).row = some driver := hpinging.row
    have hentry : (last.world.state d).entry =
        if settledStatus action origin = .available then some ⟨lng, lat⟩
        else none := by
      rw [← hstatus]
      split_ifs with hsettled
      · rcases havailable hsettled with hnew | hreport | ⟨pool, hmem, -⟩
        · exact hnew
        · rw [hleft] at hreport
          cases hreport
        · rw [hleft] at hmem
          cases hmem
      · rcases hother hsettled with hnone | ⟨-, hzrem⟩
        · exact hnone
        · rw [hleft] at hzrem
          cases hzrem
    rw [DriverState.seen, hrow, hentry, Option.map_some, hstatus, hlat, hlng]
    rfl
  · refine iff_of_false ?_ hnot
    obtain ⟨hstatus, -, -⟩ := hpinging.finished hleft
    intro hseen
    have hentry := congrArg Prod.snd hseen
    simp only [DriverState.seen, serialSeen, ← hstatus] at hentry
    rcases hskewed with ⟨hsettled, hpooled⟩ | ⟨hsettled, hne, -⟩
    · rw [if_neg hsettled] at hentry
      exact hpooled hentry
    · rw [if_pos hsettled] at hentry
      exact hne hentry

end Runs

/-! ## A ping across a change to OFFLINE -/

def reportingPing : Request := .updateLocation 0 "d" { lat := 1, lng := 1 }

def goingOffline : Request := .updateStatus 0 "d" { status := .offline }

def pingingOffline : DriverRace Bool :=
  Interleaving.start (fun t => (pingAnd reportingPing goingOffline t).program)
    waitingWorld

def pingThenOffline : List Bool :=
  [false, false, false, false, true, true, true, true]

def pingAcrossOffline : List Bool :=
  [false, true, true, true, true, false, false, false]

theorem ping_then_offline_serial :
    ∃ last, run (turn DriverWorld.answer) pingingOffline pingThenOffline =
        some last ∧
      (((last.world.state "d").seen =
            ((goingOffline.run (reportingPing.run waitingWorld)).state
              "d").seen ∨
          (last.world.state "d").seen =
            ((reportingPing.run (goingOffline.run waitingWorld)).state
              "d").seen) ↔
        RunMeets (turn DriverWorld.answer) (KnowsOther "d" 1 1)
          pingingOffline pingThenOffline) := by
  have hcheck : (run (turn DriverWorld.answer) pingingOffline
      pingThenOffline).any raceFinished = true := by
    decide +kernel
  obtain ⟨last, hrun, hlast⟩ := exists_of_run_any hcheck
  refine ⟨last, hrun, ?_⟩
  have haction : ChangesStatus (.changeStatus .offline) := trivial
  exact ping_serializable_iff reportingPing goingOffline rfl rfl haction
    waitingWorld_consistent rfl hrun (finished_of_raceFinished hlast)

theorem ping_across_offline :
    ∃ last, run (turn DriverWorld.answer) pingingOffline pingAcrossOffline =
        some last ∧ last.Finished ∧ (waitingWorld.state "d").Consistent ∧
      ¬ ((last.world.state "d").seen =
            ((goingOffline.run (reportingPing.run waitingWorld)).state
              "d").seen ∨
          (last.world.state "d").seen =
            ((reportingPing.run (goingOffline.run waitingWorld)).state
              "d").seen) := by
  have hcheck : (run (turn DriverWorld.answer) pingingOffline
      pingAcrossOffline).any (fun last =>
        raceFinished last && decide ((last.world.state "d").seen ≠
          ((goingOffline.run (reportingPing.run waitingWorld)).state
            "d").seen ∧ (last.world.state "d").seen ≠
          ((reportingPing.run (goingOffline.run waitingWorld)).state
            "d").seen)) = true := by
    decide +kernel
  obtain ⟨last, hrun, hlast⟩ := exists_of_run_any hcheck
  rw [Bool.and_eq_true] at hlast
  refine ⟨last, hrun, finished_of_raceFinished hlast.1,
    waitingWorld_consistent, ?_⟩
  rw [not_or]
  exact of_decide_eq_true hlast.2

end FakeBolt.Driver
