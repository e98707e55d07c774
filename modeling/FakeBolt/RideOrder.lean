import FakeBolt.PartitionedLog
import FakeBolt.ReadThenWrite
import FakeBolt.RideHistory

/-!
# The order of a ride's events

ride-service publishes without a key, so each of its records goes to whichever
partition the client picks.  Requests run concurrently, their awaited calls in
any order, and consumer groups take the partitions of a topic at their own
pace.
-/

namespace FakeBolt.Ride

open Await Kafka Lanes Store Transition

/-! ## ride-service and its topics -/

inductive RideRequest where
  | requestRide (newId : String) (createdAt now : Instant)
      (dto : RequestRideDto)
  | updateStatus (now : Instant) (id : String) (dto : UpdateStatusDto)
  | message (now : Instant) (value : Option DriverAssignedPayload)

def RideRequest.program : RideRequest → RideM Unit
  | .requestRide newId createdAt now dto => do
      let _ ← RideService.requestRide newId createdAt now dto
  | .updateStatus now id dto => do
      let _ ← RideService.updateStatus now id dto
  | .message now value => RideService.eachMessage now value

/-- A partition of a topic. -/
abbrev TopicPartition (n : ℕ) := Topic × Fin n

abbrev TopicLog (n : ℕ) :=
  PartitionedLog ProducerRecord (TopicPartition n) String

/-- The requests under way, and every topic with its consumer groups. -/
structure RideTopics (τ : Type) (n : ℕ) where
  service : Interleaving τ RideCall.Reply JsError Unit RideWorld
  log : TopicLog n

variable {τ : Type} {n : ℕ}

def RideTopics.start (requests : τ → RideRequest) (world : RideWorld) :
    RideTopics τ n :=
  ⟨.start (fun thread => (requests thread).program) world,
    PartitionedLog.empty⟩

/-- A key decides the partition; without one any will do. -/
def mayGo (hash : String → Fin n) (partition : Fin n)
    (record : ProducerRecord) : Bool :=
  match record.key with
  | some key => partition == hash key
  | none => true

/-- A request makes its next call, and what it publishes goes to the
partition; or a group takes a record. -/
inductive TopicEvent (τ : Type) (n : ℕ) where
  | call (thread : τ) (partition : Fin n)
  | consume (group : String) (index : ℕ)

def placed (partition : Fin n) (record : ProducerRecord) :
    ProducerRecord × TopicPartition n :=
  (record, record.message.topic, partition)

variable [DecidableEq τ]

def RideTopics.step (hash : String → Fin n) (topics : RideTopics τ n) :
    TopicEvent τ n → Option (RideTopics τ n)
  | .call thread partition =>
      match Interleaving.turn RideWorld.answer topics.service thread with
      | none => none
      | some next =>
          let sent :=
            next.world.published.drop topics.service.world.published.length
          if sent.all (mayGo hash partition) then
            some ⟨next, topics.log.publish (sent.map (placed partition))⟩
          else none
  | .consume group index =>
      (topics.log.consume (group, index)).map fun log =>
        { topics with log := log }

/-! ## What the claim says of a run -/

def rideOf : Message → Option String
  | .rideRequested event => some event.rideId
  | .rideStatusUpdated event => some event.rideId
  | .rideCompleted event => some event.rideId
  | _ => none

/-- Two records of one topic about one ride. -/
def SameRide (first second : ProducerRecord) : Prop :=
  first.message.topic = second.message.topic ∧
    ∃ id, rideOf first.message = some id ∧ rideOf second.message = some id

/-- The calls of a run, and where their records went. -/
def callsOf (events : List (TopicEvent τ n)) : List (τ × Fin n) :=
  events.filterMap fun event =>
    match event with
    | .call thread partition => some (thread, partition)
    | .consume _ _ => none

def callAt (call : τ × Fin n) : TopicEvent τ n :=
  .call call.1 call.2

/-- However the groups take the records of these calls, they take those of a
ride in the order they were published. -/
def KeepsOrder (hash : String → Fin n) (requests : τ → RideRequest)
    (world : RideWorld) (calls : List (τ × Fin n)) : Prop :=
  ∀ events last, callsOf events = calls →
    run (RideTopics.step hash) (.start requests world) events = some last →
      last.log.Ordered SameRide

/-! ## Records without a key -/

def Keyless : RideCall → Prop
  | .send record => record.key = none
  | _ => True

theorem permits_publish (message : Message) :
    (publish message).Permits RideWorld.answer Keyless := by
  apply Program.Permits.tryCatch
  · exact Program.permits_call rfl
  · exact fun error => Program.permits_throw _ error

theorem permits_getRide (id : String) :
    (RideService.getRide id).Permits RideWorld.answer Keyless := by
  apply Program.Permits.tryCatch
  · apply Program.Permits.bind (Program.permits_call trivial)
    intro ride
    cases ride with
    | none => exact Program.permits_throw _ _
    | some ride => exact Program.permits_pure _ _
  · intro error
    split
    · exact Program.permits_throw _ _
    · exact Program.permits_throw _ _

theorem permits_update (id : String) (patch : RidePatch) :
    (RideRepository.update id patch).Permits RideWorld.answer Keyless :=
  Program.permits_call trivial

/-- No request ever publishes a record with a key. -/
theorem permits_keyless (request : RideRequest) :
    request.program.Permits RideWorld.answer Keyless := by
  cases request with
  | requestRide newId createdAt now dto =>
      refine .bind ?_ fun _ => Program.permits_pure _ _
      apply Program.Permits.tryCatch
      · apply Program.Permits.bind (Program.permits_call trivial)
        intro saved
        exact (permits_publish _).bind fun _ => Program.permits_pure _ _
      · exact fun error => Program.permits_throw _ _
  | updateStatus now id dto =>
      refine .bind ?_ fun _ => Program.permits_pure _ _
      apply Program.Permits.tryCatch
      · apply (permits_getRide id).bind
        intro ride
        apply (permits_update id _).bind
        intro _
        exact (permits_publish _).bind fun _ => Program.permits_pure _ _
      · intro error
        split
        · exact Program.permits_throw _ _
        · exact Program.permits_throw _ _
  | message now value =>
      cases value with
      | none => exact Program.permits_pure _ _
      | some payload =>
          apply Program.Permits.tryCatch
          · apply Program.Permits.tryCatch
            · apply (permits_update _ _).bind
              intro _
              apply (permits_getRide _).bind
              exact fun ride => permits_publish _
            · exact fun error => Program.permits_throw _ error
          · exact fun error => Program.permits_throw _ error

/-- What a call publishes has no key. -/
theorem sent_of_answer {call : RideCall} (hkeyless : Keyless call)
    (world : RideWorld) :
    ∃ sent, (RideWorld.answer call world).2.published =
        world.published ++ sent ∧ ∀ record ∈ sent, record.key = none := by
  cases call with
  | save ride =>
      refine ⟨[], ?_, by simp⟩
      simp only [RideWorld.answer]
      cases world.rides.insert? ride <;> simp
  | findOneById id => exact ⟨[], by simp [RideWorld.answer], by simp⟩
  | update id patch => exact ⟨[], by simp [RideWorld.answer], by simp⟩
  | send record =>
      refine ⟨[record], rfl, ?_⟩
      intro sent hsent
      rw [List.mem_singleton] at hsent
      subst hsent
      exact hkeyless

/-! ## Calls may go anywhere -/

variable (hash : String → Fin n)

/-- The requests that are left make no keyed publish. -/
def AllKeyless (service : Interleaving τ RideCall.Reply JsError Unit RideWorld) :
    Prop :=
  ∀ thread, (service.program thread).Permits RideWorld.answer Keyless

theorem step_call {topics : RideTopics τ n} (hkeyless : AllKeyless topics.service)
    {next : Interleaving τ RideCall.Reply JsError Unit RideWorld}
    {call : τ × Fin n}
    (hturn : Interleaving.turn RideWorld.answer topics.service call.1 =
      some next) :
    ∃ sent, topics.step hash (callAt call) =
      some ⟨next, topics.log.publish sent⟩ := by
  obtain ⟨op, hpending, hworld, -⟩ := Interleaving.turn_cases hturn
  obtain ⟨sent, hsent, hnone⟩ :=
    sent_of_answer ((hkeyless call.1).of_pending hpending) topics.service.world
  have hgo : sent.all (mayGo hash call.2) = true := by
    rw [List.all_eq_true]
    intro record hrecord
    simp [mayGo, hnone record hrecord]
  refine ⟨sent.map (placed call.2), ?_⟩
  simp only [RideTopics.step, callAt, hturn, hworld, hsent, List.drop_left,
    hgo, if_true]

/-- Since no record has a key, any partitions do for the calls of a run. -/
theorem run_calls (topics : RideTopics τ n)
    (hkeyless : AllKeyless topics.service) {calls : List (τ × Fin n)}
    {served : Interleaving τ RideCall.Reply JsError Unit RideWorld}
    (hserved : run (Interleaving.turn RideWorld.answer) topics.service
      (calls.map Prod.fst) = some served) :
    ∃ last : RideTopics τ n,
      run (RideTopics.step hash) topics (calls.map callAt) = some last ∧
        last.service = served ∧ last.log.consumed = topics.log.consumed := by
  induction calls generalizing topics with
  | nil =>
      cases hserved
      exact ⟨topics, rfl, rfl, rfl⟩
  | cons call calls ih =>
      rw [List.map_cons] at hserved
      obtain ⟨next, hturn, hrest⟩ := run_cons_eq_some.mp hserved
      obtain ⟨sent, hstep⟩ := step_call hash hkeyless hturn
      have hnext : AllKeyless next :=
        fun thread => Interleaving.permits_turn hkeyless hturn thread
      obtain ⟨last, hrun, hservice, hconsumed⟩ :=
        ih ⟨next, topics.log.publish sent⟩ hnext hrest
      exact ⟨last, run_cons_eq_some.mpr ⟨_, hstep, hrun⟩, hservice, hconsumed⟩

/-! ## Runs with consumption -/

variable {hash}

/-- A run publishes what its calls publish, wherever the groups are. -/
theorem entries_of_run {events : List (TopicEvent τ n)}
    {topics last : RideTopics τ n} (other : RideTopics τ n)
    (hrun : run (RideTopics.step hash) topics events = some last)
    (hservice : other.service = topics.service)
    (hentries : other.log.entries = topics.log.entries) :
    ∃ published, run (RideTopics.step hash) other
        ((callsOf events).map callAt) = some published ∧
      published.log.entries = last.log.entries := by
  induction events generalizing topics other with
  | nil =>
      cases hrun
      exact ⟨other, rfl, hentries⟩
  | cons event events ih =>
      obtain ⟨next, hstep, hrest⟩ := run_cons_eq_some.mp hrun
      cases event with
      | call thread partition =>
          simp only [RideTopics.step] at hstep
          split at hstep
          · cases hstep
          · rename_i served hturn
            split at hstep
            · rename_i hgo
              cases hstep
              let sent := (served.world.published.drop
                topics.service.world.published.length).map (placed partition)
              have hsame : other.step hash (callAt (thread, partition)) =
                  some ⟨served, other.log.publish sent⟩ := by
                simp only [RideTopics.step, callAt, hservice, hturn, hgo,
                  if_true, sent]
              obtain ⟨published, hcalls, hlast⟩ :=
                ih ⟨served, other.log.publish sent⟩ hrest rfl
                  (by simp [PartitionedLog.publish, hentries, sent])
              exact ⟨published, run_cons_eq_some.mpr ⟨_, hsame, hcalls⟩, hlast⟩
            · cases hstep
      | consume group index =>
          simp only [RideTopics.step, Option.map_eq_some_iff] at hstep
          obtain ⟨log, hconsume, hnext⟩ := hstep
          subst hnext
          obtain ⟨-, hkept, -⟩ := PartitionedLog.consume_cases hconsume
          exact ih other hrest hservice (hentries.trans hkept.symm)

theorem lanewise_step {topics next : RideTopics τ n} {event : TopicEvent τ n}
    (hlog : topics.log.Lanewise) (hstep : topics.step hash event = some next) :
    next.log.Lanewise := by
  cases event with
  | call thread partition =>
      simp only [RideTopics.step] at hstep
      split at hstep
      · cases hstep
      · split at hstep
        · cases hstep
          exact hlog.publish _
        · cases hstep
  | consume group index =>
      simp only [RideTopics.step, Option.map_eq_some_iff] at hstep
      obtain ⟨log, hconsume, hnext⟩ := hstep
      subst hnext
      exact hlog.consume hconsume

theorem run_consume {topics : RideTopics τ n} {schedule : List (String × ℕ)}
    {log : TopicLog n}
    (hrun : run PartitionedLog.consume topics.log schedule = some log) :
    run (RideTopics.step hash) topics
        (schedule.map fun taken => .consume taken.1 taken.2) =
      some { topics with log := log } := by
  induction schedule generalizing topics with
  | nil =>
      cases hrun
      rfl
  | cons taken schedule ih =>
      obtain ⟨next, hconsume, hrest⟩ := run_cons_eq_some.mp hrun
      have hstep : topics.step hash (.consume taken.1 taken.2) =
          some { topics with log := next } := by
        simp only [RideTopics.step, hconsume, Option.map_some]
      have hnext : run (RideTopics.step hash) { topics with log := next }
          (schedule.map fun taken => .consume taken.1 taken.2) =
            some { topics with log := log } :=
        @ih { topics with log := next } hrest
      exact run_cons_eq_some.mpr ⟨_, hstep, hnext⟩

omit [DecidableEq τ] in
theorem callsOf_append_consume (calls : List (τ × Fin n))
    (schedule : List (String × ℕ)) :
    callsOf (calls.map callAt ++
      schedule.map fun taken => .consume taken.1 taken.2) = calls := by
  have hcalls : callsOf (calls.map callAt) = calls := by
    unfold callsOf
    rw [List.filterMap_map]
    exact List.filterMap_some
  have hschedule : callsOf (schedule.map fun taken =>
      (.consume taken.1 taken.2 : TopicEvent τ n)) = [] := by
    unfold callsOf
    simp
  unfold callsOf at *
  rw [List.filterMap_append, hcalls, hschedule, List.append_nil]

theorem sameRide_symm (first second : ProducerRecord)
    (hsame : SameRide first second) : SameRide second first := by
  obtain ⟨htopic, id, hfirst, hsecond⟩ := hsame
  exact ⟨htopic.symm, id, hsecond, hfirst⟩

/-- Whatever requests run and in whatever order they make their calls: the
records may go to any partitions, and then the groups are sure to take those
of a ride in order exactly if all of a topic about the ride went to one
partition. -/
theorem ride_order_iff (hash : String → Fin n) (requests : τ → RideRequest)
    (world : RideWorld) {calls : List (τ × Fin n)}
    {served : Interleaving τ RideCall.Reply JsError Unit RideWorld}
    (hserved : run (Interleaving.turn RideWorld.answer)
      (.start (fun thread => (requests thread).program) world)
      (calls.map Prod.fst) = some served) :
    ∃ published, run (RideTopics.step hash) (.start requests world)
        (calls.map callAt) = some published ∧
      published.service = served ∧
      (KeepsOrder hash requests world calls ↔
        published.log.OneLane SameRide) := by
  have hkeyless : AllKeyless
      (RideTopics.start requests world : RideTopics τ n).service :=
    fun thread => permits_keyless (requests thread)
  obtain ⟨published, hpublished, hservice, hconsumed⟩ :=
    run_calls hash (.start requests world) hkeyless hserved
  refine ⟨published, hpublished, hservice, ?_, ?_⟩
  · intro hkeeps
    by_contra hmany
    have hfresh : published.log.consumed "" = [] := by
      rw [hconsumed]
      rfl
    obtain ⟨schedule, log, hrun, -, hdisorder⟩ :=
      PartitionedLog.exists_disorder sameRide_symm hfresh hmany
    apply hdisorder
    have hall : run (RideTopics.step hash) (.start requests world)
        (calls.map callAt ++
          schedule.map fun taken => .consume taken.1 taken.2) =
        some { published with log := log } := by
      rw [run_append, hpublished]
      exact run_consume hrun
    exact hkeeps _ _ (callsOf_append_consume calls schedule) hall
  · intro hone events last hcalls hrun
    have hlanewise : last.log.Lanewise :=
      invariant_of_step (fun _ _ _ hlog hstep => lanewise_step hlog hstep)
        PartitionedLog.lanewise_empty hrun
    obtain ⟨sent, hsent, hentries⟩ := entries_of_run
      (.start requests world) hrun rfl rfl
    rw [hcalls, hpublished] at hsent
    cases hsent
    apply hlanewise.ordered_of_oneLane
    intro i j hrelated
    have hrelated' : published.log.Related SameRide i j := by
      simp only [PartitionedLog.Related, PartitionedLog.message?, hentries]
      exact hrelated
    rw [← PartitionedLog.lane?_congr hentries,
      ← PartitionedLog.lane?_congr hentries]
    exact hone i j hrelated'

/-! ## One partition, and two -/

/-- Each record is in its own topic. -/
def InTopics (log : TopicLog n) : Prop :=
  ∀ entry ∈ log.entries, entry.2.1 = entry.1.message.topic

theorem inTopics_step {topics next : RideTopics τ n} {event : TopicEvent τ n}
    (hlog : InTopics topics.log) (hstep : topics.step hash event = some next) :
    InTopics next.log := by
  cases event with
  | call thread partition =>
      simp only [RideTopics.step] at hstep
      split at hstep
      · cases hstep
      · split at hstep
        · cases hstep
          intro entry hentry
          rcases List.mem_append.mp hentry with hold | hnew
          · exact hlog entry hold
          · obtain ⟨record, -, heq⟩ := List.mem_map.mp hnew
            subst heq
            rfl
        · cases hstep
  | consume group index =>
      simp only [RideTopics.step, Option.map_eq_some_iff] at hstep
      obtain ⟨log, hconsume, hnext⟩ := hstep
      subst hnext
      obtain ⟨-, hkept, -⟩ := PartitionedLog.consume_cases hconsume
      unfold InTopics
      rw [hkept]
      exact hlog

theorem oneLane_of_one_partition {log : TopicLog 1} (hlog : InTopics log) :
    log.OneLane SameRide := by
  rintro i j ⟨first, second, hfirst, hsecond, htopic, -⟩
  obtain ⟨entry, hentry, hmessage⟩ := Option.map_eq_some_iff.mp hfirst
  obtain ⟨entry', hentry', hmessage'⟩ := Option.map_eq_some_iff.mp hsecond
  have hlane := hlog entry (List.mem_of_getElem? hentry)
  have hlane' := hlog entry' (List.mem_of_getElem? hentry')
  rw [PartitionedLog.lane?, PartitionedLog.lane?, hentry, hentry']
  simp only [Option.map_some, Option.some.injEq]
  ext1
  · rw [hlane, hlane', hmessage, hmessage', htopic]
  · exact Subsingleton.elim _ _

/-- A ride is set in progress, then cancelled. -/
def twoUpdates : Bool → RideRequest
  | false => .updateStatus 0 "r" ⟨.inProgress, none⟩
  | true => .updateStatus 1 "r" ⟨.cancelled, none⟩

def updateCalls (first second : Fin n) : List (Bool × Fin n) :=
  [(false, first), (false, first), (false, first),
    (true, second), (true, second), (true, second)]

theorem one_partition_keeps_order :
    KeepsOrder (fun _ => (0 : Fin 1)) twoUpdates openWorld
      (updateCalls 0 0) := by
  have hcheck : (run (Interleaving.turn RideWorld.answer)
      (.start (fun thread => (twoUpdates thread).program) openWorld)
      ((updateCalls (0 : Fin 1) 0).map Prod.fst)).any (fun _ => true) =
        true := by
    decide +kernel
  obtain ⟨served, hserved, -⟩ := exists_of_run_any hcheck
  obtain ⟨published, hpublished, -, hiff⟩ :=
    ride_order_iff (fun _ => (0 : Fin 1)) twoUpdates openWorld hserved
  have hempty : InTopics (RideTopics.start twoUpdates openWorld :
      RideTopics Bool 1).log := by
    intro entry hentry
    cases hentry
  have hlog : InTopics published.log := invariant_of_step
    (fun _ _ _ hkept hstep => inTopics_step hkept hstep) hempty hpublished
  exact hiff.mpr (oneLane_of_one_partition hlog)

/-- The two records are on different partitions, and a group takes the second
first. -/
def overtaking : List (TopicEvent Bool 2) :=
  (updateCalls 0 1).map callAt ++
    [.consume "notification-service" 1, .consume "notification-service" 0]

def isStatusOf (id : String) (record : ProducerRecord) : Bool :=
  record.message.topic == .rideStatusUpdated && rideOf record.message == some id

theorem cancellation_overtakes :
    ¬ ∀ events (last : RideTopics Bool 2),
      run (RideTopics.step fun _ => 0) (.start twoUpdates openWorld) events =
        some last → last.log.Ordered SameRide := by
  intro hall
  have hcheck : (run (RideTopics.step fun _ => 0)
      (.start twoUpdates openWorld) overtaking).any (fun last =>
        (last.log.message? 0).any (isStatusOf "r") &&
          (last.log.message? 1).any (isStatusOf "r") &&
            last.log.consumed "notification-service" == [1, 0]) = true := by
    decide +kernel
  obtain ⟨last, hrun, hlast⟩ := exists_of_run_any hcheck
  simp only [Bool.and_eq_true, Option.any_eq_true, isStatusOf,
    beq_iff_eq] at hlast
  obtain ⟨⟨⟨first, hfirst, htopic, hride⟩, second, hsecond, htopic', hride'⟩,
    hconsumed⟩ := hlast
  have hordered := hall overtaking last hrun "notification-service"
  rw [hconsumed] at hordered
  have hrelated : last.log.Related SameRide 1 0 :=
    ⟨second, first, hsecond, hfirst, htopic'.trans htopic.symm, "r", hride',
      hride⟩
  have hbefore := List.rel_of_pairwise_cons hordered (by simp) hrelated
  omega

end FakeBolt.Ride
