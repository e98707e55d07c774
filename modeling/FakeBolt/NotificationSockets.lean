import FakeBolt.GuardedRun
import FakeBolt.NotificationService

/-!
# Sockets of notification-service

Clients connect, messages are consumed and clients leave, in any order.  A
connection that names a user joins the room of that user, besides the room of
its own id that every socket is in; an emission reaches the sockets that are in
its room at that moment.  The adapter that joins several instances makes their
rooms one, so there is one set of sockets here.
-/

namespace FakeBolt.Notification

open Json Kafka Transition NotificationGateway NotificationService

/-! ## State -/

/-- `handshake.query.userId`: a query that repeats the name gives an array. -/
inductive UserIdQuery where
  | absent
  | one (userId : String)
  | several (userIds : List String)
  deriving DecidableEq, Repr

namespace UserIdQuery

/-- `!userId`; an array never is falsy. -/
def falsy : UserIdQuery → Bool
  | .absent => true
  | .one userId => userId == ""
  | .several _ => false

/-- What `join` joins. -/
def rooms : UserIdQuery → List String
  | .absent => []
  | .one userId => [userId]
  | .several userIds => userIds

end UserIdQuery

structure Socket where
  id : String
  rooms : List String
  deriving DecidableEq, Repr

structure Notice where
  event : String
  payload : JsObject

/-- The sockets that are connected with a user, what each socket has received
so far, and the metrics. -/
structure Hub where
  sockets : List Socket
  received : String → List Notice
  socketConnectionsActive : ℤ
  notificationsSentTotal : String → ℕ
  notificationsSkippedTotal : String → ℕ
  kafkaMessagesConsumedTotal : Subscription → ℕ
  kafkaMessagesFailedTotal : Subscription → ℕ

inductive HubEvent where
  | connect (id : String) (userId : UserIdQuery)
  | disconnect (id : String)
  /-- Nothing for a message whose text does not parse or is null: reading a
  field of it throws.  What is neither null nor an object has no fields. -/
  | message (topic : Subscription) (payload : Option JsObject)

namespace Hub

def initial : Hub where
  sockets := []
  received _ := []
  socketConnectionsActive := 0
  notificationsSentTotal _ := 0
  notificationsSkippedTotal _ := 0
  kafkaMessagesConsumedTotal _ := 0
  kafkaMessagesFailedTotal _ := 0

def connected (hub : Hub) (id : String) : Bool :=
  hub.sockets.any fun socket => socket.id == id

/-! ## NotificationGateway -/

def handleConnection (hub : Hub) (id : String) (userId : UserIdQuery) : Hub :=
  if userId.falsy then hub
  else
    { hub with
      sockets := hub.sockets ++ [{ id := id, rooms := id :: userId.rooms }]
      socketConnectionsActive := hub.socketConnectionsActive + 1 }

/-- A rejected connection is not among the sockets. -/
def handleDisconnect (hub : Hub) (id : String) : Hub :=
  if hub.connected id then
    { hub with
      sockets := hub.sockets.filter fun socket => socket.id != id
      socketConnectionsActive := hub.socketConnectionsActive - 1 }
  else hub

/-- Only texts name rooms that a socket is in. -/
def isIn (room : JsValue) (socket : Socket) : Bool :=
  match room with
  | .string name => socket.rooms.contains name
  | _ => false

def perform (hub : Hub) : GatewayEffect → Hub
  | .skipped event =>
      { hub with
        notificationsSkippedTotal := Function.update
          hub.notificationsSkippedTotal event
          (hub.notificationsSkippedTotal event + 1) }
  | .emitted room event payload =>
      { hub with
        received := fun id =>
          if hub.sockets.any fun socket => socket.id == id && isIn room socket
          then hub.received id ++ [{ event := event, payload := payload }]
          else hub.received id
        notificationsSentTotal := Function.update hub.notificationsSentTotal
          event (hub.notificationsSentTotal event + 1) }

/-! ## KafkaConsumer -/

def eachMessage (hub : Hub) (topic : Subscription) :
    Option JsObject → Hub
  | some payload =>
      let hub := (handler topic payload).foldl perform hub
      { hub with
        kafkaMessagesConsumedTotal := Function.update
          hub.kafkaMessagesConsumedTotal topic
          (hub.kafkaMessagesConsumedTotal topic + 1) }
  | none =>
      { hub with
        kafkaMessagesFailedTotal := Function.update
          hub.kafkaMessagesFailedTotal topic
          (hub.kafkaMessagesFailedTotal topic + 1) }

/-- The id of a new connection is not that of another one. -/
def step (hub : Hub) : HubEvent → Option Hub
  | .connect id userId =>
      if hub.connected id then none else some (hub.handleConnection id userId)
  | .disconnect id => some (hub.handleDisconnect id)
  | .message topic payload => some (hub.eachMessage topic payload)

end Hub

/-! ## What is for whom -/

/-- The notice that an effect is for sockets in these rooms. -/
def noticeTo (rooms : List String) : GatewayEffect → Option Notice
  | .emitted (.string room) event payload =>
      if room ∈ rooms then some { event := event, payload := payload } else none
  | _ => none

def noticesTo (rooms : List String) : HubEvent → List Notice
  | .message topic (some payload) =>
      (handler topic payload).filterMap (noticeTo rooms)
  | _ => []

/-! ## One socket -/

/-- The rooms of the socket with the id, if it is connected. -/
def Hub.roomsOf (hub : Hub) (id : String) : Option (List String) :=
  (hub.sockets.find? fun socket => socket.id == id).map Socket.rooms

structure Hub.Distinct (hub : Hub) : Prop where
  nodup : (hub.sockets.map Socket.id).Nodup

theorem connected_iff {hub : Hub} {id : String} :
    hub.connected id = true ↔ ∃ socket ∈ hub.sockets, socket.id = id := by
  simp [Hub.connected]

theorem roomsOf_eq_none_iff {hub : Hub} {id : String} :
    hub.roomsOf id = none ↔ hub.connected id = false := by
  simp [Hub.roomsOf, Hub.connected]

theorem roomsOf_eq_some_iff {hub : Hub} (hdistinct : hub.Distinct) {id : String}
    {rooms : List String} :
    hub.roomsOf id = some rooms ↔
      { id := id, rooms := rooms } ∈ hub.sockets := by
  unfold Hub.roomsOf
  rw [Option.map_eq_some_iff]
  constructor
  · rintro ⟨socket, hfind, hrooms⟩
    have hid : socket.id = id := by simpa using List.find?_some hfind
    subst hid hrooms
    exact List.mem_of_find?_eq_some hfind
  · intro hmem
    cases hfind : hub.sockets.find? fun socket => socket.id == id with
    | none =>
        have hnone := List.find?_eq_none.mp hfind _ hmem
        simp at hnone
    | some socket =>
        have hid : socket.id = id := by simpa using List.find?_some hfind
        have hsocket := List.mem_of_find?_eq_some hfind
        have hsame := List.inj_on_of_nodup_map hdistinct.nodup hsocket hmem hid
        exact ⟨socket, rfl, by rw [hsame]⟩

/-- An emission reaches a socket that is in its room, once. -/
theorem received_perform {hub : Hub} (hdistinct : hub.Distinct)
    (effect : GatewayEffect) (id : String) :
    (hub.perform effect).received id =
      hub.received id ++
        ((hub.roomsOf id).bind fun rooms => noticeTo rooms effect).toList := by
  cases effect with
  | skipped event => cases hub.roomsOf id <;> simp [Hub.perform, noticeTo]
  | emitted room event payload =>
      simp only [Hub.perform]
      cases hrooms : hub.roomsOf id with
      | none =>
          have hnone : hub.sockets.any (fun socket =>
              socket.id == id && Hub.isIn room socket) = false := by
            rw [roomsOf_eq_none_iff, Hub.connected, List.any_eq_false] at hrooms
            rw [List.any_eq_false]
            intro socket hsocket
            have hother := hrooms socket hsocket
            simp_all
          simp [hnone]
      | some rooms =>
          rw [roomsOf_eq_some_iff hdistinct] at hrooms
          have hany : (hub.sockets.any fun socket =>
              socket.id == id && Hub.isIn room socket) =
                Hub.isIn room { id := id, rooms := rooms } := by
            rw [Bool.eq_iff_iff, List.any_eq_true]
            constructor
            · rintro ⟨socket, hsocket, hin⟩
              rw [Bool.and_eq_true, beq_iff_eq] at hin
              have hsame := List.inj_on_of_nodup_map hdistinct.nodup hsocket
                hrooms hin.1
              rw [← hsame]
              exact hin.2
            · intro hin
              exact ⟨_, hrooms, by simp [hin]⟩
          rw [hany]
          cases room with
          | string name =>
              by_cases hname : name ∈ rooms <;>
                simp [Hub.isIn, noticeTo, hname]
          | _ => simp [Hub.isIn, noticeTo]

@[simp] theorem sockets_perform (hub : Hub) (effect : GatewayEffect) :
    (hub.perform effect).sockets = hub.sockets := by
  cases effect <;> rfl

theorem received_foldl_perform (effects : List GatewayEffect) {hub : Hub}
    (hdistinct : hub.Distinct) (id : String) :
    (effects.foldl Hub.perform hub).received id =
        hub.received id ++ effects.filterMap (fun effect =>
          (hub.roomsOf id).bind fun rooms => noticeTo rooms effect) ∧
      (effects.foldl Hub.perform hub).sockets = hub.sockets := by
  induction effects generalizing hub with
  | nil => simp
  | cons effect effects ih =>
      have hnext : (hub.perform effect).Distinct := by
        constructor
        rw [sockets_perform]
        exact hdistinct.nodup
      have hrooms : (hub.perform effect).roomsOf id = hub.roomsOf id := by
        unfold Hub.roomsOf
        rw [sockets_perform]
      obtain ⟨hreceived, hsockets⟩ := ih hnext
      rw [List.foldl_cons, hreceived, hsockets, sockets_perform, hrooms,
        received_perform hdistinct, List.append_assoc]
      refine ⟨?_, rfl⟩
      rw [List.filterMap_cons]
      cases ((hub.roomsOf id).bind fun rooms => noticeTo rooms effect) <;> rfl

theorem received_eachMessage {hub : Hub} (hdistinct : hub.Distinct)
    (topic : Subscription) (payload : Option JsObject) (id : String) :
    (hub.eachMessage topic payload).received id =
        hub.received id ++ ((hub.roomsOf id).elim [] fun rooms =>
          noticesTo rooms (.message topic payload)) ∧
      (hub.eachMessage topic payload).sockets = hub.sockets := by
  cases payload with
  | none =>
      cases hub.roomsOf id <;> simp [Hub.eachMessage, noticesTo]
  | some payload =>
      obtain ⟨hreceived, hsockets⟩ :=
        received_foldl_perform (handler topic payload) hdistinct id
      simp only [Hub.eachMessage]
      refine ⟨?_, hsockets⟩
      rw [hreceived]
      cases hub.roomsOf id with
      | none => simp
      | some rooms => rfl

/-! ## One event -/

/-- Whether the socket with the id is connected, and in which rooms, after an
event. -/
def roomsAfter (id : String) (before : Option (List String)) :
    HubEvent → Option (List String)
  | .connect other userId =>
      if other = id ∧ userId.falsy = false then some (id :: userId.rooms)
      else before
  | .disconnect other => if other = id then none else before
  | .message _ _ => before

theorem distinct_handleConnection {hub : Hub} (hdistinct : hub.Distinct)
    {id : String} (hnew : hub.connected id = false) (userId : UserIdQuery) :
    (hub.handleConnection id userId).Distinct := by
  unfold Hub.handleConnection
  split
  · exact hdistinct
  · constructor
    simp only [List.map_append, List.map_cons, List.map_nil]
    apply List.Nodup.append hdistinct.nodup (List.nodup_singleton id)
    intro other hother hsame
    rw [List.mem_singleton] at hsame
    subst hsame
    obtain ⟨socket, hsocket, hid⟩ := List.mem_map.mp hother
    have hconnected := connected_iff.mpr ⟨socket, hsocket, hid⟩
    rw [hnew] at hconnected
    cases hconnected

theorem roomsOf_handleConnection {hub : Hub} {other : String}
    (hnew : hub.connected other = false) (userId : UserIdQuery) (id : String) :
    (hub.handleConnection other userId).roomsOf id =
      roomsAfter id (hub.roomsOf id) (.connect other userId) := by
  simp only [roomsAfter]
  unfold Hub.handleConnection
  cases hfalsy : userId.falsy with
  | true => simp
  | false =>
      unfold Hub.roomsOf
      simp only [Bool.false_eq_true, if_false, List.find?_append, and_true]
      by_cases hother : other = id
      · subst hother
        have hnone : hub.sockets.find? (fun socket => socket.id == other) =
            none := by
          rw [← Option.map_eq_none_iff]
          exact roomsOf_eq_none_iff.mpr hnew
        simp [hnone]
      · cases hub.sockets.find? (fun socket => socket.id == id) <;>
          simp [hother]

theorem roomsOf_handleDisconnect (hub : Hub) (other id : String) :
    (hub.handleDisconnect other).roomsOf id =
      roomsAfter id (hub.roomsOf id) (.disconnect other) := by
  simp only [roomsAfter]
  unfold Hub.handleDisconnect
  by_cases hother : other = id
  · subst hother
    rw [if_pos rfl]
    cases hconnected : hub.connected other with
    | true => simp [Hub.roomsOf]
    | false =>
        rw [if_neg (by simp)]
        exact roomsOf_eq_none_iff.mpr hconnected
  · rw [if_neg hother]
    cases hub.connected other with
    | false => simp
    | true =>
        have hkeep : (fun socket : Socket =>
            decide ((socket.id != other) = true ∧ (socket.id == id) = true)) =
              fun socket => socket.id == id := by
          funext socket
          by_cases hid : socket.id = id
          · simp [hid, Ne.symm hother]
          · simp [hid]
        unfold Hub.roomsOf
        simp only [if_true, List.find?_filter, hkeep]

/-- What one event means to one socket. -/
theorem socket_step {hub next : Hub} {event : HubEvent}
    (hdistinct : hub.Distinct) (hstep : hub.step event = some next)
    (id : String) :
    next.Distinct ∧ next.roomsOf id = roomsAfter id (hub.roomsOf id) event ∧
      next.received id = hub.received id ++
        ((hub.roomsOf id).elim [] fun rooms => noticesTo rooms event) := by
  cases event with
  | connect other userId =>
      simp only [Hub.step] at hstep
      split at hstep
      · cases hstep
      · rename_i hnew
        cases hstep
        rw [Bool.not_eq_true] at hnew
        refine ⟨distinct_handleConnection hdistinct hnew userId,
          roomsOf_handleConnection hnew userId id, ?_⟩
        have hsame : (hub.handleConnection other userId).received =
            hub.received := by
          unfold Hub.handleConnection
          split <;> rfl
        rw [hsame]
        cases hub.roomsOf id <;> simp [noticesTo]
  | disconnect other =>
      cases hstep
      refine ⟨?_, roomsOf_handleDisconnect hub other id, ?_⟩
      · unfold Hub.handleDisconnect
        split
        · constructor
          exact hdistinct.nodup.sublist
            (List.filter_sublist.map Socket.id)
        · exact hdistinct
      · have hsame : (hub.handleDisconnect other).received = hub.received := by
          unfold Hub.handleDisconnect
          split <;> rfl
        rw [hsame]
        cases hub.roomsOf id <;> simp [noticesTo]
  | message topic payload =>
      cases hstep
      obtain ⟨hreceived, hsockets⟩ :=
        received_eachMessage hdistinct topic payload id
      refine ⟨⟨?_⟩, ?_, hreceived⟩
      · rw [hsockets]
        exact hdistinct.nodup
      · unfold Hub.roomsOf roomsAfter
        rw [hsockets]

/-! ## Runs -/

theorem distinct_run {hub last : Hub} {events : List HubEvent}
    (hdistinct : hub.Distinct) (hrun : run Hub.step hub events = some last) :
    last.Distinct :=
  invariant_of_step
    (fun _ _ _ hdistinct hstep => (socket_step hdistinct hstep "").1)
    hdistinct hrun

/-- A socket that stays connected receives what is for its rooms. -/
theorem received_connected {hub last : Hub} {events : List HubEvent}
    {id : String} {rooms : List String} (hdistinct : hub.Distinct)
    (hrooms : hub.roomsOf id = some rooms)
    (hstays : .disconnect id ∉ events)
    (hrun : run Hub.step hub events = some last) :
    last.roomsOf id = some rooms ∧
      last.received id = hub.received id ++ events.flatMap (noticesTo rooms) := by
  induction events generalizing hub with
  | nil =>
      cases hrun
      exact ⟨hrooms, by simp⟩
  | cons event events ih =>
      obtain ⟨next, hstep, hrest⟩ := run_cons_eq_some.mp hrun
      rw [List.mem_cons, not_or] at hstays
      obtain ⟨hnext, hnextRooms, hreceived⟩ := socket_step hdistinct hstep id
      have hkept : next.roomsOf id = some rooms := by
        rw [hnextRooms]
        cases event with
        | connect other userId =>
            have hnew : hub.connected other = false := by
              simp only [Hub.step] at hstep
              split at hstep
              · cases hstep
              · rename_i hnew
                exact Bool.not_eq_true _ ▸ hnew
            have hne : other ≠ id := by
              intro hsame
              rw [hsame, ← roomsOf_eq_none_iff, hrooms] at hnew
              cases hnew
            simp [roomsAfter, hne, hrooms]
        | disconnect other =>
            have hne : other ≠ id := by
              intro hsame
              exact hstays.1 (by rw [hsame])
            simp [roomsAfter, hne, hrooms]
        | message topic payload => exact hrooms
      obtain ⟨hlast, htail⟩ := ih hnext hkept hstays.2 hrest
      refine ⟨hlast, ?_⟩
      rw [htail, hreceived, hrooms, List.flatMap_cons, List.append_assoc]
      rfl

/-- A socket that is not connected receives nothing. -/
theorem received_absent {hub last : Hub} {events : List HubEvent}
    {id : String} (hdistinct : hub.Distinct) (habsent : hub.roomsOf id = none)
    (hstays : ∀ userId : UserIdQuery, userId.falsy = false →
      .connect id userId ∉ events)
    (hrun : run Hub.step hub events = some last) :
    last.roomsOf id = none ∧ last.received id = hub.received id := by
  induction events generalizing hub with
  | nil =>
      cases hrun
      exact ⟨habsent, rfl⟩
  | cons event events ih =>
      obtain ⟨next, hstep, hrest⟩ := run_cons_eq_some.mp hrun
      obtain ⟨hnext, hnextRooms, hreceived⟩ := socket_step hdistinct hstep id
      have hkept : next.roomsOf id = none := by
        rw [hnextRooms]
        cases event with
        | connect other userId =>
            have hnot : ¬ (other = id ∧ userId.falsy = false) := by
              rintro ⟨hsame, htruthy⟩
              exact hstays userId htruthy (by rw [hsame]; simp)
            simp only [roomsAfter, if_neg hnot, habsent]
        | disconnect other => simp [roomsAfter, habsent]
        | message topic payload => exact habsent
      have hlater : ∀ userId : UserIdQuery, userId.falsy = false →
          .connect id userId ∉ events := by
        intro userId htruthy hmem
        exact hstays userId htruthy (List.mem_cons_of_mem _ hmem)
      obtain ⟨hlast, htail⟩ := ih hnext hkept hlater hrest
      refine ⟨hlast, ?_⟩
      rw [htail, hreceived, habsent]
      simp

/-- What a socket receives between its connection and its disconnection. -/
theorem received_session {hub last : Hub} {before during after : List HubEvent}
    {id : String} {userId : UserIdQuery} (hdistinct : hub.Distinct)
    (habsent : hub.roomsOf id = none) (hnamed : userId.falsy = false)
    (hbefore : ∀ query : UserIdQuery, query.falsy = false →
      .connect id query ∉ before)
    (hduring : .disconnect id ∉ during)
    (hafter : after = [] ∨ ∃ rest, after = .disconnect id :: rest ∧
      ∀ query : UserIdQuery, query.falsy = false → .connect id query ∉ rest)
    (hrun : run Hub.step hub
      (before ++ .connect id userId :: (during ++ after)) = some last) :
    last.received id = hub.received id ++
      during.flatMap (noticesTo (id :: userId.rooms)) := by
  rw [run_append] at hrun
  obtain ⟨first, hfirst, hrun⟩ := Option.bind_eq_some_iff.mp hrun
  obtain ⟨joined, hconnect, hrun⟩ := run_cons_eq_some.mp hrun
  rw [run_append] at hrun
  obtain ⟨left, hmiddle, hrun⟩ := Option.bind_eq_some_iff.mp hrun
  obtain ⟨hstill, hnothing⟩ := received_absent hdistinct habsent hbefore hfirst
  obtain ⟨hjoined, hrooms, hreceived⟩ :=
    socket_step (distinct_run hdistinct hfirst) hconnect id
  rw [hstill, hnothing, Option.elim_none, List.append_nil] at hreceived
  have hrooms : joined.roomsOf id = some (id :: userId.rooms) := by
    rw [hrooms]
    simp [roomsAfter, hnamed]
  obtain ⟨hleft, hall⟩ := received_connected hjoined hrooms hduring hmiddle
  rw [hreceived] at hall
  rcases hafter with hnil | ⟨rest, hleaves, hrest⟩
  · subst hnil
    cases hrun
    exact hall
  · subst hleaves
    obtain ⟨gone, hdisconnect, hrun⟩ := run_cons_eq_some.mp hrun
    obtain ⟨hgone, hgoneRooms, hgoneReceived⟩ :=
      socket_step (distinct_run hjoined hmiddle) hdisconnect id
    have hnone : gone.roomsOf id = none := by
      rw [hgoneRooms]
      simp [roomsAfter]
    have hsilent := (received_absent hgone hnone hrest hrun).2
    rw [hsilent, hgoneReceived, hleft, hall]
    simp [noticesTo]

/-- A socket receives exactly what was emitted to the room of its user, or to
its own, while it was connected, in the order of consumption; before and after
that, and if it named no user, it receives nothing. -/
theorem socket_receives_exactly (before during after : List HubEvent)
    (id : String) (userId : UserIdQuery) {last : Hub}
    (hnamed : userId.falsy = false)
    (hbefore : ∀ query : UserIdQuery, query.falsy = false →
      .connect id query ∉ before)
    (hduring : .disconnect id ∉ during)
    (hafter : after = [] ∨ ∃ rest, after = .disconnect id :: rest ∧
      ∀ query : UserIdQuery, query.falsy = false → .connect id query ∉ rest)
    (hrun : run Hub.step Hub.initial
      (before ++ .connect id userId :: (during ++ after)) = some last) :
    last.received id = during.flatMap (noticesTo (id :: userId.rooms)) := by
  have hinitial : Hub.initial.Distinct := ⟨List.nodup_nil⟩
  exact received_session hinitial rfl hnamed hbefore hduring hafter hrun

/-! ## Metrics -/

/-- What the handlers do for the messages of a run. -/
def effectsOf : HubEvent → List GatewayEffect
  | .message topic (some payload) => handler topic payload
  | _ => []

def GatewayEffect.sends (event : String) : GatewayEffect → Bool
  | .emitted _ name _ => name == event
  | .skipped _ => false

def GatewayEffect.skips (event : String) : GatewayEffect → Bool
  | .skipped name => name == event
  | .emitted _ _ _ => false

def HubEvent.consumed (topic : Subscription) : HubEvent → Bool
  | .message name (some _) => name == topic
  | _ => false

def HubEvent.failed (topic : Subscription) : HubEvent → Bool
  | .message name none => name == topic
  | _ => false

/-- The metrics have grown by what the events did. -/
structure Counted (hub last : Hub) (events : List HubEvent) : Prop where
  sent : ∀ name, last.notificationsSentTotal name =
    hub.notificationsSentTotal name +
      (events.flatMap effectsOf).countP (GatewayEffect.sends name)
  skipped : ∀ name, last.notificationsSkippedTotal name =
    hub.notificationsSkippedTotal name +
      (events.flatMap effectsOf).countP (GatewayEffect.skips name)
  consumed : ∀ topic, last.kafkaMessagesConsumedTotal topic =
    hub.kafkaMessagesConsumedTotal topic +
      events.countP (HubEvent.consumed topic)
  failed : ∀ topic, last.kafkaMessagesFailedTotal topic =
    hub.kafkaMessagesFailedTotal topic + events.countP (HubEvent.failed topic)

theorem update_count {κ : Type} [DecidableEq κ] (counts : κ → ℕ)
    (changed key : κ) :
    Function.update counts changed (counts changed + 1) key =
      counts key + if changed = key then 1 else 0 := by
  by_cases hkey : changed = key
  · subst hkey
    simp
  · rw [Function.update_of_ne (Ne.symm hkey), if_neg hkey]
    rfl

theorem counts_foldl_perform (effects : List GatewayEffect) (hub : Hub) :
    (∀ name, (effects.foldl Hub.perform hub).notificationsSentTotal name =
        hub.notificationsSentTotal name +
          effects.countP (GatewayEffect.sends name)) ∧
      (∀ name, (effects.foldl Hub.perform hub).notificationsSkippedTotal name =
        hub.notificationsSkippedTotal name +
          effects.countP (GatewayEffect.skips name)) ∧
      (effects.foldl Hub.perform hub).kafkaMessagesConsumedTotal =
        hub.kafkaMessagesConsumedTotal ∧
      (effects.foldl Hub.perform hub).kafkaMessagesFailedTotal =
        hub.kafkaMessagesFailedTotal ∧
      (effects.foldl Hub.perform hub).socketConnectionsActive =
        hub.socketConnectionsActive := by
  induction effects generalizing hub with
  | nil => simp
  | cons effect effects ih =>
      obtain ⟨hsent, hskipped, hconsumed, hfailed, hactive⟩ :=
        ih (hub.perform effect)
      rw [List.foldl_cons, hconsumed, hfailed, hactive]
      cases effect with
      | skipped event =>
          refine ⟨?_, ?_, rfl, rfl, rfl⟩
          · intro name
            rw [hsent, List.countP_cons]
            simp [Hub.perform, GatewayEffect.sends]
          · intro name
            rw [hskipped, List.countP_cons]
            simp only [Hub.perform, update_count, GatewayEffect.skips,
              beq_iff_eq]
            omega
      | emitted room event payload =>
          refine ⟨?_, ?_, rfl, rfl, rfl⟩
          · intro name
            rw [hsent, List.countP_cons]
            simp only [Hub.perform, update_count, GatewayEffect.sends,
              beq_iff_eq]
            omega
          · intro name
            rw [hskipped, List.countP_cons]
            simp [Hub.perform, GatewayEffect.skips]

theorem counted_step {hub next : Hub} {event : HubEvent}
    (hstep : hub.step event = some next) : Counted hub next [event] := by
  cases event with
  | connect id userId =>
      simp only [Hub.step] at hstep
      split at hstep
      · cases hstep
      · cases hstep
        unfold Hub.handleConnection
        split <;> constructor <;> intro _ <;>
          simp [effectsOf, HubEvent.consumed, HubEvent.failed]
  | disconnect id =>
      cases hstep
      unfold Hub.handleDisconnect
      split <;> constructor <;> intro _ <;>
        simp [effectsOf, HubEvent.consumed, HubEvent.failed]
  | message topic payload =>
      cases hstep
      cases payload with
      | none =>
          constructor
          · intro name
            simp [Hub.eachMessage, effectsOf]
          · intro name
            simp [Hub.eachMessage, effectsOf]
          · intro other
            simp [Hub.eachMessage, HubEvent.consumed]
          · intro other
            simp only [Hub.eachMessage, update_count, List.countP_singleton,
              HubEvent.failed, beq_iff_eq]
      | some payload =>
          obtain ⟨hsent, hskipped, hconsumed, hfailed, -⟩ :=
            counts_foldl_perform (handler topic payload) hub
          constructor
          · intro name
            simpa [Hub.eachMessage, effectsOf] using hsent name
          · intro name
            simpa [Hub.eachMessage, effectsOf] using hskipped name
          · intro other
            simp only [Hub.eachMessage, hconsumed, update_count,
              List.countP_singleton, HubEvent.consumed, beq_iff_eq]
          · intro other
            simp [Hub.eachMessage, hfailed, HubEvent.failed]

theorem counted_run {hub last : Hub} {events : List HubEvent}
    (hrun : run Hub.step hub events = some last) : Counted hub last events := by
  induction events generalizing hub with
  | nil =>
      cases hrun
      constructor <;> simp
  | cons event events ih =>
      obtain ⟨next, hstep, hrest⟩ := run_cons_eq_some.mp hrun
      have hone := counted_step hstep
      have hmore := ih hrest
      constructor
      · intro name
        rw [hmore.sent, hone.sent]
        simp only [List.flatMap_cons, List.flatMap_nil, List.append_nil,
          List.countP_append]
        omega
      · intro name
        rw [hmore.skipped, hone.skipped]
        simp only [List.flatMap_cons, List.flatMap_nil, List.append_nil,
          List.countP_append]
        omega
      · intro topic
        rw [hmore.consumed, hone.consumed]
        simp only [List.countP_cons, List.countP_nil]
        omega
      · intro topic
        rw [hmore.failed, hone.failed]
        simp only [List.countP_cons, List.countP_nil]
        omega

/-- The gauge is the number of sockets that are connected with a user. -/
theorem active_step {hub next : Hub} {event : HubEvent}
    (hdistinct : hub.Distinct)
    (hactive : hub.socketConnectionsActive = hub.sockets.length)
    (hstep : hub.step event = some next) :
    next.socketConnectionsActive = next.sockets.length := by
  cases event with
  | connect id userId =>
      simp only [Hub.step] at hstep
      split at hstep
      · cases hstep
      · cases hstep
        unfold Hub.handleConnection
        split
        · exact hactive
        · simp [hactive]
  | disconnect id =>
      cases hstep
      unfold Hub.handleDisconnect
      split
      · rename_i hconnected
        obtain ⟨socket, hsocket, hid⟩ := connected_iff.mp hconnected
        subst hid
        have hrest : (hub.sockets.filter fun other => other.id != socket.id) =
            hub.sockets.erase socket := by
          rw [(List.Nodup.of_map Socket.id hdistinct.nodup).erase_eq_filter]
          apply List.filter_congr
          intro other hother
          rw [Bool.eq_iff_iff, bne_iff_ne, bne_iff_ne, not_iff_not]
          constructor
          · exact List.inj_on_of_nodup_map hdistinct.nodup hother hsocket
          · intro hsame
            rw [hsame]
        have hlength := List.length_erase_of_mem hsocket
        have hpositive := List.length_pos_of_mem hsocket
        simp only [hrest, hactive]
        omega
      · exact hactive
  | message topic payload =>
      cases hstep
      cases payload with
      | none => exact hactive
      | some payload =>
          have hcounts := counts_foldl_perform (handler topic payload) hub
          have hsockets :=
            (received_foldl_perform (handler topic payload) hdistinct "").2
          simp only [Hub.eachMessage, hcounts.2.2.2.2, hsockets, hactive]

/-- In every run the gauge is the number of connected sockets, every message
is counted once, as consumed or as failed, and every emission and every
skipped notification is counted once. -/
theorem metrics_account {events : List HubEvent} {last : Hub}
    (hrun : run Hub.step Hub.initial events = some last) :
    last.socketConnectionsActive = last.sockets.length ∧
      Counted Hub.initial last events := by
  refine ⟨?_, counted_run hrun⟩
  have hinv : last.Distinct ∧
      last.socketConnectionsActive = last.sockets.length := by
    apply invariant_of_step _ _ hrun
    · intro hub event next hinv hstep
      exact ⟨(socket_step hinv.1 hstep "").1,
        active_step hinv.1 hinv.2 hstep⟩
    · exact ⟨⟨List.nodup_nil⟩, rfl⟩
  exact hinv.2

/-! ## Two sockets -/

def rideAssigned : JsObject where
  entries :=
    [("rideId", .string "r"), ("riderId", .string "ann"),
      ("driverId", .string "dan")]
  nodup := by simp

/-- Ann is there before the driver is found, Dan only when the ride is over. -/
def annListens : List HubEvent :=
  [.connect "s1" (.one "ann"), .connect "s2" .absent,
    .message .driverAssigned (some rideAssigned), .message .paymentFailed none,
    .connect "s3" (.one "dan"), .message .rideCompleted (some rideAssigned),
    .disconnect "s2"]

theorem annListens_run :
    (run Hub.step Hub.initial annListens).isSome = true := by
  decide +kernel

theorem ann_receives :
    ∃ last, run Hub.step Hub.initial annListens = some last ∧
      last.received "s1" = (annListens.drop 1).flatMap
        (noticesTo ["s1", "ann"]) := by
  obtain ⟨last, hrun⟩ := Option.isSome_iff_exists.mp annListens_run
  refine ⟨last, hrun, ?_⟩
  apply socket_receives_exactly [] (annListens.drop 1) [] "s1" (.one "ann")
  · rfl
  · simp
  · simp [annListens]
  · exact Or.inl rfl
  · exact hrun

theorem annListens_counted :
    ∃ last, run Hub.step Hub.initial annListens = some last ∧
      last.socketConnectionsActive = last.sockets.length ∧
      Counted Hub.initial last annListens := by
  obtain ⟨last, hrun⟩ := Option.isSome_iff_exists.mp annListens_run
  exact ⟨last, hrun, metrics_account hrun⟩

end FakeBolt.Notification
