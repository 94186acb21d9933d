import Estafeta.Filters

/-!
# Kinds of events

Every message of the real-time subjects is a `RealtimeEvent`, which says of what kind it is. The task
of a stream does not look at the kind: what comes through the first arm is relayed as a new
notification, and what comes through the second as a state change. So an event arrives as what it is
just when it was published in the way that is meant for its kind, and its payload survives its text
(`relayed_iff`), and an update of the count never does.
-/

open Atomic

namespace Estafeta

/-- A value of `NotificationState` stands for the name of a state. -/
def StateValue (value : Int32) : Option String → Prop
  | none => value = 0
  | some name => ∃ s, NotificationState.fromDbStr name = .ok s ∧ value = s.toProto

/-- A client has been sent an event as what it is. -/
def RealtimeEvent.Carried (ext : Ext) (event : RealtimeEvent) : NotificationEvent → Prop
  | .newNotification n =>
    event.eventType = .newNotification ∧ n.id = ext.showUuid event.notificationId ∧
      n.serviceSlug = event.serviceSlug ∧ n.notificationType = event.notificationType ∧
      n.level = event.level.getD "" ∧ n.payload.map some = event.payload.map valueToProtoStruct ∧
      n.groupKey = event.groupKey.getD "" ∧ n.metadata = event.metadata.getD [] ∧
      n.actionUrl = event.actionUrl.getD "" ∧ n.icon = event.icon.getD ""
  | .stateChange c =>
    event.eventType = .stateChange ∧ c.notificationId = ext.showUuid event.notificationId ∧
      StateValue c.oldState event.oldState ∧ StateValue c.newState event.newState
  | .unseenCountUpdate u =>
    event.eventType = .unseenCountUpdate ∧ event.unseenCount = some u.totalCount

/-- The name of a state, if there is one, is known. -/
def Known (name : Option String) : Prop :=
  ∀ n, name = some n → ∃ s, NotificationState.fromDbStr n = .ok s

/-- An event comes only through the arm that is meant for its kind, unless it is filtered out, and it
has a payload and states that the protocol has values for; the payload is read of its text as it is. -/
structure Publication.Meant (ext : Ext) (req : SubscribeRequest) (pub : Publication) : Prop where
  first : pub.branch = .newNotification ∨ Nats.accepts pub.userId (pub.userId ++ ".state") = true →
    req.serviceSlugs = [] ∨ pub.event.serviceSlug ∈ req.serviceSlugs →
    pub.event.eventType = .newNotification ∧
      ∀ v, pub.event.payload = some v →
        (valueToProtoStruct v).isSome = true ∧ v.survives ext.floatText = true
  second : req.includeStateChanges = true → pub.branch = .stateChange →
    pub.event.eventType = .stateChange ∧ Known pub.event.oldState ∧ Known pub.event.newState

open StreamingService

section

variable {ext : Ext} {sub : Subscription} {event : RealtimeEvent} {name : Option String}
  {n : NotificationEvent}

theorem stateValue_iff : StateValue (stateToProto name) name ↔ Known name := by
  cases name with
  | none => exact iff_of_true rfl nofun
  | some name =>
    show (∃ s, NotificationState.fromDbStr name = .ok s ∧ stateToProto (some name) = s.toProto) ↔ _
    constructor
    · rintro ⟨s, known, -⟩ _ ⟨⟩
      exact ⟨s, known⟩
    · intro known
      obtain ⟨s, known⟩ := known name rfl
      refine ⟨s, known, ?_⟩
      unfold stateToProto
      rw [Option.getD_some, known]

/-- A value has a struct, and that is the one of its text, if it is an object that survives its
text. -/
theorem struct_reread_iff {floatText : FiniteF64 → FiniteF64} (v : Json) :
    (valueToProtoStruct (v.reread floatText)).map some = some (valueToProtoStruct v) ↔
      (valueToProtoStruct v).isSome = true ∧ v.survives floatText = true := by
  cases v with
  | object fields =>
    simp only [Json.reread, Json.survives, valueToProtoStruct, Option.map_some, Option.some.injEq,
      Struct.mk.injEq, Option.isSome_some, true_and]
    exact jsonToProtoFields_reread fields
  | _ => exact iff_of_false nofun nofun

/-- The text of a payload becomes the struct of its value, if that has one and survives. -/
theorem payload_iff {floatText : FiniteF64 → FiniteF64} {payload : Option Json} :
    ((payload.map (·.reread floatText)).bind valueToProtoStruct).map some =
        payload.map valueToProtoStruct ↔
      ∀ v, payload = some v → (valueToProtoStruct v).isSome = true ∧ v.survives floatText = true := by
  cases payload with
  | none => exact iff_of_true rfl nofun
  | some v =>
    simp only [Option.map_some, Option.bind_some, Option.some.injEq, forall_eq']
    exact struct_reread_iff v

/-- What the first arm makes of the text of an event carries the event if it is a new notification
whose payload survives. -/
theorem carried_new
    (relayed : relay ext sub .newNotification (event.reread ext.floatText) = some n) :
    event.Carried ext n ↔ event.eventType = .newNotification ∧ ∀ v, event.payload = some v →
      (valueToProtoStruct v).isSome = true ∧ v.survives ext.floatText = true := by
  have relayed : newNotification ext sub.serviceFilter (event.reread ext.floatText) = some n := relayed
  unfold newNotification at relayed
  split at relayed
  · cases relayed
  · cases relayed
    rw [← payload_iff]
    constructor
    · rintro ⟨kind, -, -, -, -, payload, -⟩
      exact ⟨kind, payload⟩
    · rintro ⟨kind, payload⟩
      exact ⟨kind, rfl, rfl, rfl, rfl, payload, rfl, rfl, rfl, rfl⟩

/-- What the second arm makes of an event carries it if it is a state change. -/
theorem carried_state (relayed : relay ext sub .stateChange (event.reread ext.floatText) = some n) :
    event.Carried ext n ↔
      event.eventType = .stateChange ∧ Known event.oldState ∧ Known event.newState := by
  cases relayed
  rw [← stateValue_iff, ← stateValue_iff]
  constructor
  · rintro ⟨kind, -, states⟩
    exact ⟨kind, states⟩
  · rintro ⟨kind, states⟩
    exact ⟨kind, rfl, states⟩

end

/-- In every stream of a user, what has been sent of an event that was published for the user is what
the event says it is, if and only if the event was published in the way that is meant for its kind,
the protocol can represent it, and its payload survives its text. -/
theorem relayed_iff (ext : Ext) {nats : String → Except String Unit} {claims : AuthClaims}
    {req : SubscribeRequest} {sub : Subscription}
    (opened : subscribe nats (some claims) req = .ret sub) (pub : Publication)
    (own : pub.userId = claims.subject) :
    (∀ s, StreamingService.Reached ext sub s → ∀ d ∈ s.sent, d.publication = pub →
      pub.event.Carried ext d.event) ↔ pub.Meant ext req := by
  constructor
  · intro carried
    have arm : ∀ b n, Receives sub b pub → relay ext sub b (pub.received ext) = some n →
        pub.event.Carried ext n := by
      intro b n received relayed
      obtain ⟨s, reached, sent⟩ := sent_of_relay received relayed
      exact carried s reached _ sent rfl
    constructor
    · intro received listed
      obtain ⟨n, relayed⟩ := Option.isSome_iff_exists.1
        ((isSome_new ext opened (pub.received ext)).2 listed)
      exact (carried_new relayed).1 (arm _ n ((receives_new opened own).2 received) relayed)
    · intro included way
      have relayed : relay ext sub .stateChange (pub.received ext) =
        some (stateChange ext (pub.received ext)) := rfl
      exact (carried_state relayed).1 (arm _ _ ((receives_state opened own).2 ⟨included, way⟩)
        relayed)
  · rintro meant s reached ⟨b, pub, n⟩ sent rfl
    have received := (reached_sound reached).sent _ sent
    have relayed := reached_relayed reached _ sent
    cases b with
    | newNotification =>
      refine (carried_new relayed).2 (meant.first ((receives_new opened own).1 received) ?_)
      exact (isSome_new ext opened (pub.received ext)).1 (Option.isSome_iff_exists.2 ⟨n, relayed⟩)
    | stateChange =>
      obtain ⟨included, way⟩ := (receives_state opened own).1 received
      exact (carried_state relayed).2 (meant.second included way)

theorem not_carried_unseenCountUpdate {ext : Ext} {sub : Subscription} {event : RealtimeEvent}
    {b : Branch} {n : NotificationEvent} (update : event.eventType = .unseenCountUpdate)
    (relayed : relay ext sub b (event.reread ext.floatText) = some n) : ¬ event.Carried ext n := by
  cases b with
  | newNotification =>
    rw [carried_new relayed, update]
    exact fun carried => nomatch carried.1
  | stateChange =>
    rw [carried_state relayed, update]
    exact fun carried => nomatch carried.1

namespace Sample

/-- The event that `ann` has five unseen notifications. -/
def countEvent : RealtimeEvent where
  eventType := .unseenCountUpdate
  notificationId := 0
  serviceSlug := ""
  notificationType := ""
  level := none
  payload := none
  groupKey := none
  metadata := none
  oldState := none
  newState := none
  unseenCount := some 5
  actionUrl := none
  icon := none

/-- A state change of a letter. -/
def readEvent : RealtimeEvent :=
  stateChangeEvent (notification "read") (some "unread") (some "read")

/-- Third-party functions that read one half of the text of any float. -/
def lossyExt : Ext := { ext with floatText := fun _ => ⟨⟨4602678819172646912⟩, by decide⟩ }

/-- The announcement of a letter with a payload. -/
def letterEvent (payload : Json) : RealtimeEvent where
  eventType := .newNotification
  notificationId := 3
  serviceSlug := "mail"
  notificationType := "letter"
  level := none
  payload := some payload
  groupKey := none
  metadata := none
  oldState := none
  newState := none
  unseenCount := none
  actionUrl := none
  icon := none

/-- What `ann` has subscribed to. -/
def everySub : Subscription := ⟨"ann", "rt.user.ann", some "rt.user.ann.state", []⟩

/-- The stream of `ann` after an event was published for her and relayed. -/
def relayedTo (pub : Publication) : Stream :=
  (actAll ext everySub .opened [.publish pub, .take pub.branch true]).getD .opened

end Sample

open Sample in
/-- A state change arrives as what it is; an announcement does if there is no float in its payload. -/
theorem relayed_iff_read : ((relayedTo (.stateChange "ann" readEvent)).sent.length = 1 ∧
    ∀ d ∈ (relayedTo (.stateChange "ann" readEvent)).sent, readEvent.Carried ext d.event) ∧
    (∀ s, StreamingService.Reached lossyExt everySub s → ∀ d ∈ s.sent,
      d.publication = .realtime "ann" (letterEvent (.object [("n", .number (.posInt 7))])) →
      (letterEvent (.object [("n", .number (.posInt 7))])).Carried lossyExt d.event) ∧
    ¬ ∀ s, StreamingService.Reached lossyExt everySub s → ∀ d ∈ s.sent,
      d.publication = .realtime "ann" (letterEvent (.object [("n", .number (.float .zero rfl))])) →
      (letterEvent (.object [("n", .number (.float .zero rfl))])).Carried lossyExt d.event := by
  have opened : subscribe (fun _ => .ok ()) (some ann) ⟨[], true⟩ = .ret everySub := rfl
  refine ⟨⟨rfl, fun d sent => ?_⟩, ?_, ?_⟩
  · have reached : StreamingService.Reached ext everySub (relayedTo (.stateChange "ann" readEvent)) :=
      (Reached.opened.act (.publish (.stateChange "ann" readEvent)) rfl).act (.take .stateChange true)
        rfl
    refine (relayed_iff ext opened (.stateChange "ann" readEvent) rfl).2
      ⟨?_, fun _ _ => ⟨rfl, ?_, ?_⟩⟩ _ reached d sent ?_
    · rintro (way | crossing)
      · cases way
      · exact absurd crossing (by decide)
    · rintro _ ⟨⟩
      exact ⟨.unread, rfl⟩
    · rintro _ ⟨⟩
      exact ⟨.read, rfl⟩
    · cases List.mem_singleton.1 sent
      rfl
  · refine (relayed_iff lossyExt opened (.realtime "ann" (letterEvent _)) rfl).2
      ⟨fun _ _ => ⟨rfl, ?_⟩, fun _ way => by cases way⟩
    rintro _ ⟨⟩
    exact ⟨rfl, rfl⟩
  · intro carried
    have meant := (relayed_iff lossyExt opened (.realtime "ann" (letterEvent _)) rfl).1 carried
    have survives := ((meant.first (.inl rfl) (.inl rfl)).2 _ rfl).2
    exact absurd survives (by decide)

open Sample in
/-- An update of the count is relayed as a new notification. -/
theorem not_relayed : ¬ ∀ (ext : Ext) (nats : String → Except String Unit) (claims : AuthClaims)
    (req : SubscribeRequest) (sub : Subscription) (pub : Publication),
    subscribe nats (some claims) req = .ret sub → pub.userId = claims.subject →
    ∀ s, StreamingService.Reached ext sub s → ∀ d ∈ s.sent, d.publication = pub →
      pub.event.Carried ext d.event := by
  intro carried
  have reached : StreamingService.Reached ext everySub (relayedTo (.realtime "ann" countEvent)) :=
    (Reached.opened.act (.publish (.realtime "ann" countEvent)) rfl).act (.take .newNotification true)
      rfl
  have wrong := carried ext (fun _ => .ok ()) ann ⟨[], true⟩ everySub (.realtime "ann" countEvent)
    rfl rfl _ reached _ (.head _) rfl
  cases wrong.1

end Estafeta
