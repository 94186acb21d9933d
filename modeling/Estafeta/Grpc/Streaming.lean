import Estafeta.Lib.Subjects
import Estafeta.Processing.Processor
import Estafeta.Lifecycle.Scheduler
import Estafeta.Lifecycle.StateMachine
import Estafeta.Auth.Keto

/-!
# Streaming service

`grpc/streaming.rs`: a client subscribes to the real-time subjects of its user, and a task relays the
messages of the two subscriptions to the client. NATS puts a message into each subscription whose
subject accepts the subject of the message.
-/

open Atomic

namespace Estafeta

structure SubscribeRequest where
  serviceSlugs : List String
  includeStateChanges : Bool

structure NewNotification where
  id : String
  serviceSlug : String
  notificationType : String
  level : String
  payload : Option Struct
  groupKey : String
  metadata : List (String × String)
  createdAt : Option Timestamp
  expiresAt : Option Timestamp
  actionUrl : String
  icon : String

structure StateChange where
  notificationId : String
  oldState : Int32
  newState : Int32
  changedAt : Option Timestamp

structure UnseenCountUpdate where
  totalCount : Int64
  countByService : List (String × Int64)

inductive NotificationEvent where
  | newNotification (n : NewNotification)
  | stateChange (c : StateChange)
  | unseenCountUpdate (u : UnseenCountUpdate)

/-! ## NATS -/

namespace Nats

/-- The tokens of a subject. -/
def tokens (subject : String) : List (List Char) := subject.toList.splitOn '.'

/-- A subscription to a subject receives what is published to another one. -/
def accepts (subscription subject : String) : Bool :=
  Subjects.accepts ['*'] ['>'] (tokens subscription) (tokens subject)

end Nats

/-- The two ways in which the server publishes an event for a user. -/
inductive Publication where
  | realtime (userId : String) (event : RealtimeEvent)
  | stateChange (userId : String) (event : RealtimeEvent)

namespace Publication

def userId : Publication → String
  | realtime userId _ => userId
  | stateChange userId _ => userId

def event : Publication → RealtimeEvent
  | realtime _ event => event
  | stateChange _ event => event

def subject : Publication → String
  | realtime userId _ => s!"rt.user.{userId}"
  | stateChange userId _ => s!"rt.user.{userId}.state"

/-- What a subscriber reads of the text of the event. -/
def received (ext : Ext) (p : Publication) : RealtimeEvent := p.event.reread ext.floatText

/-- How the server publishes it. -/
def publish : Publication → Program String Unit
  | realtime userId event => publishRealtime userId event
  | stateChange userId event => publishStateChange userId event

theorem publish_eq (p : Publication) :
    p.publish = perform (.publish p.subject p.event) >>= fun _ => .ret () := by
  cases p <;> rfl

end Publication

/-! ## Subscribing -/

/-- What a client has subscribed to: the second subscription only exists if it asked for state
changes. -/
structure Subscription where
  userId : String
  newSub : String
  stateSub : Option String
  serviceFilter : List String

namespace StreamingService

/-- Subscribe to a subject of NATS, which may fail. -/
def natsSubscribe (nats : String → Except String Unit) (subject : String) : Program Status Unit :=
  Prog.ofExcept ((nats subject).mapError fun e => Status.internal s!"nats subscribe failed: {e}")

def subscribe (nats : String → Except String Unit) (extensions : Option AuthClaims)
    (req : SubscribeRequest) : Program Status Subscription := do
  let claims ← AuthClaims.fromExtensions extensions
  let userId := claims.subject
  let newNotifSubject := s!"rt.user.{userId}"
  let stateChangeSubject := s!"rt.user.{userId}.state"
  natsSubscribe nats newNotifSubject
  if req.includeStateChanges then natsSubscribe nats stateChangeSubject
  return {
    userId := userId
    newSub := newNotifSubject
    stateSub := if req.includeStateChanges then some stateChangeSubject else none
    serviceFilter := req.serviceSlugs }

/-! ## Relaying -/

/-- The arms of the task's `select!`. -/
inductive Branch where
  | newNotification
  | stateChange
  deriving DecidableEq

variable (ext : Ext)

/-- What the first arm makes of an event, unless the client has filtered out its service. -/
def newNotification (serviceFilter : List String) (event : RealtimeEvent) :
    Option NotificationEvent :=
  if !serviceFilter.isEmpty && !serviceFilter.contains event.serviceSlug then none
  else some (.newNotification
    { id := ext.showUuid event.notificationId
      serviceSlug := event.serviceSlug
      notificationType := event.notificationType
      level := event.level.getD ""
      payload := event.payload.bind valueToProtoStruct
      groupKey := event.groupKey.getD ""
      metadata := event.metadata.getD []
      createdAt := none
      expiresAt := none
      actionUrl := event.actionUrl.getD ""
      icon := event.icon.getD "" })

/-- The protocol value of a state's name. -/
def stateToProto (name : Option String) : Int32 :=
  match NotificationState.fromDbStr (name.getD "") with
  | .ok s => s.toProto
  | .error _ => 0

/-- What the second arm makes of an event. -/
def stateChange (event : RealtimeEvent) : NotificationEvent :=
  .stateChange
    { notificationId := ext.showUuid event.notificationId
      oldState := stateToProto event.oldState
      newState := stateToProto event.newState
      changedAt := none }

/-- An event that the client has been sent, with the arm it came through and what it was made of. -/
structure Delivery where
  branch : Branch
  publication : Publication
  event : NotificationEvent

/-- A stream: the messages that wait in the subscriptions, what the client has been sent, and whether
the task has found the client disconnected. -/
structure Stream where
  pending : Branch → List Publication
  sent : List Delivery
  ended : Bool

/-- A stream that has just been opened. -/
def Stream.opened : Stream where
  pending _ := []
  sent := []
  ended := false

/-- The subject of the subscription that an arm reads. -/
def subscription (sub : Subscription) : Branch → Option String
  | .newNotification => some sub.newSub
  | .stateChange => sub.stateSub

/-- What an arm makes of an event. -/
def relay (sub : Subscription) : Branch → RealtimeEvent → Option NotificationEvent
  | .newNotification, event => newNotification ext sub.serviceFilter event
  | .stateChange, event => some (stateChange ext event)

/-- What happens to a stream: the server publishes an event, or the task takes a message from one of
the subscriptions while the client is connected or not. -/
inductive Action where
  | publish (publication : Publication)
  | take (branch : Branch) (connected : Bool)

/-- NATS puts a message into the subscriptions that receive it. -/
def deliver (sub : Subscription) (publication : Publication) (s : Stream) : Stream :=
  { s with
    pending := fun b =>
      if (subscription sub b).any fun subject => Nats.accepts subject publication.subject then
        s.pending b ++ [publication]
      else s.pending b }

/-- One iteration of the task, in the arm of a subscription that has a message: it relays what it reads
of the text of the event. -/
def iterate (sub : Subscription) (branch : Branch) (connected : Bool) (s : Stream) :
    Option Stream :=
  match s.ended, s.pending branch with
  | false, publication :: rest =>
    let taken := { s with pending := Function.update s.pending branch rest }
    match relay ext sub branch (publication.received ext) with
    | none => some taken
    | some event =>
      if connected then
        some { taken with sent := taken.sent ++ [⟨branch, publication, event⟩] }
      else some { taken with ended := true }
  | _, _ => none

/-- Perform an action, if it is possible. -/
def act (sub : Subscription) (s : Stream) : Action → Option Stream
  | .publish publication => some (deliver sub publication s)
  | .take branch connected => iterate ext sub branch connected s

/-- The states that a stream can reach. -/
inductive Reached (sub : Subscription) : Stream → Prop where
  | opened : Reached sub .opened
  | act {s s' : Stream} (a : Action) : Reached sub s → act ext sub s a = some s' → Reached sub s'

end StreamingService

end Estafeta
