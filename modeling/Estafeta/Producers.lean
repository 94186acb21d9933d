import Estafeta.Histories
import Estafeta.Requests

/-!
# What a producer can change

`producer_mark_read` asks Keto about the service that the request names, and then updates rows by
recipient and id only: nothing ties the rows to the service.
-/

open Relational Atomic

namespace Estafeta

/-- The notification belongs to the service with the slug. -/
def World.OfService (w : World) (slug : String) (r : NotificationRow) : Prop :=
  ∃ s, w.db.services.lookup (.id r.serviceId) = some s ∧ s.slug = slug

/-- Notifications of other services than the one with the slug are unchanged. -/
def Confined (slug : String) (w w' : World) : Prop :=
  ∀ r ∈ w.db.notifications.rows, ¬ w.OfService slug r → w'.notification r.id = some r

/-- What the handler does when Keto allows the call: it parses the ids and runs its statement. -/
theorem run_producerMarkRead (ext : Ext) (c : AuthClaims) (req : ProducerMarkReadRequest)
    (x : ℕ → Choice) (w : World) (allowed : Keto.allowed (x 0).keto = .ok true) :
    ((NotificationService.producerMarkRead ext (some c) req).run (exec ext) x w).2 =
      match NotificationService.parseUuids ext req.notificationIds with
      | .ok ids =>
        (execSql ext (x 1) (.notifications (.producerMarkRead req.recipientUserId ids)) w).2
      | .error _ => w := by
  have claimed : AuthClaims.fromExtensions (some c) = Prog.ret c := rfl
  unfold NotificationService.producerMarkRead
  rw [claimed, Prog.ret_bind, run_requireServiceSend, allowed]
  dsimp only
  rcases NotificationService.parseUuids ext req.notificationIds with e | ids
  · rfl
  · show ((ext.query _ >>= fun _ => Prog.ret ()).run (exec ext) (fun n => x (n + 1)) w).2 =
      (execSql ext (x 1) (.notifications (.producerMarkRead req.recipientUserId ids)) w).2
    rw [run_query]
    rcases execSql ext (x (0 + 1)) (.notifications (.producerMarkRead req.recipientUserId ids)) w with
      ⟨e | n, w'⟩ <;> rfl

/-- A producer that Keto allows changes a notification of another service exactly if its statement
runs and one of the ids is that of an unread notification of the recipient. -/
theorem producerMarkRead_confined_iff (ext : Ext) (c : AuthClaims) (req : ProducerMarkReadRequest)
    (x : ℕ → Choice) (w : World) (allowed : Keto.allowed (x 0).keto = .ok true) :
    Confined req.serviceSlug w
        ((NotificationService.producerMarkRead ext (some c) req).run (exec ext) x w).2 ↔
      ¬ ((x 1).failure = none ∧ ∃ ids,
        NotificationService.parseUuids ext req.notificationIds = .ok ids ∧
          ∃ r ∈ w.db.notifications.rows, r.recipientUserId = req.recipientUserId ∧ r.id ∈ ids ∧
            r.state = "unread" ∧ ¬ w.OfService req.serviceSlug r) := by
  rw [run_producerMarkRead ext c req x w allowed]
  rcases parsed : NotificationService.parseUuids ext req.notificationIds with e | ids
  · refine iff_of_true (fun r hr _ => Table.lookup_of_mem hr (.head _)) ?_
    rintro ⟨_, _, h, _⟩
    cases h
  rcases failure : (x 1).failure with _ | e
  · have ran : ∀ r ∈ w.db.notifications.rows, (execSql ext (x 1)
        (.notifications (.producerMarkRead req.recipientUserId ids)) w).2.notification r.id =
        some ((Db.Notifications.Query.producerMarkRead req.recipientUserId ids).rewrite
          ((x 1).env ext) w.db r) := by
      intro r hr
      have stored : w.notification r.id = some r := Table.lookup_of_mem hr (.head _)
      refine notification_of_ran (o := .sql _) ?_ stored
      simp [exec, execSql, failure, Sql.instants, Sql.exec, Db.Notifications.Query.exec,
        Db.Notifications.execute, Estafeta.ran]
    have changes : ∀ r, (Db.Notifications.Query.producerMarkRead req.recipientUserId ids).changes
        ((x 1).env ext) w.db r = true ↔
        r.recipientUserId = req.recipientUserId ∧ r.id ∈ ids ∧ r.state = "unread" := by
      intro r
      simp [Db.Notifications.Query.changes, Db.Notifications.Query.addresses,
        Db.Notifications.Query.sources, Db.Notifications.Query.batched, and_assoc]
    constructor
    · rintro confined ⟨_, _, same, r, hr, recipient, listed, unread, other⟩
      cases same
      have kept := (ran r hr).symm.trans (confined r hr other)
      rw [Db.Notifications.Query.rewrite, if_pos ((changes r).2 ⟨recipient, listed, unread⟩)] at kept
      have state := congrArg (·.map (·.state)) kept
      rw [Option.map_some, Option.map_some, unread] at state
      refine absurd (Option.some.inj state) ?_
      show "read" ≠ "unread"
      decide
    · intro none r hr other
      rw [ran r hr, Db.Notifications.Query.rewrite, if_neg]
      intro changed
      obtain ⟨recipient, listed, unread⟩ := (changes r).1 changed
      exact none ⟨rfl, ids, rfl, r, hr, recipient, listed, unread, other⟩
  · refine iff_of_true (fun r hr _ => ?_) fun h => by cases h.1
    have stored : w.notification r.id = some r := Table.lookup_of_mem hr (.head _)
    simpa [execSql, failure] using stored

/-- A request of a producer of the service `chat` that names a notification of `mail`. -/
def Sample.chatRequest : ProducerMarkReadRequest where
  recipientUserId := "ann"
  notificationIds := ["3"]
  serviceSlug := "chat"

theorem producerMarkRead_confined_iff_chat :
    Confined "chat" (Sample.world (.single (Sample.notification "unread") rfl) [])
        ((NotificationService.producerMarkRead Sample.ext (some Sample.ann)
          Sample.chatRequest).run (exec Sample.ext) (fun _ => Sample.choice)
          (Sample.world (.single (Sample.notification "unread") rfl) [])).2 ↔
      ¬ (Sample.choice.failure = none ∧ ∃ ids,
        NotificationService.parseUuids Sample.ext ["3"] = .ok ids ∧
          ∃ r ∈ [Sample.notification "unread"], r.recipientUserId = "ann" ∧ r.id ∈ ids ∧
            r.state = "unread" ∧
            ¬ (Sample.world (.single (Sample.notification "unread") rfl) []).OfService "chat" r) :=
  producerMarkRead_confined_iff Sample.ext Sample.ann Sample.chatRequest (fun _ => Sample.choice)
    (Sample.world (.single (Sample.notification "unread") rfl) []) rfl

/-- A producer that may send for `chat` marks a notification of `mail` as read. -/
theorem not_producerMarkRead_confined : ¬ ∀ (ext : Ext) (c : AuthClaims)
    (req : ProducerMarkReadRequest) (x : ℕ → Choice) (w : World),
    Keto.allowed (x 0).keto = .ok true → Confined req.serviceSlug w
      ((NotificationService.producerMarkRead ext (some c) req).run (exec ext) x w).2 := by
  intro confined
  have other : ¬ (Sample.world (.single (Sample.notification "unread") rfl) []).OfService "chat"
      (Sample.notification "unread") := by
    rintro ⟨s, stored, slug⟩
    cases stored
    exact absurd slug (by decide)
  have kept := confined Sample.ext Sample.ann Sample.chatRequest (fun _ => Sample.choice)
    (Sample.world (.single (Sample.notification "unread") rfl) []) rfl _ (.head _) other
  have state := congrArg (·.map (·.state)) kept
  exact absurd state (by decide)

end Estafeta
