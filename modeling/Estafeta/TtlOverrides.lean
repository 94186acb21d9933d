import Estafeta.PolicyBounds
import Estafeta.Fidelity

/-!
# The TTL of a request

A request may carry a TTL of its own, and its message carries it to the processor, which dates the
notification by the default of the type alone. So a notification expires as its request says exactly if
the request leaves the TTL to the type, or asks for the one that the type has anyway.
-/

open Relational Atomic

namespace Estafeta

/-- When the notification of a request is to expire if it is processed at `t`: as the request says, else
as the type does. -/
def SendNotificationRequest.expiry (req : SendNotificationRequest) (nt : NotificationTypeRow)
    (t : Time) : Option Time :=
  if 0 < req.ttlSeconds then some (t + Duration.seconds req.ttlSeconds)
  else nt.defaultTtlSeconds.map fun ttl => t + Duration.seconds ttl

/-- The default of the type is what the request says if the request says nothing, or the same. -/
theorem default_eq_expiry {req : SendNotificationRequest} {nt : NotificationTypeRow} {t : Time} :
    (nt.defaultTtlSeconds.map fun ttl => t + Duration.seconds ttl) = req.expiry nt t ↔
      (0 < req.ttlSeconds → nt.defaultTtlSeconds = some req.ttlSeconds) := by
  unfold SendNotificationRequest.expiry
  split
  next positive =>
    rw [Option.map_eq_some_iff]
    constructor
    · rintro ⟨ttl, default, same⟩ _
      rw [default, seconds_inj.1 same]
    · exact fun default => ⟨_, default positive, rfl⟩
  next none => exact ⟨fun _ positive => absurd positive none, fun _ => rfl⟩

section

variable {ext : Ext} {w₀ : World} {es pre post : History} {p : State} {inst i seq : ℕ}
  {req : SendNotificationRequest} {resp : SendNotificationResponse}
  {d : Event Call Op Op.Ans World Choice} {n : Db.Notifications.InsertNotification}
  {row : NotificationRow}

/-- The notification of a request that was accepted expires, however it is delivered, as the request
says exactly if the request has no TTL or that of the type, as the processor has got it. -/
theorem expires_as_sent_iff (run : (system ext).Run (Pool.idle w₀) es p)
    (cold : ∀ inst c key, w₀.caches inst c key = none) (accepted : Accepted es p i req resp seq)
    (split : es = pre ++ d :: post) (call : d.call = .processor inst seq)
    (stored : d.done = ⟨.sql (.notifications (.insertNotification n)), .ok row⟩) :
    ∃ nt t, Registered row.notificationTypeId es nt ∧
      Got inst .notificationTypes (notificationTypeKey req.serviceSlug req.notificationType)
        (cachedNotificationType nt) (doneBy pre d.tid) ∧
      ⟨.utcNow, t⟩ ∈ doneBy pre d.tid ∧
      row.expiresAt = nt.defaultTtlSeconds.map (fun ttl => t + Duration.seconds ttl) ∧
      (row.expiresAt = req.expiry nt t ↔
        (0 < req.ttlSeconds → nt.defaultTtlSeconds = some req.ttlSeconds)) := by
  obtain ⟨id, rfl, sent⟩ := accepted.message run
  have ins : inserted d.op d.ans = some n := congrArg (fun a => inserted a.1 a.2) stored
  obtain ⟨inst', seq', m, nt, t, call', settled⟩ := exists_storedWith run cold split ins
  cases call.symm.trans call'
  obtain ⟨now, _, same⟩ := map_eq_ok.1 (answered run (by simp [split]) stored)
  obtain rfl : n.row _ = row := (Prod.mk.inj same).1
  have received : Received seq m (doneBy es d.tid) := by
    rw [split, doneBy_append]
    exact settled.received.mono (List.prefix_append ..)
  cases (Received.message run received).symm.trans sent
  refine ⟨nt, t, settled.registered, settled.got, settled.clock, settled.expires, ?_⟩
  rw [show (n.row _).expiresAt = n.expiresAt from rfl, settled.expires]
  exact default_eq_expiry

end

namespace Sample

/-- A request for a letter that is to expire after a minute. -/
def requestFor (ttlSeconds : Int32) : SendNotificationRequest :=
  { request "mail" "letter" with ttlSeconds := ttlSeconds }

/-- The world of `world`, where letters have a TTL. -/
def expiring (ttl : Option Int32) : World :=
  { world .empty [] with
    db :=
      { db .empty with
        notificationTypes := .single { notificationType with defaultTtlSeconds := ttl } rfl } }

/-- A request with a TTL is sent, and its message is processed. -/
def overridden (ttl : Option Int32) : State × History :=
  playedUuid (expiring ttl)
    (.start 0 (.rpc 0 (some ann) (.sendNotification (requestFor 60))) ::
      (List.replicate 5 (.step 0 choice) ++
        .start 1 (.processor 0 0) :: List.replicate 17 (.step 1 choice)))

theorem run_overridden : (system uuidExt).Run (Pool.idle (expiring (some 3600)))
    (overridden (some 3600)).2 (overridden (some 3600)).1 := run_playedUuid rfl

theorem accepted_overridden : Accepted (overridden (some 3600)).2 (overridden (some 3600)).1 0
    (requestFor 60) ⟨"00000000-0000-0000-0000-000000000009"⟩ 0 :=
  ⟨⟨0, some ann, rfl⟩, (overridden (some 3600)).2.take 4, _, (overridden (some 3600)).2.drop 5, rfl,
    rfl, rfl, rfl⟩

end Sample

theorem expires_as_sent_iff_overridden : ∃ e ∈ (Sample.overridden (some 3600)).2, ∃ n row nt t,
    e.done = ⟨.sql (.notifications (.insertNotification n)), .ok row⟩ ∧
      Registered row.notificationTypeId (Sample.overridden (some 3600)).2 nt ∧
      ⟨.utcNow, t⟩ ∈ doneBy ((Sample.overridden (some 3600)).2.take 19) e.tid ∧
      row.expiresAt = nt.defaultTtlSeconds.map (fun ttl => t + Duration.seconds ttl) ∧
      (row.expiresAt = (Sample.requestFor 60).expiry nt t ↔
        (0 < (Sample.requestFor 60).ttlSeconds →
          nt.defaultTtlSeconds = some (Sample.requestFor 60).ttlSeconds)) := by
  obtain ⟨d, post, n, row, split, call, stored⟩ : ∃ d post n row,
      (Sample.overridden (some 3600)).2 = (Sample.overridden (some 3600)).2.take 19 ++ d :: post ∧
        d.call = .processor 0 0 ∧
        d.done = ⟨.sql (.notifications (.insertNotification n)), .ok row⟩ :=
    ⟨_, _, _, _, rfl, rfl, rfl⟩
  obtain ⟨nt, t, registered, -, clock, expires, iff⟩ :=
    expires_as_sent_iff Sample.run_overridden (fun _ _ _ => rfl) Sample.accepted_overridden split call
      stored
  exact ⟨d, split ▸ by simp, n, row, nt, t, stored, registered, clock, expires, iff⟩

/-- A request for a minute of a type with an hour is stored for an hour. -/
theorem not_expires_as_sent : ¬ ∀ (ext : Ext) (w₀ : World) (es pre post : History) (p : State)
    (inst i seq : ℕ) (req : SendNotificationRequest) (resp : SendNotificationResponse)
    (d : Event Call Op Op.Ans World Choice) (n : Db.Notifications.InsertNotification)
    (row : NotificationRow),
    (system ext).Run (Pool.idle w₀) es p → (∀ inst c key, w₀.caches inst c key = none) →
      Accepted es p i req resp seq → es = pre ++ d :: post → d.call = .processor inst seq →
      d.done = ⟨.sql (.notifications (.insertNotification n)), .ok row⟩ →
      ∃ nt t, Registered row.notificationTypeId es nt ∧ ⟨.utcNow, t⟩ ∈ doneBy pre d.tid ∧
        row.expiresAt = req.expiry nt t := by
  intro same
  obtain ⟨d, post, n, row, split, call, stored, tid, expires⟩ : ∃ d post n row,
      (Sample.overridden (some 3600)).2 = (Sample.overridden (some 3600)).2.take 19 ++ d :: post ∧
        d.call = .processor 0 0 ∧
        d.done = ⟨.sql (.notifications (.insertNotification n)), .ok row⟩ ∧ d.tid = 1 ∧
        row.expiresAt = some 3600000007 :=
    ⟨_, _, _, _, rfl, rfl, rfl, rfl, rfl⟩
  obtain ⟨nt, t, _, clock, expiry⟩ :=
    same _ _ _ _ _ _ _ _ _ _ _ d n row Sample.run_overridden (fun _ _ _ => rfl)
      Sample.accepted_overridden split call stored
  have now : t = 7 := Sample.eq_of_clock rfl (tid ▸ clock)
  have minute : (Sample.requestFor 60).expiry nt 7 = some 60000007 := rfl
  rw [expires, now, minute] at expiry
  exact absurd expiry (by decide)

end Estafeta
