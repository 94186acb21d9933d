import Estafeta.Batches
import Estafeta.Footprints
import Estafeta.Rows

/-!
# Where notifications come from

Every notification that is stored goes back to a request to send it: Keto allowed the caller to send
for the service of the request, the service and the type were found enabled, the payload was valid
under the schema of the type, and only then was the message published whose text the notification was
stored for (`requested`).
-/

open Relational Atomic

namespace Estafeta

/-! ## Senders -/

/-- The operation publishes an ingest message. -/
def Op.hands : Op → Bool
  | .publishIngest .. => true
  | _ => false

/-- The requests to send a notification that a request consists of. -/
def Rpc.items : Rpc → List SendNotificationRequest
  | .sendNotification req => [req]
  | .sendNotificationBatch req => req.notifications
  | _ => []

/-- The interactions of a request to send that leave nothing to be checked: Keto allows it, the service
and the type are found, and an id is chosen. -/
def vetting (c : AuthClaims) (req : SendNotificationRequest) (reply : KetoReply)
    (service : ServiceRow) (nt : NotificationTypeRow) (id : Uuid) : Record :=
  [⟨.keto (sendCheck req.serviceSlug c.subject), reply⟩,
    ⟨.sql (.services (.getServiceBySlug req.serviceSlug)), .ok (some service)⟩,
    ⟨.sql (.schemas (.getNotificationType service.id req.notificationType)), .ok (some nt)⟩,
    ⟨.newUuid, id⟩]

/-- A message for one of the items, which has passed all checks just before it is published. -/
inductive Vetted (ext : Ext) (extensions : Option AuthClaims) (items : List SendNotificationRequest) :
    Record → IngestMessage → Prop where
  | mk {h c req reply service nt id} : extensions = some c → req ∈ items → reply.Allows →
    service.enabled = true → nt.enabled = true →
    validatePayload ext nt.jsonSchema req.payloadValue = .ok () →
    Vetted ext extensions items (h ++ vetting c req reply service nt id)
      (NotificationService.ingestMessage req id req.payloadValue)

/-- A handler may publish what is vetted, and perform anything else. -/
def PublishesVetted (ext : Ext) (extensions : Option AuthClaims) (items : List SendNotificationRequest)
    (h : Record) (o : Op) : Prop :=
  ∀ subject m, o = .publishIngest subject m → Vetted ext extensions items h m

section Senders

variable {ext : Ext} {extensions : Option AuthClaims} {items : List SendNotificationRequest}
  {h : Record} {α : Type}

theorem vetted_query {q : Sql} {Q : Record → q.Resp → Prop}
    (returns : ∀ a, Q (h ++ [⟨.sql q, .ok a⟩]) a) :
    (ext.query q).Obeys (.recording (PublishesVetted ext extensions items)) (fun _ _ => True) Q h :=
  (obeys_query ext q).2 ⟨(fun _ _ same => by cases same), fun _ => trivial, returns⟩

theorem vetted_requireServiceSend {slug subject : String} {Q : Record → Unit → Prop}
    (returns : ∀ reply : KetoReply, reply.Allows →
      Q (h ++ [⟨.keto (sendCheck slug subject), reply⟩]) ()) :
    (Keto.requireServiceSend slug subject).Obeys (.recording (PublishesVetted ext extensions items))
      (fun _ _ => True) Q h := by
  simp only [Keto.requireServiceSend, Keto.checkServiceSend, Keto.check, Prog.obeys_bind,
    Prog.obeys_call, Prog.obeys_ofExcept, Prog.obeys_ensure]
  refine ⟨(fun _ _ same => by cases same), fun reply => ⟨fun _ _ => trivial, fun b allowed => ?_⟩⟩
  refine ⟨fun _ => trivial, fun granted => returns reply (allowed_iff.1 ?_)⟩
  rw [allowed, granted]

theorem sendNotification_vetted {c : AuthClaims} (claimed : extensions = some c)
    {req : SendNotificationRequest} (listed : req ∈ items) :
    (NotificationService.sendNotification ext (some c) req).Obeys
      (.recording (PublishesVetted ext extensions items)) (fun _ _ => True) (fun _ _ => True) h := by
  simp only [NotificationService.sendNotification, AuthClaims.fromExtensions, Prog.obeys_bind,
    Prog.obeys_okOr, Prog.obeys_ensure]
  refine ⟨fun _ => trivial, fun c' same => ?_⟩
  cases same
  refine vetted_requireServiceSend fun reply allows => ?_
  refine vetted_query fun service => ⟨fun _ => trivial, fun service found => ?_⟩
  refine ⟨fun _ => trivial, fun serviceEnabled => ?_⟩
  refine vetted_query fun nt => ⟨fun _ => trivial, fun nt found' => ?_⟩
  refine ⟨fun _ => trivial, fun typeEnabled => ?_⟩
  subst found found'
  split
  next => trivial
  next valid =>
    simp only [newUuid, NotificationService.publishIngest, Prog.obeys_bind, Prog.obeys_mapErr]
    refine ⟨(fun _ _ same => by cases same), fun id => ⟨fun subject m same => ?_, fun sent => ?_⟩⟩
    · cases same
      simp only [Monitor.recording, List.append_assoc]
      exact .mk claimed listed allows serviceEnabled typeEnabled valid
    · simp only [Prog.obeys_ofExcept]
      exact ⟨fun _ _ => trivial, fun _ _ => trivial⟩

theorem sendNotificationBatch_vetted (req : SendNotificationBatchRequest) :
    (NotificationService.sendNotificationBatch ext extensions req).Obeys
      (.recording (PublishesVetted ext extensions req.notifications)) (fun _ _ => True)
      (fun _ _ => True) h := by
  simp only [NotificationService.sendNotificationBatch, AuthClaims.fromExtensions, Prog.obeys_bind,
    Prog.obeys_okOr]
  refine ⟨fun _ => trivial, fun c claimed => ?_⟩
  refine Prog.obeys_foldlM (fun left _ _ => ∀ item ∈ left, item ∈ req.notifications)
    req.notifications _ (fun item left acc h listed => ?_) (fun _ _ _ => trivial) fun _ => id
  simp only [NotificationService.sendBatchItem, Prog.obeys_bind, Prog.obeys_attempt]
  refine (sendNotification_vetted claimed (listed item (.head _))).mono (fun _ _ _ => ?_)
    fun _ _ _ => ?_
  all_goals exact fun later mem => listed later (.tail _ mem)

end Senders

theorem handle_vetted (ext : Ext) (inst : ℕ) (extensions : Option AuthClaims) (r : Rpc) :
    (r.handle ext inst extensions).Obeys (.recording (PublishesVetted ext extensions r.items))
      (fun _ _ => True) (fun _ _ => True) [] := by
  cases sends : r.sends with
  | false =>
    have silent : (r.handle ext inst extensions).Within fun o => ∀ subject m,
        o ≠ .publishIngest subject m := by
      refine (handle_performs ext inst extensions r).mono fun o performs => ?_
      rintro subject m rfl
      cases performs with
      | looks harmless => cases harmless
      | publishes sends' => cases sends.symm.trans sends'
    exact silent.obeys fun h o quiet subject m same => absurd same (quiet subject m)
  | true =>
    cases r with
    | sendNotification req =>
      cases extensions with
      | none => trivial
      | some c => exact sendNotification_vetted rfl (.head _)
    | sendNotificationBatch req => exact sendNotificationBatch_vetted req
    | _ => cases sends

/-! ## Runs -/

/-- What a call has done before it publishes a message. -/
def Call.Vets (ext : Ext) : Call → Record → Op → Prop
  | .rpc _ extensions r => PublishesVetted ext extensions r.items
  | _ => fun _ _ => True

/-- A call has published the message, for one of its requests, after all checks. -/
def Requested (ext : Ext) (es : History) (m : IngestMessage) : Prop :=
  ∃ pre e post inst extensions r subject, es = pre ++ e :: post ∧ e.call = .rpc inst extensions r ∧
    e.op = .publishIngest subject m ∧ Vetted ext extensions r.items (doneBy pre e.tid) m

/-- The notification says what the message says. -/
structure NotificationRow.Carries (r : NotificationRow) (m : IngestMessage) : Prop where
  id : r.id = m.notificationId
  recipientUserId : r.recipientUserId = m.recipientUserId
  payload : r.payload = m.payload
  groupKey : r.groupKey = m.groupKey
  idempotencyKey : r.idempotencyKey = m.idempotencyKey
  metadata : r.metadata = metadataToValue m.metadata
  actionUrl : r.actionUrl = m.actionUrl

section

variable {ext : Ext} {w₀ w : World} {es : History} {p : State} {m : IngestMessage}

theorem body_vets (ext : Ext) (c : Call) :
    ((system ext).body c).Obeys (.recording (c.Vets ext)) (fun _ _ => True) (fun _ _ => True) [] := by
  cases c with
  | rpc inst extensions r =>
    simp only [system, Call.body, Prog.obeys_bind, Prog.obeys_mapErr]
    exact (handle_vetted ext inst extensions r).mono (fun _ _ _ => trivial) fun _ _ _ => trivial
  | _ => exact Prog.obeys_of_forall (fun _ _ => trivial) _ _

theorem rpc_of_hands {c : Call} {s : Phase} {o : Op} (permitted : c.monitor.may s o)
    (hands : o.hands = true) : ∃ inst extensions r, c = .rpc inst extensions r := by
  cases c with
  | rpc inst extensions r => exact ⟨inst, extensions, r, rfl⟩
  | processor inst seq =>
    simp only [Call.monitor, processorMonitor] at permitted
    split at permitted <;> first | cases hands | exact permitted.elim
  | escalation =>
    simp only [Call.monitor, escalationMonitor] at permitted
    split at permitted <;> first | cases hands | exact permitted.elim
  | snoozeWake | ttlExpiry =>
    simp only [Call.monitor, sweepMonitor] at permitted
    split at permitted <;> first | cases hands | exact permitted.elim

/-- Publishing puts the text of one message at the end of the stream, and nothing else changes it. -/
theorem stream_cases (ext : Ext) (x : Choice) (o : Op) (w : World) :
    (exec ext x o w).2.stream = w.stream ∨ ∃ subject m, o = .publishIngest subject m ∧
      (exec ext x o w).2.stream = w.stream ++ [.ok (m.reread ext.floatText)] := by
  cases o with
  | sql q =>
    refine .inl ?_
    rcases execSql_cases ext x q w with ⟨e, failed⟩ | ⟨a, db, ok, answered⟩
    · simp only [exec, failed]
    · simp only [exec, answered]
  | publishIngest subject m =>
    simp only [exec]
    split
    · exact .inr ⟨subject, m, rfl, rfl⟩
    · exact .inl rfl
  | publish | ack =>
    simp only [exec]
    split <;> exact .inl rfl
  | _ => exact .inl rfl

/-- A message of the stream is read of the text of one that has been published. -/
theorem stream_origin {g : ℕ → Option (Call × Phase)} (run : Phased ext w₀ es w g)
    (start : w₀.stream = []) {payload : Payload} (present : payload ∈ w.stream) :
    ∃ m, payload = .ok (m.reread ext.floatText) ∧
      ∃ e ∈ es, ∃ subject, e.op = .publishIngest subject m := by
  induction run with
  | init =>
    rw [start] at present
    cases present
  | start _ _ _ ih => exact ih present
  | @step es w g i c s o x _ _ _ ih =>
    rcases stream_cases ext x o w with same | ⟨subject, m, rfl, added⟩
    · obtain ⟨m, rfl, e, he, published⟩ := ih (same ▸ present)
      exact ⟨m, rfl, e, List.mem_append_left _ he, published⟩
    · rcases List.mem_append.1 (added ▸ present) with present | present
      · obtain ⟨m, rfl, e, he, published⟩ := ih present
        exact ⟨m, rfl, e, List.mem_append_left _ he, published⟩
      · obtain rfl := List.mem_singleton.1 present
        exact ⟨m, rfl, _, List.mem_append_right _ (.head _), subject, rfl⟩

theorem requested_of_published (run : (system ext).Run (Pool.idle w₀) es p) {pre post : History}
    (split : es = pre ++ post) {e : Event Call Op Op.Ans World Choice} (he : e ∈ pre)
    {subject : String} (published : e.op = .publishIngest subject m) : Requested ext pre m := by
  obtain ⟨before, after, rfl⟩ := List.append_of_mem he
  obtain ⟨g, watched, _⟩ := phased run
  obtain ⟨_, _, _, o, _, _, performed, permitted⟩ := watched.permitted e (by simp [split])
  have vets := (run.recorded (body_vets ext)).1 before e (after ++ post) (by simp [split])
  subst performed
  obtain ⟨inst, extensions, r, rfl⟩ := rpc_of_hands permitted (by
    rw [show o = .publishIngest subject m from published]
    rfl)
  exact ⟨before, _, after, inst, extensions, r, subject, rfl, rfl, published,
    vets subject m published⟩

theorem IsNotificationOf.carries {n : Db.Notifications.InsertNotification}
    (new : IsNotificationOf (.ok m) n) (now : Time) {r : NotificationRow}
    (keeps : (n.row now).Keeps r) : r.Carries m := by
  obtain ⟨ingest, notifType, levelId, config, _, _, same, rfl⟩ := new
  cases same
  exact ⟨keeps.id, keeps.recipientUserId, keeps.payload, keeps.groupKey, keeps.idempotencyKey,
    keeps.metadata, keeps.actionUrl⟩

theorem inserted_message {g : ℕ → Option (Call × Phase)} (run : Phased ext w₀ es w g) {i : ℕ}
    {c : Call} {s : Phase} {o : Op} {x : Choice} (at_call : g i = some (c, s))
    (permitted : c.monitor.may s o) {n : Db.Notifications.InsertNotification}
    (ins : inserted o (exec ext x o w).1 = some n) :
    ∃ payload ∈ w.stream, IsNotificationOf payload n := by
  obtain rfl := op_of_ran (inserted_eq_some.1 ins)
  obtain ⟨inst, seq, rfl⟩ := processor_of_stores permitted rfl
  cases s with
  | loading payload =>
    have message : w.stream[seq]? = some payload := backed run i _ _ at_call inst seq rfl
    rcases permitted with loads | ⟨n', same, new⟩
    · cases loads
    · cases same
      exact ⟨payload, List.mem_of_getElem? message, new⟩
  | _ => exact permitted.elim

/-- Every notification that is stored carries what is read of the text of a message that a call had
published before, for one of its requests, after Keto had allowed the call, the service and the type of
the request had been found enabled, and its payload valid. If that survives its text, the notification
carries it. -/
theorem requested (run : (system ext).Run (Pool.idle w₀) es p)
    (empty : w₀.db.notifications = .empty) (start : w₀.stream = []) :
    ∀ r ∈ p.world.db.notifications.rows, ∃ pre d post n m, es = pre ++ d :: post ∧
      inserted d.op d.ans = some n ∧ n.id = r.id ∧ Requested ext pre m ∧
      r.Carries (m.reread ext.floatText) ∧
      (m.payload.survives ext.floatText = true → r.payload = m.payload) := by
  intro r stored
  obtain ⟨g, watched, _⟩ := phased run
  obtain ⟨d, hd, n, ins, keeps⟩ := origin watched empty r stored
  obtain ⟨pre, post, rfl⟩ := List.append_of_mem hd
  obtain ⟨g', i, c, s, o, x, w', rfl, before, at_call, permitted, _⟩ := watched.at
  obtain ⟨payload, present, new⟩ := inserted_message before at_call permitted ins
  obtain ⟨m, rfl, e, he, subject, published⟩ := stream_origin before start present
  have carries := new.carries _ keeps
  refine ⟨pre, _, post, n, m, rfl, ins, keeps.id.symm, requested_of_published run rfl he published,
    carries, fun survives => ?_⟩
  rw [carries.payload, IngestMessage.reread_of_survives survives]

theorem requested_sent : ∃ r ∈ Sample.sent.1.world.db.notifications.rows, ∃ pre d post n m,
    Sample.sent.2 = pre ++ d :: post ∧ inserted d.op d.ans = some n ∧ n.id = r.id ∧
      Requested Sample.uuidExt pre m ∧ r.Carries (m.reread Sample.uuidExt.floatText) ∧
      (m.payload.survives Sample.uuidExt.floatText = true → r.payload = m.payload) := by
  obtain ⟨r, stored⟩ : ∃ r, r ∈ Sample.sent.1.world.db.notifications.rows := ⟨_, .head _⟩
  exact ⟨r, stored, requested (Sample.run_playedUuid rfl) rfl rfl r stored⟩

end

end Estafeta
