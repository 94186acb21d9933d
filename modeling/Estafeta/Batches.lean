import Estafeta.Lib.Sequence
import Estafeta.BulkOperations
import Estafeta.Fidelity

/-!
# Batches

A batch sends its items one after the other with the claims of its caller, and answers an empty id for
each that is not accepted. No item changes the database, so each is sent as if it were alone
(`batch_exact`).
-/

open Relational Atomic

namespace Estafeta

/-- The messages of the publishes that have succeeded. -/
def handedOver (h : Record) : List IngestMessage :=
  List.filterMap (fun
    | ⟨.publishIngest _ msg, .ok ()⟩ => some msg
    | _ => none) h

/-- What a lookup finds, unless the statement fails. -/
def Choice.finds {ρ : Type} (x : Choice) (o : Option ρ) : Option ρ :=
  if x.failure.isNone then o else none

/-- Keto's reply allows the call. -/
def KetoReply.permits (reply : KetoReply) : Bool :=
  match Keto.allowed reply with
  | .ok allowed => allowed
  | .error _ => false

namespace SendNotificationRequest

/-- The payload that is validated and sent. -/
def payloadValue (req : SendNotificationRequest) : Json :=
  (req.payload.map protoStructToValue).getD (.object [])

/-- Whether a request is accepted. Its operations are the question to Keto, the lookups of the service
and of the type, the choice of an id and the publish. -/
def accepts (ext : Ext) (db : Db) (req : SendNotificationRequest) (x : ℕ → Choice) : Bool :=
  (x 0).keto.permits &&
    ((x 1).finds (db.services.lookup (.slug req.serviceSlug))).any fun service =>
      service.enabled &&
        ((x 2).finds (db.notificationTypes.lookup (.typeKey service.id req.notificationType))).any
          fun nt => nt.enabled && (validatePayload ext nt.jsonSchema req.payloadValue).isOk &&
            (x 4).unsent.isNone

/-- The message of a request, with the id that is chosen for it. -/
def message (req : SendNotificationRequest) (x : ℕ → Choice) : IngestMessage :=
  NotificationService.ingestMessage req (x 3).uuid req.payloadValue

end SendNotificationRequest

/-- The entry of a batch for an item that ends like this. -/
def batchEntry : Except Status SendNotificationResponse → SendNotificationResponse
  | .ok resp => resp
  | .error _ => ⟨""⟩

/-- What a batch has collected when one more item has ended. -/
def collect (acc : List SendNotificationResponse × Int32)
    (r : Except Status SendNotificationResponse) : List SendNotificationResponse × Int32 :=
  (acc.1 ++ [batchEntry r], if r.isOk then acc.2 else acc.2 + 1)

theorem foldl_collect (ends : List (Except Status SendNotificationResponse))
    (acc : List SendNotificationResponse × Int32) :
    ends.foldl collect acc =
      (acc.1 ++ ends.map batchEntry, acc.2 + .ofNat (ends.countP fun r => !r.isOk)) := by
  induction ends generalizing acc with
  | nil => simp
  | cons r ends ih =>
    rw [List.foldl_cons, ih, collect, List.map_cons, List.append_assoc, List.singleton_append]
    cases r with
    | ok resp =>
      rw [List.countP_cons_of_neg Bool.false_ne_true]
      rfl
    | error e =>
      rw [List.countP_cons_of_pos rfl, Int32.ofNat_add, Int32.add_comm (.ofNat _), ← Int32.add_assoc]
      rfl

/-- A batch sends its items one after the other, whatever becomes of each, and collects how they
end. -/
theorem sendNotificationBatch_eq (ext : Ext) (claims : AuthClaims)
    (items : List SendNotificationRequest) :
    NotificationService.sendNotificationBatch ext (some claims) ⟨items⟩ =
      (items.mapM fun item => (NotificationService.sendNotification ext (some claims) item).attempt)
        >>= fun ends => .ret ⟨ends.map batchEntry, .ofNat (ends.countP fun r => !r.isOk)⟩ := by
  have round : NotificationService.sendBatchItem ext claims = fun acc item =>
      (NotificationService.sendNotification ext (some claims) item).attempt >>= fun r =>
        .ret (collect acc r) := by
    funext acc item
    unfold NotificationService.sendBatchItem
    congr 1
    funext r
    cases r <;> rfl
  have claimed : AuthClaims.fromExtensions (some claims) = Prog.ret claims := rfl
  unfold NotificationService.sendNotificationBatch
  rw [claimed, Prog.ret_bind, round, Prog.foldlM_collect, Prog.bind_assoc]
  simp only [Prog.ret_bind, foldl_collect, List.nil_append]
  congr 1
  funext ends
  rw [Int32.zero_add]
  rfl

/-! ## One request -/

section

variable {ext : Ext} {w : World} {x : ℕ → Choice} {α : Type}

theorem execSql_lookup {q : Sql} {answer : Db → q.Resp}
    (bound : q.instants.all inTimestamptz = true)
    (reads : ∀ env db, q.exec env db = .ok (answer db, db)) (x : Choice) (w : World) :
    execSql ext x q w =
      ((match x.failure with
        | some e => .error e
        | none => .ok (answer w.db)), w) := by
  cases failure : x.failure with
  | some e => exact execSql_of_failure failure
  | none => exact execSql_of_ok failure bound (reads ..)

theorem looks_sql {q : Sql} {answer : Db → q.Resp}
    (bound : q.instants.all inTimestamptz = true)
    (reads : ∀ env db, q.exec env db = .ok (answer db, db)) :
    Prog.Looks (exec ext) World.db (.sql q) where
  answer x w w' same := by
    show (execSql ext x q w').1 = (execSql ext x q w).1
    rw [execSql_lookup bound reads, execSql_lookup bound reads, same]
  kept x w := by
    show (execSql ext x q w).2.db = w.db
    rw [execSql_lookup bound reads]

theorem looks_query {q : Sql} {answer : Db → q.Resp}
    (bound : q.instants.all inTimestamptz = true)
    (reads : ∀ env db, q.exec env db = .ok (answer db, db)) :
    (ext.query q).Within (Prog.Looks (exec ext) World.db) :=
  Prog.Within.mapErr ⟨looks_sql bound reads, fun _ => Prog.within_ofExcept _⟩

theorem looks_publishIngest (subject : String) (msg : IngestMessage) :
    Prog.Looks (exec ext) World.db (.publishIngest subject msg) where
  answer _ _ _ _ := rfl
  kept x w := by
    unfold exec
    split <;> rfl

/-- A request to send a notification reads the database, and does not change it. -/
theorem looks_sendNotification (ext : Ext) (extensions : Option AuthClaims)
    (req : SendNotificationRequest) :
    (NotificationService.sendNotification ext extensions req).Within
      (Prog.Looks (exec ext) World.db) := by
  have asks : ∀ slug subject,
      (Keto.requireServiceSend slug subject).Within (Prog.Looks (exec ext) World.db) :=
    fun _ _ => Prog.Within.bind
      ⟨⟨fun _ _ _ _ => rfl, fun _ _ => rfl⟩, fun _ => Prog.within_ofExcept _⟩
      fun _ => Prog.within_ensure _ _
  unfold NotificationService.sendNotification
  refine (Prog.within_okOr _ _).bind fun claims => (asks _ _).bind fun _ => ?_
  refine (looks_query rfl fun _ _ => rfl).bind fun _ => (Prog.within_okOr _ _).bind fun service => ?_
  refine (Prog.within_ensure _ _).bind fun _ => ?_
  refine (looks_query rfl fun _ _ => rfl).bind fun _ => (Prog.within_okOr _ _).bind fun nt => ?_
  refine (Prog.within_ensure _ _).bind fun _ => ?_
  dsimp only
  split
  next => trivial
  next =>
    have publishes : ∀ msg, (NotificationService.publishIngest req.serviceSlug msg).Within
        (Prog.Looks (exec ext) World.db) :=
      fun _ => ⟨looks_publishIngest _ _, fun _ => Prog.within_ofExcept _⟩
    exact ⟨⟨fun _ _ _ _ => rfl, fun _ _ => rfl⟩,
      fun id => (publishes _).mapErr.bind fun _ => trivial⟩

/-- How a program ends that runs alone, and the messages that it hands over. -/
def outcome (ext : Ext) (p : Program Status α) (x : ℕ → Choice) (w : World) :
    Except Status α × List IngestMessage :=
  ((p.run (exec ext) x w).1, handedOver (p.transcript (exec ext) x w))

/-- A program that runs alone ends with `done` if it is accepted, and otherwise fails and hands over
nothing. -/
def Decides (ext : Ext) (p : Program Status α) (x : ℕ → Choice) (w : World) (accepted : Bool)
    (done : Except Status α × List IngestMessage) : Prop :=
  ∃ e, outcome ext p x w = if accepted then done else (.error e, [])

namespace Decides

variable {done : Except Status α × List IngestMessage}

theorem requireServiceSend (slug subject : String) {accepted : Bool} {f : Unit → Program Status α}
    (rest : Decides ext (f ()) (fun n => x (n + 1)) w accepted done) :
    Decides ext (Keto.requireServiceSend slug subject >>= f) x w
      ((x 0).keto.permits && accepted) done := by
  unfold Decides outcome Keto.requireServiceSend Keto.checkServiceSend Keto.check KetoReply.permits
  simp only [Prog.call_bind, Prog.run, Prog.transcript, exec]
  rcases Keto.allowed (x 0).keto with e | _ | _
  · exact ⟨e, rfl⟩
  · exact ⟨_, rfl⟩
  · rw [Bool.true_and]
    exact rest

theorem lookup {ρ : Type} {q : Sql} {answer : Db → q.Resp} (missing : Status)
    (bound : q.instants.all inTimestamptz = true)
    (reads : ∀ env db, q.exec env db = .ok (answer db, db)) (o : q.Resp → Option ρ)
    {accepted : ρ → Bool} {f : ρ → Program Status α}
    (rest : ∀ v, Decides ext (f v) (fun n => x (n + 1)) w (accepted v) done) :
    Decides ext (ext.query q >>= fun a => Prog.okOr missing (o a) >>= f) x w
      (((x 0).finds (o (answer w.db))).any accepted) done := by
  unfold Decides outcome Ext.query Estafeta.query Choice.finds
  simp only [Prog.mapErr, Prog.call_bind, Prog.run, Prog.transcript, exec, execSql_lookup bound reads]
  cases (x 0).failure with
  | some e => exact ⟨_, rfl⟩
  | none =>
    simp only [Prog.ofExcept, Prog.mapErr, Prog.ret_bind]
    cases o (answer w.db) with
    | none => exact ⟨_, rfl⟩
    | some v => exact rest v

theorem ensure (c : Bool) (refusal : Status) {accepted : Bool} {f : Unit → Program Status α}
    (rest : Decides ext (f ()) x w accepted done) :
    Decides ext (Prog.ensure c refusal >>= f) x w (c && accepted) done := by
  cases c with
  | false => exact ⟨refusal, rfl⟩
  | true => exact rest

/-- A message is handed over, and its id is answered, if the publish succeeds. -/
theorem publishIngest (slug : String) (message : Uuid → IngestMessage) (g : String → Status) :
    Decides ext (newUuid >>= fun id =>
        (NotificationService.publishIngest slug (message id)).mapErr g >>= fun _ =>
          .ret (⟨ext.showUuid id⟩ : SendNotificationResponse)) x w (x 1).unsent.isNone
      (.ok ⟨ext.showUuid (x 0).uuid⟩, [message (x 0).uuid]) := by
  simp only [Decides, outcome, newUuid, NotificationService.publishIngest, Prog.mapErr,
    Prog.call_bind, Prog.ret_bind, Prog.run, Prog.transcript, exec, Choice.sent, Nat.zero_add]
  cases (x 1).unsent with
  | none => exact ⟨.internal "", rfl⟩
  | some e => exact ⟨_, rfl⟩

end Decides

/-- A request that is accepted is answered with the id of its message, which it hands over, and one
that is not fails, and hands over nothing. -/
theorem decides_sendNotification (claims : AuthClaims) (req : SendNotificationRequest) :
    Decides ext (NotificationService.sendNotification ext (some claims) req) x w
      (req.accepts ext w.db x) (.ok ⟨ext.showUuid (x 3).uuid⟩, [req.message x]) := by
  have claimed : AuthClaims.fromExtensions (some claims) = Prog.ret claims := rfl
  have service : ∀ env db, (Sql.services (.getServiceBySlug req.serviceSlug)).exec env db =
      .ok (db.services.lookup (.slug req.serviceSlug), db) := fun _ _ => rfl
  have type : ∀ (serviceId : Uuid) env db,
      (Sql.schemas (.getNotificationType serviceId req.notificationType)).exec env db =
        .ok (db.notificationTypes.lookup (.typeKey serviceId req.notificationType), db) :=
    fun _ _ _ => rfl
  unfold NotificationService.sendNotification SendNotificationRequest.accepts
  rw [claimed, Prog.ret_bind]
  refine .requireServiceSend _ _ (.lookup _ rfl service _ fun service => .ensure _ _ ?_)
  refine .lookup _ rfl (type service.id) _ fun nt => ?_
  rw [Bool.and_assoc]
  refine .ensure _ _ ?_
  dsimp only
  unfold SendNotificationRequest.payloadValue
  cases validatePayload ext nt.jsonSchema _ with
  | error errors => exact ⟨_, rfl⟩
  | ok => exact .publishIngest _ _ _

/-- The first thing a request does is to ask whether its caller may send for its own service. -/
theorem transcript_sendNotification (claims : AuthClaims) (req : SendNotificationRequest) :
    ((NotificationService.sendNotification ext (some claims) req).transcript (exec ext) x w).head? =
      some ⟨.keto ⟨"estafeta", s!"services/{req.serviceSlug}", "send", claims.subject⟩, (x 0).keto⟩ :=
  rfl

end

/-! ## A batch -/

/-- How an item of a batch ends if it is sent alone, with the claims of the caller. -/
def sentAlone (ext : Ext) (claims : AuthClaims) (w : World)
    (s : SendNotificationRequest × (ℕ → Choice)) : Except Status SendNotificationResponse :=
  ((NotificationService.sendNotification ext (some claims) s.1).run (exec ext) s.2 w).1

/-- What it then performs. -/
def performedAlone (ext : Ext) (claims : AuthClaims) (w : World)
    (s : SendNotificationRequest × (ℕ → Choice)) : Record :=
  (NotificationService.sendNotification ext (some claims) s.1).transcript (exec ext) s.2 w

/-- What a batch answers, and what it has performed, in terms of its items, each of which is sent alone
with its own choices. -/
structure Batched (ext : Ext) (claims : AuthClaims) (w : World)
    (shares : List (SendNotificationRequest × (ℕ → Choice))) (resp : SendNotificationBatchResponse)
    (h : Record) : Prop where
  results : resp.results = shares.map fun s => batchEntry (sentAlone ext claims w s)
  performed : h = shares.flatMap (performedAlone ext claims w)
  asked : ∀ s ∈ shares, (performedAlone ext claims w s).head? =
    some ⟨.keto ⟨"estafeta", s!"services/{s.1.serviceSlug}", "send", claims.subject⟩, (s.2 0).keto⟩
  accepted : ∀ s ∈ shares, (batchEntry (sentAlone ext claims w s)).notificationId ≠ "" ↔
    s.1.accepts ext w.db s.2 = true
  refused : ∀ s ∈ shares, s.1.accepts ext w.db s.2 = false →
    handedOver (performedAlone ext claims w s) = []
  failed : resp.failedCount.toInt = resp.results.countP fun r => r.notificationId = ""
  messages : handedOver h =
    (shares.filter fun s => s.1.accepts ext w.db s.2).map fun s => s.1.message s.2
  ids : (handedOver h).map (fun m => ext.showUuid m.notificationId) =
    (resp.results.map (·.notificationId)).filter fun id => id ≠ ""

section

variable {ext : Ext} {claims : AuthClaims} {w : World}

/-- An item has the entry and the message of a request that is accepted, or neither. -/
theorem item_cases (ext : Ext) (claims : AuthClaims) (w : World)
    (s : SendNotificationRequest × (ℕ → Choice)) :
    (sentAlone ext claims w s).isOk = s.1.accepts ext w.db s.2 ∧
      batchEntry (sentAlone ext claims w s) =
        ⟨if s.1.accepts ext w.db s.2 then ext.showUuid (s.2 3).uuid else ""⟩ ∧
      handedOver (performedAlone ext claims w s) =
        if s.1.accepts ext w.db s.2 then [s.1.message s.2] else [] := by
  obtain ⟨e, ends⟩ : ∃ e, (sentAlone ext claims w s, handedOver (performedAlone ext claims w s)) = _ :=
    decides_sendNotification claims s.1
  obtain ⟨sent, hands⟩ := Prod.mk.inj (ends.trans (Prod.mk.eta).symm)
  rw [sent, hands]
  cases s.1.accepts ext w.db s.2 <;> exact ⟨rfl, rfl, rfl⟩

theorem accepted_iff (shown : ∀ id, ext.showUuid id ≠ "")
    (s : SendNotificationRequest × (ℕ → Choice)) :
    (batchEntry (sentAlone ext claims w s)).notificationId ≠ "" ↔
      s.1.accepts ext w.db s.2 = true := by
  rw [(item_cases ext claims w s).2.1]
  cases s.1.accepts ext w.db s.2 with
  | true => exact iff_of_true (shown _) rfl
  | false => exact iff_of_false (fun named => named rfl) Bool.false_ne_true

/-- The messages that are handed over are those of the items that are accepted. -/
theorem handedOver_flatMap (l : List (SendNotificationRequest × (ℕ → Choice))) :
    handedOver (l.flatMap (performedAlone ext claims w)) =
      (l.filter fun s => s.1.accepts ext w.db s.2).map fun s => s.1.message s.2 := by
  induction l with
  | nil => rfl
  | cons s l ih =>
    rw [List.flatMap_cons, handedOver, List.filterMap_append, ← handedOver, ← handedOver, ih,
      (item_cases ext claims w s).2.2, List.filter_cons]
    cases s.1.accepts ext w.db s.2 <;> rfl

theorem countP_failed (shown : ∀ id, ext.showUuid id ≠ "")
    (l : List (SendNotificationRequest × (ℕ → Choice))) :
    (l.map (sentAlone ext claims w)).countP (fun r => !r.isOk) =
      ((l.map (sentAlone ext claims w)).map batchEntry).countP fun r => r.notificationId = "" := by
  rw [List.countP_map, List.countP_map, List.countP_map]
  refine List.countP_congr fun s _ => ?_
  simp only [Function.comp_apply, decide_eq_true_eq]
  rw [(item_cases ext claims w s).1, Bool.not_eq_true', ← Bool.not_eq_true, ← accepted_iff shown s,
    not_ne_iff]

/-- The ids of the messages are the ids of the entries that have one. -/
theorem map_ids (shown : ∀ id, ext.showUuid id ≠ "")
    (l : List (SendNotificationRequest × (ℕ → Choice))) :
    ((l.filter fun s => s.1.accepts ext w.db s.2).map fun s => s.1.message s.2).map
        (fun m => ext.showUuid m.notificationId) =
      (((l.map (sentAlone ext claims w)).map batchEntry).map (·.notificationId)).filter
        fun id => id ≠ "" := by
  induction l with
  | nil => rfl
  | cons s l ih =>
    have entry := (item_cases ext claims w s).2.1
    simp only [List.map_cons, List.filter_cons, entry]
    rw [← ih]
    cases s.1.accepts ext w.db s.2 with
    | true =>
      rw [if_pos rfl, if_pos rfl, if_pos (decide_eq_true (shown _))]
      rfl
    | false => rfl

end

/-- A batch of fewer than `2 ^ 31` items sends each of them as if it were alone, with the claims of its
caller, and hands over just the messages of those that are accepted. -/
theorem batch_exact (ext : Ext) (claims : AuthClaims) (items : List SendNotificationRequest)
    (w : World) (x : ℕ → Choice) (short : items.length < 2 ^ 31)
    (shown : ∀ id, ext.showUuid id ≠ "") :
    let batch := NotificationService.sendNotificationBatch ext (some claims) ⟨items⟩
    let shares := Prog.shares (exec ext) w (NotificationService.sendNotification ext (some claims))
      items x
    shares.map Prod.fst = items ∧ (batch.run (exec ext) x w).2.db = w.db ∧
      ∃ resp, (batch.run (exec ext) x w).1 = .ok resp ∧
        Batched ext claims w shares resp (batch.transcript (exec ext) x w) := by
  intro batch shares
  have listed : shares.map Prod.fst = items := Prog.fst_shares ..
  obtain ⟨ends, performed, kept⟩ := Prog.run_mapM_attempt Status
    (looks_sendNotification ext (some claims)) items (rfl : w.db = w.db) x
  have split : batch = _ := sendNotificationBatch_eq ext claims items
  rw [split, Prog.run_bind_of_ok _ ends, Prog.transcript_bind_of_ok _ ends, performed]
  refine ⟨listed, kept, _, rfl, ?_⟩
  rw [Prog.transcript, List.append_nil]
  have few : (shares.map (sentAlone ext claims w)).length < 2 ^ 31 := by
    rwa [List.length_map, ← List.length_map Prod.fst, listed]
  exact
    { results := List.map_map
      performed := rfl
      asked := fun _ _ => transcript_sendNotification ..
      accepted := fun s _ => accepted_iff shown s
      refused := fun s _ refused => by
        rw [(item_cases ext claims w s).2.2, refused, if_neg Bool.false_ne_true]
      failed := (Int32.toInt_ofNat_of_lt (List.countP_le_length.trans_lt few)).trans
        (congrArg _ (countP_failed shown shares))
      messages := handedOver_flatMap shares
      ids := (congrArg _ (handedOver_flatMap shares)).trans (map_ids shown shares) }

/-- Three items, of which the second is for a service that does not exist. -/
def Sample.mixed : List SendNotificationRequest :=
  [request "mail" "letter", request "chat" "letter", request "mail" "letter"]

theorem batch_exact_mixed : ∃ resp,
    ((NotificationService.sendNotificationBatch Sample.uuidExt (some Sample.ann) ⟨Sample.mixed⟩).run
      (exec Sample.uuidExt) (fun _ => Sample.choice) (Sample.world .empty [])).1 = .ok resp ∧
    resp.results = [⟨"00000000-0000-0000-0000-000000000009"⟩, ⟨""⟩,
      ⟨"00000000-0000-0000-0000-000000000009"⟩] ∧ resp.failedCount = 1 ∧
    Batched Sample.uuidExt Sample.ann (Sample.world .empty [])
      (Sample.mixed.map fun item => (item, fun _ => Sample.choice)) resp
      ((NotificationService.sendNotificationBatch Sample.uuidExt (some Sample.ann)
        ⟨Sample.mixed⟩).transcript (exec Sample.uuidExt) (fun _ => Sample.choice)
          (Sample.world .empty [])) := by
  obtain ⟨_, _, resp, answered, batched⟩ := batch_exact Sample.uuidExt Sample.ann Sample.mixed
    (Sample.world .empty []) (fun _ => Sample.choice) (by decide)
    fun _ => (by decide : "00000000-0000-0000-0000-000000000009" ≠ "")
  cases answered
  exact ⟨_, rfl, rfl, rfl, batched⟩

end Estafeta
