import Estafeta.Delivery
import Estafeta.CacheKeys

/-!
# What arrives of what is sent

A request to send a notification goes through four representations until the recipient reads it: the
request, the message of the stream, the row and the response. `AsSent` says what the recipient gets,
if the payload survives the text of the message.
-/

open Relational Atomic

namespace Estafeta

/-! ## Payloads -/

mutual

/-- What the server makes of a value: what JSON has no value for becomes null. -/
def ProtoValue.normal : ProtoValue → ProtoValue
  | .unset => .nullValue 0
  | .nullValue _ => .nullValue 0
  | .numberValue x => if x.isFinite then .numberValue x else .nullValue 0
  | .stringValue s => .stringValue s
  | .boolValue b => .boolValue b
  | .structValue fields => .structValue (ProtoValue.normalFields fields)
  | .listValue values => .listValue (ProtoValue.normalValues values)

/-- The values of a list. -/
def ProtoValue.normalValues : List ProtoValue → List ProtoValue
  | [] => []
  | v :: vs => v.normal :: ProtoValue.normalValues vs

/-- The fields of a struct. -/
def ProtoValue.normalFields : List (String × ProtoValue) → List (String × ProtoValue)
  | [] => []
  | (k, v) :: fields => (k, v.normal) :: ProtoValue.normalFields fields

end

/-- What the server makes of a struct: an absent one is empty. -/
def normalPayload (payload : Option Struct) : Struct :=
  ⟨ProtoValue.normalFields ((payload.map Struct.fields).getD [])⟩

mutual

theorem json_roundTrip : ∀ v : ProtoValue, jsonToProtoValue (protoValueToJson v) = v.normal
  | .unset => rfl
  | .nullValue _ => rfl
  | .numberValue x => by
    by_cases finite : x.isFinite = true
    · simp [protoValueToJson, Number.fromF64, finite, jsonToProtoValue, Number.asF64,
        ProtoValue.normal]
    · simp [protoValueToJson, Number.fromF64, finite, jsonToProtoValue, ProtoValue.normal]
  | .stringValue _ => rfl
  | .boolValue _ => rfl
  | .structValue fields => by
    rw [protoValueToJson, jsonToProtoValue, fields_roundTrip, ProtoValue.normal]
  | .listValue values => by
    rw [protoValueToJson, jsonToProtoValue, values_roundTrip, ProtoValue.normal]

theorem values_roundTrip : ∀ vs : List ProtoValue,
    jsonToProtoValues (protoValuesToJson vs) = ProtoValue.normalValues vs
  | [] => rfl
  | v :: vs => by
    rw [protoValuesToJson, jsonToProtoValues, json_roundTrip, values_roundTrip,
      ProtoValue.normalValues]

theorem fields_roundTrip : ∀ fields : List (String × ProtoValue),
    jsonToProtoFields (protoFieldsToJson fields) = ProtoValue.normalFields fields
  | [] => rfl
  | (k, v) :: fields => by
    rw [protoFieldsToJson, jsonToProtoFields, json_roundTrip, fields_roundTrip,
      ProtoValue.normalFields]

end

theorem payload_roundTrip (payload : Option Struct) :
    valueToProtoStruct ((payload.map protoStructToValue).getD (.object [])) =
      some (normalPayload payload) := by
  rcases payload with _ | s
  · rfl
  · exact congrArg (fun fields => some (Struct.mk fields)) (fields_roundTrip s.fields)

/-! ## Metadata and strings -/

theorem metadata_roundTrip (metadata : List (String × String)) :
    ((metadataToValue metadata).asObject?.map fun m =>
      m.filterMap fun (k, v) => v.asStr?.map fun s => (k, s)).getD [] = metadata := by
  simp [metadataToValue, Json.asObject?, List.filterMap_map, Json.asStr?]

theorem nonEmpty_roundTrip (s : String) : (nonEmpty s).getD "" = s := by
  unfold nonEmpty
  split
  next empty => exact (String.isEmpty_iff.1 empty).symm
  next => rfl

theorem or_roundTrip (s : String) (o : Option String) :
    ((nonEmpty s).or o).getD "" = if s = "" then o.getD "" else s := by
  unfold nonEmpty
  by_cases empty : s = ""
  · simp [empty]
  · simp [empty]

/-! ## The message -/

section

variable {ext : Ext} {w₀ : World} {es : History} {p : State} {seq : ℕ}

/-- Thread `i` has accepted a request, and published it as message `seq` of the stream. -/
structure Accepted (es : History) (p : State) (i : ℕ) (req : SendNotificationRequest)
    (resp : SendNotificationResponse) (seq : ℕ) : Prop where
  returned : ∃ inst extensions, p.threads i =
    some (.rpc inst extensions (.sendNotification req), .ret (some ⟨.sendNotification req, resp⟩))
  last : ∃ pre e post, es = pre ++ e :: post ∧ e.tid = i ∧ doneBy post i = [] ∧
    e.before.stream.length = seq

theorem sent_ok {x : Choice} (sent : x.sent = .ok ()) : x.unsent = none := by
  unfold Choice.sent at sent
  split at sent
  · cases sent
  · assumption

/-- The message of a request that has been accepted is in the stream. -/
theorem Accepted.message {i : ℕ} {req : SendNotificationRequest} {resp : SendNotificationResponse}
    (accepted : Accepted es p i req resp seq) (run : (system ext).Run (Pool.idle w₀) es p) :
    ∃ id, resp = ⟨ext.showUuid id⟩ ∧ p.world.stream[seq]? =
      some (.ok ((NotificationService.ingestMessage req id
        ((req.payload.map protoStructToValue).getD (.object []))).reread ext.floatText)) := by
  obtain ⟨inst, extensions, returned⟩ := accepted.returned
  obtain ⟨h, service, nt, id, rfl, done⟩ : Sent ext req (doneBy es i) resp :=
    (recorded run).2.2 i _ _ returned
  obtain ⟨pre, e, post, rfl, own, last, rfl⟩ := accepted.last
  refine ⟨id, rfl, ?_⟩
  rw [List.append_cons, doneBy_append, last, List.append_nil, doneBy_append, doneBy_own own] at done
  have published := (List.append_inj' (done.trans (List.append_assoc h [_, _, _] [_]).symm) rfl).2
  have published := List.singleton_inj.1 published
  obtain ⟨q, _, _, o, _, x, rfl, _, _, rest⟩ := run.at
  refine rest.keeps (K := fun w => w.stream[_]? = some _) (fun _ _ _ => stream_exec) ?_
  cases o with
  | publishIngest subject msg =>
    obtain ⟨same, answer⟩ := Sigma.mk.inj published
    cases same
    have unsent := sent_ok (eq_of_heq answer)
    simp [System.stepped, system, exec, System.event, unsent]
  | _ => cases (Sigma.mk.inj published).1

/-- What a processor receives is the message that the stream has under the number. -/
theorem Received.message {i : ℕ} {m : IngestMessage} (run : (system ext).Run (Pool.idle w₀) es p)
    (received : Received seq m (doneBy es i)) : p.world.stream[seq]? = some (.ok m) := by
  obtain ⟨e, he, _, done⟩ := mem_doneBy.1 (List.mem_of_head? received)
  obtain ⟨pre, post, rfl⟩ := List.append_of_mem he
  refine run.since (K := fun w => w.stream[seq]? = some (.ok m)) (fun _ _ _ => stream_exec) ?_
  obtain ⟨_, _, o, x, w, rfl⟩ := performed run e he
  cases o with
  | receive =>
    obtain ⟨same, answer⟩ := Sigma.mk.inj done
    cases same
    exact eq_of_heq answer
  | _ => cases (Sigma.mk.inj done).1

theorem type_kept {p₀ : State} {serviceId : Uuid} {typeKey : String}
    (run : (system ext).Run p₀ es p)
    (unwritten : ∀ e ∈ es, ∀ row, typeWritten e.op e.ans ≠ some (serviceId, typeKey, row)) :
    p.world.db.notificationTypes.lookup (.typeKey serviceId typeKey) =
      p₀.world.db.notificationTypes.lookup (.typeKey serviceId typeKey) := by
  induction run with
  | init => rfl
  | start _ _ _ ih => exact ih unwritten
  | @step es p i c o k x _ _ ih =>
    rcases types_exec ext x o p.world serviceId typeKey with ⟨row, written, _⟩ | ⟨_, same⟩
    · exact absurd written (unwritten ((system ext).event i c o x p.world) (by simp) row)
    · exact same.trans (ih fun e he => unwritten e (List.mem_append_left _ he))

/-- The row of a type as it was found before some event. If it has not been written since, it is
found still. -/
def FoundBefore (es : History) (p : State) (slug typeKey : String) (nt : NotificationTypeRow) :
    Prop :=
  ∃ pre r post service, es = pre ++ r :: post ∧
    r.before.db.services.lookup (.slug slug) = some service ∧
    r.before.db.notificationTypes.lookup (.typeKey service.id typeKey) = some nt ∧
    ((∀ e ∈ r :: post, ∀ row, typeWritten e.op e.ans ≠ some (service.id, typeKey, row)) →
      p.world.db.notificationTypes.lookup (.typeKey service.id typeKey) = some nt)

/-- What a processor has got as the type of its message was found before some event. -/
theorem found_of_got {inst i : ℕ} {m : IngestMessage} {v : CachedNotificationType}
    (run : (system ext).Run (Pool.idle w₀) es p)
    (cold : ∀ inst c key, w₀.caches inst c key = none) (apart : TypesApart inst es)
    (processed : Processes inst es m)
    (got : Got inst .notificationTypes (notificationTypeKey m.serviceSlug m.notificationType) v
      (doneBy es i)) :
    ∃ nt, v = cachedNotificationType nt ∧
      FoundBefore es p m.serviceSlug m.notificationType nt := by
  obtain ⟨pre, d, post, split, put⟩ := got_origin run cold got
  obtain ⟨before, r, after, m', service, nt, rfl, loaded⟩ := type_loaded run split put
  obtain ⟨slug, key⟩ := apart.eq_of_key processed loaded.received loaded.key
  have place : es = before ++ r :: (after ++ d :: post) := by simp [split]
  refine ⟨nt, loaded.value, before, r, _, service, place, slug ▸ loaded.found, key ▸ loaded.typed,
    fun unwritten => ?_⟩
  rw [place] at run
  obtain ⟨q, i, c, o, k, x, rfl, _, _, rest⟩ := run.at
  rw [type_kept rest fun e he => unwritten e (.tail _ he)]
  rcases types_exec ext x o q.world service.id m.notificationType with ⟨row, written, _⟩ | ⟨_, same⟩
  · exact absurd written (unwritten _ (.head _) row)
  · rw [key]
    rw [key] at same
    exact same.trans loaded.typed

end

/-! ## The notification -/

/-- What the recipient gets of a request. -/
structure AsSent (req : SendNotificationRequest) (resp : SendNotificationResponse)
    (defaultIcon : Option String) (delivered : Bool) (note : Notification) : Prop where
  id : note.id = resp.notificationId
  recipientUserId : note.recipientUserId = req.recipientUserId
  groupKey : note.groupKey = req.groupKey
  actionUrl : note.actionUrl = req.actionUrl
  metadata : note.metadata = req.metadata
  payload : note.payload = some (normalPayload req.payload)
  icon : note.icon = if req.icon = "" then defaultIcon.getD "" else req.icon
  escalationCount : note.escalationCount = 0
  times : note.seenAt = none ∧ note.readAt = none ∧ note.snoozedUntil = none
  state : note.state = if delivered then 1 else 5

/-- The row that is stored for the message of a request shows what was sent. -/
theorem asSent_row (ext : Ext) (req : SendNotificationRequest) (id : Uuid)
    (notifType : CachedNotificationType) (levelId : Option Uuid) (config : ResolvedConfig)
    (expiresAt nextEscalationAt : Option Time) (now : Time) :
    AsSent req ⟨ext.showUuid id⟩ notifType.defaultIcon config.shouldDeliver
      (NotificationService.rowToProto ext ((notificationOf
        (NotificationService.ingestMessage req id
          ((req.payload.map protoStructToValue).getD (.object []))) notifType levelId config expiresAt
        nextEscalationAt).row now)) where
  id := rfl
  recipientUserId := rfl
  groupKey := nonEmpty_roundTrip req.groupKey
  actionUrl := nonEmpty_roundTrip req.actionUrl
  metadata := metadata_roundTrip req.metadata
  payload := payload_roundTrip req.payload
  icon := or_roundTrip req.icon notifType.defaultIcon
  escalationCount := rfl
  times := ⟨rfl, rfl, rfl⟩
  state := by
    cases config with
    | mk shouldDeliver => cases shouldDeliver <;> rfl

theorem getNotification_run (ext : Ext) (inst : ℕ) (scopes : List String) (x : ℕ → Choice)
    (w : World) (r : NotificationRow) (runs : (x 0).failure = none)
    (parses : ext.parseUuid (ext.showUuid r.id) = some r.id) (stored : w.notification r.id = some r) :
    ((Rpc.getNotification ⟨ext.showUuid r.id⟩).handle ext inst
      (some ⟨r.recipientUserId, scopes⟩)).run (exec ext) x w =
        (.ok (NotificationService.rowToProto ext r), w) := by
  have read : (exec ext (x 0) (.sql (.notifications (.getNotification r.id))) w) = (.ok (some r), w) := by
    simp only [exec, execSql, runs]
    simp only [Sql.exec, Db.Notifications.Query.exec, Db.Notifications.getNotification]
    exact congrArg (fun o => (Except.ok o, w)) stored
  simp only [Rpc.handle, NotificationService.getNotification, AuthClaims.fromExtensions, Prog.okOr,
    Prog.ret_bind, parses, Ext.query, query, Prog.mapErr, Prog.call_bind, Prog.run, read]
  simp [Prog.ofExcept, Prog.mapErr, Prog.ensure, Prog.run]

namespace Sample

/-- Third-party functions that know the text of the id 9. -/
def uuidExt : Ext :=
  { ext with
    parseUuid := fun s => if s = "00000000-0000-0000-0000-000000000009" then some 9 else none
    showUuid := fun _ => "00000000-0000-0000-0000-000000000009" }

/-- Perform a schedule with these functions. -/
def playedUuid (w : World) (as : List (Action Call Choice)) : State × History :=
  ((system uuidExt).perform (Pool.idle w) as).getD (Pool.idle w, [])

theorem run_playedUuid {w : World} {as : List (Action Call Choice)}
    (possible : ((system uuidExt).perform (Pool.idle w) as).isSome = true) :
    (system uuidExt).Run (Pool.idle w) (playedUuid w as).2 (playedUuid w as).1 := by
  obtain ⟨⟨p, es⟩, h⟩ := Option.isSome_iff_exists.1 possible
  apply System.run_of_perform
  rw [playedUuid, h]
  rfl

/-- A request to send `ann` a notification without an icon. -/
def request (slug typeKey : String) : SendNotificationRequest where
  serviceSlug := slug
  notificationType := typeKey
  recipientUserId := "ann"
  level := ""
  payload := some ⟨[("n", .numberValue .zero), ("u", .unset)]⟩
  idempotencyKey := ""
  groupKey := "group"
  ttlSeconds := 0
  metadata := [("k", "v")]
  actionUrl := ""
  icon := ""

/-- A request is sent, and its message is processed. -/
def sent : State × History :=
  playedUuid (world .empty [])
    (.start 0 (.rpc 0 (some ann) (.sendNotification (request "mail" "letter"))) ::
      (List.replicate 5 (.step 0 choice) ++
        .start 1 (.processor 0 0) :: List.replicate 16 (.step 1 choice)))

/-- The world of `colons`, where the type of the one service has a default icon. -/
def icons : World :=
  { colons [.ok plainMessage] with
    db :=
      { (colons []).db with
        notificationTypes :=
          { rows := [{ notificationType with typeKey := "b:c", defaultIcon := some "a.png" },
              { notificationType with id := 6, serviceId := 4, typeKey := "c" }]
            unique := by decide
            checked := by decide } } }

/-- A message of the one service is processed, and then a request for the other is sent, and its
message processed. -/
def mistaken : State × History :=
  playedUuid icons
    (.start 0 (.processor 0 0) :: (List.replicate 16 (.step 0 choice) ++
      .start 1 (.rpc 0 (some ann) (.sendNotification (request "a:b" "c"))) ::
        (List.replicate 5 (.step 1 choice) ++
          .start 2 (.processor 0 1) :: List.replicate 8 (.step 2 choice))))

end Sample

section

variable {ext : Ext} {w₀ : World} {es pre post : History} {p : State} {inst i seq : ℕ}
  {req : SendNotificationRequest} {resp : SendNotificationResponse}
  {d : Event Call Op Op.Ans World Choice} {n : Db.Notifications.InsertNotification}
  {row : NotificationRow}

/-- What the recipient gets of a request that was accepted, whose payload the text of its message gives
back, and whose message has been processed: all that was sent, with the default icon that the type had
when it was loaded, and in the state that the resolution of the preferences gives. -/
theorem arrives (run : (system ext).Run (Pool.idle w₀) es p)
    (cold : ∀ inst c key, w₀.caches inst c key = none) (apart : TypesApart inst es)
    (accepted : Accepted es p i req resp seq)
    (survives : ((req.payload.map protoStructToValue).getD (.object [])).survives ext.floatText = true)
    (split : es = pre ++ d :: post)
    (call : d.call = .processor inst seq)
    (stored : d.done = ⟨.sql (.notifications (.insertNotification n)), .ok row⟩)
    (untouched : p.world.notification row.id = some row)
    (parses : ext.parseUuid (ext.showUuid row.id) = some row.id) :
    ∃ m nt now level prefs, Received seq m (doneBy pre d.tid) ∧
      FoundBefore es p req.serviceSlug req.notificationType nt ∧
      GotLevel inst m (doneBy pre d.tid) level ∧
      Got inst .userPrefs req.recipientUserId prefs (doneBy pre d.tid) ∧
      ⟨.utcNow, now⟩ ∈ doneBy pre d.tid ∧
      ∀ inst' scopes x, (x 0).failure = none → ∃ note,
        ((Rpc.getNotification ⟨resp.notificationId⟩).handle ext inst'
          (some ⟨req.recipientUserId, scopes⟩)).run (exec ext) x p.world = (.ok note, p.world) ∧
        AsSent req resp nt.defaultIcon
          (resolve now prefs (cachedNotificationType nt) (level.map (·.severity))).shouldDeliver
          note := by
  obtain ⟨id, rfl, sent⟩ := accepted.message run
  rw [IngestMessage.reread_of_survives survives] at sent
  have op : d.op = .sql (.notifications (.insertNotification n)) := congrArg Sigma.fst stored
  obtain ⟨inst', seq', call', justified⟩ := justified_of_stores run split (by rw [op]; rfl)
  cases call.symm.trans call'
  rw [op] at justified
  obtain ⟨t, _, same⟩ := map_eq_ok.1 (answered run (by simp [split]) stored)
  obtain rfl : n.row _ = row := (Prod.mk.inj same).1
  generalize past : doneBy pre d.tid = h at justified
  cases justified with
  | @store h m notifType level level' prefs expiresAt nextEscalationAt now received typed levelled _
      preferred clock =>
    have longer : h <+: doneBy es d.tid := by
      rw [split, doneBy_append, past]
      exact List.prefix_append ..
    have same := (Received.message run (received.mono longer)).symm.trans sent
    cases same
    have processed := processes_of_event run split call (past ▸ received)
    obtain ⟨nt, rfl, found⟩ := found_of_got run cold apart processed (typed.mono longer)
    refine ⟨_, nt, now, level, prefs, received, found, levelled, preferred, clock,
      fun inst' scopes x runs => ?_⟩
    exact ⟨_, getNotification_run ext inst' scopes x p.world _ runs parses untouched,
      asSent_row ext req id (cachedNotificationType nt) ..⟩
  | other stores => cases stores

theorem arrives_sent : ∃ m nt now level prefs,
    Received 0 m (doneBy (Sample.sent.2.take 18) 1) ∧
    FoundBefore Sample.sent.2 Sample.sent.1 "mail" "letter" nt ∧
    GotLevel 0 m (doneBy (Sample.sent.2.take 18) 1) level ∧
    Got 0 .userPrefs "ann" prefs (doneBy (Sample.sent.2.take 18) 1) ∧
    ⟨.utcNow, now⟩ ∈ doneBy (Sample.sent.2.take 18) 1 ∧
    ∀ inst' scopes x, (x 0).failure = none → ∃ note,
      ((Rpc.getNotification ⟨"00000000-0000-0000-0000-000000000009"⟩).handle Sample.uuidExt inst'
        (some ⟨"ann", scopes⟩)).run (exec Sample.uuidExt) x Sample.sent.1.world =
          (.ok note, Sample.sent.1.world) ∧
      AsSent (Sample.request "mail" "letter") ⟨"00000000-0000-0000-0000-000000000009"⟩ nt.defaultIcon
        (resolve now prefs (cachedNotificationType nt) (level.map (·.severity))).shouldDeliver
        note := by
  have run : (system Sample.uuidExt).Run (Pool.idle (Sample.world .empty [])) Sample.sent.2
      Sample.sent.1 := Sample.run_playedUuid rfl
  have checked : (Sample.sent.2.all fun e => Sample.plain e.done) = true := rfl
  have accepted : Accepted Sample.sent.2 Sample.sent.1 0 (Sample.request "mail" "letter")
      ⟨"00000000-0000-0000-0000-000000000009"⟩ 0 :=
    ⟨⟨0, some Sample.ann, rfl⟩, Sample.sent.2.take 4, _, Sample.sent.2.drop 5, rfl, rfl, rfl, rfl⟩
  obtain ⟨d, post, n, row, split, tid, call, stored, untouched, id⟩ : ∃ d post n row,
      Sample.sent.2 = Sample.sent.2.take 18 ++ d :: post ∧ d.tid = 1 ∧ d.call = .processor 0 0 ∧
        d.done = ⟨.sql (.notifications (.insertNotification n)), .ok row⟩ ∧
        Sample.sent.1.world.notification row.id = some row ∧ row.id = 9 :=
    ⟨_, _, _, _, rfl, rfl, rfl, rfl, rfl, rfl⟩
  have parses : Sample.uuidExt.parseUuid (Sample.uuidExt.showUuid row.id) = some row.id := by
    rw [id]
    rfl
  rw [← tid]
  exact arrives run (fun _ _ _ => rfl) (Sample.apart_of_plain checked).types accepted rfl split call
    stored untouched parses

/-- A message is stored with the default icon of another service's type, although no type is ever
written. -/
theorem not_arrives : ¬ ∀ (ext : Ext) (w₀ : World) (es pre post : History) (p : State)
    (inst i seq : ℕ) (req : SendNotificationRequest) (resp : SendNotificationResponse)
    (d : Event Call Op Op.Ans World Choice) (n : Db.Notifications.InsertNotification)
    (row : NotificationRow) (service : ServiceRow) (nt : NotificationTypeRow),
    (system ext).Run (Pool.idle w₀) es p → (∀ inst c key, w₀.caches inst c key = none) →
      Accepted es p i req resp seq →
      ((req.payload.map protoStructToValue).getD (.object [])).survives ext.floatText = true →
      es = pre ++ d :: post → d.call = .processor inst seq →
      d.done = ⟨.sql (.notifications (.insertNotification n)), .ok row⟩ →
      p.world.notification row.id = some row → ext.parseUuid (ext.showUuid row.id) = some row.id →
      (∀ e ∈ es, typeWritten e.op e.ans = none) →
      p.world.db.services.lookup (.slug req.serviceSlug) = some service →
      p.world.db.notificationTypes.lookup (.typeKey service.id req.notificationType) = some nt →
      ∀ inst' scopes x note, ((Rpc.getNotification ⟨resp.notificationId⟩).handle ext inst'
        (some ⟨req.recipientUserId, scopes⟩)).run (exec ext) x p.world = (.ok note, p.world) →
        note.icon = if req.icon = "" then nt.defaultIcon.getD "" else req.icon := by
  intro same
  have run : (system Sample.uuidExt).Run (Pool.idle Sample.icons) Sample.mistaken.2
      Sample.mistaken.1 := Sample.run_playedUuid rfl
  have unwritten : (Sample.mistaken.2.all fun e => (typeWritten e.op e.ans).isNone) = true := rfl
  have accepted : Accepted Sample.mistaken.2 Sample.mistaken.1 1 (Sample.request "a:b" "c")
      ⟨"00000000-0000-0000-0000-000000000009"⟩ 1 :=
    ⟨⟨0, some Sample.ann, rfl⟩, Sample.mistaken.2.take 20, _, Sample.mistaken.2.drop 21, rfl, rfl,
      rfl, rfl⟩
  obtain ⟨d, post, n, row, split, call, stored, untouched, id, recipient, icon⟩ :
      ∃ d post n row, Sample.mistaken.2 = Sample.mistaken.2.take 26 ++ d :: post ∧
        d.call = .processor 0 1 ∧
        d.done = ⟨.sql (.notifications (.insertNotification n)), .ok row⟩ ∧
        Sample.mistaken.1.world.notification row.id = some row ∧ row.id = 9 ∧
        row.recipientUserId = "ann" ∧ row.icon = some "a.png" :=
    ⟨_, _, _, _, rfl, rfl, rfl, rfl, rfl, rfl, rfl⟩
  have parses : Sample.uuidExt.parseUuid (Sample.uuidExt.showUuid row.id) = some row.id := by
    rw [id]
    rfl
  have answer := getNotification_run Sample.uuidExt 0 [] (fun _ => Sample.choice) _ row rfl parses
    untouched
  rw [recipient] at answer
  have none := same _ _ _ _ _ _ _ _ _ _ _ d n row _ _ run (fun _ _ _ => rfl) accepted rfl split
    call stored untouched parses
    (fun e he => Option.isNone_iff_eq_none.1 (List.all_eq_true.1 unwritten e he)) rfl rfl 0 [] _ _
    answer
  have shown : (NotificationService.rowToProto Sample.uuidExt row).icon = "a.png" :=
    congrArg (·.getD "") icon
  exact absurd (shown.symm.trans none) (by decide)

end

end Estafeta
