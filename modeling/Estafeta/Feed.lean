import Estafeta.Lib.Lossy
import Estafeta.Fidelity
import Estafeta.Filters
import Estafeta.Relays
import Estafeta.Sweeps

/-!
# What a client is told

A client that has subscribed, beside everything else that goes on (`Followed`): its stream is opened at
some moment, NATS hands it the events that are published from then on, or loses them, and the task
relays them at any time. What is published tells of a notification that has been stored, or of a change
that a pass has made (`tells`). So all that the client is ever sent is true of its own notifications,
and it is told of the arrival of each at most once (`truthful`).
-/

open Relational Atomic

namespace Estafeta

open StreamingService

/-! ## A stream beside a run -/

/-- The event publishes this: a processor announces a notification, anything else a change of state. -/
def Publication.Of (pub : Publication) (e : Event Call Op Op.Ans World Choice) : Prop :=
  e.op = .publish pub.subject pub.event ∧
    (pub.branch = .newNotification ↔ ∃ inst seq, e.call = .processor inst seq)

/-- A run of the system, and a stream that a client has opened in the course of it. -/
inductive Followed (ext : Ext) (w₀ : World) (sub : Subscription) : History → State → Stream → Prop where
  | opened {es p} : (system ext).Run (Pool.idle w₀) es p → Followed ext w₀ sub es p .opened
  /-- whatever is published meanwhile is lost -/
  | runs {es es' p q s} : Followed ext w₀ sub es p s → (system ext).Run p es' q →
    Followed ext w₀ sub (es ++ es') q s
  | hears {es p q s e pub} : Followed ext w₀ sub es p s → (system ext).Run p [e] q → pub.Of e →
    Followed ext w₀ sub (es ++ [e]) q (deliver sub pub s)
  | relays {es p s s' b connected} : Followed ext w₀ sub es p s →
    iterate ext sub b connected s = some s' → Followed ext w₀ sub es p s'

section

variable {ext : Ext} {w₀ : World} {sub : Subscription} {es : History} {p : State} {s s' : Stream}
  {b : Branch}

theorem Followed.run (followed : Followed ext w₀ sub es p s) :
    (system ext).Run (Pool.idle w₀) es p := by
  induction followed with
  | opened run => exact run
  | runs _ run ih => exact ih.trans run
  | hears _ run _ ih => exact ih.trans run
  | relays _ _ ih => exact ih

theorem Followed.reached (followed : Followed ext w₀ sub es p s) :
    StreamingService.Reached ext sub s := by
  induction followed with
  | opened => exact .opened
  | runs _ _ ih => exact ih
  | @hears _ _ _ _ _ pub _ _ _ ih => exact ih.act (.publish pub) rfl
  | @relays _ _ _ _ b connected _ step ih => exact ih.act (.take b connected) step

theorem pending_deliver (pub : Publication) : (deliver sub pub s).pending b = s.pending b ∨
    (deliver sub pub s).pending b = s.pending b ++ [pub] := by
  unfold deliver
  dsimp only
  split
  · exact .inr rfl
  · exact .inl rfl

theorem through_iterate {c : Branch} {connected : Bool}
    (step : iterate ext sub b connected s = some s') :
    (s'.through c ++ s'.pending c).Sublist (s.through c ++ s.pending c) := by
  unfold iterate at step
  split at step
  next pub rest going waiting =>
    have fewer : (Function.update s.pending b rest c).Sublist (s.pending c) := by
      by_cases same : c = b
      · subst same
        rw [Function.update_self, waiting]
        exact .cons _ (.refl _)
      · rw [Function.update_of_ne same]
    split at step
    next =>
      cases step
      exact (List.Sublist.refl _).append fewer
    next event _ =>
      split at step
      next =>
        cases step
        unfold Stream.through
        dsimp only
        rw [List.filter_append, List.map_append, List.append_assoc]
        refine (List.Sublist.refl _).append ?_
        by_cases same : c = b
        · subst same
          simp [waiting]
        · simp [Ne.symm same, Function.update_of_ne same]
      next =>
        cases step
        exact (List.Sublist.refl _).append fewer
  next => cases step

/-- What has come through an arm, and what waits in it, was published in this order. -/
theorem Followed.heard (followed : Followed ext w₀ sub es p s) (b : Branch) :
    List.SublistForall₂ Publication.Of (s.through b ++ s.pending b) es := by
  induction followed with
  | opened => exact .nil
  | runs _ _ ih => exact ih.lose _
  | @hears _ _ _ s e pub _ _ of ih =>
    show List.SublistForall₂ _ (s.through b ++ (deliver sub pub s).pending b) _
    rcases pending_deliver pub with same | same
    · rw [same]
      exact ih.lose _
    · rw [same, ← List.append_assoc]
      exact ih.snoc of
  | relays _ step ih => exact ih.drop (through_iterate step)

theorem Followed.published (followed : Followed ext w₀ sub es p s) {d : Delivery} (sent : d ∈ s.sent) :
    ∃ e ∈ es, d.publication.Of e := by
  refine (followed.heard d.branch).exists_of_mem (List.mem_append_left _ ?_)
  exact List.mem_map_of_mem (List.mem_filter.2 ⟨sent, decide_eq_true rfl⟩)

end

/-! ## What is published -/

/-- The notification that the processor of a message stores, if it is to be delivered. -/
structure Arrives (inst seq : ℕ) (h : Record) (m : IngestMessage)
    (n : Db.Notifications.InsertNotification) : Prop where
  received : Received seq m h
  unseen : n.state = "unseen"
  of : ∃ notifType levelId config expiresAt nextEscalationAt,
    Got inst .notificationTypes (notificationTypeKey m.serviceSlug m.notificationType) notifType h ∧
      n = notificationOf m notifType levelId config expiresAt nextEscalationAt

/-- The pass that sweeps. -/
def Sweep.call : Sweep → Call
  | .wakeUp => .snoozeWake
  | .expiry => .ttlExpiry

/-- What the pass publishes for a notification that it has changed. -/
def Sweep.event : Sweep → NotificationRow → RealtimeEvent
  | .wakeUp => wokenEvent
  | .expiry => expiredEvent

/-- What a call has done before it publishes an event. -/
inductive Call.Tells : Call → Record → String → RealtimeEvent → Prop where
  | arrival {inst seq h m n row} : Arrives inst seq h m n →
    ⟨.sql (.notifications (.insertNotification n)), .ok row⟩ ∈ h →
    Tells (.processor inst seq) h s!"rt.user.{m.recipientUserId}" (newNotificationEvent m n.icon row)
  | sweep {s : Sweep} {h a r} : ⟨.sql (.notifications (s.query batchSize)), a⟩ ∈ h →
    r ∈ swept (.sql (.notifications (s.query batchSize))) a →
    Tells s.call h s!"rt.user.{r.recipientUserId}.state" (s.event r)

/-- A call publishes only what it has done. -/
def Call.Truthful (c : Call) (h : Record) (o : Op) : Prop :=
  ∀ subject event, o = .publish subject event → c.Tells h subject event

theorem truthful_of_publishes {c : Call} {h : Record} {o : Op} (silent : o.publishes = false) :
    c.Truthful h o := by
  rintro subject event rfl
  cases silent

section

variable {ext : Ext} {inst seq : ℕ} {h : Record}

theorem allows_truthful : Allows inst seq (Call.processor inst seq).Truthful := by
  intro h o other _
  refine truthful_of_publishes ?_
  cases o with
  | publish => cases other
  | _ => rfl

theorem processMessage_truthful (payload : Payload)
    (received : ∀ m, payload = .ok m → Received seq m h) :
    (processMessage ext inst payload).Obeys (.recording (Call.processor inst seq).Truthful)
      (fun _ _ => True) (fun _ _ => True) h := by
  simp only [processMessage, persist, Prog.obeys_bind, Prog.obeys_ofExcept]
  refine ⟨fun _ _ => trivial, fun m same => ?_⟩
  have received := received m same
  refine getOrLoadNotifType_records allows_truthful received fun h₁ notifType le₁ typed => ?_
  have received := received.mono le₁
  refine levelOf_records allows_truthful received fun h₂ level le₂ _ => ?_
  have received := received.mono le₂
  refine levelOf_records allows_truthful received fun h₃ level' le₃ _ => ?_
  have received := received.mono le₃
  refine getOrLoadUserPrefs_records allows_truthful received fun h₄ prefs le₄ _ => ?_
  refine ⟨truthful_of_publishes rfl, fun now => ?_⟩
  refine expiresAtOf_records allows_truthful _ fun h₅ expiresAt le₅ _ => ?_
  refine nextEscalationAtOf_records allows_truthful _ fun h₆ nextEscalationAt le₆ _ => ?_
  refine (obeys_run ext _).2 ⟨truthful_of_publishes rfl, fun _ => trivial, fun row => ?_⟩
  have le : h₄ <+: h₆ := (List.prefix_append ..).trans (le₅.trans le₆)
  split
  next delivers =>
    refine ⟨?_, fun _ => trivial⟩
    rintro subject event ⟨⟩
    have le' := le.trans (List.prefix_append _
      [(⟨.sql (.notifications (.insertNotification (notificationOf m notifType (level'.map (·.id))
        (resolve now prefs notifType (level.map (·.severity))) expiresAt nextEscalationAt))),
        .ok row⟩ : Σ o : Op, o.Ans)])
    refine .arrival ⟨(received.mono le₄).mono le', ?_, _, _, _, _, _,
      typed.mono (le₂.trans (le₃.trans (le₄.trans le'))), rfl⟩ (List.mem_append_right _ (.head _))
    exact if_pos delivers
  next => trivial

theorem processorRun_truthful :
    (processorRun ext inst seq).Obeys (.recording (Call.processor inst seq).Truthful)
      (fun _ _ => True) (fun _ _ => True) [] := by
  simp only [processorRun, perform, Prog.call_bind, Prog.ret_bind, Prog.obeys_call]
  refine ⟨truthful_of_publishes rfl, fun payload => ?_⟩
  rcases payload with _ | payload
  · trivial
  · simp only [Prog.obeys_bind, Prog.obeys_attempt]
    refine (processMessage_truthful payload fun m same => same ▸ rfl).mono ?_ ?_
    · exact fun _ _ _ => ⟨truthful_of_publishes rfl, fun _ => trivial⟩
    · exact fun _ _ _ => ⟨truthful_of_publishes rfl, fun _ => trivial⟩

/-- A pass runs its statement, and publishes the events of what the statement answers. -/
theorem sweep_truthful (s : Sweep) (rows : List NotificationRow)
    {a : Op.Ans (.sql (.notifications (s.query batchSize)))}
    (done : (⟨.sql (.notifications (s.query batchSize)), a⟩ : Σ o : Op, o.Ans) ∈ h)
    (answered : ∀ r ∈ rows, r ∈ swept (.sql (.notifications (s.query batchSize))) a) :
    (forM rows fun r => publishStateChange r.recipientUserId (s.event r)).Obeys
      (.recording s.call.Truthful) (fun _ _ => True) (fun _ _ => True) h := by
  refine Prog.obeys_forM (fun todo h' => h <+: h' ∧ ∀ r ∈ todo, r ∈ rows) _ _ ?_
    (fun _ _ => trivial) ⟨List.prefix_rfl, fun _ mem => mem⟩
  rintro r todo h' ⟨longer, left⟩
  refine ⟨?_, fun _ => ⟨longer.trans (List.prefix_append ..), fun r mem => left r (.tail _ mem)⟩⟩
  rintro subject event ⟨⟩
  exact .sweep (longer.subset done) (answered r (left r (.head _)))

theorem silent_of_may {c : Call} (other : (∃ inst extensions r, c = .rpc inst extensions r) ∨
    c = .escalation) {s : Phase} {o : Op} (may : c.monitor.may s o) : o.publishes = false := by
  obtain ⟨inst, extensions, r, rfl⟩ | rfl := other
  · cases s with
    | rpc granted =>
      rcases may with ⟨q, rfl, _⟩ | ⟨_, q, c, rfl, _⟩ |
        ⟨_, ⟨q, rfl, _⟩ | rfl | ⟨_, _, _, rfl⟩ | ⟨_, rfl⟩ | ⟨c, check, _, privileged, _⟩⟩
      any_goals rfl
      cases privileged <;> rfl
    | _ => exact may.elim
  · simp only [Call.monitor, escalationMonitor] at may
    split at may
    all_goals first | rfl | exact may.elim

theorem body_truthful (ext : Ext) (c : Call) :
    ((system ext).body c).Obeys (.recording c.Truthful) (fun _ _ => True) (fun _ _ => True) [] := by
  have silent : ∀ c : Call, ((∃ inst extensions r, c = .rpc inst extensions r) ∨ c = .escalation) →
      ((system ext).body c).Obeys (.recording c.Truthful) (fun _ _ => True) (fun _ _ => True) [] :=
    fun c other => ((body_obeys ext c).within fun _ _ may => silent_of_may other may).obeys
      fun _ _ => truthful_of_publishes
  cases c with
  | rpc inst extensions r => exact silent _ (.inl ⟨_, _, _, rfl⟩)
  | escalation => exact silent _ (.inr rfl)
  | processor inst seq =>
    simp only [system, Call.body, Prog.obeys_bind, Prog.obeys_mapErr]
    exact processorRun_truthful
  | snoozeWake =>
    simp only [system, Call.body, Prog.obeys_bind, Prog.obeys_mapErr]
    unfold runSnoozeWake
    rw [Prog.obeys_bind]
    refine (obeys_run ext _).2 ⟨truthful_of_publishes rfl, fun _ => trivial, fun rows => ?_⟩
    exact sweep_truthful .wakeUp rows (.head _) fun _ mem => mem
  | ttlExpiry =>
    simp only [system, Call.body, Prog.obeys_bind, Prog.obeys_mapErr]
    unfold runTtlExpiry
    rw [Prog.obeys_bind]
    refine (obeys_run ext _).2 ⟨truthful_of_publishes rfl, fun _ => trivial, fun rows => ?_⟩
    exact sweep_truthful .expiry rows (.head _) fun _ mem => mem

theorem tells {w₀ : World} {es pre post : History} {p : State}
    {e : Event Call Op Op.Ans World Choice} (run : (system ext).Run (Pool.idle w₀) es p)
    (split : es = pre ++ e :: post) {subject : String} {event : RealtimeEvent}
    (op : e.op = .publish subject event) : e.call.Tells (doneBy pre e.tid) subject event :=
  (run.recorded (body_truthful ext)).1 pre e post split subject event op

end

/-! ## The truth of it -/

/-- What a client is told of a notification agrees with what a request for it answers, up to the text
of the payload. -/
structure NewNotification.Shows (ext : Ext) (n : NewNotification) (r : NotificationRow) : Prop where
  id : n.id = (NotificationService.rowToProto ext r).id
  text : n.payload = valueToProtoStruct (r.payload.reread ext.floatText)
  payload : r.payload.survives ext.floatText = true →
    n.payload = (NotificationService.rowToProto ext r).payload
  groupKey : n.groupKey = (NotificationService.rowToProto ext r).groupKey
  metadata : n.metadata = (NotificationService.rowToProto ext r).metadata
  actionUrl : n.actionUrl = (NotificationService.rowToProto ext r).actionUrl
  icon : n.icon = (NotificationService.rowToProto ext r).icon

/-- The notification is of the service with this slug, and of its type with this key. -/
def World.Names (w : World) (r : NotificationRow) (slug typeKey : String) : Prop :=
  ∃ service nt, w.db.services.lookup (.id r.serviceId) = some service ∧ service.slug = slug ∧
    w.db.notificationTypes.lookup (.id r.notificationTypeId) = some nt ∧ nt.serviceId = service.id ∧
    nt.typeKey = typeKey

/-- What is true of an event that a client has been sent: a notification of its own has been stored as
unseen, and is still stored as the client was told; or a notification of its own has changed its state
as the client was told, or from a state that it was not told. -/
inductive Told (ext : Ext) (es : History) (w : World) (userId : String) : NotificationEvent → Prop where
  | arrival {n d i r} : d ∈ es → inserted d.op d.ans = some i → i.state = "unseen" →
    (i.row d.choice.now).Keeps r → r ∈ w.db.notifications.rows → r.recipientUserId = userId →
    n.Shows ext r → w.Names r n.serviceSlug n.notificationType → Told ext es w userId (.newNotification n)
  | change {c d r r' s} : d ∈ es → (r, r') ∈ d.before.moved d.after → r'.Keeps s →
    s ∈ w.db.notifications.rows → s.recipientUserId = userId → c.notificationId = ext.showUuid s.id →
    (c.oldState = 0 ∨ c.oldState = stateToProto (some r.state)) →
    c.newState = stateToProto (some r'.state) → Told ext es w userId (.stateChange c)

section

variable {ext : Ext} {w₀ : World} {es pre post : History} {p : State} {inst seq : ℕ}
  {e : Event Call Op Op.Ans World Choice} {m : IngestMessage} {row : NotificationRow}
  {i : Db.Notifications.InsertNotification} {sub : Subscription} {n : NotificationEvent}

/-- The notification that a processor has stored before an event is stored as it was, for the service
and the type of its message. -/
theorem stored_of_arrives (run : (system ext).Run (Pool.idle w₀) es p)
    (cold : ∀ inst c key, w₀.caches inst c key = none) (apart : ∀ inst, Apart inst es)
    (split : es = pre ++ e :: post) (call : e.call = .processor inst seq)
    (arrives : Arrives inst seq (doneBy pre e.tid) m i)
    (stored : ⟨.sql (.notifications (.insertNotification i)), .ok row⟩ ∈ doneBy pre e.tid) :
    ∃ d ∈ es, inserted d.op d.ans = some i ∧ ∃ r ∈ p.world.db.notifications.rows,
      row = i.row d.choice.now ∧ row.Keeps r ∧
        p.world.Names r m.serviceSlug m.notificationType := by
  obtain ⟨d, earlier, _, done⟩ := mem_doneBy.1 stored
  have hd : d ∈ es := split ▸ List.mem_append_left _ earlier
  obtain ⟨t, _, same⟩ := map_eq_ok.1 (answered run hd done)
  have ofRow : row = i.row d.choice.now := (Prod.mk.inj same).1.symm
  have ins : inserted d.op d.ans = some i :=
    congrArg (fun d : Σ o : Op, o.Ans => inserted d.1 d.2) done
  obtain ⟨g, watched, _⟩ := phased run
  obtain ⟨r, here, keeps⟩ := kept watched hd ins
  refine ⟨d, hd, ins, r, Table.mem_of_lookup here, ofRow, ofRow ▸ keeps, ?_⟩
  obtain ⟨notifType, levelId, config, expiresAt, nextEscalationAt, typed, rfl⟩ := arrives.of
  have processed := processes_of_event run split call arrives.received
  have longer : doneBy pre e.tid <+: doneBy es e.tid := by
    rw [split, doneBy_append]
    exact List.prefix_append ..
  obtain ⟨service, nt, found, found', ofService, ofType, _⟩ :=
    (usesOwn (i := e.tid) run cold (apart inst) processed).type _ (typed.mono longer)
  obtain ⟨sameService, sameKey⟩ := typeKey_mem_keys.1 (Table.key_of_lookup found')
  refine ⟨service, nt, ?_, slug_mem_keys.1 (Table.key_of_lookup found), ?_, sameService, sameKey⟩
  · exact Table.lookup_of_mem (Table.mem_of_lookup found) ((keeps.serviceId.trans ofService) ▸ .head _)
  · exact Table.lookup_of_mem (Table.mem_of_lookup found')
      ((keeps.notificationTypeId.trans ofType) ▸ .head _)

/-- What the first arm makes of the announcement of a notification shows the notification. -/
theorem shows_of_relay {h : Record} {now : Time} {r : NotificationRow}
    (arrives : Arrives inst seq h m i) (keeps : (i.row now).Keeps r)
    (relayed : relay ext sub .newNotification
      ((newNotificationEvent m i.icon (i.row now)).reread ext.floatText) = some n) :
    ∃ n', n = .newNotification n' ∧ n'.Shows ext r ∧ n'.serviceSlug = m.serviceSlug ∧
      n'.notificationType = m.notificationType := by
  obtain ⟨notifType, levelId, config, expiresAt, nextEscalationAt, _, rfl⟩ := arrives.of
  have relayed : newNotification ext sub.serviceFilter _ = some n := relayed
  unfold newNotification at relayed
  split at relayed
  · cases relayed
  · cases relayed
    have text : r.payload = m.payload := keeps.payload
    refine ⟨_, rfl, ⟨?_, ?_, fun survives => ?_, ?_, ?_, ?_, ?_⟩, rfl, rfl⟩
    · exact congrArg ext.showUuid keeps.id.symm
    · exact congrArg (fun v => valueToProtoStruct (v.reread ext.floatText)) text.symm
    · refine congrArg valueToProtoStruct ?_
      rw [← text]
      exact reread_of_survives survives
    · exact congrArg (·.getD "") keeps.groupKey.symm
    · have same : r.metadata = metadataToValue m.metadata := keeps.metadata
      show m.metadata = ((r.metadata.asObject?.map _).getD [])
      rw [same]
      exact (metadata_roundTrip _).symm
    · exact congrArg (·.getD "") keeps.actionUrl.symm
    · exact congrArg (·.getD "") keeps.icon.symm

/-- A notification that is stored after an event of a run is stored at its end. -/
theorem stored_later (run : (system ext).Run (Pool.idle w₀) es p)
    {d : Event Call Op Op.Ans World Choice} (hd : d ∈ es) {id : Uuid} {r : NotificationRow}
    (stored : d.after.notification id = some r) :
    ∃ r', p.world.notification id = some r' ∧ r.Keeps r' := by
  obtain ⟨g, watched, _⟩ := phased run
  obtain ⟨pre, post, rfl⟩ := List.append_of_mem hd
  obtain ⟨_, _, _, _, _, _, _, rfl, _, _, _, joined⟩ := watched.at
  exact keeps_between watched (fun e he => List.mem_append_right _ (.tail _ he)) joined stored

/-- What the second arm makes of the event of a sweep tells of a change that the sweep has made. -/
theorem told_of_sweep (run : (system ext).Run (Pool.idle w₀) es p) {s : Sweep}
    {a : Op.Ans (.sql (.notifications (s.query batchSize)))} {r : NotificationRow} {tid : ℕ}
    (done : ⟨.sql (.notifications (s.query batchSize)), a⟩ ∈ doneBy es tid)
    (mem : r ∈ swept (.sql (.notifications (s.query batchSize))) a) :
    ∃ r' ∈ p.world.db.notifications.rows, r'.recipientUserId = r.recipientUserId ∧
      Told ext es p.world r'.recipientUserId (StreamingService.stateChange ext (s.event r)) := by
  obtain ⟨d, hd, _, same⟩ := mem_doneBy.1 done
  obtain ⟨r₀, before, due, set, after⟩ : ∃ r₀, d.before.notification r.id = some r₀ ∧
      s.due d.choice.now r₀ = true ∧ r = (s.set d.choice.now).set r₀ ∧
      d.after.notification r.id = some r := by
    obtain ⟨_, _, o, x, w, rfl⟩ := performed run d hd
    cases same
    exact swept_due mem
  obtain ⟨r', here, keeps⟩ := stored_later run hd after
  refine ⟨r', Table.mem_of_lookup here, keeps.recipientUserId, ?_⟩
  have named : ext.showUuid r.id = ext.showUuid r'.id := congrArg ext.showUuid keeps.id.symm
  have moves : r.state ≠ r₀.state → (r₀, r) ∈ d.before.moved d.after := fun other =>
    mem_moved.2 ⟨Table.mem_of_lookup before, (World.id_of before).symm ▸ after, other⟩
  cases s with
  | wakeUp =>
    have asleep : r₀.state = "snoozed" := snoozed_of_over due
    have woken : r.state = "unread" := congrArg (·.state) set
    refine .change hd (moves ?_) keeps (Table.mem_of_lookup here) rfl named (.inr ?_) ?_
    · rw [asleep, woken]
      decide
    · rw [asleep]
      rfl
    · rw [woken]
      rfl
  | expiry =>
    have live : r₀.state ≠ "expired" := not_expired_of_over due
    have expired : r.state = "expired" := congrArg (·.state) set
    refine .change hd (moves ?_) keeps (Table.mem_of_lookup here) rfl named (.inl rfl) ?_
    · rw [expired]
      exact live.symm
    · rw [expired]
      rfl

theorem userId_of_new {pub : Publication} {v : String} (new : pub.branch = .newNotification)
    (target : pub.subject = s!"rt.user.{v}") : pub.userId = v := by
  cases pub with
  | realtime u event => exact (String.append_right_inj _).1 target
  | stateChange => cases new

theorem userId_of_state {pub : Publication} {v : String} (state : pub.branch = .stateChange)
    (target : pub.subject = s!"rt.user.{v}.state") : pub.userId = v := by
  cases pub with
  | realtime => cases state
  | stateChange u event =>
    exact (String.append_right_inj _).1 ((String.append_left_inj _).1 target)

/-- Whatever the client is sent is true, if its id meets that of no recipient and no cache confuses the
services of two messages. -/
theorem told_of_followed {s : Stream} {nats : String → Except String Unit} {claims : AuthClaims}
    {req : SubscribeRequest} (followed : Followed ext w₀ sub es p s)
    (opened : subscribe nats (some claims) req = .ret sub)
    (cold : ∀ inst c key, w₀.caches inst c key = none) (apart : ∀ inst, Apart inst es)
    (separate : ∀ r ∈ p.world.db.notifications.rows, ¬ Meets claims.subject r.recipientUserId) :
    ∀ d ∈ s.sent, d.branch = d.publication.branch ∧ Told ext es p.world claims.subject d.event := by
  rintro ⟨b, pub, n⟩ sent
  obtain ⟨e, he, op, kind⟩ := followed.published sent
  obtain ⟨pre, post, rfl⟩ := List.append_of_mem he
  have tells := tells followed.run rfl op
  have relayed : relay ext sub b (pub.event.reread ext.floatText) = some n :=
    reached_relayed followed.reached _ sent
  have own : ∀ r ∈ p.world.db.notifications.rows, pub.userId = r.recipientUserId →
      claims.subject = r.recipientUserId ∧ b = pub.branch := fun r stored user =>
    separate_of_not_meets ext _ _ (separate r stored) nats claims.scopes req sub s opened
      followed.reached _ sent user
  generalize call : e.call = c at tells kind
  generalize past : doneBy pre e.tid = h at tells
  generalize target : pub.subject = subject at tells
  generalize what : pub.event = event at tells relayed
  cases tells with
  | @arrival inst seq h m i row arrives stored =>
    subst past
    obtain ⟨d, hd, ins, r, here, rfl, keeps, names⟩ :=
      stored_of_arrives followed.run cold apart rfl call arrives stored
    have recipient : r.recipientUserId = m.recipientUserId := by
      obtain ⟨_, _, _, _, _, _, rfl⟩ := arrives.of
      exact keeps.recipientUserId
    have new := kind.2 ⟨_, _, rfl⟩
    obtain ⟨mine, rfl⟩ := own r here ((userId_of_new new target).trans recipient.symm)
    rw [new] at relayed
    obtain ⟨n', rfl, shows, slug, key⟩ := shows_of_relay arrives keeps relayed
    exact ⟨rfl, .arrival hd ins arrives.unseen keeps here mine.symm shows (by rwa [slug, key])⟩
  | @sweep s h a r done mem =>
    subst past
    have done : (⟨_, a⟩ : Σ o : Op, o.Ans) ∈ doneBy (pre ++ e :: post) e.tid := by
      rw [doneBy_append]
      exact List.mem_append_left _ done
    obtain ⟨r', here, recipient, told⟩ := told_of_sweep followed.run done mem
    have state : pub.branch = .stateChange := by
      cases branch : pub.branch with
      | stateChange => rfl
      | newNotification =>
        obtain ⟨_, _, same⟩ := kind.1 branch
        cases s <;> cases same
    obtain ⟨mine, rfl⟩ := own r' here ((userId_of_state state target).trans recipient.symm)
    rw [state] at relayed
    cases relayed
    exact ⟨rfl, mine ▸ told⟩

/-- No notification is announced twice. -/
theorem announced_once (run : (system ext).Run (Pool.idle w₀) es p) (id : Uuid) :
    es.countP (announces id) ≤ 1 := by
  obtain ⟨g, watched, _⟩ := phased run
  have once : es.countP (inserts id) ≤ 1 := (inserted_once watched).1
  refine (watched.countP_le fun i c s thread => ?_).trans once
  exact Nat.le_of_add_right_le (announced_le_inserted watched i c s thread)

theorem announces_of (run : (system ext).Run (Pool.idle w₀) es p) (he : e ∈ es) {pub : Publication}
    (of : pub.Of e) (new : pub.branch = .newNotification) :
    announces pub.event.notificationId e = true := by
  obtain ⟨op, kind⟩ := of
  obtain ⟨inst, seq, call⟩ := kind.1 new
  obtain ⟨pre, post, split⟩ := List.append_of_mem he
  have tells := tells run split op
  have announcement : pub.event.eventType = .newNotification := by
    generalize e.call = c at tells call
    generalize pub.subject = subject at tells
    generalize pub.event = event at tells
    cases tells with
    | arrival => rfl
    | @sweep s => cases s <;> cases call
  unfold announces
  rw [op]
  simp [Op.announces, announcement]

/-- A client that follows the system is told nothing but the truth about its own notifications, each in
the order in which it was published; and it is told of the arrival of a notification only once. -/
theorem truthful {s : Stream} {nats : String → Except String Unit} {claims : AuthClaims}
    {req : SubscribeRequest} (followed : Followed ext w₀ sub es p s)
    (opened : subscribe nats (some claims) req = .ret sub)
    (cold : ∀ inst c key, w₀.caches inst c key = none) (apart : ∀ inst, Apart inst es)
    (separate : ∀ r ∈ p.world.db.notifications.rows, ¬ Meets claims.subject r.recipientUserId) :
    (∀ d ∈ s.sent, Told ext es p.world claims.subject d.event) ∧
      (∀ b, List.SublistForall₂ Publication.Of (s.through b) es) ∧
      ((s.through .newNotification).map fun pub => pub.event.notificationId).Nodup := by
  have right := told_of_followed followed opened cold apart separate
  have ordered : ∀ b, List.SublistForall₂ Publication.Of (s.through b) es :=
    fun b => (followed.heard b).drop (List.sublist_append_left ..)
  refine ⟨fun d sent => (right d sent).2, ordered, List.nodup_iff_count_le_one.2 fun id => ?_⟩
  have new : ∀ pub ∈ s.through .newNotification, pub.branch = .newNotification := by
    intro pub mem
    obtain ⟨d, sent, rfl⟩ := List.mem_map.1 mem
    obtain ⟨sent, branch⟩ := List.mem_filter.1 sent
    exact (right d sent).1.symm.trans (of_decide_eq_true branch)
  rw [List.count_eq_countP, List.countP_map]
  refine le_trans ((ordered .newNotification).countP_le fun pub mem e he of same => ?_)
    (announced_once followed.run id)
  rw [← eq_of_beq same]
  exact announces_of followed.run he of (new pub mem)

end

namespace Sample

/-- The stream of `ann`, who asks for state changes too. -/
def stream : Subscription := ⟨"ann", "rt.user.ann", some "rt.user.ann.state", []⟩

/-- A processor is about to announce a notification of `ann`. -/
def announcing : State × History :=
  played (world .empty [.ok message])
    (.start 0 (.processor 0 0) :: List.replicate 14 (.step 0 choice))

end Sample

/-- `ann` is told of a notification. -/
theorem truthful_announced : ∃ es p s, Followed Sample.ext (Sample.world .empty [.ok Sample.message])
    Sample.stream es p s ∧ s.sent.length = 1 ∧
      (∀ d ∈ s.sent, Told Sample.ext es p.world "ann" d.event) ∧
      (∀ b, List.SublistForall₂ Publication.Of (s.through b) es) ∧
      ((s.through .newNotification).map fun pub => pub.event.notificationId).Nodup := by
  obtain ⟨event, k, thread⟩ : ∃ event k, Sample.announcing.1.threads 0 =
      some (.processor 0 0, .call (.publish "rt.user.ann" event) k) := ⟨_, _, rfl⟩
  have run : (system Sample.ext).Run _ Sample.announcing.2 Sample.announcing.1 :=
    Sample.run_played rfl
  have heard : Publication.Of (.realtime "ann" event) ((system Sample.ext).event 0 (.processor 0 0)
      (.publish "rt.user.ann" event) Sample.choice Sample.announcing.1.world) :=
    ⟨rfl, iff_of_true rfl ⟨0, 0, rfl⟩⟩
  have waits : (deliver Sample.stream (.realtime "ann" event) .opened).pending .newNotification =
      [.realtime "ann" event] := by
    refine if_pos ?_
    show Nats.accepts "rt.user.ann" (Publication.realtime "ann" event).subject = true
    rw [show (Publication.realtime "ann" event).subject = "rt.user.ann" from rfl]
    exact Nats.accepts_self _
  obtain ⟨s, relayed, one⟩ : ∃ s, iterate Sample.ext Sample.stream .newNotification true
      (deliver Sample.stream (.realtime "ann" event) .opened) = some s ∧ s.sent.length = 1 := by
    unfold iterate
    rw [waits]
    exact ⟨_, rfl, rfl⟩
  have followed := ((Followed.opened run).hears (.step Sample.choice .init thread) heard).relays relayed
  have checked : ((Sample.announcing.2 ++ [(system Sample.ext).event 0 (.processor 0 0)
      (.publish "rt.user.ann" event) Sample.choice Sample.announcing.1.world]).all
        fun e => Sample.plain e.done) = true := rfl
  refine ⟨_, _, s, followed, one, ?_⟩
  refine truthful followed (rfl : subscribe (fun _ => .ok ()) (some Sample.ann) ⟨[], true⟩ = .ret _)
    (fun _ _ _ => rfl) (fun _ => Sample.apart_of_plain checked) fun r stored => ?_
  have mine : r.recipientUserId = "ann" := by
    have all : Sample.announcing.1.world.db.notifications.rows.all
      (fun r => r.recipientUserId = "ann") = true := rfl
    exact of_decide_eq_true (List.all_eq_true.1 all r stored)
  rw [mine]
  unfold Meets
  decide

end Estafeta
