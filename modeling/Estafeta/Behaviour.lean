import Estafeta.Handlers

/-!
# What the threads do

A monitor for every kind of call. It permits an operation only where the call can perform it: a
processor stores a message before it announces or acknowledges it; an escalation pass handles the
rows it has read one after the other. `body_obeys` proves that every program of the system obeys its
monitor, so that the invariants of the system need not look at programs again.
-/

open Atomic

namespace Estafeta

open Db.Notifications (InsertNotification)

/-! ## Processors -/

/-- The rows that can be stored for a payload. -/
def IsNotificationOf (payload : Payload) (n : InsertNotification) : Prop :=
  ∃ ingest notifType levelId config expiresAt nextEscalationAt, payload = .ok ingest ∧
    n = notificationOf ingest notifType levelId config expiresAt nextEscalationAt

/-- The monitor of a processor: it announces only what it has stored as unseen, acknowledges only
what it has stored, and hands back only what it has not. -/
def processorMonitor (inst seq : ℕ) : Monitor Op Op.Ans Phase where
  may s o :=
    match s, o with
    | .idle, .receive k => k = seq
    | .loading _, .utcNow => True
    | .loading _, .cacheGet i _ _ => i = inst
    | .loading _, .cacheInsert i _ _ _ => i = inst
    | .loading payload, .sql q =>
      q.loads = true ∨ ∃ n, q = .notifications (.insertNotification n) ∧ IsNotificationOf payload n
    | .loading _, .nak k => k = seq
    | .stored n row, .publish _ event =>
      n.state = "unseen" ∧ event.eventType = .newNotification ∧ event.notificationId = row.id
    | .stored n _, .ack k => n.state = "archived" ∧ k = seq
    | .announced _, .ack k => k = seq
    | _, _ => False
  next s o a :=
    match s, o, a with
    | .idle, .receive _, some payload => .loading payload
    | .idle, .receive _, none => .over
    | .loading _, .sql (.notifications (.insertNotification n)), .ok row => .stored n row
    | .loading _, .nak _, _ => .over
    | .stored n _, .publish .., _ => .announced n
    | .stored .., .ack _, _ => .over
    | .announced _, .ack _, _ => .over
    | s, _, _ => s

section Processors

variable (ext : Ext) {inst seq : ℕ} {payload : Payload} {α : Type}

/-- A processor that has failed has stored nothing. -/
def Unstored (payload : Payload) {α : Type} (s : Phase) (_ : α) : Prop := s = .loading payload

theorem loaded {q : Sql} {Q : Phase → q.Resp → Prop} (h : q.loads = true)
    (returns : ∀ a, Q (.loading payload) a) :
    (ext.run q).Obeys (processorMonitor inst seq) (Unstored payload) Q (.loading payload) := by
  have stays : ∀ a, (processorMonitor inst seq).next (.loading payload) (.sql q) a =
      .loading payload := by
    intro a
    simp only [processorMonitor]
    split <;> simp_all [Sql.loads, Sql.registry]
  refine (obeys_run ext q).2 ⟨.inl h, fun e => stays _, fun a => ?_⟩
  rw [stays]
  exact returns a

theorem loaded_okOr {Q : Phase → α → Prop} {e : String} {o : Option α}
    (returns : ∀ a, Q (.loading payload) a) :
    (Prog.okOr e o : Program String α).Obeys (processorMonitor inst seq) (Unstored payload) Q
      (.loading payload) := by
  simpa [Unstored] using fun a _ => returns a

theorem getOrLoadNotifType_obeys {Q : Phase → CachedNotificationType → Prop} (key slug : String)
    (typeKey : String) (returns : ∀ a, Q (.loading payload) a) :
    (getOrLoadNotifType ext inst key slug typeKey).Obeys (processorMonitor inst seq)
      (Unstored payload) Q (.loading payload) := by
  simp only [getOrLoadNotifType, perform, Prog.call_bind, Prog.ret_bind, Prog.obeys_call]
  refine ⟨rfl, fun cached => ?_⟩
  split
  next => exact returns _
  next =>
    simp only [Prog.obeys_bind]
    refine loaded ext rfl fun _ => loaded_okOr fun service => ?_
    refine loaded ext rfl fun _ => loaded_okOr fun nt => ?_
    exact ⟨rfl, fun _ => returns _⟩

theorem getOrLoadLevel_obeys {Q : Phase → Option CachedNotificationLevel → Prop}
    (key slug levelKey : String) (returns : ∀ a, Q (.loading payload) a) :
    (getOrLoadLevel ext inst key slug levelKey).Obeys (processorMonitor inst seq)
      (Unstored payload) Q (.loading payload) := by
  simp only [getOrLoadLevel, perform, Prog.call_bind, Prog.ret_bind, Prog.obeys_call]
  refine ⟨rfl, fun cached => ?_⟩
  split
  next => exact returns _
  next =>
    simp only [Prog.obeys_bind]
    refine loaded ext rfl fun _ => loaded_okOr fun service => ?_
    refine loaded ext rfl fun level => ?_
    split
    next => exact ⟨rfl, fun _ => returns _⟩
    next => exact returns _

theorem levelOf_obeys {Q : Phase → Option CachedNotificationLevel → Prop} (ingest : IngestMessage)
    (returns : ∀ a, Q (.loading payload) a) :
    (levelOf ext inst ingest).Obeys (processorMonitor inst seq) (Unstored payload) Q
      (.loading payload) := by
  unfold levelOf
  split
  · exact getOrLoadLevel_obeys ext _ _ _ returns
  · exact returns _

theorem getOrLoadUserPrefs_obeys {Q : Phase → CachedUserPrefs → Prop} (userId : String)
    (returns : ∀ a, Q (.loading payload) a) :
    (getOrLoadUserPrefs ext inst userId).Obeys (processorMonitor inst seq) (Unstored payload) Q
      (.loading payload) := by
  simp only [getOrLoadUserPrefs, perform, Prog.call_bind, Prog.ret_bind, Prog.obeys_call]
  refine ⟨rfl, fun cached => ?_⟩
  split
  next => exact returns _
  next =>
    simp only [Prog.obeys_bind]
    refine loaded ext rfl fun _ => loaded ext rfl fun _ => ?_
    refine loaded ext rfl fun _ => loaded ext rfl fun _ => ?_
    exact ⟨rfl, fun _ => returns _⟩

/-- A processor that has succeeded has stored a notification for its payload, and announced it if it
is unseen. -/
def Stored (payload : Payload) (s : Phase) (_ : Unit) : Prop :=
  ∃ n row, IsNotificationOf payload n ∧
    (s = .stored n row ∧ n.state = "archived" ∨ s = .announced n)

theorem expiresAtOf_obeys {Q : Phase → Option Time → Prop} (config : ResolvedConfig)
    (returns : ∀ t, Q (.loading payload) t) :
    (expiresAtOf config).Obeys (processorMonitor inst seq) (Unstored payload) Q
      (.loading payload) := by
  unfold expiresAtOf
  split
  next => exact ⟨trivial, fun _ => returns _⟩
  next => exact returns _

theorem nextEscalationAtOf_obeys {Q : Phase → Option Time → Prop} (config : ResolvedConfig)
    (returns : ∀ t, Q (.loading payload) t) :
    (nextEscalationAtOf config).Obeys (processorMonitor inst seq) (Unstored payload) Q
      (.loading payload) := by
  unfold nextEscalationAtOf
  split
  next =>
    split
    · exact ⟨trivial, fun _ => returns _⟩
    · exact returns _
  next => exact returns _

theorem persist_obeys {ingest : IngestMessage} (received : payload = .ok ingest)
    (notifType : CachedNotificationType) (levelId : Option Uuid) (config : ResolvedConfig) :
    (persist ext ingest notifType levelId config).Obeys (processorMonitor inst seq)
      (Unstored payload) (Stored payload) (.loading payload) := by
  simp only [persist, Prog.obeys_bind]
  refine expiresAtOf_obeys config fun expiresAt => ?_
  refine nextEscalationAtOf_obeys config fun nextEscalationAt => ?_
  have stores : IsNotificationOf payload
      (notificationOf ingest notifType levelId config expiresAt nextEscalationAt) :=
    ⟨ingest, notifType, levelId, config, expiresAt, nextEscalationAt, received, rfl⟩
  refine (obeys_run ext _).2 ⟨.inr ⟨_, rfl, stores⟩, fun e => rfl, fun row => ?_⟩
  split
  next deliver =>
    refine ⟨⟨?_, rfl, rfl⟩, fun _ => ⟨_, row, stores, .inr rfl⟩⟩
    simp [notificationOf, ResolvedConfig.state, deliver]
  next deliver =>
    refine ⟨_, row, stores, .inl ⟨rfl, ?_⟩⟩
    simp [notificationOf, ResolvedConfig.state, deliver]

theorem processMessage_obeys :
    (processMessage ext inst payload).Obeys (processorMonitor inst seq) (Unstored payload)
      (Stored payload) (.loading payload) := by
  simp only [processMessage, Prog.obeys_bind, Prog.obeys_ofExcept]
  refine ⟨fun _ _ => rfl, fun ingest received => ?_⟩
  refine getOrLoadNotifType_obeys ext _ _ _ fun notifType => ?_
  refine levelOf_obeys ext ingest fun _ => levelOf_obeys ext ingest fun _ => ?_
  refine getOrLoadUserPrefs_obeys ext _ fun userPrefs => ⟨trivial, fun now => ?_⟩
  exact persist_obeys ext received _ _ _

theorem processorRun_obeys :
    (processorRun ext inst seq).Obeys (processorMonitor inst seq) (fun _ _ => False)
      (fun s _ => s = .over) .idle := by
  simp only [processorRun, perform, Prog.call_bind, Prog.ret_bind, Prog.obeys_call]
  refine ⟨rfl, fun payload => ?_⟩
  rcases payload with _ | payload
  · rfl
  · simp only [Prog.obeys_bind, Prog.obeys_attempt]
    refine (processMessage_obeys ext).mono ?_ ?_
    · rintro _ e rfl
      exact ⟨rfl, fun _ => rfl⟩
    · rintro _ _ ⟨n, row, _, ⟨rfl, archived⟩ | rfl⟩
      · exact ⟨⟨archived, rfl⟩, fun _ => rfl⟩
      · exact ⟨rfl, fun _ => rfl⟩

end Processors

/-! ## The scheduler -/

/-- The monitor of an escalation pass: of each row it has read as due it reads the type, writes the
next count and performs the type's action, and goes on to the next row. -/
def escalationMonitor : Monitor Op Op.Ans Phase where
  may s o :=
    match s, o with
    | .scanning, .sql (.notifications (.getEscalationDue size)) => size = batchSize
    | .pass (r :: _), .sql (.schemas (.getNotificationTypeById id)) => id = r.notificationTypeId
    | .typed .., .utcNow => True
    | .typed r type _, .sql (.notifications (.updateEscalation id count next)) =>
      id = r.id ∧ count = r.escalationCount + 1 ∧
        (next ≠ none → ∃ nt, type = some nt ∧ count < nt.maxEscalations)
    | .acting r type _, .sql (.notifications q) => q = escalationQuery (escalationAction type) r.id
    | _, _ => False
  next s o a :=
    match s, o, a with
    | .scanning, .sql (.notifications (.getEscalationDue _)), .ok rows => .pass rows
    | .pass (r :: todo), .sql (.schemas (.getNotificationTypeById _)), .ok type =>
      .typed r type todo
    | .typed r type todo, .utcNow, _ => .typed r type todo
    | .typed r type todo, .sql (.notifications (.updateEscalation ..)), .ok _ =>
      .acting r type todo
    | .acting _ _ todo, .sql (.notifications _), .ok _ => .pass todo
    | _, _, _ => .over

/-- The monitor of a pass that runs one statement and publishes the changes it made. -/
def sweepMonitor (q : Db.Notifications.Query) : Monitor Op Op.Ans Phase where
  may s o :=
    match s, o with
    | .scanning, .sql q' => q' = .notifications q
    | .sweeping, .publish _ event => event.eventType = .stateChange
    | _, _ => False
  next s o a :=
    match s, o, a with
    | .scanning, .sql _, .ok _ => .sweeping
    | .sweeping, .publish .., _ => .sweeping
    | _, _, _ => .over

section Scheduler

variable (ext : Ext)

/-- A pass has nothing left to do. -/
def Finished {α : Type} (s : Phase) (_ : α) : Prop := s = .over

theorem nextEscalation_obeys {r : NotificationRow} {todo : List NotificationRow}
    {type : Option NotificationTypeRow} {count : Int32} {Q : Phase → Option Time → Prop}
    (returns : ∀ next, (next ≠ none → ∃ nt, type = some nt ∧ count < nt.maxEscalations) →
      Q (.typed r type todo) next) :
    (nextEscalation type count).Obeys escalationMonitor Finished Q (.typed r type todo) := by
  unfold nextEscalation
  split
  next nt =>
    split
    next below =>
      split
      next => exact ⟨trivial, fun _ => returns _ fun _ => ⟨nt, rfl, below⟩⟩
      next => exact returns _ fun h => absurd rfl h
    next => exact returns _ fun h => absurd rfl h
  next => exact returns _ fun h => absurd rfl h

theorem escalate_obeys (r : NotificationRow) (todo : List NotificationRow) :
    (escalate ext r).Obeys escalationMonitor Finished (fun s _ => s = .pass todo)
      (.pass (r :: todo)) := by
  simp only [escalate, Prog.obeys_bind]
  refine (obeys_run ext _).2 ⟨rfl, fun _ => rfl, fun type => ?_⟩
  refine nextEscalation_obeys fun next armed => ?_
  refine (obeys_run ext _).2 ⟨⟨rfl, rfl, armed⟩, fun _ => rfl, fun _ => ?_⟩
  exact (obeys_run ext _).2 ⟨rfl, fun _ => rfl, fun _ => rfl⟩

theorem runEscalation_obeys :
    (runEscalation ext).Obeys escalationMonitor Finished (fun s _ => s = .pass []) .scanning := by
  simp only [runEscalation, Prog.obeys_bind]
  refine (obeys_run ext _).2 ⟨rfl, fun _ => rfl, fun due => ?_⟩
  refine Prog.obeys_forM (fun todo s => s = .pass todo) _ _ ?_ (fun _ h => h) rfl
  rintro r todo _ rfl
  exact escalate_obeys ext r todo

theorem announce_obeys (q : Db.Notifications.Query) (rows : List NotificationRow)
    {event : NotificationRow → RealtimeEvent} (changes : ∀ r, (event r).eventType = .stateChange) :
    (forM rows fun r => publishStateChange r.recipientUserId (event r)).Obeys (sweepMonitor q)
      Finished (fun s _ => s = .sweeping) .sweeping := by
  refine Prog.obeys_forM (fun _ s => s = .sweeping) _ _ ?_ (fun _ h => h) rfl
  rintro r _ _ rfl
  exact ⟨changes r, fun _ => rfl⟩

theorem runSnoozeWake_obeys :
    (runSnoozeWake ext).Obeys (sweepMonitor (.wakeSnoozed batchSize)) Finished
      (fun s _ => s = .sweeping) .scanning := by
  simp only [runSnoozeWake, Prog.obeys_bind]
  refine (obeys_run ext _).2 ⟨rfl, fun _ => rfl, fun woken => ?_⟩
  exact announce_obeys _ _ fun _ => rfl

theorem runTtlExpiry_obeys :
    (runTtlExpiry ext).Obeys (sweepMonitor (.expireNotifications batchSize)) Finished
      (fun s _ => s = .sweeping) .scanning := by
  simp only [runTtlExpiry, Prog.obeys_bind]
  refine (obeys_run ext _).2 ⟨rfl, fun _ => rfl, fun expired => ?_⟩
  exact announce_obeys _ _ fun _ => rfl

end Scheduler

/-! ## All calls -/

/-- The monitor of a call. -/
def Call.monitor : Call → Monitor Op Op.Ans Phase
  | .rpc _ extensions r => r.monitor extensions
  | .processor inst seq => processorMonitor inst seq
  | .snoozeWake => sweepMonitor (.wakeSnoozed batchSize)
  | .ttlExpiry => sweepMonitor (.expireNotifications batchSize)
  | .escalation => escalationMonitor

/-- The phase in which a call starts. -/
def Call.phase : Call → Phase
  | .rpc .. => .rpc none
  | .processor .. => .idle
  | _ => .scanning

/-- The phase in which a call can end with an error. -/
def Call.Failed : Call → Phase → Failure → Prop
  | .rpc .., s, e => Handling s e
  | .processor .., _, _ => False
  | _, s, e => Finished s e

/-- The phase in which a call can end without one. -/
def Call.Returned : Call → Phase → Outcome → Prop
  | .rpc .., s, a => Handling s a
  | .processor .., s, _ => s = .over
  | .escalation, s, _ => s = .pass []
  | _, s, _ => s = .sweeping

/-- The program of every call obeys the call's monitor. -/
theorem body_obeys (ext : Ext) (c : Call) :
    ((system ext).body c).Obeys c.monitor c.Failed c.Returned c.phase := by
  cases c with
  | rpc inst extensions r =>
    simp only [system, Call.body, Prog.obeys_bind, Prog.obeys_mapErr]
    exact (Rpc.handle_obeys ext inst extensions r).mono (fun _ _ h => h) fun _ _ h => h
  | processor inst seq =>
    simp only [system, Call.body, Prog.obeys_bind, Prog.obeys_mapErr]
    exact processorRun_obeys ext
  | snoozeWake =>
    simp only [system, Call.body, Prog.obeys_bind, Prog.obeys_mapErr]
    exact runSnoozeWake_obeys ext
  | ttlExpiry =>
    simp only [system, Call.body, Prog.obeys_bind, Prog.obeys_mapErr]
    exact runTtlExpiry_obeys ext
  | escalation =>
    simp only [system, Call.body, Prog.obeys_bind, Prog.obeys_mapErr]
    exact runEscalation_obeys ext

/-- The runs of the system, with a phase in place of each thread's program. -/
abbrev Phased (ext : Ext) (w₀ : World) (es : History) (w : World) (g : ℕ → Option (Call × Phase)) :
    Prop :=
  Watched (system ext) Call.monitor Call.phase w₀ es w g

/-- Every run of the system is a run of phases. -/
theorem phased {ext : Ext} {w₀ : World} {es : History} {p : State}
    (run : (system ext).Run (Pool.idle w₀) es p) :
    ∃ g, Phased ext w₀ es p.world g ∧
      ∀ i, Fits Call.monitor Call.Failed Call.Returned (p.threads i) (g i) :=
  run.watched (body_obeys ext)

end Estafeta
