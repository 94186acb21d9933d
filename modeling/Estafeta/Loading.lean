import Estafeta.Behaviour

/-!
# What a thread has loaded

The phases of a thread say which operation it may perform next, not which answers the operation is
made of. `Justified` says this of a processor, from the interactions that it has had: what it puts
into a cache is what it has just read, and what it stores is resolved from what its caches and reads
have given it. `recorded` proves it of every thread of every run.
-/

open Atomic

namespace Estafeta

/-! ## Records -/

/-- What a thread has done: its operations, each with its answer. -/
abbrev Record := List (Σ o : Op, o.Ans)

/-- A processor has received a message. -/
def Received (seq : ℕ) (m : IngestMessage) (h : Record) : Prop :=
  h.head? = some ⟨.receive seq, some (.ok m)⟩

/-- A thread has found a value in a cache, or has put it there. -/
def Got (inst : ℕ) (c : Cache) (key : String) (v : c.Value) (h : Record) : Prop :=
  ⟨.cacheGet inst c key, some v⟩ ∈ h ∨ ⟨.cacheInsert inst c key v, ()⟩ ∈ h

/-- The level that a thread has for a message: the message may name none, or one that does not
exist. -/
inductive GotLevel (inst : ℕ) (m : IngestMessage) (h : Record) :
    Option CachedNotificationLevel → Prop where
  | unnamed : m.level = "" → GotLevel inst m h none
  | got {level} : m.level ≠ "" →
    Got inst .notificationLevels (notificationLevelKey m.serviceSlug m.level) level h →
    GotLevel inst m h (some level)
  | absent {h₀ : Record} {service : ServiceRow} :
    h₀ ++ [⟨.sql (.services (.getServiceBySlug m.serviceSlug)), .ok (some service)⟩,
      ⟨.sql (.schemas (.getNotificationLevel service.id m.level)), .ok none⟩] <+: h →
    GotLevel inst m h none

theorem Received.mono {seq : ℕ} {m : IngestMessage} {h h' : Record} (received : Received seq m h)
    (longer : h <+: h') : Received seq m h' := by
  obtain ⟨t, rfl⟩ := longer
  cases h with
  | nil => cases received
  | cons => exact received

theorem Got.mono {inst : ℕ} {c : Cache} {key : String} {v : c.Value} {h h' : Record}
    (got : Got inst c key v h) (longer : h <+: h') : Got inst c key v h' :=
  got.imp (fun mem => longer.subset mem) fun mem => longer.subset mem

theorem GotLevel.mono {inst : ℕ} {m : IngestMessage} {level : Option CachedNotificationLevel}
    {h h' : Record} (got : GotLevel inst m h level) (longer : h <+: h') :
    GotLevel inst m h' level := by
  cases got with
  | unnamed none => exact .unnamed none
  | got named got => exact .got named (got.mono longer)
  | absent reads => exact .absent (reads.trans longer)

/-! ## What justifies an operation -/

/-- Operations that put something into a cache, or store a notification. -/
def Op.stores : Op → Bool
  | .cacheInsert .. => true
  | .sql (.notifications (.insertNotification _)) => true
  | _ => false

/-- The preferences that four reads have given. -/
def loadedPrefs (pref : UserPreferenceRow) (svcPrefs : List UserServicePreferenceRow)
    (typePrefs : List UserTypePreferenceRow) (muteRules : List MuteRuleRow) : CachedUserPrefs where
  globalEnabled := pref.globalEnabled
  servicePrefs := svcPrefs.map cachedServicePref
  typePrefs := typePrefs.map cachedTypePref
  muteRules := muteRules.map cachedMuteRule

/-- What a processor has done before an operation. -/
inductive Justified (inst seq : ℕ) : Record → Op → Prop where
  | type {h m} {service : ServiceRow} {nt : NotificationTypeRow} : Received seq m h →
    Justified inst seq
      (h ++ [⟨.sql (.services (.getServiceBySlug m.serviceSlug)), .ok (some service)⟩,
        ⟨.sql (.schemas (.getNotificationType service.id m.notificationType)), .ok (some nt)⟩])
      (.cacheInsert inst .notificationTypes (notificationTypeKey m.serviceSlug m.notificationType)
        (cachedNotificationType nt))
  | level {h m} {service : ServiceRow} {level : NotificationLevelRow} : Received seq m h →
    m.level ≠ "" → Justified inst seq
      (h ++ [⟨.sql (.services (.getServiceBySlug m.serviceSlug)), .ok (some service)⟩,
        ⟨.sql (.schemas (.getNotificationLevel service.id m.level)), .ok (some level)⟩])
      (.cacheInsert inst .notificationLevels (notificationLevelKey m.serviceSlug m.level)
        (cachedNotificationLevel level))
  | prefs {h m} {pref : UserPreferenceRow} {svcPrefs : List UserServicePreferenceRow}
      {typePrefs : List UserTypePreferenceRow} {muteRules : List MuteRuleRow} : Received seq m h →
    Justified inst seq
      (h ++ [⟨.sql (.preferences (.getOrCreateUserPreference m.recipientUserId)), .ok pref⟩,
        ⟨.sql (.preferences (.listServicePreferences m.recipientUserId)), .ok svcPrefs⟩,
        ⟨.sql (.preferences (.listTypePreferences m.recipientUserId)), .ok typePrefs⟩,
        ⟨.sql (.muteRules (.listActiveMuteRules m.recipientUserId)), .ok muteRules⟩])
      (.cacheInsert inst .userPrefs m.recipientUserId
        (loadedPrefs pref svcPrefs typePrefs muteRules))
  | store {h m notifType level level' prefs expiresAt nextEscalationAt} {now : Time} :
    Received seq m h →
    Got inst .notificationTypes (notificationTypeKey m.serviceSlug m.notificationType) notifType h →
    GotLevel inst m h level → GotLevel inst m h level' →
    Got inst .userPrefs m.recipientUserId prefs h → ⟨.utcNow, now⟩ ∈ h →
    Justified inst seq h (.sql (.notifications (.insertNotification
      (notificationOf m notifType (level'.map (·.id))
        (resolve now prefs notifType (level.map (·.severity))) expiresAt nextEscalationAt))))
  | other {h o} : o.stores = false → Justified inst seq h o

/-! ## Processors -/

/-- Operations that store a notification, or announce it. -/
def Op.outgoing : Op → Bool
  | .sql (.notifications (.insertNotification _)) => true
  | .publish .. => true
  | _ => false

/-- What is justified is permitted, but for storing and announcing. -/
def Allows (inst seq : ℕ) (P : Record → Op → Prop) : Prop :=
  ∀ h o, o.outgoing = false → Justified inst seq h o → P h o

/-- The time a number of seconds after a clock that the thread has read, if there is a number. -/
inductive Dated (h : Record) : Option Int32 → Option Time → Prop where
  | none : Dated h none none
  | after {s : Int32} {t : Time} : ⟨.utcNow, t⟩ ∈ h → Dated h (some s) (some (t + Duration.seconds s))

theorem Dated.mono {h h' : Record} {s : Option Int32} {t : Option Time} (dated : Dated h s t)
    (longer : h <+: h') : Dated h' s t := by
  cases dated with
  | none => exact .none
  | after read => exact .after (longer.subset read)

/-- When a notification is first due: if its type has an interval and allows an escalation, the
interval after the clock that the thread has just read, and otherwise never. -/
inductive FirstDue (interval : Option Int32) (max : Int32) : Record → Option Time → Prop where
  | never {h} : interval = none ∨ ¬ 0 < max → FirstDue interval max h none
  | after {h s t} : interval = some s → 0 < max →
    FirstDue interval max (h ++ [⟨.utcNow, t⟩]) (some (t + Duration.seconds s))

/-- A notification is first due as the type says that its processor has got. -/
def DueByType (inst : ℕ) (h : Record) (n : Db.Notifications.InsertNotification) : Prop :=
  ∃ key v, Got inst .notificationTypes key v h ∧ n.notificationTypeId = v.id ∧
    FirstDue v.escalationIntervalSeconds v.maxEscalations h n.nextEscalationAt

/-- What a processor stores for a message, and when it expires and is due, follows from what it has
received, got and read. -/
inductive Resolves (inst seq : ℕ) (h : Record) : Db.Notifications.InsertNotification → Prop where
  | mk {m notifType level level' prefs expiresAt nextEscalationAt} {now : Time} :
    Received seq m h →
    Got inst .notificationTypes (notificationTypeKey m.serviceSlug m.notificationType) notifType h →
    GotLevel inst m h level → GotLevel inst m h level' →
    Got inst .userPrefs m.recipientUserId prefs h → ⟨.utcNow, now⟩ ∈ h →
    Dated h notifType.defaultTtlSeconds expiresAt →
    FirstDue notifType.escalationIntervalSeconds notifType.maxEscalations h nextEscalationAt →
    Resolves inst seq h (notificationOf m notifType (level'.map (·.id))
      (resolve now prefs notifType (level.map (·.severity))) expiresAt nextEscalationAt)

/-- What a processor announces is the notification that it has stored for its message. -/
inductive Announces (inst seq : ℕ) (h : Record) : String → RealtimeEvent → Prop where
  | mk {m h₀ n icon} {row : NotificationRow} {t : Record} :
    Received seq m h → Resolves inst seq h₀ n →
    h = h₀ ++ ⟨.sql (.notifications (.insertNotification n)), .ok row⟩ :: t →
    Announces inst seq h s!"rt.user.{m.recipientUserId}" (newNotificationEvent m icon row)

/-- Both are permitted. -/
structure Sends (inst seq : ℕ) (P : Record → Op → Prop) : Prop where
  stores : ∀ h n, Resolves inst seq h n → P h (.sql (.notifications (.insertNotification n)))
  announces : ∀ h subject event, Announces inst seq h subject event → P h (.publish subject event)

theorem Resolves.justified {inst seq : ℕ} {h : Record} {n : Db.Notifications.InsertNotification}
    (resolves : Resolves inst seq h n) :
    Justified inst seq h (.sql (.notifications (.insertNotification n))) := by
  cases resolves with
  | mk received typed severity levelled preferred clock =>
    exact .store received typed severity levelled preferred clock

/-- A notification is delivered or skipped, with the settings of its type. -/
theorem resolve_settings (now : Time) (prefs : CachedUserPrefs) (notifType : CachedNotificationType)
    (severity : Option Int32) :
    (resolve now prefs notifType severity).ttlSeconds = notifType.defaultTtlSeconds ∧
      (resolve now prefs notifType severity).escalationIntervalSeconds =
        notifType.escalationIntervalSeconds ∧
      (resolve now prefs notifType severity).maxEscalations = notifType.maxEscalations := by
  unfold resolve
  split
  · exact ⟨rfl, rfl, rfl⟩
  split
  · exact ⟨rfl, rfl, rfl⟩
  split
  · exact ⟨rfl, rfl, rfl⟩
  split
  · split <;> exact ⟨rfl, rfl, rfl⟩
  · exact ⟨rfl, rfl, rfl⟩

section Processors

variable {ext : Ext} {inst seq : ℕ} {h : Record} {m : IngestMessage} {P : Record → Op → Prop}

theorem read_obeys (allows : Allows inst seq P) {q : Sql} {Q : Record → q.Resp → Prop}
    (reads : Op.stores (.sql q) = false) (returns : ∀ a, Q (h ++ [⟨.sql q, .ok a⟩]) a) :
    (ext.run q).Obeys (.recording P) (fun _ _ => True) Q h := by
  refine (obeys_run ext q).2 ⟨allows _ _ ?_ (.other reads), fun _ => trivial, returns⟩
  unfold Op.outgoing
  split
  next same =>
    cases same
    cases reads
  next same => cases same
  next => rfl

theorem okOr_obeys {α : Type} {Q : Record → α → Prop} {e : String} {o : Option α}
    (returns : ∀ a, o = some a → Q h a) :
    (Prog.okOr e o : Program String α).Obeys (.recording P) (fun _ _ => True) Q h := by
  simpa using returns

theorem getOrLoadNotifType_records (allows : Allows inst seq P)
    {Q : Record → CachedNotificationType → Prop} (received : Received seq m h)
    (returns : ∀ h' v, h <+: h' → Got inst .notificationTypes
      (notificationTypeKey m.serviceSlug m.notificationType) v h' → Q h' v) :
    (getOrLoadNotifType ext inst (notificationTypeKey m.serviceSlug m.notificationType)
      m.serviceSlug m.notificationType).Obeys (.recording P) (fun _ _ => True) Q h := by
  simp only [getOrLoadNotifType, perform, Prog.call_bind, Prog.ret_bind, Prog.obeys_call]
  refine ⟨allows _ _ rfl (.other rfl), fun cached => ?_⟩
  rcases cached with _ | v
  · simp only [Prog.obeys_bind]
    refine read_obeys allows rfl fun service => okOr_obeys fun service found => ?_
    refine read_obeys allows rfl fun nt => okOr_obeys fun nt found' => ?_
    subst found found'
    simp only [Monitor.recording]
    refine ⟨allows _ _ rfl ?_, fun _ => returns _ _ ?_ (.inr (by simp))⟩
    · rw [List.append_assoc]
      exact .type (received.mono (List.prefix_append ..))
    · simp
  · exact returns _ v (List.prefix_append ..) (.inl (by simp [Monitor.recording]))

theorem getOrLoadLevel_records (allows : Allows inst seq P)
    {Q : Record → Option CachedNotificationLevel → Prop} (received : Received seq m h)
    (named : m.level ≠ "")
    (returns : ∀ h' level, h <+: h' → GotLevel inst m h' level → Q h' level) :
    (getOrLoadLevel ext inst (notificationLevelKey m.serviceSlug m.level) m.serviceSlug
      m.level).Obeys (.recording P) (fun _ _ => True) Q h := by
  simp only [getOrLoadLevel, perform, Prog.call_bind, Prog.ret_bind, Prog.obeys_call]
  refine ⟨allows _ _ rfl (.other rfl), fun cached => ?_⟩
  rcases cached with _ | v
  · simp only [Prog.obeys_bind]
    refine read_obeys allows rfl fun service => okOr_obeys fun service found => ?_
    refine read_obeys allows rfl fun level => ?_
    subst found
    simp only [Monitor.recording]
    rcases level with _ | level
    · rw [List.append_assoc (_ ++ [_])]
      exact returns _ none (by simp) (.absent List.prefix_rfl)
    · refine ⟨allows _ _ rfl ?_, fun _ => returns _ _ ?_ (.got named (.inr (by simp)))⟩
      · rw [List.append_assoc]
        exact .level (received.mono (List.prefix_append ..)) named
      · simp
  · refine returns _ (some v) (List.prefix_append ..) (.got named (.inl ?_))
    simp [Monitor.recording]

theorem levelOf_records (allows : Allows inst seq P)
    {Q : Record → Option CachedNotificationLevel → Prop} (received : Received seq m h)
    (returns : ∀ h' level, h <+: h' → GotLevel inst m h' level → Q h' level) :
    (levelOf ext inst m).Obeys (.recording P) (fun _ _ => True) Q h := by
  unfold levelOf
  split
  next named => exact getOrLoadLevel_records allows received (by simpa using named) returns
  next unnamed => exact returns h none List.prefix_rfl (.unnamed (by simpa using unnamed))

theorem getOrLoadUserPrefs_records (allows : Allows inst seq P)
    {Q : Record → CachedUserPrefs → Prop} (received : Received seq m h)
    (returns : ∀ h' prefs, h <+: h' → Got inst .userPrefs m.recipientUserId prefs h' →
      Q h' prefs) :
    (getOrLoadUserPrefs ext inst m.recipientUserId).Obeys (.recording P) (fun _ _ => True) Q h := by
  simp only [getOrLoadUserPrefs, perform, Prog.call_bind, Prog.ret_bind, Prog.obeys_call]
  refine ⟨allows _ _ rfl (.other rfl), fun cached => ?_⟩
  rcases cached with _ | v
  · simp only [Prog.obeys_bind]
    refine read_obeys allows rfl fun pref => read_obeys allows rfl fun svcPrefs => ?_
    refine read_obeys allows rfl fun typePrefs => read_obeys allows rfl fun muteRules => ?_
    simp only [Monitor.recording]
    refine ⟨allows _ _ rfl ?_, fun _ => returns _ _ ?_ (.inr (by simp))⟩
    · simp only [List.append_assoc (_ ++ [_])]
      exact .prefs (received.mono (List.prefix_append ..))
    · simp
  · exact returns _ v (List.prefix_append ..) (.inl (by simp [Monitor.recording]))

theorem expiresAtOf_records (allows : Allows inst seq P) {Q : Record → Option Time → Prop}
    (config : ResolvedConfig) (returns : ∀ h' t, h <+: h' → Dated h' config.ttlSeconds t → Q h' t) :
    (expiresAtOf config).Obeys (.recording P) (fun _ _ => True) Q h := by
  unfold expiresAtOf
  cases some : config.ttlSeconds with
  | none => exact returns _ _ List.prefix_rfl (some ▸ .none)
  | some ttl =>
    refine ⟨allows _ _ rfl (.other rfl), fun t => returns _ _ (List.prefix_append ..) ?_⟩
    rw [some]
    exact .after (List.mem_append_right _ (.head _))

theorem FirstDue.armed {interval : Option Int32} {max : Int32} {t : Option Time}
    (due : FirstDue interval max h t) (armed : t ≠ none) : interval ≠ none ∧ 0 < max := by
  cases due with
  | never => exact absurd rfl armed
  | after some positive => exact ⟨some ▸ Option.some_ne_none _, positive⟩

theorem nextEscalationAtOf_records (allows : Allows inst seq P) {Q : Record → Option Time → Prop}
    (config : ResolvedConfig)
    (returns : ∀ h' t, h <+: h' →
      FirstDue config.escalationIntervalSeconds config.maxEscalations h' t → Q h' t) :
    (nextEscalationAtOf config).Obeys (.recording P) (fun _ _ => True) Q h := by
  unfold nextEscalationAtOf
  split
  next some =>
    split
    next positive =>
      refine ⟨allows _ _ rfl (.other rfl), fun _ => returns _ _ (List.prefix_append ..) ?_⟩
      exact .after some positive
    next exhausted => exact returns _ _ List.prefix_rfl (.never (.inr exhausted))
  next none => exact returns _ _ List.prefix_rfl (.never (.inl none))

theorem processMessage_records (allows : Allows inst seq P)
    (stores : ∀ h n, Resolves inst seq h n → DueByType inst h n →
      P h (.sql (.notifications (.insertNotification n))))
    (announces : ∀ h subject event, Announces inst seq h subject event →
      P h (.publish subject event)) (payload : Payload)
    (received : ∀ m, payload = .ok m → Received seq m h) :
    (processMessage ext inst payload).Obeys (.recording P) (fun _ _ => True) (fun _ _ => True) h := by
  simp only [processMessage, persist, Prog.obeys_bind, Prog.obeys_ofExcept]
  refine ⟨fun _ _ => trivial, fun m same => ?_⟩
  have received := received m same
  refine getOrLoadNotifType_records allows received fun h₁ notifType le₁ typed => ?_
  have received := received.mono le₁
  refine levelOf_records allows received fun h₂ level le₂ severity => ?_
  have received := received.mono le₂
  refine levelOf_records allows received fun h₃ level' le₃ levelled => ?_
  have received := received.mono le₃
  refine getOrLoadUserPrefs_records allows received fun h₄ prefs le₄ preferred => ?_
  have received := received.mono le₄
  refine ⟨allows _ _ rfl (.other rfl), fun now => ?_⟩
  obtain ⟨ttl, interval, max⟩ := resolve_settings now prefs notifType (level.map (·.severity))
  refine expiresAtOf_records allows _ fun h₅ expiresAt le₅ dated => ?_
  refine nextEscalationAtOf_records allows _ fun h₆ nextEscalationAt le₆ due => ?_
  have le : h₄ ++ [⟨.utcNow, now⟩] <+: h₆ := le₅.trans le₆
  have le₄' : h₄ <+: h₆ := (List.prefix_append ..).trans le
  rw [ttl] at dated
  rw [interval, max] at due
  have clock : (⟨.utcNow, now⟩ : Σ o : Op, o.Ans) ∈ h₆ :=
    le.subset (List.mem_append_right _ (.head _))
  have typed := typed.mono (le₂.trans (le₃.trans (le₄.trans le₄')))
  have resolves := Resolves.mk (received.mono le₄') typed
    (severity.mono (le₃.trans (le₄.trans le₄'))) (levelled.mono (le₄.trans le₄'))
    (preferred.mono le₄') clock (dated.mono le₆) due
  refine (obeys_run ext _).2 ⟨stores _ _ resolves ⟨_, _, typed, rfl, due⟩, fun _ => trivial,
    fun row => ?_⟩
  split
  · refine ⟨announces _ _ _ ?_, fun _ => trivial⟩
    exact .mk ((received.mono le₄').mono (List.prefix_append ..)) resolves rfl
  · trivial

/-- A monitor that permits what is justified, and the storing and announcing of what follows from
it, permits every operation of a processor. -/
theorem processorRun_obeys_due (allows : Allows inst seq P)
    (stores : ∀ h n, Resolves inst seq h n → DueByType inst h n →
      P h (.sql (.notifications (.insertNotification n))))
    (announces : ∀ h subject event, Announces inst seq h subject event →
      P h (.publish subject event)) :
    (processorRun ext inst seq).Obeys (.recording P) (fun _ _ => True) (fun _ _ => True) [] := by
  simp only [processorRun, perform, Prog.call_bind, Prog.ret_bind, Prog.obeys_call]
  refine ⟨allows _ _ rfl (.other rfl), fun payload => ?_⟩
  rcases payload with _ | payload
  · trivial
  · simp only [Prog.obeys_bind, Prog.obeys_attempt]
    refine (processMessage_records allows stores announces payload
      fun m same => same ▸ rfl).mono ?_ ?_
    · exact fun _ _ _ => ⟨allows _ _ rfl (.other rfl), fun _ => trivial⟩
    · exact fun _ _ _ => ⟨allows _ _ rfl (.other rfl), fun _ => trivial⟩

theorem processorRun_obeys_recording (allows : Allows inst seq P) (sends : Sends inst seq P) :
    (processorRun ext inst seq).Obeys (.recording P) (fun _ _ => True) (fun _ _ => True) [] :=
  processorRun_obeys_due allows (fun h n resolves _ => sends.stores h n resolves) sends.announces

/-- Every operation of a processor is justified by what it has done. -/
theorem processorRun_records : (processorRun ext inst seq).Obeys (.recording (Justified inst seq))
    (fun _ _ => True) (fun _ _ => True) [] :=
  processorRun_obeys_recording (fun _ _ _ justified => justified)
    ⟨fun _ _ resolves => resolves.justified, fun _ _ _ _ => .other rfl⟩

end Processors

/-! ## Handlers -/

/-- The statement of a request to update a type. -/
abbrev UpdateTypeRequest.statement (req : UpdateTypeRequest) (serviceId : Uuid) : Db.Schemas.Query :=
  .updateNotificationType serviceId req.typeKey req.displayName (nonEmpty req.description)
    (SchemaRegistryService.schemaValue req.jsonSchema) (positive req.defaultTtlSeconds)
    (positive req.escalationIntervalSeconds) req.maxEscalations
    (escalationActionFromProto req.escalationAction) (nonEmpty req.defaultIcon) req.enabled

/-- What `updateType` has done when it returns: it has written the type, and invalidated it. -/
def Updated (inst : ℕ) (req : UpdateTypeRequest) (h : Record) : Prop :=
  ∃ (h₀ : Record) (service : ServiceRow) (row : NotificationTypeRow), h = h₀ ++
    [⟨.sql (.services (.getServiceBySlug req.serviceSlug)), .ok (some service)⟩,
      ⟨.sql (.schemas (req.statement service.id)), .ok row⟩,
      ⟨.cacheInvalidate inst .notificationTypes
        (notificationTypeKey req.serviceSlug req.typeKey), ()⟩]

/-- What `sendNotification` has done when it returns `resp`: it has read the type, and published the
message. -/
def Sent (ext : Ext) (req : SendNotificationRequest) (h : Record)
    (resp : SendNotificationResponse) : Prop :=
  ∃ (h₀ : Record) (service : ServiceRow) (nt : NotificationTypeRow) (id : Uuid),
    resp = ⟨ext.showUuid id⟩ ∧ h = h₀ ++
      [⟨.sql (.services (.getServiceBySlug req.serviceSlug)), .ok (some service)⟩,
        ⟨.sql (.schemas (.getNotificationType service.id req.notificationType)), .ok (some nt)⟩,
        ⟨.newUuid, id⟩,
        ⟨.publishIngest s!"notif.ingest.{req.serviceSlug}"
          (NotificationService.ingestMessage req id
            ((req.payload.map protoStructToValue).getD (.object []))), .ok ()⟩]

section Handlers

variable {ext : Ext} {inst : ℕ} {extensions : Option AuthClaims} {h : Record} {α : Type}

/-- The monitor of a handler records, and permits everything. -/
abbrev handlerRecording : Monitor Op Op.Ans Record := .recording fun _ _ => True

theorem handler_okOr {Q : Record → α → Prop} {e : Status} {o : Option α}
    (returns : ∀ a, o = some a → Q h a) :
    (Prog.okOr e o : Program Status α).Obeys handlerRecording (fun _ _ => True) Q h := by
  simpa using returns

theorem handler_ensure {Q : Record → Unit → Prop} {b : Bool} {e : Status} (returns : Q h ()) :
    (Prog.ensure b e : Program Status Unit).Obeys handlerRecording (fun _ _ => True) Q h := by
  simpa using fun _ => returns

theorem handler_query {q : Sql} {Q : Record → q.Resp → Prop}
    (returns : ∀ a, Q (h ++ [⟨.sql q, .ok a⟩]) a) :
    (ext.query q).Obeys handlerRecording (fun _ _ => True) Q h :=
  (obeys_query ext q).2 ⟨trivial, fun _ => trivial, returns⟩

theorem handler_check {Q : Record → Bool → Prop} {object relation subjectId : String}
    (returns : ∀ h' b, Q h' b) :
    (Keto.check object relation subjectId).Obeys handlerRecording (fun _ _ => True) Q h := by
  refine ⟨trivial, fun reply => ?_⟩
  simp only [Prog.obeys_ofExcept]
  exact ⟨fun _ _ => trivial, fun b _ => returns _ b⟩

theorem updateType_records (req : UpdateTypeRequest) :
    (SchemaRegistryService.updateType ext inst extensions req).Obeys handlerRecording
      (fun _ _ => True) (fun h _ => Updated inst req h) [] := by
  simp only [SchemaRegistryService.updateType, SchemaRegistryService.serviceBySlug,
    AuthClaims.fromExtensions, Keto.requireAdmin, Keto.checkAdmin, perform, Prog.obeys_bind]
  refine handler_okOr fun claims _ => handler_check fun h b => handler_ensure ?_
  refine handler_query fun service => handler_okOr fun service found => ?_
  subst found
  refine handler_query fun row => ⟨trivial, fun _ => ?_⟩
  exact ⟨h, service, row, by simp [Monitor.recording]⟩

theorem sendNotification_records (req : SendNotificationRequest) :
    (NotificationService.sendNotification ext extensions req).Obeys handlerRecording
      (fun _ _ => True) (Sent ext req) [] := by
  simp only [NotificationService.sendNotification, AuthClaims.fromExtensions,
    Keto.requireServiceSend, Keto.checkServiceSend, Prog.obeys_bind]
  refine handler_okOr fun claims _ => handler_check fun h b => handler_ensure ?_
  refine handler_query fun service => handler_okOr fun service found => handler_ensure ?_
  subst found
  refine handler_query fun nt => handler_okOr fun nt found => handler_ensure ?_
  subst found
  split
  next => trivial
  next =>
    simp only [newUuid, NotificationService.publishIngest, Prog.obeys_bind, Prog.obeys_mapErr]
    refine ⟨trivial, fun id => ⟨trivial, fun sent => ?_⟩⟩
    simp only [Prog.obeys_ofExcept]
    refine ⟨fun _ _ => trivial, ?_⟩
    rintro ⟨⟩ rfl
    exact ⟨h, service, nt, id, rfl, by simp [Monitor.recording]⟩

end Handlers

/-! ## All calls -/

/-- What a call has done before an operation. -/
def Call.Justified : Call → Record → Op → Prop
  | .processor inst seq => Estafeta.Justified inst seq
  | _ => fun _ _ => True

/-- What a call has done when it returns. -/
def Call.Done (ext : Ext) : Call → Record → Outcome → Prop
  | .rpc inst _ (.updateType req), h, _ => Updated inst req h
  | .rpc _ _ (.sendNotification req), h, some ⟨.sendNotification _, resp⟩ => Sent ext req h resp
  | .rpc _ _ (.sendNotification _), _, _ => False
  | _, _, _ => True

theorem body_records (ext : Ext) (c : Call) :
    ((system ext).body c).Obeys (.recording c.Justified) (fun _ _ => True) (c.Done ext) [] := by
  cases c with
  | rpc inst extensions r =>
    cases r with
    | updateType req =>
      simp only [system, Call.body, Prog.obeys_bind, Prog.obeys_mapErr]
      exact updateType_records req
    | sendNotification req =>
      simp only [system, Call.body, Prog.obeys_bind, Prog.obeys_mapErr]
      exact sendNotification_records req
    | _ => exact Prog.obeys_of_forall (fun _ _ => trivial) _ _
  | processor inst seq =>
    simp only [system, Call.body, Prog.obeys_bind, Prog.obeys_mapErr]
    exact processorRun_records.mono (fun _ _ _ => trivial) fun _ _ _ => trivial
  | _ => exact Prog.obeys_of_forall (fun _ _ => trivial) _ _

/-- In every run, each operation of a thread is justified by the thread's earlier ones, and so is
what is left of its program. -/
theorem recorded {ext : Ext} {w₀ : World} {es : History} {p : State}
    (run : (system ext).Run (Pool.idle w₀) es p) :
    Along (fun pre e => e.call.Justified (doneBy pre e.tid) e.op) es ∧
      (∀ i, p.threads i = none → doneBy es i = []) ∧
      ∀ i c k, p.threads i = some (c, k) →
        k.Obeys (.recording c.Justified) (fun _ _ => True) (c.Done ext) (doneBy es i) :=
  run.recorded (body_records ext)

end Estafeta
