import Estafeta.Lib.Linear
import Estafeta.Batches
import Estafeta.Footprints
import Estafeta.Histories
import Estafeta.Registrations

/-!
# Calls that take effect at one moment

Most requests change the database with one statement, and look up before it only what never changes
again: the id of a service or of a type, the existence of a notification. Whatever runs meanwhile,
such a call is answered, and changes the database, as if it had run alone at one moment
(`linearizable`).
-/

open Relational Atomic

namespace Estafeta

/-! ## What stays -/

/-- Services, types, levels and notifications are still there, with their keys. -/
structure World.Onward (w w' : World) : Prop where
  registered : w.db.Registered w'.db
  notifications : w.db.notifications.Grows w'.db.notifications

theorem World.Onward.refl (w : World) : w.Onward w := ⟨.refl _, .refl _⟩

theorem World.Onward.trans {u v w : World} (first : u.Onward v) (second : v.Onward w) : u.Onward w :=
  ⟨first.registered.trans second.registered, first.notifications.trans second.notifications⟩

theorem onward_exec (ext : Ext) (x : Choice) (o : Op) (w : World) : w.Onward (exec ext x o w).2 where
  registered := registered_exec ext x o w
  notifications := by
    rcases notifications_exec ext x o w with ⟨n, _, stored⟩ | ⟨q, _, _, updated⟩ | ⟨_, same⟩
    · exact Table.grows_insert stored
    · rw [updated]
      exact Table.grows_update _ _ _
    · rw [same]
      exact .refl _

/-- A row found under a key is found there later, with the same keys. -/
theorem World.Onward.service {w w' : World} (later : w.Onward w') {slug : String} {r : ServiceRow}
    (found : w.db.services.lookup (.slug slug) = some r) :
    ∃ r', w'.db.services.lookup (.slug slug) = some r' ∧ r'.id = r.id := by
  obtain ⟨r', found', same⟩ := later.registered.services _ r found
  simp only [Schema.keys, List.cons.injEq, ServiceKey.id.injEq] at same
  exact ⟨r', found', same.1⟩

theorem World.Onward.type {w w' : World} (later : w.Onward w') {serviceId : Uuid} {typeKey : String}
    {r : NotificationTypeRow}
    (found : w.db.notificationTypes.lookup (.typeKey serviceId typeKey) = some r) :
    ∃ r', w'.db.notificationTypes.lookup (.typeKey serviceId typeKey) = some r' ∧ r'.id = r.id := by
  obtain ⟨r', found', same⟩ := later.registered.notificationTypes _ r found
  simp only [Schema.keys, List.cons.injEq, NotificationTypeKey.id.injEq] at same
  exact ⟨r', found', same.1⟩

/-! ## Rules -/

/-- The program takes effect on the database at one operation. -/
abbrev TakesEffectOnce {ε α : Type} (ext : Ext) (p : Program ε α) : Prop :=
  p.Linear (exec ext) World.db World.Onward

section Rules

variable {ext : Ext} {α : Type}

theorem once_check (object relation subject : String) {f : Bool → Program Status α}
    (rest : ∀ allowed, TakesEffectOnce ext (f allowed)) :
    TakesEffectOnce ext (Keto.check object relation subject >>= f) := by
  intro x w
  refine .inr ⟨?_, fun _ _ => ⟨rfl, rfl⟩⟩
  exact Prog.linear_ofExcept_bind rest

theorem once_requireAdmin (subject : String) {f : Unit → Program Status α}
    (rest : TakesEffectOnce ext (f ())) :
    TakesEffectOnce ext (Keto.requireAdmin subject >>= f) := by
  rw [Keto.requireAdmin, Prog.bind_assoc]
  exact once_check _ _ _ fun _ => Prog.linear_ensure_bind rest

theorem once_requireServiceSend (slug subject : String) {f : Unit → Program Status α}
    (rest : TakesEffectOnce ext (f ())) :
    TakesEffectOnce ext (Keto.requireServiceSend slug subject >>= f) := by
  rw [Keto.requireServiceSend, Prog.bind_assoc]
  exact once_check _ _ _ fun _ => Prog.linear_ensure_bind rest

theorem once_lookup {ρ : Type} {q : Sql} {answer : Db → q.Resp} (missing : Status)
    (bound : q.instants.all inTimestamptz = true)
    (reads : ∀ env db, q.exec env db = .ok (answer db, db)) (o : q.Resp → Option ρ)
    {f : ρ → Program Status α}
    (same : ∀ {w w' : World}, w.Onward w' → ∀ v, o (answer w.db) = some v →
      ∃ v', o (answer w'.db) = some v' ∧ f v' = f v)
    (rest : ∀ v, TakesEffectOnce ext (f v)) :
    TakesEffectOnce ext (ext.query q >>= fun a => Prog.okOr missing (o a) >>= f) := by
  intro x w
  cases failure : x.failure with
  | some e =>
    have failed : ∀ w, exec ext x (.sql q) w = (.error e, w) := fun w => execSql_of_failure failure
    simp only [failed]
    exact .inl ⟨_, rfl, fun _ _ => trivial⟩
  | none =>
    have answered : ∀ w, exec ext x (.sql q) w = (.ok (answer w.db), w) :=
      fun w => execSql_of_ok failure bound (reads ..)
    simp only [answered]
    cases found : o (answer w.db) with
    | none =>
      refine .inl ⟨.error missing, ?_, fun _ _ => trivial⟩
      show (Prog.okOr missing (o (answer w.db)) >>= f).Settled ..
      rw [found]
      rfl
    | some v =>
      refine .inr ⟨?_, fun w' later => ⟨?_, trivial⟩⟩
      · show (Prog.okOr missing (o (answer w.db)) >>= f).Linear ..
        rw [found]
        exact rest v
      · obtain ⟨v', found', alike⟩ := same later v found
        show (Prog.okOr missing (o (answer w'.db)) >>= f) =
          (Prog.okOr missing (o (answer w.db)) >>= f)
        rw [found, found']
        exact alike

theorem once_statement {q : Sql} {f : q.Resp → Program Status α}
    (ends : ∀ env db a db', q.exec env db = .ok (a, db') →
      ∃ r, (f a).Settled (exec ext) World.db r ∧ ∀ e, r = .error e → db' = db) :
    TakesEffectOnce ext (ext.query q >>= f) := by
  intro x w
  refine .inl ?_
  show ∃ r, (((Prog.ofExcept (execSql ext x q w).1).mapErr _) >>= f).Settled (exec ext) World.db r ∧
    ∀ e, r = .error e → (execSql ext x q w).2.db = w.db
  rcases execSql_cases ext x q w with ⟨e, failed⟩ | ⟨a, db, ok, answered⟩
  · rw [failed]
    exact ⟨_, rfl, fun _ _ => rfl⟩
  · rw [answered]
    exact ends _ _ _ _ ok

theorem once_read {q : Sql} {f : q.Resp → Program Status α}
    (reads : ∀ env db a db', q.exec env db = .ok (a, db') → db' = db) (done : ∀ a, (f a).Done) :
    TakesEffectOnce ext (ext.query q >>= f) :=
  once_statement fun env db a db' ok =>
    (done a).ends.imp fun _ ends => ⟨.of_ends ends, fun _ _ => reads env db a db' ok⟩

theorem once_return {q : Sql} (g : q.Resp → α) :
    TakesEffectOnce ext (ext.query q >>= fun a => .ret (g a)) :=
  once_statement fun _ _ a _ _ => ⟨.ok (g a), rfl, fun _ failed => nomatch failed⟩

theorem once_query (q : Sql) : TakesEffectOnce ext (ext.query q) := by
  rw [← Prog.bind_ret (ext.query q)]
  exact once_return id

theorem once_claims (extensions : Option AuthClaims) {f : AuthClaims → Program Status α}
    (rest : ∀ c, TakesEffectOnce ext (f c)) :
    TakesEffectOnce ext (AuthClaims.fromExtensions extensions >>= f) :=
  Prog.linear_okOr_bind rest

theorem once_service (slug : String) (missing : Status) {f : ServiceRow → Program Status α}
    (byId : ∀ s s', s'.id = s.id → f s' = f s) (rest : ∀ s, TakesEffectOnce ext (f s)) :
    TakesEffectOnce ext (ext.query (.services (.getServiceBySlug slug)) >>= fun a =>
      Prog.okOr missing a >>= f) := by
  refine once_lookup (q := .services (.getServiceBySlug slug)) _ rfl (fun _ _ => rfl) id
    (fun later s found => ?_) rest
  obtain ⟨s', found', same⟩ := later.service found
  exact ⟨s', found', byId s s' same⟩

theorem once_serviceBySlug (slug : String) {f : ServiceRow → Program Status α}
    (byId : ∀ s s', s'.id = s.id → f s' = f s) (rest : ∀ s, TakesEffectOnce ext (f s)) :
    TakesEffectOnce ext (SchemaRegistryService.serviceBySlug ext slug >>= f) := by
  rw [SchemaRegistryService.serviceBySlug, Prog.bind_assoc]
  exact once_service slug _ byId rest

theorem once_typeByKey (serviceId : Uuid) (typeKey : String) {f : NotificationTypeRow → Program Status α}
    (byId : ∀ t t', t'.id = t.id → f t' = f t) (rest : ∀ t, TakesEffectOnce ext (f t)) :
    TakesEffectOnce ext (UserConfigService.typeByKey ext serviceId typeKey >>= f) := by
  rw [UserConfigService.typeByKey, Prog.bind_assoc]
  refine once_lookup (q := .schemas (.getNotificationType serviceId typeKey)) _ rfl (fun _ _ => rfl) id
    (fun later t found => ?_) rest
  obtain ⟨t', found', same⟩ := later.type found
  exact ⟨t', found', byId t t' same⟩

end Rules

/-! ## Handlers -/

/-- The requests whose calls take effect at one moment: not those that send, that look at the database
with several statements, or that resolve a list of slugs first. -/
def Rpc.atomic : Rpc → Bool
  | .sendNotification _ => false
  | .sendNotificationBatch _ => false
  | .listNotifications req => req.serviceSlugs.isEmpty
  | .getUnseenCount _ => false
  | .getUnreadCount _ => false
  | .getPreferences => false
  | .listServices _ => false
  | _ => true

section Handlers

variable (ext : Ext) (inst : ℕ) (extensions : Option AuthClaims)

theorem markSeen_once (req : MarkSeenRequest) :
    TakesEffectOnce ext (NotificationService.markSeen ext extensions req) := by
  refine once_claims extensions fun c => ?_
  split
  · exact once_return _
  · exact Prog.linear_ofExcept_bind fun ids => once_return _

theorem archiveAllInGroup_once (req : ArchiveAllInGroupRequest) :
    TakesEffectOnce ext (NotificationService.archiveAllInGroup ext extensions req) := by
  refine once_claims extensions fun c => ?_
  exact once_service _ _ (fun _ _ same => by rw [same]) fun service => once_return _

theorem getNotification_once (req : GetNotificationRequest) :
    TakesEffectOnce ext (NotificationService.getNotification ext extensions req) := by
  refine once_claims extensions fun c => Prog.linear_okOr_bind fun id => once_read ?_ fun row => ?_
  · rintro env db row db' h
    cases h
    rfl
  · exact (Prog.done_okOr _ _).bind fun row => (Prog.done_ensure _ _).bind fun _ => trivial

theorem listNotifications_once (req : ListNotificationsRequest) (all : req.serviceSlugs = []) :
    TakesEffectOnce ext (NotificationService.listNotifications ext extensions req) := by
  refine once_claims extensions fun c => ?_
  rw [all]
  exact once_return _

theorem resurfaceNotification_once (req : ResurfaceNotificationRequest) :
    TakesEffectOnce ext (AdminService.resurfaceNotification ext extensions req) := by
  refine once_claims extensions fun c => once_requireAdmin _ (Prog.linear_okOr_bind fun id => ?_)
  refine once_lookup (q := .notifications (.getNotification id)) (o := fun row => row) _ rfl
    (fun _ _ => rfl) (fun later row found => ?_) fun row => once_return _
  obtain ⟨row', found', _⟩ := later.notifications _ row found
  exact ⟨row', found', rfl⟩

theorem once_invalidate {q : Sql} {key : String} (g : q.Resp → α) :
    TakesEffectOnce ext (ext.query q >>= fun a =>
      perform (.cacheInvalidate inst .notificationTypes key) >>= fun _ => .ret (g a)) :=
  once_statement fun _ _ a _ _ =>
    ⟨.ok (g a), ⟨fun _ _ => rfl, fun _ => rfl⟩, fun _ failed => nomatch failed⟩

theorem registerType_once (req : RegisterTypeRequest) :
    TakesEffectOnce ext (SchemaRegistryService.registerType ext inst extensions req) := by
  refine once_claims extensions fun c => once_requireAdmin _ ?_
  refine once_service _ _ (fun _ _ same => by rw [same]) fun service => ?_
  exact Prog.linear_ensure_bind (once_invalidate ext inst _)

theorem updateType_once (req : UpdateTypeRequest) :
    TakesEffectOnce ext (SchemaRegistryService.updateType ext inst extensions req) := by
  refine once_claims extensions fun c => once_requireAdmin _ ?_
  exact once_serviceBySlug _ (fun _ _ same => by rw [same]) fun service =>
    once_invalidate ext inst _

theorem once_readType (slug typeKey : String) {f : ServiceRow → NotificationTypeRow → Program Status α}
    (byId : ∀ s s', s'.id = s.id → f s' = f s) (done : ∀ s t, (f s t).Done) :
    TakesEffectOnce ext (SchemaRegistryService.serviceBySlug ext slug >>= fun service =>
      ext.query (.schemas (.getNotificationType service.id typeKey)) >>= fun a =>
        Prog.okOr (.notFound "notification type not found") a >>= f service) := by
  refine once_serviceBySlug _ (fun s s' same => by rw [same, byId s s' same]) fun service => ?_
  refine once_read ?_ fun t => (Prog.done_okOr _ _).bind fun t => done service t
  rintro env db t db' h
  cases h
  rfl

theorem setServicePreference_once (req : SetServicePreferenceRequest) :
    TakesEffectOnce ext (UserConfigService.setServicePreference ext extensions req) := by
  refine once_claims extensions fun c => ?_
  exact once_serviceBySlug _ (fun _ _ same => by rw [same]) fun service => once_return _

theorem deleteServicePreference_once (req : DeleteServicePreferenceRequest) :
    TakesEffectOnce ext (UserConfigService.deleteServicePreference ext extensions req) := by
  refine once_claims extensions fun c => ?_
  exact once_serviceBySlug _ (fun _ _ same => by rw [same]) fun service => once_query _

theorem setTypePreference_once (req : SetTypePreferenceRequest) :
    TakesEffectOnce ext (UserConfigService.setTypePreference ext extensions req) := by
  refine once_claims extensions fun c => ?_
  refine once_serviceBySlug _ (fun _ _ same => by rw [same]) fun service => ?_
  exact once_typeByKey _ _ (fun _ _ same => by rw [same]) fun nt => once_return _

theorem deleteTypePreference_once (req : DeleteTypePreferenceRequest) :
    TakesEffectOnce ext (UserConfigService.deleteTypePreference ext extensions req) := by
  refine once_claims extensions fun c => ?_
  refine once_serviceBySlug _ (fun _ _ same => by rw [same]) fun service => ?_
  exact once_typeByKey _ _ (fun _ _ same => by rw [same]) fun nt => once_query _

theorem createMuteRule_once (req : CreateMuteRuleRequest) :
    TakesEffectOnce ext (UserConfigService.createMuteRule ext extensions req) := by
  refine once_claims extensions fun c => ?_
  have insert : ∀ (serviceId typeId : Option Uuid) (mutedUntil : Option Time), TakesEffectOnce ext
      (ext.query (.muteRules (.insertMuteRule c.subject serviceId typeId mutedUntil)) >>= fun row =>
        .ret (⟨ext.showUuid row.id, req.serviceSlug, req.notificationType,
          optTimestamp row.mutedUntil, toTimestamp row.createdAt⟩ : MuteRule)) :=
    fun _ _ _ => once_return _
  unfold UserConfigService.muteService
  split
  · rw [Prog.bind_assoc]
    refine once_serviceBySlug _ (fun _ _ same => by rw [same]) fun service => ?_
    simp only [Prog.pure_eq, Prog.ret_bind, UserConfigService.muteType]
    split
    · rw [Prog.bind_assoc]
      exact once_typeByKey _ _ (fun _ _ same => by rw [same]) fun nt => insert _ _ _
    · exact insert _ _ _
  · exact insert _ _ _

theorem deleteMuteRule_once (req : DeleteMuteRuleRequest) :
    TakesEffectOnce ext (UserConfigService.deleteMuteRule ext extensions req) := by
  refine once_claims extensions fun c => Prog.linear_okOr_bind fun id => once_statement ?_
  rintro env db deleted db' h
  cases h
  by_cases some : 0 < (db.muteRules.select fun r => r.id = id && r.userId = c.subject).length
  · refine ⟨.ok (), ?_, fun _ failed => nomatch failed⟩
    show (Prog.ensure (decide _) _).Settled ..
    rw [decide_eq_true some]
    rfl
  · refine ⟨.error (.notFound "mute rule not found"), ?_, fun _ _ => ?_⟩
    · show (Prog.ensure (decide _) _).Settled ..
      rw [decide_eq_false some]
      rfl
    · rw [Table.delete_of_select (List.length_eq_zero_iff.1 (Nat.eq_zero_of_not_pos some))]

theorem once_admin (extensions : Option AuthClaims) {α : Type} {f : AuthClaims → Program Status α}
    (rest : ∀ c, TakesEffectOnce ext (f c)) :
    TakesEffectOnce ext (AuthClaims.fromExtensions extensions >>= fun c =>
      Keto.requireAdmin c.subject >>= fun _ => f c) :=
  once_claims extensions fun c => once_requireAdmin _ (rest c)

/-- The handler of each of these requests takes effect at one operation. -/
theorem handle_once (r : Rpc) (atomic : r.atomic = true) :
    TakesEffectOnce ext (r.handle ext inst extensions) := by
  cases r with
  | sendNotification | sendNotificationBatch | getUnseenCount | getUnreadCount | getPreferences
  | listServices => cases atomic
  | getNotification req => exact getNotification_once ext extensions req
  | listNotifications req =>
    exact listNotifications_once ext extensions req (List.isEmpty_iff.1 atomic)
  | markSeen req => exact markSeen_once ext extensions req
  | markRead | markUnread | archive | unarchive =>
    exact once_claims extensions fun c => Prog.linear_ofExcept_bind fun ids => once_return _
  | snooze =>
    exact once_claims extensions fun c => Prog.linear_okOr_bind fun id =>
      Prog.linear_okOr_bind fun until_ => Prog.linear_okOr_bind fun dt => once_return _
  | archiveAllInGroup req => exact archiveAllInGroup_once ext extensions req
  | producerMarkRead =>
    exact once_claims extensions fun c => once_requireServiceSend _ _
      (Prog.linear_ofExcept_bind fun ids => once_return _)
  | registerType req => exact registerType_once ext inst extensions req
  | updateType req => exact updateType_once ext inst extensions req
  | getType req => exact once_readType ext _ _ (fun _ _ _ => rfl) fun _ _ => trivial
  | listTypes req =>
    exact once_serviceBySlug _ (fun _ _ same => by rw [same]) fun service => once_return _
  | registerLevel | updateLevel =>
    exact once_claims extensions fun c => once_requireAdmin _ <|
      once_serviceBySlug _ (fun _ _ same => by rw [same]) fun service => once_return _
  | listLevels =>
    exact once_serviceBySlug _ (fun _ _ same => by rw [same]) fun service => once_return _
  | validatePayload req =>
    refine once_readType ext _ _ (fun _ _ _ => rfl) fun service nt => ?_
    dsimp only
    split <;> trivial
  | updatePreferences => exact once_claims extensions fun c => once_return _
  | setServicePreference req => exact setServicePreference_once ext extensions req
  | deleteServicePreference req => exact deleteServicePreference_once ext extensions req
  | setTypePreference req => exact setTypePreference_once ext extensions req
  | deleteTypePreference req => exact deleteTypePreference_once ext extensions req
  | listMuteRules => exact once_claims extensions fun c => once_return _
  | createMuteRule req => exact createMuteRule_once ext extensions req
  | deleteMuteRule req => exact deleteMuteRule_once ext extensions req
  | registerService | updateService | setGlobalPolicy | getGlobalPolicy =>
    exact once_admin ext extensions fun c => once_return _
  | disableService | enableService => exact once_admin ext extensions fun c => once_query _
  | resurfaceNotification req => exact resurfaceNotification_once ext extensions req

end Handlers

/-! ## Runs -/

theorem body_once (ext : Ext) (inst : ℕ) (extensions : Option AuthClaims) {r : Rpc}
    (atomic : r.atomic = true) : TakesEffectOnce ext (Call.body ext (.rpc inst extensions r)) :=
  ((handle_once ext inst extensions r atomic).mapErr _).map _

theorem ensures_body {ext : Ext} {ok : Choice → Prop} {inst : ℕ} {extensions : Option AuthClaims}
    {r : Rpc} {E : World → Status → Prop} {Q : World → r.Resp → Prop} {w : World}
    (handled : (r.handle ext inst extensions).Ensures (exec ext) ok E Q w) :
    (Call.body ext (.rpc inst extensions r)).Ensures (exec ext) ok
      (fun w f => ∃ s, f = .status s ∧ E w s) (fun w o => ∃ a, o = some ⟨r, a⟩ ∧ Q w a) w := by
  unfold Call.body
  rw [Prog.ensures_bind, Prog.ensures_mapErr]
  exact handled.mono (fun w s fails => ⟨s, rfl, fails⟩) fun w a returns => ⟨a, rfl, returns⟩

/-- Whatever runs meanwhile, a call of one of these requests has not changed the database so far, and
has not ended after an operation, or it has taken effect at one of its operations: it answers, if it
does, and has changed the database as its handler does alone from there, with the same choices of the
surroundings, and it has changed nothing at its other operations, and nothing at all if it fails. -/
theorem linearizable {ext : Ext} {w₀ : World} {es : History} {p : State}
    (run : (system ext).Run (Pool.idle w₀) es p) {i inst : ℕ} {extensions : Option AuthClaims} {r : Rpc}
    {k : Program Failure Outcome} (thread : p.threads i = some (.rpc inst extensions r, k))
    (atomic : r.atomic = true) :
    (Quiet World.db i es ∧ ∀ result, k.Ends result → eventsOf i es = []) ∨
      ∃ pre e post result, es = pre ++ e :: post ∧ Quiet World.db i (pre ++ post) ∧
        Linearized (system ext) World.db i (.rpc inst extensions r) es k e result := by
  rcases run.progress World.Onward.refl World.Onward.trans (onward_exec ext) thread
      (body_once ext inst extensions atomic) with ⟨quiet, unended, _⟩ |
    ⟨pre, e, post, result, split, quiet, _, linearized⟩
  · exact .inl ⟨quiet, unended⟩
  · exact .inr ⟨pre, e, post, result, split, quiet, linearized⟩

/-- A service is disabled while a call that has found it is about to write a preference for it. -/
def Sample.disabledMeanwhile : State × History :=
  Sample.played (Sample.world .empty [])
    [.start 0 (.rpc 0 (some Sample.ann) (.setServicePreference ⟨"mail", false, 3⟩)),
      .start 1 (.rpc 1 (some Sample.ann) (.disableService ⟨"mail"⟩)), .step 0 Sample.choice,
      .step 1 Sample.choice, .step 1 Sample.choice, .step 0 Sample.choice]

theorem linearizable_disabledMeanwhile :
    (Quiet World.db 0 Sample.disabledMeanwhile.2 ∧
        ∀ result, (Prog.ret (some ⟨.setServicePreference ⟨"mail", false, 3⟩, ⟨"mail", false, 3⟩⟩) :
          Program Failure Outcome).Ends result → eventsOf 0 Sample.disabledMeanwhile.2 = []) ∨
      ∃ pre e post result, Sample.disabledMeanwhile.2 = pre ++ e :: post ∧
        Quiet World.db 0 (pre ++ post) ∧
        Linearized (system Sample.ext) World.db 0
          (.rpc 0 (some Sample.ann) (.setServicePreference ⟨"mail", false, 3⟩))
          Sample.disabledMeanwhile.2
          (.ret (some ⟨.setServicePreference ⟨"mail", false, 3⟩, ⟨"mail", false, 3⟩⟩)) e result :=
  linearizable (Sample.run_played rfl) rfl rfl

/-! ## Calls that fail -/

/-- The operation leaves the database alone. -/
def Op.Idle (ext : Ext) (o : Op) : Prop := ∀ x w, (exec ext x o w).2.db = w.db

/-- A request that does not take effect at one operation leaves the database alone, unless it creates
the default preferences of a user. -/
theorem handle_idle (ext : Ext) (extensions : Option AuthClaims) (inst : ℕ) (r : Rpc)
    (composed : r.atomic = false) :
    (r.handle ext inst extensions).Within fun o => Op.Idle ext o ∨ ∃ c, r = .getPreferences ∧
      extensions = some c ∧ o = .sql (.preferences (.getOrCreateUserPreference c.subject)) := by
  refine (handle_performs ext inst extensions r).mono fun o performs => ?_
  cases performs with
  | looks harmless => exact .inl (harmless_db harmless)
  | @changes c q claimed changes =>
    cases changes with
    | getPreferences => exact .inr ⟨c, rfl, claimed, rfl⟩
    | _ => cases composed
  | publishes => exact .inl fun _ _ => exec_db_of_not_sql fun _ same => by cases same

/-- A call that has failed has changed nothing in the database, whatever ran meanwhile and wherever it
failed; only `GetPreferences` may have created the default preferences of its caller. -/
theorem failed_unchanged {ext : Ext} {w₀ : World} {es : History} {p : State}
    (run : (system ext).Run (Pool.idle w₀) es p) {i inst : ℕ} {extensions : Option AuthClaims} {r : Rpc}
    {failure : Failure} (failed : p.threads i = some (.rpc inst extensions r, .fail failure)) :
    ∀ e ∈ es, e.tid = i → e.after.db = e.before.db ∨
      ∃ c, r = .getPreferences ∧ extensions = some c ∧
        e.op = .sql (.preferences (.getOrCreateUserPreference c.subject)) := by
  intro e he own
  cases atomic : r.atomic with
  | true =>
    rcases run.progress World.Onward.refl World.Onward.trans (onward_exec ext) failed
        (body_once ext inst extensions atomic) with ⟨quiet, _, _⟩ |
      ⟨pre, e', post, result, rfl, quiet, _, linearized⟩
    · exact .inl (quiet e he own)
    · rcases List.mem_append.1 he with he | he
      · exact .inl (quiet e (List.mem_append_left _ he) own)
      · rcases List.mem_cons.1 he with rfl | he
        · exact .inl (linearized.failing failure (linearized.ends _ rfl).symm)
        · exact .inl (quiet e (List.mem_append_right _ he) own)
  | false =>
    have within : (Call.body ext (.rpc inst extensions r)).Within _ :=
      (handle_idle ext extensions inst r atomic).mapErr.bind fun _ => trivial
    rcases (run.confined failed within).2 e he own with idle | created
    · obtain ⟨_, _, _, x, w, rfl⟩ := performed run e he
      exact .inl (idle x w)
    · exact .inr created

/-- `ann` deletes a mute rule that does not exist, while its service is being disabled. -/
def Sample.unmuted : State × History :=
  Sample.played (Sample.world .empty [])
    [.start 0 (.rpc 0 (some Sample.ann) (.deleteMuteRule ⟨"3"⟩)),
      .start 1 (.rpc 1 (some Sample.ann) (.disableService ⟨"mail"⟩)), .step 1 Sample.choice,
      .step 1 Sample.choice, .step 0 Sample.choice]

theorem failed_unchanged_unmuted : ∃ e ∈ Sample.unmuted.2, e.tid = 0 ∧ (e.after.db = e.before.db ∨
    ∃ c, Rpc.deleteMuteRule ⟨"3"⟩ = .getPreferences ∧ some Sample.ann = some c ∧
      e.op = .sql (.preferences (.getOrCreateUserPreference c.subject))) := by
  have failed : Sample.unmuted.1.threads 0 = some (.rpc 0 (some Sample.ann) (.deleteMuteRule ⟨"3"⟩),
      .fail (.status (.notFound "mute rule not found"))) := rfl
  obtain ⟨e, he, own⟩ : ∃ e ∈ Sample.unmuted.2, e.tid = 0 :=
    ⟨_, .tail _ (.tail _ (.head _)), rfl⟩
  exact ⟨e, he, own, failed_unchanged (Sample.run_played rfl) failed e he own⟩

end Estafeta
