import Estafeta.CacheKeys
import Estafeta.Hierarchy

/-!
# What a mute rule covers, and until when

`createMuteRule` decodes a request into the id of a service, the id of a type and an end. Each is
optional, and in a rule a missing one is no restriction. `Creating` says from what the handler stores
a rule; `muteRule_narrows_iff` compares the rule with the request.
-/

open Relational Atomic

namespace Estafeta

/-! ## What a request is decoded into -/

/-- The ids that a request is decoded into, from what has been read. -/
inductive Decodes (req : CreateMuteRuleRequest) (h : Record) : Option Uuid → Option Uuid → Prop where
  | everything : req.serviceSlug = "" → Decodes req h none none
  | service {service : ServiceRow} : req.serviceSlug ≠ "" → req.notificationType = "" →
    ⟨.sql (.services (.getServiceBySlug req.serviceSlug)), .ok (some service)⟩ ∈ h →
    Decodes req h (some service.id) none
  | type {service : ServiceRow} {nt : NotificationTypeRow} : req.serviceSlug ≠ "" →
    req.notificationType ≠ "" →
    ⟨.sql (.services (.getServiceBySlug req.serviceSlug)), .ok (some service)⟩ ∈ h →
    ⟨.sql (.schemas (.getNotificationType service.id req.notificationType)), .ok (some nt)⟩ ∈ h →
    Decodes req h (some service.id) (some nt.id)

/-- The instant that a timestamp is decoded into, if it is one. -/
def Timestamp.decode (ext : Ext) (t : Timestamp) : Option Time :=
  ext.fromTimestamp t.seconds t.nanos.toUInt32

/-- What `createMuteRule` does: it reads the registry, and stores what it has decoded. -/
inductive Creating (ext : Ext) (req : CreateMuteRuleRequest) (h : Record) : Op → Prop where
  | reads {q : Sql} : q.registry = true → Creating ext req h (.sql q)
  | stores {userId : String} {serviceId notifTypeId : Option Uuid} :
    Decodes req h serviceId notifTypeId → Creating ext req h
      (.sql (.muteRules (.insertMuteRule userId serviceId notifTypeId
        (req.mutedUntil.bind fun t => t.decode ext))))

/-- What `snooze` does: one statement, with the instant that the timestamp is decoded into. -/
inductive Snoozing (ext : Ext) (req : SnoozeRequest) (h : Record) : Op → Prop where
  | mk {userId : String} {id : Uuid} {t : Timestamp} {until_ : Time} : req.snoozeUntil = some t →
    t.decode ext = some until_ →
    Snoozing ext req h (.sql (.notifications (.snooze userId id until_)))

/-- No statement but a read of the registry has been answered. -/
def Unwritten (h : Record) : Prop :=
  ∀ (q : Sql) a, (⟨.sql q, .ok a⟩ : Σ o : Op, o.Ans) ∈ h → q.registry = true

/-- A statement has failed. -/
def Failing (h : Record) : Prop := ∃ (q : Sql) (e : DbError), ⟨.sql q, .error e⟩ ∈ h

/-- A statement that binds some instants has been answered. -/
def Binding (h : Record) (instants : List Time) : Prop :=
  ∃ (q : Sql) (a : q.Resp), ⟨.sql q, .ok a⟩ ∈ h ∧ q.instants = instants

/-- How `createMuteRule` fails: something that the request names is not there, or a statement has
failed. -/
def Denied (extensions : Option AuthClaims) (h : Record) (s : Status) : Prop :=
  (extensions ≠ none → s.code = .notFound ∨ s.code = .internal ∧ Failing h) ∧ Unwritten h

/-- How `snooze` fails: something that the request gives is not valid, or its statement has failed. -/
def Unsnoozed (ext : Ext) (extensions : Option AuthClaims) (req : SnoozeRequest) (h : Record)
    (s : Status) : Prop :=
  (extensions ≠ none →
    let valid := ext.parseUuid req.notificationId ≠ none ∧
      (req.snoozeUntil.bind fun t => t.decode ext) ≠ none
    s.code = .invalidArgument ∧ ¬ valid ∨ s.code = .internal ∧ Failing h ∧ valid) ∧ Unwritten h

section

variable {ext : Ext} {extensions : Option AuthClaims} {h : Record}

theorem Failing.snoc (q : Sql) (e : DbError) : Failing (h ++ [⟨.sql q, .error e⟩]) :=
  ⟨q, e, by simp⟩

theorem Binding.snoc {q : Sql} (a : q.Resp) {instants : List Time} (binds : q.instants = instants) :
    Binding (h ++ [⟨.sql q, .ok a⟩]) instants :=
  ⟨q, a, by simp, binds⟩

theorem Unwritten.snoc (unwritten : Unwritten h) {a : Σ o : Op, o.Ans}
    (last : ∀ (q : Sql) b, a = ⟨.sql q, .ok b⟩ → q.registry = true) : Unwritten (h ++ [a]) := by
  intro q b mem
  rcases List.mem_append.1 mem with mem | mem
  · exact unwritten q b mem
  · exact last q b (List.mem_singleton.1 mem).symm

theorem Unwritten.read (unwritten : Unwritten h) {q : Sql} (reads : q.registry = true)
    (a : Except DbError q.Resp) : Unwritten (h ++ [⟨.sql q, a⟩]) :=
  unwritten.snoc fun _ _ same => by
    cases (Sigma.mk.inj same).1
    exact reads

theorem Unwritten.failed (unwritten : Unwritten h) (q : Sql) (e : DbError) :
    Unwritten (h ++ [⟨.sql q, .error e⟩]) :=
  unwritten.snoc fun _ _ same => by
    obtain ⟨same, answer⟩ := Sigma.mk.inj same
    cases same
    cases answer

theorem Unwritten.denied (unwritten : Unwritten h) (q : Sql) (e : DbError) (message : String) :
    Denied extensions (h ++ [⟨.sql q, .error e⟩]) (.internal message) :=
  ⟨fun _ => .inr ⟨rfl, .snoc q e⟩, unwritten.failed q e⟩

theorem registry_creates {req : CreateMuteRuleRequest} {q : Sql} {Q : Record → q.Resp → Prop}
    (reads : q.registry = true) (unwritten : Unwritten h)
    (returns : ∀ a, Q (h ++ [⟨.sql q, .ok a⟩]) a) :
    (ext.query q).Obeys (.recording (Creating ext req)) (Denied extensions) Q h :=
  (obeys_query ext q).2 ⟨.reads reads, fun e => unwritten.denied q e _, returns⟩

theorem serviceBySlug_creates {req : CreateMuteRuleRequest} {slug : String}
    {Q : Record → ServiceRow → Prop} (unwritten : Unwritten h)
    (returns : ∀ service : ServiceRow,
      Q (h ++ [⟨.sql (.services (.getServiceBySlug slug)), .ok (some service)⟩]) service) :
    (SchemaRegistryService.serviceBySlug ext slug).Obeys (.recording (Creating ext req))
      (Denied extensions) Q h := by
  rw [SchemaRegistryService.serviceBySlug, Prog.obeys_bind]
  refine registry_creates rfl unwritten fun service => ?_
  refine (Prog.obeys_okOr _ _ _).2 ⟨fun _ => ⟨fun _ => .inl rfl, unwritten.read rfl _⟩, ?_⟩
  rintro service rfl
  exact returns service

theorem typeByKey_creates {req : CreateMuteRuleRequest} {serviceId : Uuid} {typeKey : String}
    {Q : Record → NotificationTypeRow → Prop} (unwritten : Unwritten h)
    (returns : ∀ nt : NotificationTypeRow,
      Q (h ++ [⟨.sql (.schemas (.getNotificationType serviceId typeKey)), .ok (some nt)⟩]) nt) :
    (UserConfigService.typeByKey ext serviceId typeKey).Obeys (.recording (Creating ext req))
      (Denied extensions) Q h := by
  rw [UserConfigService.typeByKey, Prog.obeys_bind]
  refine registry_creates rfl unwritten fun nt => ?_
  refine (Prog.obeys_okOr _ _ _).2 ⟨fun _ => ⟨fun _ => .inl rfl, unwritten.read rfl _⟩, ?_⟩
  rintro nt rfl
  exact returns nt

theorem muteService_creates {req : CreateMuteRuleRequest} {slug : String}
    {Q : Record → Option Uuid → Prop} (unwritten : Unwritten h) (unnamed : slug = "" → Q h none)
    (named : ∀ service : ServiceRow, slug ≠ "" →
      Q (h ++ [⟨.sql (.services (.getServiceBySlug slug)), .ok (some service)⟩]) (some service.id)) :
    (UserConfigService.muteService ext slug).Obeys (.recording (Creating ext req))
      (Denied extensions) Q h := by
  unfold UserConfigService.muteService
  by_cases empty : slug = ""
  · rw [if_neg (by simp [empty])]
    exact unnamed empty
  · rw [if_pos (by simpa using empty), Prog.obeys_bind]
    exact serviceBySlug_creates unwritten fun service => named service empty

theorem muteType_creates {req : CreateMuteRuleRequest} {serviceId : Uuid} {typeKey : String}
    {Q : Record → Option Uuid → Prop} (unwritten : Unwritten h) (unnamed : typeKey = "" → Q h none)
    (named : ∀ nt : NotificationTypeRow, typeKey ≠ "" →
      Q (h ++ [⟨.sql (.schemas (.getNotificationType serviceId typeKey)), .ok (some nt)⟩])
        (some nt.id)) :
    (UserConfigService.muteType ext (some serviceId) typeKey).Obeys (.recording (Creating ext req))
      (Denied extensions) Q h := by
  unfold UserConfigService.muteType
  by_cases empty : typeKey = ""
  · dsimp only
    rw [if_neg (by simp [empty])]
    exact unnamed empty
  · dsimp only
    rw [if_pos (by simpa using empty), Prog.obeys_bind]
    exact typeByKey_creates unwritten fun nt => named nt empty

theorem createMuteRule_creates (req : CreateMuteRuleRequest) :
    (UserConfigService.createMuteRule ext extensions req).Obeys (.recording (Creating ext req))
      (Denied extensions)
      (fun h _ => Binding h (req.mutedUntil.bind fun t => t.decode ext).toList) [] := by
  have store : ∀ (claims : AuthClaims) h serviceId typeId, Unwritten h →
      Decodes req h serviceId typeId →
      (ext.query (.muteRules (.insertMuteRule claims.subject serviceId typeId
        (req.mutedUntil.bind fun t => t.decode ext)))).Obeys (.recording (Creating ext req))
        (Denied extensions)
        (fun h _ => Binding h (req.mutedUntil.bind fun t => t.decode ext).toList) h :=
    fun claims h serviceId typeId unwritten decodes => (obeys_query ext _).2
      ⟨.stores decodes, fun e => unwritten.denied _ e _, fun row => .snoc row rfl⟩
  have nothing : Unwritten [] := fun _ _ mem => nomatch mem
  simp only [UserConfigService.createMuteRule, Prog.obeys_bind]
  refine (Prog.obeys_okOr _ _ _).2 ⟨fun anonymous => ⟨fun given => absurd anonymous given, nothing⟩,
    fun claims _ => ?_⟩
  refine muteService_creates nothing (fun unnamed => ?_) fun service named => ?_
  · exact store claims [] none none nothing (.everything unnamed)
  have read := nothing.read (q := .services (.getServiceBySlug req.serviceSlug)) rfl
    (.ok (some service))
  refine muteType_creates read (fun untyped => ?_) fun nt typed => ?_
  · exact store claims _ _ _ read (.service named untyped (by simp))
  · refine store claims _ _ _ (read.read (q := .schemas (.getNotificationType ..)) rfl _) ?_
    exact .type named typed (by simp) (by simp)

theorem snooze_snoozes (req : SnoozeRequest) :
    (NotificationService.snooze ext extensions req).Obeys (.recording (Snoozing ext req))
      (Unsnoozed ext extensions req)
      (fun h _ => ∃ u, (req.snoozeUntil.bind fun t => t.decode ext) = some u ∧ Binding h [u]) [] := by
  have nothing : Unwritten [] := fun _ _ mem => nomatch mem
  simp only [NotificationService.snooze, Prog.obeys_bind]
  refine (Prog.obeys_okOr _ _ _).2 ⟨fun anonymous => ⟨fun given => absurd anonymous given, nothing⟩,
    fun claims _ => ?_⟩
  refine (Prog.obeys_okOr _ _ _).2 ⟨fun unparsed => ⟨fun _ => .inl ⟨rfl, fun valid => ?_⟩, nothing⟩,
    fun id parsed => ?_⟩
  · exact valid.1 unparsed
  refine (Prog.obeys_okOr _ _ _).2 ⟨fun missing => ⟨fun _ => .inl ⟨rfl, fun valid => ?_⟩, nothing⟩,
    fun t given => ?_⟩
  · exact valid.2 (by rw [missing]; rfl)
  have decoding : (req.snoozeUntil.bind fun t => t.decode ext) = t.decode ext := by
    rw [given]
    rfl
  refine (Prog.obeys_okOr _ _ _).2 ⟨fun invalid => ⟨fun _ => .inl ⟨rfl, fun valid => ?_⟩, nothing⟩,
    fun u valid => ?_⟩
  · exact valid.2 (decoding.trans invalid)
  have decoded : (req.snoozeUntil.bind fun t => t.decode ext) = some u := decoding.trans valid
  refine (obeys_query ext _).2 ⟨.mk given valid, fun e => ⟨fun _ => .inr ⟨rfl, .snoc _ e, ?_⟩,
    nothing.failed _ e⟩, fun a => ⟨u, decoded, .snoc a rfl⟩⟩
  exact ⟨parsed ▸ Option.some_ne_none id, decoded ▸ Option.some_ne_none u⟩

end

/-! ## All calls -/

/-- What a call does, from what it has read. -/
def Call.Decoding (ext : Ext) : Call → Record → Op → Prop
  | .rpc _ _ (.createMuteRule req) => Creating ext req
  | .rpc _ _ (.snooze req) => Snoozing ext req
  | _ => fun _ _ => True

/-- What a call has done when it fails. -/
def Call.Refused (ext : Ext) : Call → Record → Failure → Prop
  | .rpc _ extensions (.createMuteRule _), h, .status s => Denied extensions h s
  | .rpc _ _ (.createMuteRule _), _, .error _ => False
  | .rpc _ extensions (.snooze req), h, .status s => Unsnoozed ext extensions req h s
  | .rpc _ _ (.snooze _), _, .error _ => False
  | _, _, _ => True

/-- What a call has done when it returns. -/
def Call.Accepted (ext : Ext) : Call → Record → Outcome → Prop
  | .rpc _ _ (.createMuteRule req), h, _ =>
    Binding h (req.mutedUntil.bind fun t => t.decode ext).toList
  | .rpc _ _ (.snooze req), h, _ =>
    ∃ u, (req.snoozeUntil.bind fun t => t.decode ext) = some u ∧ Binding h [u]
  | _, _, _ => True

theorem body_decodes (ext : Ext) (c : Call) :
    ((system ext).body c).Obeys (.recording (c.Decoding ext)) (c.Refused ext) (c.Accepted ext) [] := by
  cases c with
  | rpc inst extensions r =>
    cases r with
    | createMuteRule req =>
      simp only [system, Call.body, Prog.obeys_bind, Prog.obeys_mapErr]
      exact createMuteRule_creates req
    | snooze req =>
      simp only [system, Call.body, Prog.obeys_bind, Prog.obeys_mapErr]
      exact snooze_snoozes req
    | _ => exact Prog.obeys_of_forall (fun _ _ => trivial) _ _
  | _ => exact Prog.obeys_of_forall (fun _ _ => trivial) _ _

/-! ## What a rule covers -/

/-- With no preference but the rule, `resolve` suppresses the notifications of a type. -/
def MuteRuleRow.Suppresses (row : MuteRuleRow) (notifType : CachedNotificationType) (now : Time) :
    Prop :=
  (resolve now ⟨true, [], [], [cachedMuteRule row]⟩ notifType none).shouldDeliver = false

theorem suppresses_iff {row : MuteRuleRow} {notifType : CachedNotificationType} {now : Time} :
    row.Suppresses notifType now ↔ (cachedMuteRule row).mutes notifType now = true := by
  unfold MuteRuleRow.Suppresses resolve
  cases muted : (cachedMuteRule row).mutes notifType now with
  | true => simp [muted, ResolvedConfig.skipped]
  | false => simp [muted, ResolvedConfig.delivered]

section

variable {ext : Ext} {w₀ : World} {es pre post : History} {p : State} {db : Db}
  {e : Event Call Op Op.Ans World Choice} {slug slug' key key' : String}
  {v : CachedNotificationType} {service : ServiceRow} {nt : NotificationTypeRow}

/-- A type that is registered under a slug belongs to no service with another one. -/
theorem Db.IsType.slug_eq (registered : db.IsType slug key v)
    (found : db.services.lookup (.slug slug') = some service) (same : service.id = v.serviceId) :
    slug' = slug := by
  obtain ⟨service', _, found', _, own, _⟩ := registered
  have mine : ServiceKey.id service.id ∈ Schema.keys service := .head _
  have mine' : ServiceKey.id service.id ∈ Schema.keys service' := by
    rw [same, own]
    exact .head _
  obtain rfl := Table.eq_of_mem_keys (Table.mem_of_lookup found) (Table.mem_of_lookup found') mine
    mine'
  rw [← slug_mem_keys.1 (Table.key_of_lookup found), slug_mem_keys.1 (Table.key_of_lookup found')]

/-- A type that is registered under a key is not registered under another one. -/
theorem Db.IsType.key_eq {serviceId : Uuid} (registered : db.IsType slug key v)
    (found : db.notificationTypes.lookup (.typeKey serviceId key') = some nt) (same : nt.id = v.id) :
    key' = key := by
  obtain ⟨_, nt', _, found', _, own, _⟩ := registered
  have mine : NotificationTypeKey.id nt.id ∈ Schema.keys nt := .head _
  have mine' : NotificationTypeKey.id nt.id ∈ Schema.keys nt' := by
    rw [same, own]
    exact .head _
  obtain rfl := Table.eq_of_mem_keys (Table.mem_of_lookup found) (Table.mem_of_lookup found') mine
    mine'
  rw [← (typeKey_mem_keys.1 (Table.key_of_lookup found)).2,
    (typeKey_mem_keys.1 (Table.key_of_lookup found')).2]

/-- A service that a thread has read is found under its slug from then on. -/
theorem service_of_read (run : (system ext).Run (Pool.idle w₀) es p) {i : ℕ} (split : es = pre ++ post)
    (read : ⟨.sql (.services (.getServiceBySlug slug)), .ok (some service)⟩ ∈ doneBy pre i) :
    ∃ service', p.world.db.services.lookup (.slug slug) = some service' ∧
      service'.id = service.id := by
  obtain ⟨r, mem, _, done⟩ := mem_doneBy.1 read
  have there : r ∈ es := split ▸ List.mem_append_left _ mem
  have found := congrArg Prod.fst (Except.ok.inj (answered run there done))
  obtain ⟨before, after, rfl⟩ := List.append_of_mem there
  exact service_since run found

/-- A type that a thread has read is found under its key from then on. -/
theorem type_of_read (run : (system ext).Run (Pool.idle w₀) es p) {i : ℕ} {serviceId : Uuid}
    (split : es = pre ++ post)
    (read : ⟨.sql (.schemas (.getNotificationType serviceId key)), .ok (some nt)⟩ ∈ doneBy pre i) :
    ∃ nt', p.world.db.notificationTypes.lookup (.typeKey serviceId key) = some nt' ∧
      nt'.id = nt.id := by
  obtain ⟨r, mem, _, done⟩ := mem_doneBy.1 read
  have there : r ∈ es := split ▸ List.mem_append_left _ mem
  have found : r.before.db.notificationTypes.lookup (.typeKey serviceId key) = some nt :=
    congrArg Prod.fst (Except.ok.inj (answered run there done))
  obtain ⟨before, after, rfl⟩ := List.append_of_mem there
  refine run.since (K := fun w => ∃ s, w.db.notificationTypes.lookup (.typeKey serviceId key) =
    some s ∧ s.id = nt.id) (fun x o w ⟨s, found, same⟩ => ?_) ⟨nt, found, rfl⟩
  obtain ⟨s', found', same'⟩ := type_exec ext x o found
  exact ⟨s', found', same'.trans same⟩

/-- A rule that has been stored is made of the arguments of the statement. -/
theorem insertMuteRule_row {env : Env} {db db' : Db} {userId : String}
    {serviceId notifTypeId : Option Uuid} {until_ : Option Time} {row : MuteRuleRow}
    (h : Db.MuteRules.insertMuteRule env userId serviceId notifTypeId until_ db = .ok (row, db')) :
    row.serviceId = serviceId ∧ row.notificationTypeId = notifTypeId ∧ row.mutedUntil = until_ ∧
      db'.muteRules.rows = db.muteRules.rows ++ [row] := by
  obtain ⟨t, stored, h⟩ := map_eq_ok.1 h
  cases h
  exact ⟨rfl, rfl, rfl, Table.insert_rows (Db.Notifications.insertRow_ok stored)⟩

/-- An event stores a rule for a request. -/
def StoresRule (req : CreateMuteRuleRequest) (e : Event Call Op Op.Ans World Choice)
    (row : MuteRuleRow) : Prop :=
  ∃ inst extensions userId serviceId notifTypeId until_,
    e.call = .rpc inst extensions (.createMuteRule req) ∧
    e.done = ⟨.sql (.muteRules (.insertMuteRule userId serviceId notifTypeId until_)), .ok row⟩

/-- A rule suppresses only notifications of the service and the type that the request names. -/
def Narrows (req : CreateMuteRuleRequest) (row : MuteRuleRow) (db : Db) : Prop :=
  ∀ slug key v now, db.IsType slug key v → row.Suppresses v now →
    (req.serviceSlug = "" ∨ req.serviceSlug = slug) ∧
      (req.notificationType = "" ∨ req.notificationType = key)

variable {req : CreateMuteRuleRequest} {row : MuteRuleRow}

/-- A rule that is stored for a request is what the request has been decoded into. -/
theorem StoresRule.decodes (stores : StoresRule req e row)
    (run : (system ext).Run (Pool.idle w₀) es p) (split : es = pre ++ e :: post) :
    Decodes req (doneBy pre e.tid) row.serviceId row.notificationTypeId ∧
      row.mutedUntil = req.mutedUntil.bind (fun t => t.decode ext) ∧
      e.after.db.notifications = e.before.db.notifications ∧
      e.after.db.muteRules.rows = e.before.db.muteRules.rows ++ [row] := by
  obtain ⟨inst, extensions, userId, serviceId, notifTypeId, until_, call, done⟩ := stores
  have ran := answered run (split ▸ by simp) done
  obtain ⟨service, type, end_, rows⟩ := insertMuteRule_row ran
  have decoding : e.call.Decoding ext (doneBy pre e.tid) e.op :=
    (run.recorded (body_decodes ext)).1 pre e post split
  rw [call, show e.op = _ from congrArg Sigma.fst done] at decoding
  cases decoding with
  | reads registry => cases registry
  | stores decodes =>
    have frame := Db.MuteRules.Query.exec_frame
      (q := .insertMuteRule userId serviceId notifTypeId _) ran
    refine ⟨service.symm ▸ type.symm ▸ decodes, end_, ?_, rows⟩
    rw [frame]

/-- A rule stays within what the request names just if the request names no type, or names a service
too, or names the type that every registered one is. -/
theorem muteRule_narrows_iff (run : (system ext).Run (Pool.idle w₀) es p) (he : e ∈ es)
    (stores : StoresRule req e row) : Narrows req row p.world.db ↔
      req.notificationType = "" ∨ req.serviceSlug ≠ "" ∨
        ∀ slug key v, p.world.db.IsType slug key v → req.notificationType = key := by
  obtain ⟨pre, post, split⟩ := List.append_of_mem he
  obtain ⟨decodes, end_, -⟩ := stores.decodes run split
  generalize past : doneBy pre e.tid = h at decodes
  generalize ofService : row.serviceId = serviceId at decodes
  generalize ofType : row.notificationTypeId = typeId at decodes
  unfold Narrows
  simp only [suppresses_iff, mutes_iff, cachedMuteRule, ofService, ofType]
  cases decodes with
  | everything unnamed =>
    constructor
    · intro narrow
      by_cases untyped : req.notificationType = ""
      · exact .inl untyped
      refine .inr (.inr fun slug key v registered => ?_)
      -- before its end, the rule covers every type
      obtain ⟨now, active⟩ : ∃ now, row.mutedUntil = none ∨ ∃ t, row.mutedUntil = some t ∧ now < t := by
        cases ends : row.mutedUntil with
        | none => exact ⟨0, .inl rfl⟩
        | some t => exact ⟨t - 1, .inr ⟨t, rfl, Int.sub_one_lt_of_le le_rfl⟩⟩
      obtain ⟨_, typed⟩ := narrow slug key v now registered ⟨.inl rfl, .inl rfl, active⟩
      exact typed.resolve_left untyped
    · rintro (untyped | named | only) slug key v now registered -
      · exact ⟨.inl unnamed, .inl untyped⟩
      · exact absurd unnamed named
      · exact ⟨.inl unnamed, .inr (only slug key v registered)⟩
  | service named untyped read =>
    refine ⟨fun _ => .inl untyped, ?_⟩
    rintro - slug key v now registered ⟨covers, -⟩
    obtain ⟨service, found, same⟩ := service_of_read run split (past ▸ read)
    have covers := Option.some.inj (covers.resolve_left (Option.some_ne_none _))
    exact ⟨.inr (registered.slug_eq found (same.trans covers)), .inl untyped⟩
  | type named typed read read' =>
    refine ⟨fun _ => .inr (.inl named), ?_⟩
    rintro - slug key v now registered ⟨covers, covers', -⟩
    obtain ⟨service, found, same⟩ := service_of_read run split (past ▸ read)
    obtain ⟨nt, found', same'⟩ := type_of_read run split (past ▸ read')
    have covers := Option.some.inj (covers.resolve_left (Option.some_ne_none _))
    have covers' := Option.some.inj (covers'.resolve_left (Option.some_ne_none _))
    exact ⟨.inr (registered.slug_eq found (same.trans covers)),
      .inr (registered.key_eq found' (same'.trans covers'))⟩

end

namespace Sample

/-- `ann` mutes what a request names. -/
def mutedBy (req : CreateMuteRuleRequest) (steps : ℕ) : State × History :=
  played (world .empty [])
    (.start 0 (.rpc 0 (some ann) (.createMuteRule req)) :: List.replicate steps (.step 0 choice))

/-- The rule for the letters of `mail`. -/
def letterRule : MuteRuleRow where
  id := 9
  userId := "ann"
  serviceId := some 1
  notificationTypeId := some 2
  mutedUntil := none
  createdAt := 7

/-- The rule for a type of no service: it is for everything. -/
def everyRule : MuteRuleRow := { letterRule with serviceId := none, notificationTypeId := none }

end Sample

theorem muteRule_narrows_iff_letters :
    Narrows ⟨"mail", "letter", none⟩ Sample.letterRule
      (Sample.mutedBy ⟨"mail", "letter", none⟩ 3).1.world.db := by
  obtain ⟨e, he, call, done⟩ : ∃ e ∈ (Sample.mutedBy ⟨"mail", "letter", none⟩ 3).2,
      e.call = .rpc 0 (some Sample.ann) (.createMuteRule ⟨"mail", "letter", none⟩) ∧
      e.done = ⟨.sql (.muteRules (.insertMuteRule "ann" (some 1) (some 2) none)),
        .ok Sample.letterRule⟩ := ⟨_, .tail _ (.tail _ (.head _)), rfl, rfl⟩
  exact (muteRule_narrows_iff (Sample.run_played rfl) he ⟨0, _, _, _, _, _, call, done⟩).2
    (.inr (.inl (by decide)))

/-- A rule for a type without its service suppresses the notifications of all types. -/
theorem not_muteRule_narrows : ¬ ∀ (ext : Ext) (w₀ : World) (es : History) (p : State)
    (e : Event Call Op Op.Ans World Choice) (req : CreateMuteRuleRequest) (row : MuteRuleRow),
    (system ext).Run (Pool.idle w₀) es p → e ∈ es → StoresRule req e row →
    Narrows req row p.world.db := by
  intro narrow
  obtain ⟨e, he, call, done⟩ : ∃ e ∈ (Sample.mutedBy ⟨"", "reminder", none⟩ 1).2,
      e.call = .rpc 0 (some Sample.ann) (.createMuteRule ⟨"", "reminder", none⟩) ∧
      e.done = ⟨.sql (.muteRules (.insertMuteRule "ann" none none none)), .ok Sample.everyRule⟩ :=
    ⟨_, .head _, rfl, rfl⟩
  have registered : (Sample.mutedBy ⟨"", "reminder", none⟩ 1).1.world.db.IsType "mail" "letter"
      Sample.cachedType := ⟨Sample.service, Sample.notificationType, rfl, rfl, rfl, rfl, rfl⟩
  obtain ⟨_, typed | typed⟩ := narrow _ _ _ _ e _ _ (Sample.run_played rfl) he
    ⟨0, _, _, _, _, _, call, done⟩ "mail" "letter" Sample.cachedType 7 registered rfl
  · exact absurd typed (by decide)
  · exact absurd typed (by decide)

end Estafeta
