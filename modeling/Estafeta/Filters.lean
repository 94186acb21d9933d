import Estafeta.CacheKeys
import Estafeta.Rows
import Estafeta.Streams
import Estafeta.Timestamps

/-!
# Streams of some services

A client may subscribe to the events of some services only. The arm for new notifications drops the
events of other services; the arm for state changes relays every event, of whatever service
(`through_drained`). So the client is sent the events of its services and nothing else exactly if
every event suits the stream (`Publication.Suits`): a new notification is announced under the service
that it is stored for, which the processors see to (`serviceOf_announced`), and, where the client has
asked for state changes, none is published for a notification of another service (`filtered_iff`).
-/

open Relational Atomic

namespace Estafeta

/-! ## Events of a user -/

/-- The slug of the service that a notification is stored for. -/
def World.serviceOf (w : World) (id : Uuid) : Option String :=
  (w.notification id).bind fun r => (w.db.services.lookup (.id r.serviceId)).map (·.slug)

/-- What an event of a run publishes for a user: a processor announces a notification, a loop of the
scheduler a change of state. -/
def publicationFor (u : String) (e : Event Call Op Op.Ans World Choice) : Option Publication :=
  match e.call, e.op with
  | .processor .., .publish subject event =>
    if subject = s!"rt.user.{u}" then some (.realtime u event) else none
  | _, .publish subject event =>
    if subject = s!"rt.user.{u}.state" then some (.stateChange u event) else none
  | _, _ => none

theorem userId_of_publicationFor {u : String} {e : Event Call Op Op.Ans World Choice}
    {pub : Publication} (about : publicationFor u e = some pub) : pub.userId = u := by
  unfold publicationFor at about
  split at about
  · split at about
    · cases about
      rfl
    · cases about
  · split at about
    · cases about
      rfl
    · cases about
  · cases about

/-- A publication for the first arm is the announcement of a notification by a processor. -/
theorem announced_of_publicationFor {u : String} {e : Event Call Op Op.Ans World Choice}
    {pub : Publication} (about : publicationFor u e = some pub) (new : pub.branch = .newNotification) :
    ∃ inst seq subject, e.call = .processor inst seq ∧ e.op = .publish subject pub.event := by
  unfold publicationFor at about
  split at about
  next inst seq subject event call op =>
    split at about
    · cases about
      exact ⟨inst, seq, subject, call, op⟩
    · cases about
  next =>
    split at about
    · cases about
      cases new
    · cases about
  next => cases about

/-- The publication is about a notification of one of the services. -/
def Publication.about (w : World) (slugs : List String) (pub : Publication) : Bool :=
  (w.serviceOf pub.event.notificationId).any fun slug => slug ∈ slugs

section

variable {ext : Ext} {w₀ : World} {es pre post : History} {p : State}
  {e : Event Call Op Op.Ans World Choice}

/-- What a call has done before it announces a notification. -/
def Call.Announces : Call → Record → Op → Prop
  | .processor inst seq, h, .publish subject event => Estafeta.Announces inst seq h subject event
  | _, _, _ => True

theorem body_announces (ext : Ext) (c : Call) :
    ((system ext).body c).Obeys (.recording c.Announces) (fun _ _ => True) (fun _ _ => True) [] := by
  cases c with
  | processor inst seq =>
    simp only [system, Call.body, Prog.obeys_bind, Prog.obeys_mapErr]
    refine (processorRun_obeys_recording ?_ ⟨fun _ _ _ => trivial, fun _ _ _ announces =>
      announces⟩).mono (fun _ _ _ => trivial) fun _ _ _ => trivial
    intro h o other _
    unfold Call.Announces
    split
    next => cases other
    next => trivial
  | _ => exact Prog.obeys_of_forall (fun _ _ => trivial) _ _

/-- The notification of an insertion that a processor has had answered is stored. -/
theorem kept_announced (run : (system ext).Run (Pool.idle w₀) es p) (he : e ∈ es)
    {n : Db.Notifications.InsertNotification} {row : NotificationRow}
    (done : e.done = ⟨.sql (.notifications (.insertNotification n)), .ok row⟩) :
    ∃ r, p.world.notification row.id = some r ∧ r.serviceId = n.serviceId := by
  obtain ⟨g, watched, _⟩ := phased run
  obtain ⟨tid, call, op, choice, ans, before, after⟩ := e
  cases done
  obtain ⟨t, _, same⟩ := map_eq_ok.1 (answered run he rfl)
  have ofRow : row = n.row choice.now := (Prod.mk.inj same).1.symm
  subst ofRow
  obtain ⟨r, stored, keeps⟩ := kept watched he rfl
  exact ⟨r, stored, keeps.serviceId⟩

/-- A notification is announced under the service that it is stored for, if no cache confuses the
services of two messages. -/
theorem serviceOf_announced (run : (system ext).Run (Pool.idle w₀) es p)
    (cold : ∀ inst c key, w₀.caches inst c key = none) (apart : ∀ inst, Apart inst es)
    (split : es = pre ++ e :: post) {inst seq : ℕ} (call : e.call = .processor inst seq)
    {subject : String} {event : RealtimeEvent} (op : e.op = .publish subject event) :
    p.world.serviceOf event.notificationId = some event.serviceSlug := by
  have announces : e.call.Announces (doneBy pre e.tid) e.op :=
    (run.recorded (body_announces ext)).1 pre e post split
  rw [call, op] at announces
  have announces : Announces inst seq (doneBy pre e.tid) subject event := announces
  generalize past : doneBy pre e.tid = h at announces
  cases announces with
  | @mk m h₀ n icon row t received resolves record =>
    subst record
    obtain ⟨before, d, after, rfl, own, done, first, _⟩ := doneBy_split past
    have processed := processes_of_event run split call (past ▸ received)
    have longer : h₀ <+: doneBy es e.tid := by
      rw [split, doneBy_append, past, List.append_assoc]
      exact List.prefix_append ..
    cases resolves with
    | @mk m' notifType level level' prefs expiresAt next now received' typed _ _ _ _ _ _ =>
      have same := (received'.mono (List.prefix_append ..)).symm.trans received
      cases same
      obtain ⟨service, nt, found, _, ofService, _, _⟩ :=
        (usesOwn (i := e.tid) run cold (apart inst) processed).type _ (typed.mono longer)
      obtain ⟨r, stored, ofRow⟩ := kept_announced run (by simp [split]) done
      have slug : service.slug = _ := slug_mem_keys.1 (Table.key_of_lookup found)
      have own : p.world.db.services.lookup (.id r.serviceId) = some service :=
        Table.lookup_of_mem (Table.mem_of_lookup found) ((ofRow.trans ofService) ▸ .head _)
      show (p.world.notification row.id).bind _ = some _
      rw [stored, Option.bind_some, own]
      exact congrArg some slug

end

/-! ## What a stream relays -/

namespace StreamingService

section

variable {ext : Ext} {sub : Subscription} {s s' : Stream} {as : List Action} {b : Branch}

/-- Perform actions one after the other. -/
def actAll (ext : Ext) (sub : Subscription) : Stream → List Action → Option Stream :=
  List.foldlM (act ext sub)

/-- What is published while a stream is open. -/
def Action.published : Action → Option Publication
  | .publish publication => some publication
  | .take .. => none

/-- The client is connected whenever the task takes a message. -/
def Connected (as : List Action) : Prop := ∀ b connected, .take b connected ∈ as → connected = true

/-- What the client has been sent through an arm. -/
def Stream.through (s : Stream) (b : Branch) : List Publication :=
  (s.sent.filter fun d => d.branch = b).map (·.publication)

/-- An arm gets a publication, and makes something of it. -/
def relays (ext : Ext) (sub : Subscription) (b : Branch) (pub : Publication) : Bool :=
  ((subscription sub b).any fun subject => Nats.accepts subject pub.subject) &&
    (relay ext sub b (pub.received ext)).isSome

/-- What has been sent through each arm, and what waits and will be, is what the arm relays of what
has been published. -/
structure Stream.Faithful (ext : Ext) (sub : Subscription) (ps : List Publication) (s : Stream) :
    Prop where
  going : s.ended = false
  accounted : ∀ b, s.through b ++
    (s.pending b).filter (fun pub => (relay ext sub b (pub.received ext)).isSome) =
      ps.filter (relays ext sub b)

theorem faithful_deliver {ps : List Publication} (faithful : s.Faithful ext sub ps)
    (pub : Publication) : (deliver sub pub s).Faithful ext sub (ps ++ [pub]) where
  going := faithful.going
  accounted b := by
    rw [List.filter_append, ← faithful.accounted b, List.append_assoc]
    refine congrArg (s.through b ++ ·) ?_
    have relayed : relays ext sub b pub =
      (((subscription sub b).any fun subject => Nats.accepts subject pub.subject) &&
        (relay ext sub b (pub.received ext)).isSome) := rfl
    rw [List.filter_singleton, relayed]
    dsimp only [deliver]
    cases (subscription sub b).any fun subject => Nats.accepts subject pub.subject with
    | false => simp
    | true => simp [List.filter_singleton]

/-- Nothing changes in the arms that the task does not take a message from. -/
theorem faithful_take {ps : List Publication} (faithful : s.Faithful ext sub ps)
    (taken : iterate ext sub b true s = some s') : s'.Faithful ext sub ps := by
  unfold iterate at taken
  split at taken
  next pub rest going waiting =>
    have before := faithful.accounted
    cases made : relay ext sub b (pub.received ext) with
    | none =>
      rw [made] at taken
      cases taken
      refine ⟨going, fun c => ?_⟩
      rw [← before c]
      by_cases same : c = b
      · subst same
        show s.through c ++ (Function.update s.pending c rest c).filter _ = _
        rw [Function.update_self, waiting, List.filter_cons, made]
        rfl
      · show s.through c ++ (Function.update s.pending b rest c).filter _ = _
        rw [Function.update_of_ne same]
    | some event =>
      rw [made] at taken
      cases taken
      refine ⟨going, fun c => ?_⟩
      rw [← before c]
      unfold Stream.through
      rw [List.filter_append, List.map_append]
      by_cases same : c = b
      · subst same
        have first : (pub :: rest).filter (fun pub => (relay ext sub c (pub.received ext)).isSome) =
            pub :: rest.filter fun pub => (relay ext sub c (pub.received ext)).isSome := by
          rw [List.filter_cons, made]
          rfl
        rw [waiting, first]
        dsimp only
        rw [Function.update_self]
        simp
      · dsimp only
        rw [Function.update_of_ne same]
        simp [Ne.symm same]
  next => cases taken

theorem faithful_actAll {as : List Action} (performed : actAll ext sub .opened as = some s)
    (connected : Connected as) : s.Faithful ext sub (as.filterMap Action.published) := by
  induction as using List.reverseRecOn generalizing s with
  | nil =>
    cases performed
    exact ⟨rfl, fun _ => rfl⟩
  | append_singleton as a ih =>
    unfold actAll at performed
    rw [List.foldlM_append] at performed
    obtain ⟨s₁, first, last⟩ := Option.bind_eq_some_iff.1 performed
    have faithful := ih first fun b c mem => connected b c (List.mem_append_left _ mem)
    rw [List.filterMap_append]
    rw [List.foldlM_cons] at last
    obtain ⟨s₂, step, same⟩ := Option.bind_eq_some_iff.1 last
    cases same
    cases a with
    | publish pub =>
      cases step
      exact faithful_deliver faithful pub
    | take b c =>
      obtain rfl := connected b c (by simp)
      rw [show [Action.take b true].filterMap Action.published = [] from rfl, List.append_nil]
      exact faithful_take faithful step

/-- When no message waits, each arm has sent what it relays, in the order of publication. -/
theorem through_drained {as : List Action} (performed : actAll ext sub .opened as = some s)
    (connected : Connected as) (drained : ∀ b, s.pending b = []) (b : Branch) :
    s.through b = (as.filterMap Action.published).filter (relays ext sub b) := by
  have accounted := (faithful_actAll performed connected).accounted b
  rw [drained, List.filter_nil, List.append_nil] at accounted
  exact accounted

end

/-! ## What a stream of some services relays -/

section

variable (ext : Ext) {nats : String → Except String Unit} {claims : AuthClaims}
  {req : SubscribeRequest} {sub : Subscription} {pub : Publication}

/-- The first arm gets what is announced, and a state change only if the user's id accepts its
subject. -/
theorem receives_new (opened : subscribe nats (some claims) req = .ret sub)
    (own : pub.userId = claims.subject) : Receives sub .newNotification pub ↔
      pub.branch = .newNotification ∨ Nats.accepts pub.userId (pub.userId ++ ".state") = true := by
  rw [subscribed opened, ← own]
  show Nats.accepts s!"rt.user.{pub.userId}" pub.subject = true ↔ _
  cases pub with
  | realtime u event => exact iff_of_true (Nats.accepts_self _) (.inl rfl)
  | stateChange u event =>
    rw [← Nats.accepts_user_state]
    exact (or_iff_right nofun).symm

theorem receives_state (opened : subscribe nats (some claims) req = .ret sub)
    (own : pub.userId = claims.subject) : Receives sub .stateChange pub ↔
      req.includeStateChanges = true ∧ pub.branch = .stateChange := by
  have received : Nats.accepts s!"rt.user.{claims.subject}.state" pub.subject = true ↔
      pub.branch = .stateChange := by
    rw [← own]
    cases pub with
    | realtime u event =>
      refine iff_of_false ?_ nofun
      show ¬ Nats.accepts s!"rt.user.{u}.state" s!"rt.user.{u}" = true
      rw [Nats.accepts_state_user]
      exact Nats.not_accepts_state u
    | stateChange u event => exact iff_of_true (Nats.accepts_self _) rfl
  unfold Receives
  rw [subscribed opened]
  by_cases included : req.includeStateChanges = true
  · simp [subscription, included, received]
  · simp [subscription, included]

/-- The first arm makes something of what is about one of the services. -/
theorem isSome_new (opened : subscribe nats (some claims) req = .ret sub) (event : RealtimeEvent) :
    (relay ext sub .newNotification event).isSome = true ↔
      req.serviceSlugs = [] ∨ event.serviceSlug ∈ req.serviceSlugs := by
  rw [subscribed opened]
  by_cases none : req.serviceSlugs = []
  · simp [relay, newNotification, none]
  · simp [relay, newNotification, none]

/-- The first arm relays what is announced under one of the services. -/
theorem relays_new (opened : subscribe nats (some claims) req = .ret sub)
    (nonempty : req.serviceSlugs ≠ []) (own : pub.userId = claims.subject) :
    relays ext sub .newNotification pub = true ↔
      (pub.branch = .newNotification ∨ Nats.accepts pub.userId (pub.userId ++ ".state") = true) ∧
        pub.event.serviceSlug ∈ req.serviceSlugs := by
  have listed : (relay ext sub .newNotification (pub.received ext)).isSome = true ↔
      req.serviceSlugs = [] ∨ pub.event.serviceSlug ∈ req.serviceSlugs :=
    isSome_new ext opened (pub.received ext)
  rw [or_iff_right nonempty] at listed
  rw [← receives_new opened own, ← listed]
  exact Bool.and_eq_true_iff

theorem relays_state (opened : subscribe nats (some claims) req = .ret sub)
    (own : pub.userId = claims.subject) :
    relays ext sub .stateChange pub = true ↔
      req.includeStateChanges = true ∧ pub.branch = .stateChange := by
  rw [← receives_state opened own]
  exact Bool.and_eq_true_iff.trans (and_iff_left rfl)

end

/-- The client is sent what is about a notification of one of the services, and nothing else: each
arm that it has asked for relays it in the order of publication. -/
structure Filtered (w : World) (req : SubscribeRequest) (ps : List Publication) (s : Stream) :
    Prop where
  only : ∀ d ∈ s.sent, d.publication.about w req.serviceSlugs = true
  all : ∀ b, (b = .stateChange → req.includeStateChanges = true) →
    s.through b = ps.filter fun pub => pub.branch = b ∧ pub.about w req.serviceSlugs = true

end StreamingService

/-- What a stream of some services should find in a publication: a new notification is announced under
one of the services if it is stored for one of them, and a state change that the client has asked for
is about a notification of one of them. An id that accepts the subject of its own state changes must
not also have them relayed by the first arm. -/
def Publication.Suits (w : World) (req : SubscribeRequest) (pub : Publication) : Prop :=
  match pub.branch with
  | .newNotification =>
    pub.event.serviceSlug ∈ req.serviceSlugs ↔ pub.about w req.serviceSlugs = true
  | .stateChange =>
    (req.includeStateChanges = true → pub.about w req.serviceSlugs = true) ∧
      (Nats.accepts pub.userId (pub.userId ++ ".state") = true →
        pub.event.serviceSlug ∉ req.serviceSlugs)

open StreamingService

section

variable {ext : Ext} {w₀ : World} {es : History} {p : State} {nats : String → Except String Unit}
  {claims : AuthClaims} {req : SubscribeRequest} {sub : Subscription} {as : List Action} {s : Stream}

theorem filter_eq_filter_iff {α : Type} {f g : α → Bool} {l : List α} :
    l.filter f = l.filter g ↔ ∀ a ∈ l, f a = g a := by
  constructor
  · intro same a mem
    apply Bool.eq_iff_iff.2
    have both : a ∈ l.filter f ↔ a ∈ l.filter g := by rw [same]
    rw [List.mem_filter, List.mem_filter] at both
    exact (and_iff_right mem).symm.trans (both.trans (and_iff_right mem))
  · exact List.filter_congr

/-- The arms relay what they should of a publication, and nothing else. -/
theorem suits_iff (ext : Ext) (opened : subscribe nats (some claims) req = .ret sub)
    (nonempty : req.serviceSlugs ≠ []) {w : World} {pub : Publication}
    (own : pub.userId = claims.subject) :
    pub.Suits w req ↔ ∀ b, (b = .stateChange → req.includeStateChanges = true) →
      (relays ext sub b pub = true ↔ pub.branch = b ∧ pub.about w req.serviceSlugs = true) := by
  have first := relays_new ext opened nonempty own
  have second := relays_state ext opened own
  unfold Publication.Suits
  cases pub with
  | realtime u event =>
    constructor
    · rintro suits (_ | _) enabled
      · rw [first]
        exact (and_iff_right (.inl rfl)).trans (suits.trans (and_iff_right rfl).symm)
      · rw [second]
        exact iff_of_false (fun h => nomatch h.2) fun h => nomatch h.1
    · intro relayed
      have relayed := relayed .newNotification nofun
      rw [first] at relayed
      exact (and_iff_right (.inl rfl)).symm.trans (relayed.trans (and_iff_right rfl))
  | stateChange u event =>
    constructor
    · rintro ⟨about, dropped⟩ (_ | _) enabled
      · rw [first]
        refine iff_of_false ?_ fun h => nomatch h.1
        rintro ⟨crossing | crossing, listed⟩
        · cases crossing
        · exact dropped crossing listed
      · rw [second]
        exact iff_of_true ⟨enabled rfl, rfl⟩ ⟨rfl, about (enabled rfl)⟩
    · intro relayed
      refine ⟨fun included => ?_, fun crossing listed => ?_⟩
      · have relayed := relayed .stateChange fun _ => included
        rw [second] at relayed
        exact (relayed.1 ⟨included, rfl⟩).2
      · have relayed := relayed .newNotification nofun
        rw [first] at relayed
        cases (relayed.1 ⟨.inr crossing, listed⟩).1

/-- A client that has subscribed to some services is sent the events of these services, and nothing
else, if and only if every publication suits its stream; and every new notification does, if no
cache confuses the services of two messages. -/
theorem filtered_iff (run : (system ext).Run (Pool.idle w₀) es p)
    (opened : subscribe nats (some claims) req = .ret sub) (nonempty : req.serviceSlugs ≠ [])
    (published : ∀ pub ∈ as.filterMap Action.published,
      ∃ e ∈ es, publicationFor claims.subject e = some pub)
    (performed : actAll ext sub .opened as = some s) (connected : Connected as)
    (drained : ∀ b, s.pending b = []) :
    (Filtered p.world req (as.filterMap Action.published) s ↔
      ∀ pub ∈ as.filterMap Action.published, pub.Suits p.world req) ∧
    ((∀ inst c key, w₀.caches inst c key = none) → (∀ inst, Apart inst es) →
      ∀ pub ∈ as.filterMap Action.published, pub.branch = .newNotification →
        pub.Suits p.world req) := by
  have through := through_drained performed connected drained
  have own : ∀ pub ∈ as.filterMap Action.published, pub.userId = claims.subject :=
    fun pub mem =>
      have ⟨_, _, about⟩ := published pub mem
      userId_of_publicationFor about
  constructor
  · constructor
    · intro filtered pub mem
      refine (suits_iff ext opened nonempty (own pub mem)).2 fun b enabled => ?_
      have same := filtered.all b enabled
      rw [through] at same
      rw [filter_eq_filter_iff.1 same pub mem]
      exact decide_eq_true_iff
    · intro suits
      have all : ∀ b, (b = .stateChange → req.includeStateChanges = true) →
          s.through b = (as.filterMap Action.published).filter fun pub =>
            pub.branch = b ∧ pub.about p.world req.serviceSlugs = true := by
        intro b enabled
        rw [through]
        refine filter_eq_filter_iff.2 fun pub mem => ?_
        have relayed := (suits_iff ext opened nonempty (own pub mem)).1 (suits pub mem) b enabled
        exact Bool.eq_iff_iff.2 (relayed.trans decide_eq_true_iff.symm)
      refine ⟨fun d sent => ?_, all⟩
      have mem : d.publication ∈ s.through d.branch :=
        List.mem_map_of_mem (List.mem_filter.2 ⟨sent, decide_eq_true rfl⟩)
      have enabled : d.branch = .stateChange → req.includeStateChanges = true := by
        intro state
        rw [through, state] at mem
        obtain ⟨mem, relayed⟩ := List.mem_filter.1 mem
        exact ((relays_state ext opened (own _ mem)).1 relayed).1
      rw [all _ enabled] at mem
      exact (of_decide_eq_true (List.mem_filter.1 mem).2).2
  · intro cold apart pub mem new
    obtain ⟨e, he, about⟩ := published pub mem
    obtain ⟨pre, post, split⟩ := List.append_of_mem he
    obtain ⟨inst, seq, subject, call, op⟩ := announced_of_publicationFor about new
    have service := serviceOf_announced run cold apart split call op
    unfold Publication.Suits
    rw [new]
    unfold Publication.about
    rw [service]
    exact decide_eq_true_iff.symm

end

namespace Sample

/-- `ann` is told of a notification of `mail`, snoozes it, and is told that it wakes. -/
def told : State × History :=
  delivered (asked 1 (.snooze ⟨"3", some ⟨1, 0⟩⟩) ++
    [.start 2 .snoozeWake, .step 2 { choice with now := 2000000 }, .step 2 choice])

/-- What `ann` is told goes through both arms of her stream. -/
def watched : List StreamingService.Action :=
  (told.2.filterMap (publicationFor "ann")).map .publish ++
    [.take .newNotification true, .take .stateChange true]

/-- The stream of `ann` for some services. -/
def streamOf (slugs : List String) : Stream :=
  (actAll ext ⟨"ann", "rt.user.ann", some "rt.user.ann.state", slugs⟩ .opened watched).getD .opened

theorem connected_watched : Connected watched := by
  intro b connected taken
  obtain published | taken := List.mem_append.1 taken
  · obtain ⟨_, _, same⟩ := List.mem_map.1 published
    cases same
  · rcases List.mem_cons.1 taken with same | taken
    · cases same
      rfl
    · cases List.mem_singleton.1 taken
      rfl

theorem published_watched : ∀ pub ∈ watched.filterMap Action.published,
    ∃ e ∈ told.2, publicationFor "ann" e = some pub := by
  intro pub published
  rw [show watched.filterMap Action.published = told.2.filterMap (publicationFor "ann") from rfl]
    at published
  exact List.mem_filterMap.1 published

end Sample

theorem filtered_iff_told :
    (Filtered Sample.told.1.world ⟨["mail"], true⟩ (Sample.watched.filterMap Action.published)
        (Sample.streamOf ["mail"]) ↔
      ∀ pub ∈ Sample.watched.filterMap Action.published,
        pub.Suits Sample.told.1.world ⟨["mail"], true⟩) ∧
    ∀ pub ∈ Sample.watched.filterMap Action.published, pub.branch = .newNotification →
      pub.Suits Sample.told.1.world ⟨["mail"], true⟩ := by
  have checked : (Sample.told.2.all fun e => Sample.plain e.done) = true := rfl
  have settled := filtered_iff (Sample.run_played rfl)
    (rfl : subscribe (fun _ => .ok ()) (some Sample.ann) ⟨["mail"], true⟩ = .ret _) (by simp)
    Sample.published_watched (rfl : _ = some (Sample.streamOf ["mail"])) Sample.connected_watched
    fun b => by cases b <;> rfl
  exact ⟨settled.1, settled.2 (fun _ _ _ => rfl) fun _ => Sample.apart_of_plain checked⟩

/-- A stream of `chat` is sent that a notification of `mail` wakes. -/
theorem not_filtered : ¬ ∀ (ext : Ext) (w₀ : World) (es : History) (p : State) nats claims req sub as
    s, (system ext).Run (Pool.idle w₀) es p → subscribe nats (some claims) req = .ret sub →
      req.serviceSlugs ≠ [] → (∀ pub ∈ as.filterMap Action.published,
        ∃ e ∈ es, publicationFor claims.subject e = some pub) →
      actAll ext sub .opened as = some s → Connected as → (∀ b, s.pending b = []) →
      Filtered p.world req (as.filterMap Action.published) s := by
  intro filtered
  have filtered := filtered _ _ _ _ (fun _ => .ok ()) Sample.ann ⟨["chat"], true⟩ _ _
    (Sample.streamOf ["chat"]) (Sample.run_played rfl) rfl (by simp) Sample.published_watched rfl
    Sample.connected_watched fun b => by cases b <;> rfl
  obtain ⟨d, sent, about⟩ : ∃ d ∈ (Sample.streamOf ["chat"]).sent,
      d.publication.about Sample.told.1.world ["chat"] = false := ⟨_, .head _, rfl⟩
  exact Bool.false_ne_true (about.symm.trans (filtered.only d sent))

end Estafeta
