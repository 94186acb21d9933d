import Estafeta.EscalationCount
import Estafeta.Delivery

/-!
# What is true of every notification

An invariant of the rows of all reachable stores (`NotificationRow.Sound`): the times that go with a
state are set, and the escalation count has not overflowed. A row is never deleted, and what it was
inserted with stays (`NotificationRow.Keeps`).
-/

open Relational Atomic

namespace Estafeta

open Db.Notifications (Query)
open NotificationService (rowToProto)

variable {ext : Ext} {w₀ w : World} {es : History} {g : ℕ → Option (Call × Phase)}
  {r : NotificationRow}

/-! ## Runs -/

theorem stored_iff {r : NotificationRow} :
    r ∈ w.db.notifications.rows ↔ w.notification r.id = some r := by
  constructor
  · exact fun stored => Table.lookup_of_mem stored (.head _)
  · exact fun found => Table.mem_of_lookup found

theorem notificationOf_inserted {c : Call} {s : Phase} {o : Op} {a : o.Ans}
    {n : Db.Notifications.InsertNotification} (permitted : c.monitor.may s o)
    (ins : inserted o a = some n) : ∃ payload, IsNotificationOf payload n := by
  obtain rfl := op_of_ran (inserted_eq_some.1 ins)
  cases c with
  | rpc inst extensions r => cases Rpc.not_background permitted
  | processor inst seq =>
    cases s with
    | loading payload =>
      rcases permitted with loads | ⟨n', same, stores⟩
      · cases loads
      · cases same
        exact ⟨payload, stores⟩
    | _ => exact permitted.elim
  | snoozeWake | ttlExpiry =>
    cases ran_of_sweep permitted (inserted_eq_some.1 ins)
  | escalation =>
    rw [(escalation_step permitted a).not_inserted] at ins
    cases ins

theorem IsNotificationOf.state {payload : Payload} {n : Db.Notifications.InsertNotification}
    (h : IsNotificationOf payload n) : n.state = "unseen" ∨ n.state = "archived" := by
  obtain ⟨ingest, notifType, levelId, config, _, _, _, rfl⟩ := h
  by_cases deliver : config.shouldDeliver = true
  · exact .inl (if_pos deliver)
  · exact .inr (if_neg deliver)

/-- What is true of every row when it is inserted, and is kept by every statement that a call can
run, is true of every row of every reachable store. -/
theorem rows_invariant (I : History → NotificationRow → Prop)
    (start : ∀ r ∈ w₀.db.notifications.rows, I [] r)
    (later : ∀ es e r, I es r → I (es ++ [e]) r)
    (ins : ∀ es (e : Event Call Op Op.Ans World Choice) payload n, inserted e.op e.ans = some n →
      IsNotificationOf payload n → I (es ++ [e]) (n.row e.choice.now))
    (kept : ∀ es w g i c s o x q r, Phased ext w₀ es w g → g i = some (c, s) → c.monitor.may s o →
      ran o (exec ext x o w).1 = some q → r ∈ w.db.notifications.rows → I es r →
      (∀ es' w' g', es' <+: es → Phased ext w₀ es' w' g' → ∀ r ∈ w'.db.notifications.rows, I es' r) →
      I (es ++ [(system ext).event i c o x w]) (q.rewrite (x.env ext) w.db r))
    (run : Phased ext w₀ es w g) : ∀ r ∈ w.db.notifications.rows, I es r := by
  refine run.strong (fun es w => ∀ r ∈ w.db.notifications.rows, I es r) start ?_
  intro es w g i c s o x run at_call permitted earlier r' after
  have before := earlier es w g (List.prefix_refl es) run
  rw [stored_iff] at after
  rcases notification_cases ext x o w r'.id with ⟨r, stored, r₁, after₁, same | ⟨q, hq, rewritten⟩⟩ |
    ⟨_, none | ⟨n, stores, _, after₁⟩⟩
  · cases after.symm.trans after₁
    exact same ▸ later es _ r (before r (Table.mem_of_lookup stored))
  · cases after.symm.trans after₁
    have stored := Table.mem_of_lookup stored
    exact rewritten ▸ kept es w g i c s o x q r run at_call permitted hq stored (before r stored)
      earlier
  · cases after.symm.trans none
  · cases after.symm.trans after₁
    obtain ⟨payload, new⟩ := notificationOf_inserted permitted stores
    exact ins es ((system ext).event i c o x w) payload n stores new

/-! ## The invariant -/

/-- The count of a notification is not negative, and one that is due again can be counted up. -/
structure NotificationRow.Counts (r : NotificationRow) : Prop where
  nonneg : 0 ≤ r.escalationCount.toInt
  below : r.nextEscalationAt ≠ none → r.escalationCount.toInt < Int32.maxValue.toInt

/-- The times that go with the state of a notification are set, and its count is in range. -/
structure NotificationRow.Sound (es : History) (r : NotificationRow) : Prop where
  unseen : r.state = "unseen" → r.seenAt = none
  snoozed : r.state = "snoozed" → r.snoozedUntil ≠ none
  expired : r.state = "expired" → ∃ t, r.expiresAt = some t ∧ ∃ e ∈ es, t ≤ e.choice.now
  counts : r.Counts

theorem NotificationRow.Sound.later {r : NotificationRow} (h : r.Sound es)
    (e : Event Call Op Op.Ans World Choice) : r.Sound (es ++ [e]) where
  __ := h
  expired state := by
    obtain ⟨t, expires, e', he', before⟩ := h.expired state
    exact ⟨t, expires, e', List.mem_append_left _ he', before⟩

theorem NotificationRow.Sound.settled {r : NotificationRow} (counts : r.Counts) (state : String)
    (h : r.state = state) (other : state ∈ ["unread", "read", "archived"]) : r.Sound es := by
  subst h
  simp only [List.mem_cons, List.not_mem_nil, or_false] at other
  refine ⟨fun state => ?_, fun state => ?_, fun state => ?_, counts⟩ <;> simp [state] at other

theorem sound_inserted {payload : Payload} {n : Db.Notifications.InsertNotification}
    (h : IsNotificationOf payload n) (now : Time) : (n.row now).Sound es := by
  have counts : (n.row now).Counts := ⟨le_rfl, fun _ => show (0 : Int32).toInt < _ by decide⟩
  rcases h.state with unseen | archived
  · refine ⟨fun _ => rfl, fun state => ?_, fun state => ?_, counts⟩
    all_goals exact absurd (unseen.symm.trans state) (by decide)
  · exact .settled counts "archived" archived (by decide)

theorem NotificationRow.Sound.rewrite {r : NotificationRow} (h : r.Sound es) (env : Env) (db : Db)
    (q : Query) {e : Event Call Op Op.Ans World Choice} (clock : e.choice.now = env.now)
    (counts : ∀ id count next, q = .updateEscalation id count next →
      0 ≤ count.toInt ∧ (next ≠ none → count.toInt < Int32.maxValue.toInt)) :
    (q.rewrite env db r).Sound (es ++ [e]) := by
  rcases Db.Notifications.rewrite_cases env db q r with same | ⟨addressed, source, set⟩
  · rw [same]
    exact h.later e
  rw [set]
  have after := h.later e
  cases q with
  | markSeen | markAllSeen | markUnread | wakeSnoozed =>
    exact .settled ⟨h.counts.nonneg, h.counts.below⟩ "unread" rfl (by decide)
  | markRead | producerMarkRead | unarchive =>
    exact .settled ⟨h.counts.nonneg, h.counts.below⟩ "read" rfl (by decide)
  | archive | archiveAllInGroup =>
    exact .settled ⟨h.counts.nonneg, h.counts.below⟩ "archived" rfl (by decide)
  | snooze userId id until_ =>
    refine ⟨fun state => ?_, fun _ => Option.some_ne_none until_, fun state => ?_,
      h.counts.nonneg, h.counts.below⟩
    · exact absurd (show "snoozed" = "unseen" from state) (by decide)
    · exact absurd (show "snoozed" = "expired" from state) (by decide)
  | expireNotifications size =>
    obtain ⟨t, expires, due⟩ := (Option.any_eq_true ..).1 addressed
    refine ⟨fun state => ?_, fun state => ?_, fun _ => ?_, h.counts.nonneg, h.counts.below⟩
    · exact absurd (show "expired" = "unseen" from state) (by decide)
    · exact absurd (show "expired" = "snoozed" from state) (by decide)
    · exact ⟨t, expires, e, by simp, by simpa [clock] using due⟩
  | resurfaceNotification id =>
    refine ⟨fun _ => rfl, fun state => ?_, fun state => ?_, h.counts.nonneg, h.counts.below⟩
    · exact absurd (show "unseen" = "snoozed" from state) (by decide)
    · exact absurd (show "unseen" = "expired" from state) (by decide)
  | updateEscalation id count next =>
    obtain ⟨nonneg, below⟩ := counts id count next rfl
    exact ⟨after.unseen, after.snoozed, after.expired, nonneg, below⟩
  | bumpNotification id =>
    exact ⟨after.unseen, after.snoozed, after.expired, h.counts.nonneg, h.counts.below⟩
  | _ => cases addressed

/-! ## Counting up -/

theorem toInt_le_maxValue (a : Int32) : a.toInt ≤ Int32.maxValue.toInt := by
  have := a.toInt_lt
  have : Int32.maxValue.toInt = 2 ^ 31 - 1 := by decide
  omega

theorem pass_counts (run : Phased ext w₀ es w g) {i : ℕ} {c : Call} {s : Phase} {o : Op}
    {x : Choice} (at_call : g i = some (c, s)) (permitted : c.monitor.may s o)
    (earlier : ∀ es' w' g', es' <+: es → Phased ext w₀ es' w' g' →
      ∀ r ∈ w'.db.notifications.rows, r.Sound es')
    {id : Uuid} {count : Int32} {next : Option Time}
    (updates : ran o (exec ext x o w).1 = some (.updateEscalation id count next)) :
    0 ≤ count.toInt ∧ (next ≠ none → count.toInt < Int32.maxValue.toInt) := by
  obtain ⟨_, r, type, todo, next', rfl, _, same, armed⟩ :=
    update_step (i := i) (w := w) permitted (recounts_iff.2 ⟨count, next, updates⟩)
  cases same.symm.trans updates
  obtain ⟨pre, scan, mid, rfl, _, due⟩ := scanned run i c _ at_call r (.head _)
  obtain ⟨g', _, _, _, _, _, w', rfl, run', _⟩ := run.at
  obtain ⟨_, stored, due⟩ := found_exec due
  have counts := (earlier pre w' g' (List.prefix_append ..) run' r stored).counts
  have again : r.nextEscalationAt ≠ none := armed_of_due due
  have nonneg := counts.nonneg
  have succ := toInt_succ nonneg (counts.below again)
  refine ⟨by omega, fun armed' => ?_⟩
  obtain ⟨nt, _, below⟩ := armed armed'
  exact lt_of_lt_of_le (Int32.lt_iff_toInt_lt.1 below) (toInt_le_maxValue _)

/-- Every row of every reachable store is sound. -/
theorem sound (run : Phased ext w₀ es w g) (empty : w₀.db.notifications = .empty) :
    ∀ r ∈ w.db.notifications.rows, r.Sound es := by
  refine rows_invariant (fun es r => r.Sound es) ?_ (fun es e r h => h.later e) ?_ ?_ run
  · rw [empty]
    intro r stored
    cases stored
  · exact fun es e payload n _ new => sound_inserted new e.choice.now
  · intro es w g i c s o x q r run at_call permitted hq _ sound earlier
    exact sound.rewrite (x.env ext) w.db q (e := (system ext).event i c o x w) rfl
      fun id count next same => pass_counts run at_call permitted earlier (same ▸ hq)

/-! ## What a row keeps -/

/-- What a notification keeps. -/
structure NotificationRow.Keeps (r r' : NotificationRow) : Prop where
  id : r'.id = r.id
  recipientUserId : r'.recipientUserId = r.recipientUserId
  serviceId : r'.serviceId = r.serviceId
  notificationTypeId : r'.notificationTypeId = r.notificationTypeId
  levelId : r'.levelId = r.levelId
  payload : r'.payload = r.payload
  groupKey : r'.groupKey = r.groupKey
  idempotencyKey : r'.idempotencyKey = r.idempotencyKey
  metadata : r'.metadata = r.metadata
  expiresAt : r'.expiresAt = r.expiresAt
  actionUrl : r'.actionUrl = r.actionUrl
  icon : r'.icon = r.icon
  createdAt : r'.createdAt = r.createdAt

theorem NotificationRow.Keeps.refl (r : NotificationRow) : r.Keeps r :=
  ⟨rfl, rfl, rfl, rfl, rfl, rfl, rfl, rfl, rfl, rfl, rfl, rfl, rfl⟩

theorem NotificationRow.Keeps.rewrite {r r' : NotificationRow} (h : r.Keeps r') (env : Env)
    (db : Db) (q : Query) : r.Keeps (q.rewrite env db r') := by
  rcases Db.Notifications.rewrite_cases env db q r' with same | ⟨_, _, set⟩
  · rwa [same]
  · rw [set]
    cases q <;> exact ⟨h.id, h.recipientUserId, h.serviceId, h.notificationTypeId, h.levelId,
      h.payload, h.groupKey, h.idempotencyKey, h.metadata, h.expiresAt, h.actionUrl, h.icon,
      h.createdAt⟩

/-- A notification that is stored at one moment is stored at a later one, and kept. -/
theorem keeps_between (run : Phased ext w₀ es w g) {mid : History} (sub : ∀ e ∈ mid, e ∈ es)
    {w₁ w₂ : World} (joined : Joined w₁ mid w₂) {id : Uuid} (stored : w₁.notification id = some r) :
    ∃ r', w₂.notification id = some r' ∧ r.Keeps r' := by
  refine joined.keeps (K := fun w => ∃ r', w.notification id = some r' ∧ r.Keeps r') ?_
    ⟨r, stored, .refl r⟩
  rintro e he ⟨r₁, stored, keeps⟩
  obtain ⟨_, _, _, o, x, w', rfl, _⟩ := run.permitted e (sub e he)
  rcases notification_cases ext x o w' id with ⟨r₀, stored', r', after, same | ⟨q, _, set⟩⟩ |
    ⟨absent, _⟩
  · cases stored.symm.trans stored'
    exact ⟨r', after, same ▸ keeps⟩
  · cases stored.symm.trans stored'
    exact ⟨r', after, set ▸ keeps.rewrite _ _ q⟩
  · cases stored.symm.trans absent

theorem unstored_before {pre mid post : History} {d e : Event Call Op Op.Ans World Choice}
    {n : Db.Notifications.InsertNotification}
    (run : Phased ext w₀ (pre ++ d :: (mid ++ e :: post)) w g) (ins : inserted e.op e.ans = some n) :
    d.before.notification n.id = none ∧ d.after.notification n.id = none := by
  have joined := run.between
  have absent : e.before.notification n.id = none := by
    obtain ⟨_, _, _, o, x, w', rfl, _⟩ := run.permitted e (by simp)
    exact Table.insert_fresh (stored_of_inserted ins) (.head _)
  have after : d.after.notification n.id = none := by
    rcases stored : d.after.notification n.id with _ | r
    · rfl
    · obtain ⟨_, later, _⟩ := keeps_between run (by simp +contextual) joined stored
      cases absent.symm.trans later
  refine ⟨?_, after⟩
  rcases stored : d.before.notification n.id with _ | r
  · rfl
  · obtain ⟨_, _, _, o, x, w', rfl, _⟩ := run.permitted d (by simp)
    have still : ((exec ext x o w').2.notification n.id).isSome = true :=
      stored_exec (Option.isSome_iff_exists.2 ⟨r, stored⟩)
    have gone : (exec ext x o w').2.notification n.id = none := after
    rw [gone] at still
    cases still

theorem kept (run : Phased ext w₀ es w g) {e : Event Call Op Op.Ans World Choice} (he : e ∈ es)
    {n : Db.Notifications.InsertNotification} (ins : inserted e.op e.ans = some n) :
    ∃ r, w.notification n.id = some r ∧ (n.row e.choice.now).Keeps r := by
  obtain ⟨pre, post, rfl⟩ := List.append_of_mem he
  obtain ⟨_, _, _, _, _, _, _, rfl, _, _, _, joined⟩ := run.at
  refine keeps_between run (fun e he => List.mem_append_right _ (.tail _ he)) joined ?_
  exact stored_iff.1 ((Table.mem_insert (stored_of_inserted ins)).2 (.inr rfl))

theorem origin (run : Phased ext w₀ es w g) (empty : w₀.db.notifications = .empty) :
    ∀ r ∈ w.db.notifications.rows, ∃ e ∈ es, ∃ n, inserted e.op e.ans = some n ∧
      (n.row e.choice.now).Keeps r := by
  refine rows_invariant (fun es r => ∃ e ∈ es, ∃ n, inserted e.op e.ans = some n ∧
    (n.row e.choice.now).Keeps r) ?_ ?_ ?_ ?_ run
  · rw [empty]
    intro r stored
    cases stored
  · rintro es e r ⟨e', he', n, ins, keeps⟩
    exact ⟨e', List.mem_append_left _ he', n, ins, keeps⟩
  · exact fun es e payload n ins _ => ⟨e, by simp, n, ins, .refl _⟩
  · rintro es w g i c s o x q r _ _ _ _ _ ⟨e', he', n, ins, keeps⟩ _
    exact ⟨e', List.mem_append_left _ he', n, ins, keeps.rewrite _ _ q⟩

/-! ## The result -/

theorem rowToProto_state (stored : r ∈ w.db.notifications.rows) : (rowToProto ext r).state ≠ 0 := by
  have named := Db.Notifications.state_mem stored
  simp only [stateNames, List.mem_cons, List.not_mem_nil, or_false] at named
  rcases named with h | h | h | h | h | h <;> simp only [rowToProto, h] <;> decide

/-- Every stored row has one of the six states, which the protocol reports, with the times that go
with it, and a count that is not negative; what has been inserted is stored and kept, and nothing
else is stored. -/
theorem rows_sound (ext : Ext) {w₀ : World} {es : History} {p : State}
    (run : (system ext).Run (Pool.idle w₀) es p) (empty : w₀.db.notifications = .empty) :
    (∀ r ∈ p.world.db.notifications.rows,
      (r.state ∈ stateNames ∧ (rowToProto ext r).state ≠ 0) ∧
      (r.state = "unseen" → r.seenAt = none) ∧
      (r.state = "snoozed" → r.snoozedUntil ≠ none) ∧
      (r.state = "expired" → ∃ t, r.expiresAt = some t ∧
        ∀ now, (∀ e ∈ es, e.choice.now ≤ now) → t ≤ now) ∧
      0 ≤ r.escalationCount ∧
      ∃ e ∈ es, ∃ n, inserted e.op e.ans = some n ∧ (n.row e.choice.now).Keeps r) ∧
    ∀ e ∈ es, ∀ n, inserted e.op e.ans = some n →
      ∃ r ∈ p.world.db.notifications.rows, (n.row e.choice.now).Keeps r := by
  obtain ⟨g, watched, _⟩ := phased run
  constructor
  · intro r stored
    have sound := sound watched empty r stored
    refine ⟨⟨Db.Notifications.state_mem stored, rowToProto_state stored⟩, sound.unseen,
      sound.snoozed, fun state => ?_, Int32.le_iff_toInt_le.2 sound.counts.nonneg,
      origin watched empty r stored⟩
    obtain ⟨t, expires, e, he, past⟩ := sound.expired state
    exact ⟨t, expires, fun now later => le_trans past (later e he)⟩
  · intro e he n ins
    obtain ⟨r, stored, keeps⟩ := kept watched he ins
    exact ⟨r, Table.mem_of_lookup stored, keeps⟩

theorem rows_sound_delivery :
    (∀ r ∈ Sample.delivery.1.world.db.notifications.rows,
      (r.state ∈ stateNames ∧ (rowToProto Sample.ext r).state ≠ 0) ∧
      (r.state = "unseen" → r.seenAt = none) ∧
      (r.state = "snoozed" → r.snoozedUntil ≠ none) ∧
      (r.state = "expired" → ∃ t, r.expiresAt = some t ∧
        ∀ now, (∀ e ∈ Sample.delivery.2, e.choice.now ≤ now) → t ≤ now) ∧
      0 ≤ r.escalationCount ∧
      ∃ e ∈ Sample.delivery.2, ∃ n, inserted e.op e.ans = some n ∧
        (n.row e.choice.now).Keeps r) ∧
    ∀ e ∈ Sample.delivery.2, ∀ n, inserted e.op e.ans = some n →
      ∃ r ∈ Sample.delivery.1.world.db.notifications.rows, (n.row e.choice.now).Keeps r :=
  rows_sound Sample.ext (Sample.run_played rfl) rfl

end Estafeta
