import Estafeta.Delivery

/-!
# Suppressed notifications

A notification that the recipient's preferences suppress is stored as archived. Only the recipient
and an admin can bring it back: the loops of the scheduler pass it by, although it carries the times
at which it expires and is due for escalation, and no processor announces it.
-/

open Relational Atomic

namespace Estafeta

open Db.Notifications (InsertNotification)

/-! ## Counting -/

/-- The database without a notification. -/
def Db.without (db : Db) (id : Uuid) : Db :=
  { db with notifications := db.notifications.delete fun r => r.id = id }

/-- The counts are what they would be without the notification. -/
structure Uncounted (db : Db) (id : Uuid) : Prop where
  unseen : ∀ userId serviceIds, Db.Notifications.countUnseen userId serviceIds db =
    Db.Notifications.countUnseen userId serviceIds (db.without id)
  unseenByService : ∀ env userId, Db.Notifications.countUnseenByService env userId db =
    Db.Notifications.countUnseenByService env userId (db.without id)
  unread : ∀ userId serviceIds, Db.Notifications.countUnread userId serviceIds db =
    Db.Notifications.countUnread userId serviceIds (db.without id)
  unreadByService : ∀ env userId, Db.Notifications.countUnreadByService env userId db =
    Db.Notifications.countUnreadByService env userId (db.without id)

/-- The notification, if it is stored, is archived, and for this user. -/
def Hidden (id : Uuid) (userId : String) (w : World) : Prop :=
  ∀ r, w.notification id = some r → r.state = "archived" ∧ r.recipientUserId = userId

variable {ext : Ext} {x : Choice} {o : Op} {w w₀ : World} {id : Uuid} {userId : String}

theorem Hidden.uncounted (hidden : Hidden id userId w) : Uncounted w.db id := by
  have selected : ∀ p : NotificationRow → Bool, (∀ r, p r = true → r.state ≠ "archived") →
      w.db.notifications.select p = (w.db.without id).notifications.select p := by
    intro p other
    refine (Eq.trans Table.select_delete (List.filter_eq_self.2 fun r hr => ?_)).symm
    obtain ⟨stored, hp⟩ := Table.mem_select.1 hr
    by_contra same
    have same : r.id = id := by simpa using same
    have found : w.notification id = some r := Table.lookup_of_mem stored (same ▸ .head _)
    exact other r hp (hidden r found).1
  have total : ∀ state userId serviceIds, state ≠ "archived" →
      Db.Notifications.countState state userId serviceIds w.db =
        Db.Notifications.countState state userId serviceIds (w.db.without id) := by
    intro state userId serviceIds live
    rw [Db.Notifications.countState, Db.Notifications.countState, selected]
    intro r hr archived
    exact live (by simp_all)
  have byService : ∀ env state userId, state ≠ "archived" →
      Db.Notifications.countStateByService env state userId w.db =
        Db.Notifications.countStateByService env state userId (w.db.without id) := by
    intro env state userId live
    rw [Db.Notifications.countStateByService, Db.Notifications.countStateByService, selected]
    intro r hr archived
    exact live (by simp_all)
  exact ⟨fun _ _ => total _ _ _ (by decide), fun _ _ => byService _ _ _ (by decide),
    fun _ _ => total _ _ _ (by decide), fun _ _ => byService _ _ _ (by decide)⟩

/-! ## One step -/

/-- The recipient unarchives the notification, or an admin resurfaces it. -/
def Lifts (id : Uuid) (userId : String) (e : Event Call Op Op.Ans World Choice) : Prop :=
  (e.before.notification id).isSome = true ∧
    ((∃ inst c r ids, e.call = .rpc inst (some c) r ∧ c.subject = userId ∧
        e.op = .sql (.notifications (.unarchive userId ids)) ∧ id ∈ ids) ∨
      ∃ inst extensions r, e.call = .rpc inst extensions r ∧
        e.op = .sql (.notifications (.resurfaceNotification id)))

/-- No pass has the notification before it. -/
def Unscheduled (id : Uuid) (s : Phase) : Prop := ∀ r ∈ s.pending, r.id ≠ id

theorem archived_source {q : Db.Notifications.Query} (h : "archived" ∈ q.sources) :
    (∃ userId ids, q = .unarchive userId ids) ∨ (∃ id, q = .resurfaceNotification id) ∨
      (∃ id count next, q = .updateEscalation id count next) ∨ ∃ id, q = .bumpNotification id := by
  cases q with
  | unarchive userId ids => exact .inl ⟨userId, ids, rfl⟩
  | resurfaceNotification id => exact .inr (.inl ⟨id, rfl⟩)
  | updateEscalation id count next => exact .inr (.inr (.inl ⟨id, count, next, rfl⟩))
  | bumpNotification id => exact .inr (.inr (.inr ⟨id, rfl⟩))
  | _ => simp [Db.Notifications.Query.sources] at h

/-- What a call does to the notification if each statement that it runs leaves archived rows alone. -/
theorem notification_kept (ins : inserted o (exec ext x o w).1 = none)
    (kept : ∀ q r, ran o (exec ext x o w).1 = some q → w.notification id = some r →
      q.rewrite (x.env ext) w.db r = r) :
    (exec ext x o w).2.notification id = w.notification id := by
  rcases notification_cases ext x o w id with ⟨r, stored, r', after, rfl | ⟨q, hq, rfl⟩⟩ |
    ⟨absent, none | ⟨n, stores, _⟩⟩
  · rw [after, stored]
  · rw [after, stored, kept q r hq stored]
  · rw [none, absent]
  · rw [ins] at stores
    cases stores

theorem sweep_kept {q : Db.Notifications.Query} {s : Phase} (permitted : (sweepMonitor q).may s o)
    (hidden : Hidden id userId w) (insertion : ∀ n, q ≠ .insertNotification n)
    (source : "archived" ∉ q.sources) :
    (exec ext x o w).2.notification id = w.notification id := by
  refine notification_kept ?_ fun q' r hq stored => ?_
  · rcases h : inserted o (exec ext x o w).1 with _ | n
    · rfl
    · exact absurd (ran_of_sweep permitted (inserted_eq_some.1 h)).symm (insertion n)
  · obtain rfl := ran_of_sweep permitted hq
    exact Db.Notifications.rewrite_of_source (by rwa [(hidden r stored).1])

/-- The scheduler passes an archived notification by. -/
theorem scheduled_kept {c : Call} {s : Phase} (scheduled : c.scheduled = true)
    (permitted : c.monitor.may s o) (hidden : Hidden id userId w) (free : Unscheduled id s) :
    (exec ext x o w).2.notification id = w.notification id := by
  cases c with
  | rpc | processor => cases scheduled
  | snoozeWake => exact sweep_kept permitted hidden (fun _ h => by cases h) (by decide)
  | ttlExpiry => exact sweep_kept permitted hidden (fun _ h => by cases h) (by decide)
  | escalation =>
    have step := escalation_step permitted (exec ext x o w).1
    refine notification_kept step.not_inserted fun q r hq stored => ?_
    refine Db.Notifications.rewrite_of_address ?_
    rcases addressed : q.addresses (x.env ext).now r with _ | _
    · rfl
    · obtain ⟨r', pending, same⟩ := step.addresses hq addressed
      exact absurd (same.trans (World.id_of stored)) (free r' pending)

theorem insertion_of_processor {inst seq : ℕ} {s : Phase} {q : Db.Notifications.Query} {a : o.Ans}
    (permitted : (processorMonitor inst seq).may s o) (hq : ran o a = some q) :
    ∃ n, q = .insertNotification n := by
  obtain rfl := op_of_ran hq
  cases s with
  | loading payload =>
    rcases permitted with loads | ⟨n, same, _⟩
    · cases q <;> cases loads
    · cases same
      exact ⟨n, rfl⟩
  | _ => exact permitted.elim

/-- A handler changes the state of an archived notification only by lifting its suppression. -/
theorem handled_hidden {i inst : ℕ} {extensions : Option AuthClaims} {r : Rpc} {s : Phase}
    (permitted : (Call.rpc inst extensions r).monitor.may s o) (hidden : Hidden id userId w)
    (kept : ¬ Lifts id userId ((system ext).event i (.rpc inst extensions r) o x w))
    {q : Db.Notifications.Query} (hq : ran o (exec ext x o w).1 = some q) {row : NotificationRow}
    (stored : w.notification id = some row) :
    (q.rewrite (x.env ext) w.db row).state = "archived" := by
  obtain ⟨archived, recipient⟩ := hidden row stored
  obtain rfl := op_of_ran hq
  have present : (w.notification id).isSome = true := by rw [stored]; rfl
  rcases Db.Notifications.rewrite_cases (x.env ext) w.db q row with same | ⟨addressed, source, set⟩
  · rw [same, archived]
  rw [archived] at source
  obtain ⟨user, ids, rfl⟩ | ⟨id', rfl⟩ | ⟨_, _, _, rfl⟩ | ⟨_, rfl⟩ := archived_source source
  · simp only [Db.Notifications.Query.addresses, Bool.and_eq_true, decide_eq_true_eq] at addressed
    obtain ⟨rfl, listed⟩ := addressed
    refine absurd ⟨present, .inl ?_⟩ kept
    cases s with
    | rpc granted =>
      rcases permitted with ⟨_, same, h⟩ | ⟨_, _, c, same, rfl, h⟩ | ⟨_, ⟨_, same, h⟩ | same |
        ⟨_, _, _, same⟩ | ⟨_, same⟩ | ⟨_, _, _, h, _⟩⟩
      · cases same
        cases h
      · cases same
        have owner : row.recipientUserId = c.subject := Option.some.inj h
        exact ⟨inst, c, r, ids, rfl, owner.symm.trans recipient, by rw [← recipient]; rfl,
          World.id_of stored ▸ listed⟩
      · cases same
        cases h
      · cases same
      · cases same
      · cases same
      · cases h with
        | admin h => cases h
    | _ => exact permitted.elim
  · have same : row.id = id' := of_decide_eq_true addressed
    refine absurd ⟨present, .inr ⟨inst, extensions, r, rfl, ?_⟩⟩ kept
    rw [← same, World.id_of stored]
    rfl
  · cases Rpc.not_background permitted
  · rw [set]
    exact archived

/-- A step keeps the notification hidden, unless it lifts the suppression or stores the notification
otherwise. -/
theorem hidden_exec {i : ℕ} {c : Call} {s : Phase} (permitted : c.monitor.may s o)
    (hidden : Hidden id userId w) (free : Unscheduled id s)
    (ins : ∀ n, inserted o (exec ext x o w).1 = some n → n.id = id →
      n.state = "archived" ∧ n.recipientUserId = userId)
    (kept : ¬ Lifts id userId ((system ext).event i c o x w)) :
    Hidden id userId (exec ext x o w).2 := by
  intro r' after
  rcases notification_cases ext x o w id with ⟨r, stored, r₁, after₁, rewritten⟩ |
    ⟨_, none | ⟨n, stores, same, after₁⟩⟩
  · obtain ⟨archived, recipient⟩ := hidden r stored
    cases after.symm.trans after₁
    rcases rewritten with rfl | ⟨q, hq, rfl⟩
    · exact ⟨archived, recipient⟩
    refine ⟨?_, (Db.Notifications.rewrite_recipient q r).trans recipient⟩
    by_cases scheduled : c.scheduled = true
    · have same : (exec ext x o w).2.notification id = w.notification id :=
        scheduled_kept scheduled permitted hidden free
      rw [after, stored] at same
      rw [Option.some.inj same, archived]
    · cases c with
      | rpc inst extensions rpc => exact handled_hidden permitted hidden kept hq stored
      | processor inst seq =>
        obtain ⟨n, rfl⟩ := insertion_of_processor permitted hq
        rw [Db.Notifications.rewrite_insert, archived]
      | _ => exact absurd rfl scheduled
  · cases after.symm.trans none
  · cases after.symm.trans after₁
    exact ins n stores same

theorem unscheduled_next {c : Call} {s : Phase} (permitted : c.monitor.may s o)
    (hidden : Hidden id userId w) (idle : c ≠ .escalation → s.pending = [])
    (free : Unscheduled id s) : Unscheduled id (c.monitor.next s o (exec ext x o w).1) := by
  intro r hr
  by_cases pass : c = .escalation
  · subst pass
    rcases (escalation_step permitted _).pending hr with hr | hr
    · exact free r hr
    · rintro rfl
      obtain ⟨_, stored, due⟩ := found_exec hr
      have archived := (hidden r (Table.lookup_of_mem stored (.head _))).1
      simp [Db.Notifications.escalationDue, archived] at due
  · rw [pending_of_other pass (idle pass)] at hr
    cases hr

/-! ## Runs -/

section

variable {es : History} {g : ℕ → Option (Call × Phase)}

/-- While nothing lifts its suppression, a notification that is stored as archived is hidden, and no
pass has it before it. -/
theorem hidden_of_run (run : Phased ext w₀ es w g) (absent : w₀.notification id = none)
    (ins : ∀ e ∈ es, ∀ n, inserted e.op e.ans = some n → n.id = id →
      n.state = "archived" ∧ n.recipientUserId = userId)
    (kept : ∀ e ∈ es, ¬ Lifts id userId e) :
    Hidden id userId w ∧ ∀ i c s, g i = some (c, s) → Unscheduled id s := by
  induction run with
  | init =>
    refine ⟨fun r stored => ?_, fun i c s h => by cases h⟩
    cases absent.symm.trans stored
  | @start es w g i c run free ih =>
    obtain ⟨hidden, threads⟩ := ih ins kept
    refine ⟨hidden, fun j d s hj => ?_⟩
    by_cases same : j = i
    · subst same
      cases (Function.update_self ..).symm.trans hj
      intro r hr
      cases c <;> cases hr
    · exact threads j d s ((Function.update_of_ne same ..).symm.trans hj)
  | @step es w g i c s o x run at_call permitted ih =>
    obtain ⟨hidden, threads⟩ := ih (fun e he => ins e (List.mem_append_left _ he))
      fun e he => kept e (List.mem_append_left _ he)
    have last : (system ext).event i c o x w ∈ es ++ [(system ext).event i c o x w] := by simp
    refine ⟨hidden_exec permitted hidden (threads i c s at_call) (ins _ last) (kept _ last),
      fun j d s' hj => ?_⟩
    by_cases same : j = i
    · subst same
      cases (Function.update_self ..).symm.trans hj
      exact unscheduled_next permitted hidden (idle_of_other run j c s at_call)
        (threads j c s at_call)
    · exact threads j d s' ((Function.update_of_ne same ..).symm.trans hj)

/-- Every event of such a run leaves the notification hidden, and the scheduler passes it by. -/
theorem hidden_along (run : Phased ext w₀ es w g) (absent : w₀.notification id = none)
    (ins : ∀ e ∈ es, ∀ n, inserted e.op e.ans = some n → n.id = id →
      n.state = "archived" ∧ n.recipientUserId = userId)
    (kept : ∀ e ∈ es, ¬ Lifts id userId e) :
    ∀ e ∈ es, Hidden id userId e.after ∧
      (e.call.scheduled = true → e.after.notification id = e.before.notification id) := by
  intro e he
  obtain ⟨pre, post, rfl⟩ := List.append_of_mem he
  obtain ⟨g', i, c, s, o, x, w', rfl, run', at_call, permitted, _⟩ := run.at
  obtain ⟨hidden, threads⟩ := hidden_of_run run' absent
    (fun e he => ins e (List.mem_append_left _ he)) fun e he => kept e (List.mem_append_left _ he)
  have free := threads i c s at_call
  exact ⟨hidden_exec permitted hidden free (ins _ he) (kept _ he),
    fun scheduled => scheduled_kept scheduled permitted hidden free⟩

theorem absent_before (run : Phased ext w₀ es w g) (absent : w.notification id = none) :
    w₀.notification id = none := by
  induction run with
  | init => exact absent
  | start _ _ _ ih => exact ih absent
  | @step es w g i c s o x _ _ _ ih =>
    refine ih ?_
    rcases stored : w.notification id with _ | r
    · rfl
    · have after : ((exec ext x o w).2.notification id).isSome = true :=
        stored_exec (by rw [stored]; rfl)
      have none : (exec ext x o w).2.notification id = none := absent
      rw [none] at after
      cases after

end

/-! ## After the insertion -/

section

variable {pre post : History} {e₀ : Event Call Op Op.Ans World Choice} {n : InsertNotification}
  {g : ℕ → Option (Call × Phase)}

theorem absent_of_inserted (run : Phased ext w₀ (pre ++ e₀ :: post) w g)
    (ins : inserted e₀.op e₀.ans = some n) : w₀.notification n.id = none := by
  obtain ⟨_, _, _, _, _, _, _, rfl, run, _⟩ := run.at
  exact absent_before run (insert_exec ins).1

theorem only_insertion (run : Phased ext w₀ (pre ++ e₀ :: post) w g)
    (ins : inserted e₀.op e₀.ans = some n) (archived : n.state = "archived") :
    ∀ e ∈ pre ++ e₀ :: post, ∀ n', inserted e.op e.ans = some n' → n'.id = n.id →
      n'.state = "archived" ∧ n'.recipientUserId = n.recipientUserId := by
  intro e he n' ins' same
  have first : inserts n.id e₀ = true := by simp [inserts, ins]
  obtain rfl := inserted_unique run first e he (by simp [inserts, ins', same])
  cases ins.symm.trans ins'
  exact ⟨archived, rfl⟩

theorem stored_since (run : Phased ext w₀ (pre ++ e₀ :: post) w g)
    (ins : inserted e₀.op e₀.ans = some n) :
    ∀ e ∈ e₀ :: post, ∃ r, e.after.notification n.id = some r := by
  have first : e₀.after.notification n.id = some (n.row e₀.choice.now) := by
    obtain ⟨_, _, _, _, _, _, _, rfl, _⟩ := run.at
    exact (insert_exec ins).2.1
  intro e he
  rcases List.mem_cons.1 he with rfl | he
  · exact ⟨_, first⟩
  · obtain ⟨l, l', rfl⟩ := List.append_of_mem he
    obtain ⟨r, stored⟩ := stored_between run (fun e he => by simp [he]) run.between first
    obtain ⟨_, _, _, _, _, _, rfl, _⟩ := run.permitted e (by simp)
    exact Option.isSome_iff_exists.1 (stored_exec (Option.isSome_iff_exists.2 ⟨r, stored⟩))

/-- Nothing lifts the suppression of a notification before it is stored. -/
theorem not_lifted (run : Phased ext w₀ (pre ++ e₀ :: post) w g)
    (ins : inserted e₀.op e₀.ans = some n) (kept : ∀ e ∈ post, ¬ Lifts n.id userId e) :
    ∀ e ∈ pre ++ e₀ :: post, ¬ Lifts n.id userId e := by
  intro e he
  rcases List.mem_append.1 he with he | he
  · rintro ⟨present, _⟩
    obtain ⟨l, l', rfl⟩ := List.append_of_mem he
    obtain ⟨_, _, _, _, _, _, _, rfl, before, _⟩ := run.at
    obtain ⟨_, i, c, _, o, x, w', rfl, _, _, _, joined⟩ := before.at
    have after : ((exec ext x o w').2.notification n.id).isSome = true := stored_exec present
    obtain ⟨r, stored⟩ := Option.isSome_iff_exists.1 after
    obtain ⟨r', stored'⟩ := stored_between before (fun e he => by simp [he]) joined stored
    cases (insert_exec ins).1.symm.trans stored'
  · rcases List.mem_cons.1 he with rfl | he
    · obtain insertion := op_of_ran (inserted_eq_some.1 ins)
      rintro ⟨_, ⟨_, _, _, _, _, _, h, _⟩ | ⟨_, _, _, _, h⟩⟩
      · cases insertion.symm.trans h
      · cases insertion.symm.trans h
    · exact kept e he

end

/-! ## Suppression -/

/-- What is left of a processor when it has resolved the configuration of its message. -/
def resolved (ext : Ext) (seq : ℕ) (ingest : IngestMessage) (notifType : CachedNotificationType)
    (levelId : Option Uuid) (config : ResolvedConfig) : Program Failure Outcome :=
  (((persist ext ingest notifType levelId config).attempt >>= settle seq).mapErr .error) >>=
    fun _ => .ret none

/-- An insertion of the notification of a message, as archived. -/
def Archives (ingest : IngestMessage) (o : Op) : Prop :=
  ∀ n, o = .sql (.notifications (.insertNotification n)) →
    n.id = ingest.notificationId ∧ n.state = "archived" ∧
      n.recipientUserId = ingest.recipientUserId

/-- A processor that suppresses a message stores its notification as archived. -/
theorem resolved_within {seq : ℕ} {ingest : IngestMessage} {notifType : CachedNotificationType}
    {levelId : Option Uuid} {config : ResolvedConfig} (skipped : config.shouldDeliver = false) :
    (resolved ext seq ingest notifType levelId config).Within (Archives ingest) := by
  have clock : ∀ t : Int32, (some <$> fromNow t : Program String (Option Time)).Within
      (Archives ingest) := fun t => ⟨fun _ h => (by cases h), fun _ => trivial⟩
  have expires : (expiresAtOf config).Within (Archives ingest) := by
    unfold expiresAtOf
    split
    · exact clock _
    · trivial
  have escalates : (nextEscalationAtOf config).Within (Archives ingest) := by
    unfold nextEscalationAtOf
    split
    · split
      · exact clock _
      · trivial
    · trivial
  have stores : (persist ext ingest notifType levelId config).Within (Archives ingest) := by
    refine expires.bind fun expiresAt => escalates.bind fun nextEscalationAt => ?_
    refine Prog.Within.bind (Prog.Within.mapErr ⟨?_, fun _ => Prog.within_ofExcept _⟩) fun row => ?_
    · intro n same
      cases same
      refine ⟨rfl, ?_, rfl⟩
      simp [notificationOf, ResolvedConfig.state, skipped]
    · rw [skipped]
      trivial
  have settles : ∀ result, (settle seq result).Within (Archives ingest) := by
    intro result
    cases result
    · exact ⟨fun _ h => (by cases h), fun _ => trivial⟩
    · exact ⟨fun _ h => (by cases h), fun _ => trivial⟩
  exact (stores.attempt.bind settles).mapErr.bind fun _ => trivial

variable {es es₁ es₂ : History} {p q : State} {e₀ : Event Call Op Op.Ans World Choice}

/-- A notification whose message was resolved not to be delivered is archived ever after, is not
counted, is passed by by the scheduler and never announced, unless its recipient unarchives it or an
admin resurfaces it. -/
theorem suppressed {i inst seq : ℕ} {ingest : IngestMessage} {notifType : CachedNotificationType}
    {levelId : Option Uuid} {now : Time} {userPrefs : CachedUserPrefs} {severity : Option Int32}
    (run : (system ext).Run (Pool.idle w₀) es p)
    (resolves : p.threads i = some (.processor inst seq,
      resolved ext seq ingest notifType levelId (resolve now userPrefs notifType severity)))
    (skipped : (resolve now userPrefs notifType severity).shouldDeliver = false)
    (rest : (system ext).Run p (es₁ ++ e₀ :: es₂) q) (own : e₀.tid = i)
    (stores : (inserted e₀.op e₀.ans).isSome = true)
    (kept : ∀ e ∈ es₂, ¬ Lifts ingest.notificationId ingest.recipientUserId e) :
    (∀ e ∈ e₀ :: es₂,
      (∃ r, e.after.notification ingest.notificationId = some r ∧ r.state = "archived") ∧
        Uncounted e.after.db ingest.notificationId ∧
        (e.call.scheduled = true → e.after.notification ingest.notificationId =
          e.before.notification ingest.notificationId)) ∧
      ∀ e ∈ es ++ (es₁ ++ e₀ :: es₂), announces ingest.notificationId e = false := by
  have whole := run.trans rest
  rw [← List.append_assoc] at whole ⊢
  obtain ⟨g, watched, _⟩ := phased whole
  obtain ⟨n, ins⟩ := Option.isSome_iff_exists.1 stores
  obtain ⟨named, archived, recipient⟩ := (rest.within resolves (resolved_within skipped)).2 e₀
    (by simp) own n (op_of_ran (inserted_eq_some.1 ins))
  rw [← named] at kept ⊢
  rw [← recipient] at kept
  have ins' := only_insertion watched ins archived
  have hidden := hidden_along watched (absent_of_inserted watched ins) ins'
    (not_lifted watched ins kept)
  refine ⟨fun e he => ?_, fun e he => ?_⟩
  · obtain ⟨after, scheduled⟩ := hidden e (List.mem_append_right _ he)
    obtain ⟨r, stored⟩ := stored_since watched ins e he
    exact ⟨⟨r, stored, (after r stored).1⟩, after.uncounted, scheduled⟩
  · by_contra announced
    obtain ⟨pre, post, split⟩ := List.append_of_mem he
    have announced : announces n.id e = true := by simpa using announced
    obtain ⟨e', he', _, n', ins₁, same, unseen⟩ := inserted_of_announced (split ▸ watched) announced
    have mem : e' ∈ es ++ es₁ ++ e₀ :: es₂ := split ▸ List.mem_append_left _ he'
    rw [(ins' e' mem n' ins₁ same).1] at unseen
    exact absurd unseen (by decide)

namespace Sample

/-- `ann` disables her notifications, and a processor resolves a message for her. -/
def muted : State × History :=
  played (world .empty [.ok message]) <|
    [.start 1 (.rpc 0 (some ann) (.updatePreferences ⟨false, "", ""⟩)), .step 1 choice,
      .start 0 (.processor 0 0)] ++ List.replicate 12 (.step 0 choice)

/-- The processor stores the notification and acknowledges the message. -/
def archiving : State × History :=
  ((system Sample.ext).perform muted.1 (List.replicate 3 (.step 0 choice))).getD (muted.1, [])

/-- The insertion of the notification. -/
def storing : Event Call Op Op.Ans World Choice :=
  archiving.2.get ⟨1, Nat.le_of_ble_eq_true rfl⟩

/-- The preferences of `ann`, as they are cached. -/
def cachedPrefs : CachedUserPrefs := ⟨false, [], [], []⟩

theorem suppressed_archiving :
    (∀ e ∈ storing :: archiving.2.drop 2,
      (∃ r, e.after.notification 3 = some r ∧ r.state = "archived") ∧ Uncounted e.after.db 3 ∧
        (e.call.scheduled = true → e.after.notification 3 = e.before.notification 3)) ∧
      ∀ e ∈ muted.2 ++ (archiving.2.take 1 ++ storing :: archiving.2.drop 2),
        announces 3 e = false := by
  have rest : (system Sample.ext).perform muted.1 (List.replicate 3 (.step 0 choice)) =
      some (archiving.1, archiving.2.take 1 ++ storing :: archiving.2.drop 2) := rfl
  have resolves : muted.1.threads 0 = some (.processor 0 0,
      resolved Sample.ext 0 message cachedType none (resolve 7 cachedPrefs cachedType none)) := rfl
  refine suppressed (run_played rfl) resolves rfl (System.run_of_perform rest) rfl rfl ?_
  intro e he
  cases he with
  | head =>
    rintro ⟨_, ⟨_, _, _, _, h, _⟩ | ⟨_, _, _, h, _⟩⟩
    · cases h
    · cases h
  | tail _ he => cases he

end Sample

end Estafeta
