import Estafeta.Escalation

/-!
# Delivery

Processors under at-least-once delivery: any number of them, each on any message of the stream, any
number of times, interleaved with everything else. `ProcessorStep` says what one step of a processor
can be. A notification is inserted at most once, and announced only by the processor that has
inserted it as unseen; a message is acknowledged only when its notification is stored.
-/

open Relational Atomic

namespace Estafeta

open Db.Notifications (InsertNotification)

/-! ## The steps of a processor -/

/-- The row that an insertion answered. -/
def returned : (o : Op) → o.Ans → Option NotificationRow
  | .sql (.notifications (.insertNotification _)), .ok row => some row
  | _, _ => none

/-- The payload that an operation received. -/
def received : (o : Op) → o.Ans → Option Payload
  | .receive _, payload => payload
  | _, _ => none

/-- The operation publishes a `NewNotification` event. -/
def Op.announces (id : Uuid) : Op → Bool
  | .publish _ event => event.eventType = .newNotification && event.notificationId = id
  | _ => false

/-- The operation publishes a real-time event. -/
def Op.publishes : Op → Bool
  | .publish .. => true
  | _ => false

/-- What a step of a processor can be. -/
inductive ProcessorStep (seq : ℕ) (s : Phase) (o : Op) (a : o.Ans) (s' : Phase) : Prop where
  | receive payload : s = .idle → o = .receive seq → received o a = some payload →
      s' = .loading payload → ProcessorStep seq s o a s'
  | load payload : s = .loading payload → ran o a = none → o.publishes = false →
      (∀ k, o ≠ .ack k) → s' = .loading payload → ProcessorStep seq s o a s'
  | insert payload n row : s = .loading payload → IsNotificationOf payload n →
      inserted o a = some n → returned o a = some row → s' = .stored n row →
      ProcessorStep seq s o a s'
  | announce n row : s = .stored n row → n.state = "unseen" → inserted o a = none →
      (∀ id, o.announces id = true → row.id = id) → (∀ k, o ≠ .ack k) → s' = .announced n →
      ProcessorStep seq s o a s'
  | ack n : ((∃ row, s = .stored n row) ∨ s = .announced n) → o = .ack seq → s' = .over →
      ProcessorStep seq s o a s'
  | stop : ran o a = none → o.publishes = false → (∀ k, o ≠ .ack k) → s' = .over →
      ProcessorStep seq s o a s'

theorem processor_step {inst seq : ℕ} {s : Phase} {o : Op} (h : (processorMonitor inst seq).may s o)
    (a : o.Ans) : ProcessorStep seq s o a ((processorMonitor inst seq).next s o a) := by
  simp only [processorMonitor] at h
  split at h
  next k =>
    subst h
    rcases a with _ | payload
    · exact .stop rfl rfl (by simp) rfl
    · exact .receive payload rfl rfl rfl rfl
  next payload => exact .load payload rfl rfl rfl (by simp) rfl
  next payload i c key => exact .load payload rfl rfl rfl (by simp) rfl
  next payload i c key v => exact .load payload rfl rfl rfl (by simp) rfl
  next payload q =>
    rcases h with loads | ⟨n, rfl, stores⟩
    · have none : ran (.sql q) a = none := by
        rcases h : ran (.sql q) a with _ | q'
        · rfl
        · cases op_of_ran h
          cases q' <;> cases loads
      refine .load payload rfl none rfl (by simp) ?_
      simp only [processorMonitor]
      split <;> simp_all [Sql.loads, Sql.registry]
    · rcases a with e | row
      · exact .load payload rfl rfl rfl (by simp) rfl
      · exact .insert payload n row rfl stores rfl rfl rfl
  next payload k => exact .stop rfl rfl (by simp) rfl
  next n row subject event =>
    refine .announce n row rfl h.1 rfl (fun id announces => ?_) (by simp) rfl
    simp only [Op.announces, Bool.and_eq_true, decide_eq_true_eq] at announces
    exact h.2.2.symm.trans announces.2
  next n row k =>
    obtain ⟨_, rfl⟩ := h
    exact .ack n (.inl ⟨row, rfl⟩) rfl rfl
  next n k =>
    subst h
    exact .ack n (.inr rfl) rfl rfl
  next => exact h.elim

theorem insert_exec {ext : Ext} {x : Choice} {o : Op} {w : World} {n : InsertNotification}
    (h : inserted o (exec ext x o w).1 = some n) :
    w.notification n.id = none ∧ (exec ext x o w).2.notification n.id = some (n.row x.now) ∧
      returned o (exec ext x o w).1 = some (n.row x.now) := by
  have stored := stored_of_inserted h
  have key : NotificationKey.id n.id ∈ Schema.keys (n.row x.now) := .head _
  refine ⟨Table.insert_fresh stored key, (Table.lookup_insert stored _).trans (if_pos key), ?_⟩
  obtain rfl := op_of_ran (inserted_eq_some.1 h)
  rcases execSql_cases ext x (.notifications (.insertNotification n)) w with
    ⟨e, failed⟩ | ⟨a, db, ok, answered⟩
  · simp only [exec, failed] at h
    cases h
  · obtain ⟨t, _, same⟩ := map_eq_ok.1 ok
    cases same
    simp only [exec, answered]
    rfl

theorem stream_exec {ext : Ext} {x : Choice} {o : Op} {w : World} {seq : ℕ} {payload : Payload}
    (h : w.stream[seq]? = some payload) : (exec ext x o w).2.stream[seq]? = some payload := by
  cases o with
  | sql q =>
    rcases execSql_cases ext x q w with ⟨e, failed⟩ | ⟨a, db, ok, answered⟩
    · simpa only [exec, failed] using h
    · simpa only [exec, answered] using h
  | publishIngest subject msg =>
    simp only [exec]
    split
    · exact List.getElem?_append_left (List.getElem?_eq_some_iff.1 h).1 |>.trans h
    · exact h
  | publish | ack =>
    simp only [exec]
    split <;> exact h
  | _ => exact h

/-! ## Rows behind the messages -/

/-- The message with the sequence number has its notification in the table. -/
def Backed (w : World) (seq : ℕ) : Prop :=
  ∃ ingest, w.stream[seq]? = some (.ok ingest) ∧
    ∃ r, w.notification ingest.notificationId = some r ∧
      r.recipientUserId = ingest.recipientUserId

theorem backed_exec {ext : Ext} {x : Choice} {o : Op} {w : World} {seq : ℕ} (h : Backed w seq) :
    Backed (exec ext x o w).2 seq := by
  obtain ⟨ingest, message, r, stored, recipient⟩ := h
  refine ⟨ingest, stream_exec message, ?_⟩
  rcases notification_cases ext x o w ingest.notificationId with
    ⟨r₁, stored₁, r', after, rfl | ⟨q, _, rfl⟩⟩ | ⟨absent, _⟩
  · cases stored.symm.trans stored₁
    exact ⟨_, after, recipient⟩
  · cases stored.symm.trans stored₁
    exact ⟨_, after, (Db.Notifications.rewrite_recipient q _).trans recipient⟩
  · cases stored.symm.trans absent

/-- What is true of the world when the processor of a message is in a phase. -/
def Phase.Backed (w : World) (seq : ℕ) : Phase → Prop
  | .loading payload => w.stream[seq]? = some payload
  | .stored n row => row.id = n.id ∧ Estafeta.Backed w seq
  | .announced _ => Estafeta.Backed w seq
  | _ => True

section

variable {ext : Ext} {w₀ w : World} {es : History} {g : ℕ → Option (Call × Phase)} {id : Uuid}

theorem backed (run : Phased ext w₀ es w g) :
    ∀ i c s, g i = some (c, s) → ∀ inst seq, c = .processor inst seq → s.Backed w seq := by
  refine run.local (fun _ w _ c s => ∀ inst seq, c = .processor inst seq → s.Backed w seq) ?_ ?_ ?_
  · rintro es w g i _ _ _ inst seq rfl
    trivial
  · rintro es w g i _ s o x _ _ permitted earlier inst seq rfl
    have earlier := earlier inst seq rfl
    have step := processor_step permitted (exec ext x o w).1
    change Phase.Backed _ seq ((processorMonitor inst seq).next s o (exec ext x o w).1)
    generalize (processorMonitor inst seq).next s o (exec ext x o w).1 = s' at step
    rcases step with ⟨payload, rfl, rfl, message, rfl⟩ | ⟨payload, rfl, _, _, _, rfl⟩ |
      ⟨payload, n, row, rfl, stores, ins, answer, rfl⟩ | ⟨n, row, rfl, _, _, _, _, rfl⟩ |
      ⟨n, _, _, rfl⟩ | ⟨_, _, _, rfl⟩
    · exact message
    · exact stream_exec earlier
    · obtain ⟨_, after, answer'⟩ := insert_exec ins
      cases answer.symm.trans answer'
      obtain ⟨ingest, _, _, _, _, _, rfl, rfl⟩ := stores
      exact ⟨rfl, ingest, stream_exec earlier, _, after, rfl⟩
    · exact backed_exec earlier.2
    · trivial
    · trivial
  · rintro es w g i _ s j c' s' o x _ _ _ _ _ earlier inst seq rfl
    have earlier := earlier inst seq rfl
    cases s with
    | loading payload => exact stream_exec earlier
    | stored n row => exact ⟨earlier.1, backed_exec earlier.2⟩
    | announced n => exact backed_exec earlier
    | _ => trivial

end

/-! ## Insertions and announcements -/

/-- The event inserts a notification. -/
def inserts (id : Uuid) (e : Event Call Op Op.Ans World Choice) : Bool :=
  (inserted e.op e.ans).any fun n => n.id = id

/-- The event publishes `NewNotification` for a notification. -/
def announces (id : Uuid) (e : Event Call Op Op.Ans World Choice) : Bool := e.op.announces id

/-- Whether a processor has inserted a notification that it may still announce. -/
def Phase.holds (id : Uuid) : Phase → Bool
  | .stored n _ => n.id = id
  | _ => false

/-- Only processors announce notifications and acknowledge messages. -/
theorem processor_of_op {c : Call} {s : Phase} {o : Op} (h : c.monitor.may s o) {id : Uuid}
    (settles : o.announces id = true ∨ ∃ k, o = .ack k) : ∃ inst seq, c = .processor inst seq := by
  have quiet : ∀ {o : Op}, o.publishes = false → (∀ k, o ≠ .ack k) →
      ¬ (o.announces id = true ∨ ∃ k, o = .ack k) := by
    rintro o silent kept (announced | ⟨k, acked⟩)
    · cases o with
      | publish => cases silent
      | _ => cases announced
    · exact kept k acked
  cases c with
  | processor inst seq => exact ⟨inst, seq, rfl⟩
  | escalation =>
    simp only [Call.monitor, escalationMonitor] at h
    split at h
    all_goals first | exact absurd settles (quiet rfl (by simp)) | exact h.elim
  | rpc inst extensions r =>
    cases s with
    | rpc granted =>
      rcases h with ⟨q, rfl, _⟩ | ⟨_, q, c, rfl, _⟩ | ⟨_, ⟨q, rfl, _⟩ | rfl | ⟨_, _, _, rfl⟩ | ⟨_, rfl⟩ |
        ⟨c, check, _, h, _⟩⟩
      any_goals exact absurd settles (quiet rfl (by simp))
      cases h <;> exact absurd settles (quiet rfl (by simp))
    | _ => exact h.elim
  | snoozeWake | ttlExpiry =>
    simp only [Call.monitor, sweepMonitor] at h
    split at h
    next => exact absurd settles (quiet rfl (by simp))
    next =>
      rcases settles with announced | ⟨k, acked⟩
      · simp [Op.announces, h] at announced
      · cases acked
    next => exact h.elim

theorem holds_other {c : Call} (other : ∀ inst seq, c ≠ .processor inst seq) {s : Phase}
    {o : Op} (h : c.monitor.may s o) (id : Uuid) (a : o.Ans) :
    (c.monitor.next s o a).holds id = false := by
  cases c with
  | processor inst seq => exact absurd rfl (other inst seq)
  | escalation =>
    have step := escalation_step h a
    change (escalationMonitor.next s o a).holds id = false
    rcases step with ⟨_, _, h⟩ | ⟨_, _, _, _, _, _, h⟩ | ⟨_, _, _, _, _, h⟩ |
      ⟨_, _, _, _, _, _, _, h⟩ | ⟨_, _, _, _, _, h⟩ | ⟨_, h, _⟩ <;> rw [h] <;> rfl
  | rpc inst extensions r =>
    cases s with
    | rpc granted => rfl
    | _ => exact h.elim
  | snoozeWake | ttlExpiry =>
    simp only [Call.monitor, sweepMonitor]
    split <;> rfl

section

variable {ext : Ext} {w₀ w : World} {es : History} {g : ℕ → Option (Call × Phase)} {id : Uuid}

theorem announces_of_publishes {o : Op} (h : o.publishes = false) : o.announces id = false := by
  cases o with
  | publish => cases h
  | _ => rfl

/-- A step of a processor announces only what the processor holds, and holds only what it inserts. -/
theorem step_announced {i seq : ℕ} {c : Call} {s s' : Phase} {o : Op} {x : Choice}
    (step : ProcessorStep seq s o (exec ext x o w).1 s') (backed : s.Backed w seq) :
    (announces id ((system ext).event i c o x w)).toNat + (s'.holds id).toNat ≤
      (inserts id ((system ext).event i c o x w)).toNat + (s.holds id).toNat := by
  have events : announces id ((system ext).event i c o x w) = o.announces id := rfl
  have insertions : inserts id ((system ext).event i c o x w) =
      (inserted o (exec ext x o w).1).any fun n => n.id = id := rfl
  rw [events, insertions]
  rcases step with ⟨payload, rfl, rfl, message, rfl⟩ | ⟨payload, rfl, _, quiet, _, rfl⟩ |
    ⟨payload, n, row, rfl, stores, ins, answer, rfl⟩ | ⟨n, row, rfl, _, _, names, _, rfl⟩ |
    ⟨n, _, rfl, rfl⟩ | ⟨_, quiet, _, rfl⟩
  · exact Nat.zero_le _
  · rw [announces_of_publishes quiet]
    exact Nat.zero_le _
  · rw [ins, op_of_ran (inserted_eq_some.1 ins)]
    show 0 + (decide (n.id = id)).toNat ≤ (decide (n.id = id)).toNat + 0
    omega
  · rcases announced : o.announces id with _ | _
    · exact Nat.zero_le _
    · have same : n.id = id := backed.1.symm.trans (names id announced)
      simp [Phase.holds, same]
  · exact Nat.zero_le _
  · rw [announces_of_publishes quiet]
    exact Nat.zero_le _

theorem announce_step {seq : ℕ} {s s' : Phase} {o : Op} {a : o.Ans}
    (step : ProcessorStep seq s o a s') (announced : o.announces id = true) :
    ∃ n row, s = .stored n row ∧ n.state = "unseen" ∧ row.id = id := by
  rcases step with ⟨_, _, rfl, _, _⟩ | ⟨_, _, _, quiet, _, _⟩ | ⟨_, _, _, _, _, ins, _, _⟩ |
    ⟨n, row, rfl, unseen, _, names, _, _⟩ | ⟨_, _, rfl, _⟩ | ⟨_, quiet, _, _⟩
  · cases announced
  · rw [announces_of_publishes quiet] at announced
    cases announced
  · rw [op_of_ran (inserted_eq_some.1 ins)] at announced
    cases announced
  · exact ⟨n, row, rfl, unseen, names id announced⟩
  · cases announced
  · rw [announces_of_publishes quiet] at announced
    cases announced

/-- A processor acknowledges its own message, and only when the notification is stored. -/
theorem ack_step {seq k : ℕ} {s s' : Phase} {o : Op} {a : o.Ans}
    (step : ProcessorStep seq s o a s') (backed : s.Backed w seq) (acked : o = .ack k) :
    Backed w k := by
  rcases step with ⟨_, _, h, _, _⟩ | ⟨_, _, _, _, kept, _⟩ | ⟨_, _, _, _, _, ins, _, _⟩ |
    ⟨_, _, _, _, _, _, kept, _⟩ | ⟨n, held, h, _⟩ | ⟨_, _, kept, _⟩
  · cases acked.symm.trans h
  · exact absurd acked (kept k)
  · cases acked.symm.trans (op_of_ran (inserted_eq_some.1 ins))
  · exact absurd acked (kept k)
  · cases acked.symm.trans h
    rcases held with ⟨row, rfl⟩ | rfl
    · exact backed.2
    · exact backed
  · exact absurd acked (kept k)

/-- A thread has announced a notification at most as often as it has inserted it. -/
theorem announced_le_inserted (run : Phased ext w₀ es w g) : ∀ i c s, g i = some (c, s) →
    es.countP (fun e => announces id e && e.tid = i) + (s.holds id).toNat ≤
      es.countP (fun e => inserts id e && e.tid = i) := by
  refine run.balance (announces id) (inserts id) (fun s => (s.holds id).toNat) (fun _ => 0) ?_ ?_
  · intro c
    cases c <;> exact Nat.le_refl 0
  · intro es' w g i c s o x _ run at_call permitted
    by_cases processor : ∃ inst seq, c = .processor inst seq
    · obtain ⟨inst, seq, rfl⟩ := processor
      exact step_announced (processor_step permitted _) (backed run i _ s at_call inst seq rfl)
    · have other : ∀ inst seq, c ≠ .processor inst seq :=
        fun inst seq same => processor ⟨inst, seq, same⟩
      have quiet : announces id ((system ext).event i c o x w) = false :=
        Bool.eq_false_iff.2 fun announced =>
          processor (processor_of_op permitted (.inl announced))
      rw [quiet, holds_other other permitted]
      exact Nat.zero_le _

/-- A notification is inserted at most once, and then it is stored. -/
theorem inserted_once (run : Phased ext w₀ es w g) :
    es.countP (inserts id) ≤ 1 ∧ (w.notification id = none → es.countP (inserts id) = 0) := by
  induction run with
  | init => exact ⟨Nat.zero_le 1, fun _ => rfl⟩
  | start _ _ _ ih => exact ih
  | @step es w g i c s o x _ _ _ ih =>
    rw [countP_snoc]
    by_cases inserting : inserts id ((system ext).event i c o x w) = true
    · obtain ⟨n, ins, same⟩ := (Option.any_eq_true ..).1 inserting
      obtain rfl := of_decide_eq_true same
      obtain ⟨absent, after, _⟩ := insert_exec ins
      rw [ih.2 absent, inserting]
      exact ⟨Nat.le_refl 1, fun none => by cases none.symm.trans after⟩
    · have quiet : inserts id ((system ext).event i c o x w) = false := by simpa using inserting
      rw [quiet]
      refine ⟨ih.1, fun none => ih.2 ?_⟩
      rcases stored : w.notification id with _ | r
      · rfl
      · have kept : ((exec ext x o w).2.notification id).isSome = true :=
          stored_exec (by rw [stored]; rfl)
        have after : (exec ext x o w).2.notification id = Option.none := none
        rw [after] at kept
        cases kept

theorem inserted_unique {pre post : History} {e : Event Call Op Op.Ans World Choice}
    (run : Phased ext w₀ (pre ++ e :: post) w g) (first : inserts id e = true) :
    ∀ e' ∈ pre ++ e :: post, inserts id e' = true → e' = e := by
  have once : (pre ++ e :: post).countP (inserts id) ≤ 1 := (inserted_once run).1
  rw [List.countP_append, List.countP_cons_of_pos first] at once
  intro e' he again
  rcases List.mem_append.1 he with he | he
  · have := List.countP_pos_iff.2 ⟨e', he, again⟩
    omega
  · rcases List.mem_cons.1 he with same | he
    · exact same
    · have := List.countP_pos_iff.2 ⟨e', he, again⟩
      omega

theorem held_inserted (run : Phased ext w₀ es w g) : ∀ i c s, g i = some (c, s) →
    ∀ inst seq n row, c = .processor inst seq → s = .stored n row →
      ∃ e ∈ es, e.tid = i ∧ inserted e.op e.ans = some n := by
  refine run.local (fun es _ i c s => ∀ inst seq n row, c = .processor inst seq →
    s = .stored n row → ∃ e ∈ es, e.tid = i ∧ inserted e.op e.ans = some n) ?_ ?_ ?_
  · rintro es w g i _ _ _ inst seq n row rfl h
    cases h
  · rintro es w g i _ s o x _ _ permitted earlier inst seq n row rfl h
    have step := processor_step permitted (exec ext x o w).1
    have h : (processorMonitor inst seq).next s o (exec ext x o w).1 = .stored n row := h
    rw [h] at step
    rcases step with ⟨_, _, _, _, h⟩ | ⟨_, _, _, _, _, h⟩ | ⟨_, _, _, _, _, ins, _, h⟩ |
      ⟨_, _, _, _, _, _, _, h⟩ | ⟨_, _, _, h⟩ | ⟨_, _, _, h⟩ <;> cases h
    exact ⟨(system ext).event i (.processor inst seq) o x w, by simp, rfl, ins⟩
  · intro es w g i c s j c' s' o x _ _ _ _ _ earlier inst seq n row hc hs
    obtain ⟨e, he, tid, ins⟩ := earlier inst seq n row hc hs
    exact ⟨e, by simp [he], tid, ins⟩

theorem inserted_of_announced {pre post : History} {e : Event Call Op Op.Ans World Choice}
    (run : Phased ext w₀ (pre ++ e :: post) w g) (announced : announces id e = true) :
    ∃ e' ∈ pre, e'.tid = e.tid ∧
      ∃ n, inserted e'.op e'.ans = some n ∧ n.id = id ∧ n.state = "unseen" := by
  obtain ⟨g', i, c, s, o, x, w, rfl, run', at_call, permitted, _⟩ := run.at
  obtain ⟨inst, seq, rfl⟩ := processor_of_op permitted (.inl announced)
  obtain ⟨n, row, rfl, unseen, named⟩ :=
    announce_step (processor_step permitted (exec ext x o w).1) announced
  have same := (backed run' i _ _ at_call inst seq rfl).1
  obtain ⟨e', he', tid, ins⟩ := held_inserted run' i _ _ at_call inst seq n row rfl rfl
  exact ⟨e', he', tid, n, ins, same.symm.trans named, unseen⟩

end

/-! ## Delivery -/

/-- The phases of a processor that is done with loading. -/
def Phase.past : Phase → Bool
  | .stored .. => true
  | .announced _ => true
  | .over => true
  | _ => false

theorem ProcessorStep.past {seq : ℕ} {s s' : Phase} {o : Op} {a : o.Ans}
    (step : ProcessorStep seq s o a s') (h : s.past = true) : s'.past = true := by
  rcases step with ⟨_, rfl, _, _, _⟩ | ⟨_, rfl, _, _, _, _⟩ | ⟨_, _, _, rfl, _, _, _, _⟩ |
    ⟨_, _, _, _, _, _, _, rfl⟩ | ⟨_, _, _, rfl⟩ | ⟨_, _, _, rfl⟩
  · cases h
  · cases h
  · cases h
  · rfl
  · rfl
  · rfl

/-- A program that ends in the phase in which a processor loads has not left it. -/
theorem failed_of_loading {inst seq : ℕ} {payload : Payload} {err : String}
    {Q : Phase → Unit → Prop} {p q : Program String Unit} {h : List (Σ o : Op, o.Ans)}
    (trace : p.Trace h q) (failed : q = .fail err) :
    ∀ s, p.Obeys (processorMonitor inst seq) (Unstored payload) Q s →
      s.past = false ∧ (s = .loading payload →
        ∀ x ∈ h, inserted x.1 x.2 = none ∧ x.1.publishes = false) := by
  induction trace with
  | nil p =>
    subst failed
    rintro s rfl
    exact ⟨rfl, fun _ x hx => by cases hx⟩
  | @cons o k a h q rest ih =>
    rintro s ⟨permitted, obeys⟩
    have step := processor_step permitted a
    obtain ⟨not_past, earlier⟩ := ih failed _ (obeys a)
    refine ⟨?_, ?_⟩
    · by_contra past
      rw [step.past (by simpa using past)] at not_past
      cases not_past
    · rintro rfl
      generalize (processorMonitor inst seq).next (.loading payload) o a = s' at *
      rcases step with ⟨_, h, _, _, _⟩ | ⟨payload', h, quiet, silent, _, rfl⟩ |
        ⟨_, _, _, _, _, _, _, rfl⟩ | ⟨_, _, h, _, _, _, _, _⟩ | ⟨_, ⟨_, h⟩ | h, _, _⟩ |
        ⟨_, _, _, rfl⟩
      · cases h
      · cases h
        intro x hx
        rcases List.mem_cons.1 hx with rfl | hx
        · exact ⟨by rw [inserted, quiet], silent⟩
        · exact earlier rfl x hx
      · cases not_past
      · cases h
      · cases h
      · cases h
      · cases not_past

/-- Whatever is delivered, how often and to whom, and whatever fails: ids and idempotency keys are
unique; a notification is announced at most once, and only after it was inserted as unseen; a message
whose processing fails has left no trace; and an acknowledged message has its notification in the
table. -/
theorem delivered_once {ext : Ext} {w₀ : World} {es : History} {p : State}
    (run : (system ext).Run (Pool.idle w₀) es p) :
    (p.world.db.notifications.rows.map (·.id)).Nodup ∧
      (p.world.db.notifications.rows.filterMap (·.idempotencyKey)).Nodup ∧
      (∀ id, es.countP (announces id) ≤ 1) ∧
      (∀ pre e post id, es = pre ++ e :: post → announces id e = true →
        ∃ e' ∈ pre, e'.tid = e.tid ∧
          ∃ n, inserted e'.op e'.ans = some n ∧ n.id = id ∧ n.state = "unseen") ∧
      (∀ inst payload err h, (processMessage ext inst payload).Trace h (.fail err) →
        ∀ x ∈ h, inserted x.1 x.2 = none ∧ x.1.publishes = false) ∧
      ∀ e ∈ es, ∀ seq, e.op = .ack seq → Backed p.world seq := by
  obtain ⟨g, run, _⟩ := phased run
  refine ⟨?_, ?_, fun id => ?_, ?_, ?_, ?_⟩
  · refine List.pairwise_map.2 (p.world.db.notifications.unique.imp ?_)
    intro r s apart same
    exact apart (.id r.id) (.head _) (same ▸ .head _)
  · refine List.pairwise_filterMap.2 (p.world.db.notifications.unique.imp ?_)
    rintro r s apart key hr key' hs rfl
    refine apart (.idempotency key) ?_ ?_
    · simp [Schema.keys, hr]
    · simp [Schema.keys, hs]
  · have once : es.countP (inserts id) ≤ 1 := (inserted_once run).1
    refine (run.countP_le fun i c s thread => ?_).trans once
    exact Nat.le_of_add_right_le (announced_le_inserted run i c s thread)
  · rintro pre e post id rfl announced
    exact inserted_of_announced run announced
  · intro inst payload err h trace
    have obeys : (processMessage ext inst payload).Obeys (processorMonitor inst 0) _ _ _ :=
      processMessage_obeys ext
    exact (failed_of_loading trace rfl _ obeys).2 rfl
  · intro e he seq acked
    obtain ⟨pre, post, rfl⟩ := List.append_of_mem he
    obtain ⟨g', i, c, s, o, x, w, rfl, run', at_call, permitted, joined⟩ := run.at
    have settles : o.announces 0 = true ∨ ∃ k, o = .ack k := .inr ⟨seq, acked⟩
    obtain ⟨inst, seq', rfl⟩ := processor_of_op permitted settles
    have stored := ack_step (processor_step permitted (exec ext x o w).1)
      (backed run' i _ _ at_call inst seq' rfl) acked
    refine joined.keeps (K := fun w => Backed w seq) (fun e he before => ?_) (backed_exec stored)
    obtain ⟨_, _, _, _, _, _, rfl, _⟩ :=
      run.permitted e (List.mem_append_right _ (.tail _ he))
    exact backed_exec before

/-- A processor stores, announces and acknowledges a message. -/
def Sample.delivery : State × History :=
  Sample.played (Sample.world .empty [.ok Sample.message])
    (.start 0 (.processor 0 0) :: List.replicate 16 (.step 0 Sample.choice))

theorem delivered_once_delivery :
    (Sample.delivery.1.world.db.notifications.rows.map (·.id)).Nodup ∧
      (Sample.delivery.1.world.db.notifications.rows.filterMap (·.idempotencyKey)).Nodup ∧
      (∀ id, Sample.delivery.2.countP (announces id) ≤ 1) ∧
      (∀ pre e post id, Sample.delivery.2 = pre ++ e :: post → announces id e = true →
        ∃ e' ∈ pre, e'.tid = e.tid ∧
          ∃ n, inserted e'.op e'.ans = some n ∧ n.id = id ∧ n.state = "unseen") ∧
      (∀ inst payload err h, (processMessage Sample.ext inst payload).Trace h (.fail err) →
        ∀ x ∈ h, inserted x.1 x.2 = none ∧ x.1.publishes = false) ∧
      ∀ e ∈ Sample.delivery.2, ∀ seq, e.op = .ack seq → Backed Sample.delivery.1.world seq :=
  delivered_once (Sample.run_played rfl)

end Estafeta
