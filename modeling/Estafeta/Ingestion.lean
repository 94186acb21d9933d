import Estafeta.Delivery
import Estafeta.Producers

/-!
# Ingestion of one message after the other

`processMessage` run alone, on any world and under any choices of the surroundings.
-/

open Relational Atomic

namespace Estafeta

/-! ## Duplicates -/

/-- The notification of a message, or one of the same service with the same idempotency key, is
stored. -/
def World.Duplicate (w : World) (m : IngestMessage) : Prop :=
  ∃ r ∈ w.db.notifications.rows, r.id = m.notificationId ∨
    ∃ key, m.idempotencyKey = some key ∧ r.idempotencyKey = some key ∧ w.OfService m.serviceSlug r

/-- A key of the row that a message is to be stored as is taken. -/
def Taken (t : Table NotificationRow) (m : IngestMessage) : Prop :=
  ∃ r ∈ t.rows, r.id = m.notificationId ∨
    ∃ key, m.idempotencyKey = some key ∧ r.idempotencyKey = some key

theorem World.Duplicate.taken {w : World} {m : IngestMessage} (h : w.Duplicate m) :
    Taken w.db.notifications m := by
  obtain ⟨r, hr, same | ⟨key, hm, hk, _⟩⟩ := h
  · exact ⟨r, hr, .inl same⟩
  · exact ⟨r, hr, .inr ⟨key, hm, hk⟩⟩

theorem not_inserted_of_taken {t t' : Table NotificationRow} {m : IngestMessage}
    (taken : Taken t m) {notifType : CachedNotificationType} {levelId : Option Uuid}
    {config : ResolvedConfig} {expiresAt nextEscalationAt : Option Time} {now : Time} :
    t.insert ((notificationOf m notifType levelId config expiresAt nextEscalationAt).row now) ≠
      .ok t' := by
  intro stored
  obtain ⟨r, hr, same | ⟨key, hm, hk⟩⟩ := taken
  · have free := Table.insert_fresh stored (k := NotificationKey.id m.notificationId) (.head _)
    exact Table.lookup_eq_none.1 free r hr (same ▸ .head _)
  · have free := Table.insert_fresh stored (k := NotificationKey.idempotency key)
      (by simp [Schema.keys, Db.Notifications.InsertNotification.row, notificationOf, hm])
    exact Table.lookup_eq_none.1 free r hr (by simp [Schema.keys, hk])

/-- What a processor of a duplicate knows: it never gets past loading. -/
def Stuck (t : Table NotificationRow) (acked : List ℕ) (seq : ℕ) (m : IngestMessage) (s : Phase)
    (w : World) : Prop :=
  w.db.notifications = t ∧ w.acked = acked ∧
    (s = .idle ∧ w.stream[seq]? = some (.ok m) ∨ s = .loading (.ok m) ∨ s = .over)

theorem stuck_step (ext : Ext) {inst seq : ℕ} {t : Table NotificationRow} {acked : List ℕ}
    {m : IngestMessage} (taken : Taken t m) (x : Choice) (s : Phase) (w : World) (o : Op)
    (stuck : Stuck t acked seq m s w) (permitted : (processorMonitor inst seq).may s o) :
    Stuck t acked seq m ((processorMonitor inst seq).next s o (exec ext x o w).1)
      (exec ext x o w).2 := by
  obtain ⟨table, unacked, phase⟩ := stuck
  have step := processor_step permitted (exec ext x o w).1
  generalize (processorMonitor inst seq).next s o (exec ext x o w).1 = s' at step
  rcases step with ⟨payload, rfl, rfl, message, rfl⟩ | ⟨payload, rfl, quiet, _, kept, rfl⟩ |
    ⟨payload, n, row, rfl, stores, ins, _, rfl⟩ | ⟨n, row, rfl, _, _, _, _, _⟩ |
    ⟨n, held, _, _⟩ | ⟨quiet, _, kept, rfl⟩
  · rcases phase with ⟨_, stream⟩ | h | h
    · cases stream.symm.trans message
      exact ⟨table, unacked, .inr (.inl rfl)⟩
    · cases h
    · cases h
  · rcases phase with ⟨h, _⟩ | h | h
    · cases h
    · exact ⟨(unchanged_of_none quiet).trans table, (acked_exec kept).trans unacked, .inr (.inl h)⟩
    · cases h
  · rcases phase with ⟨h, _⟩ | h | h
    · cases h
    · cases h
      obtain ⟨_, _, _, _, _, _, same, rfl⟩ := stores
      cases same
      exact absurd (stored_of_inserted ins) (not_inserted_of_taken (table ▸ taken))
    · cases h
  · simp at phase
  · rcases held with ⟨row, rfl⟩ | rfl <;> simp at phase
  · exact ⟨(unchanged_of_none quiet).trans table, (acked_exec kept).trans unacked, .inr (.inr rfl)⟩

/-- A duplicate always fails: nothing is stored, and the message is never acknowledged. -/
theorem duplicate_fails (ext : Ext) (inst seq : ℕ) (m : IngestMessage) (w : World) (x : ℕ → Choice)
    (duplicate : w.Duplicate m) :
    (∃ e, ((processMessage ext inst (.ok m)).run (exec ext) x w).1 = .error e) ∧
      ((processMessage ext inst (.ok m)).run (exec ext) x w).2.db.notifications =
        w.db.notifications ∧
      (w.stream[seq]? = some (.ok m) →
        ((processorRun ext inst seq).run (exec ext) x w).2.acked = w.acked) := by
  refine ⟨?_, ?_, fun message => ?_⟩
  · have obeys : (processMessage ext inst (.ok m)).Obeys (processorMonitor inst seq) _ _ _ :=
      processMessage_obeys ext
    obtain ⟨s, ⟨_, _, phase⟩, ended⟩ := obeys.run (Stuck w.db.notifications w.acked seq m)
      (stuck_step ext duplicate.taken) ⟨rfl, rfl, .inr (.inl rfl)⟩ x
    rcases result : ((processMessage ext inst (.ok m)).run (exec ext) x w).1 with e | _
    · exact ⟨e, rfl⟩
    · rw [result] at ended
      obtain ⟨n, row, _, ⟨rfl, _⟩ | rfl⟩ := ended <;> simp at phase
  · have obeys : (processMessage ext inst (.ok m)).Obeys (processorMonitor inst seq) _ _ _ :=
      processMessage_obeys ext
    obtain ⟨_, ⟨table, _, _⟩, _⟩ := obeys.run (Stuck w.db.notifications w.acked seq m)
      (stuck_step ext duplicate.taken) ⟨rfl, rfl, .inr (.inl rfl)⟩ x
    exact table
  · have obeys : (processorRun ext inst seq).Obeys (processorMonitor inst seq) _ _ _ :=
      processorRun_obeys ext
    obtain ⟨_, ⟨_, unacked, _⟩, _⟩ := obeys.run (Stuck w.db.notifications w.acked seq m)
      (stuck_step ext duplicate.taken) ⟨rfl, rfl, .inl ⟨rfl, message⟩⟩ x
    exact unacked

/-- The message of a notification that is stored is in the stream again. -/
def Sample.redelivery : World :=
  Sample.world (.single (Sample.notification "unread") Sample.check_unread) [.ok Sample.message]

theorem duplicate_fails_redelivery :
    (∃ e, ((processMessage Sample.ext 0 (.ok Sample.message)).run (exec Sample.ext)
        (fun _ => Sample.choice) Sample.redelivery).1 = .error e) ∧
      ((processMessage Sample.ext 0 (.ok Sample.message)).run (exec Sample.ext)
        (fun _ => Sample.choice) Sample.redelivery).2.db.notifications =
          Sample.redelivery.db.notifications ∧
      (Sample.redelivery.stream[0]? = some (.ok Sample.message) →
        ((processorRun Sample.ext 0 0).run (exec Sample.ext) (fun _ => Sample.choice)
          Sample.redelivery).2.acked = Sample.redelivery.acked) :=
  duplicate_fails Sample.ext 0 0 Sample.message Sample.redelivery (fun _ => Sample.choice)
    ⟨_, .head _, .inl rfl⟩

/-- The processing of a duplicate does not succeed. -/
theorem not_duplicate_succeeds : ¬ ∀ (ext : Ext) (inst : ℕ) (m : IngestMessage) (w : World)
    (x : ℕ → Choice), w.Duplicate m →
    ((processMessage ext inst (.ok m)).run (exec ext) x w).2.db.notifications =
        w.db.notifications ∧
      ((processMessage ext inst (.ok m)).run (exec ext) x w).1 = .ok () := by
  intro succeeds
  have ok := (succeeds Sample.ext 0 Sample.message Sample.redelivery (fun _ => Sample.choice)
    ⟨_, .head _, .inl rfl⟩).2
  cases ok

end Estafeta
