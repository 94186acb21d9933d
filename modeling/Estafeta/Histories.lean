import Estafeta.Statements
import Estafeta.Behaviour

/-!
# Histories

What every event of a run does to the notifications: the form in which the invariants of the system
use `notification_exec`.
-/

open Atomic

namespace Estafeta

/-- The threads of a history, numbered as they come, run one after another. -/
def Serial (es : History) : Prop := es.Pairwise fun e e' => e.tid ≤ e'.tid

variable {ext : Ext} {w₀ : World} {es : History} {p : State} {id : Uuid}

theorem performed (run : (system ext).Run (Pool.idle w₀) es p) :
    ∀ e ∈ es, ∃ i c o x w, e = (system ext).event i c o x w := by
  obtain ⟨g, watched, _⟩ := phased run
  intro e he
  obtain ⟨i, c, _, o, x, w, performed, _⟩ := watched.permitted e he
  exact ⟨i, c, o, x, w, performed⟩

theorem call_of_thread (run : (system ext).Run (Pool.idle w₀) es p) {i : ℕ} {c : Call}
    {k : Prog Op Op.Ans Failure Outcome} (thread : p.threads i = some (c, k))
    {e : Event Call Op Op.Ans World Choice} (he : e ∈ es) (own : e.tid = i) : e.call = c := by
  obtain ⟨k', started⟩ := run.started e he
  rw [own, thread] at started
  cases started
  rfl

section

variable {x : Choice} {o : Op} {w : World} {q : Db.Notifications.Query} {r : NotificationRow}

theorem unchanged_of_none (none : ran o (exec ext x o w).1 = none) :
    (exec ext x o w).2.db.notifications = w.db.notifications := by
  rcases notifications_exec ext x o w with ⟨n, h, _⟩ | ⟨q, h, _⟩ | ⟨_, same⟩
  · cases none.symm.trans h
  · cases none.symm.trans h
  · exact same

theorem stored_of_inserted {n : Db.Notifications.InsertNotification}
    (h : inserted o (exec ext x o w).1 = some n) :
    w.db.notifications.insert (n.row x.now) = .ok (exec ext x o w).2.db.notifications := by
  have h := inserted_eq_some.1 h
  rcases notifications_exec ext x o w with ⟨n', h', stored⟩ | ⟨q, h', other, _⟩ | ⟨none, _⟩
  · cases h.symm.trans h'
    exact stored
  · cases h.symm.trans h'
    exact absurd rfl (other n)
  · cases h.symm.trans none

/-- A statement that has run has rewritten the row of every notification. -/
theorem notification_of_ran (hq : ran o (exec ext x o w).1 = some q)
    (stored : w.notification id = some r) :
    (exec ext x o w).2.notification id = some (q.rewrite (x.env ext) w.db r) := by
  rcases notification_exec ext x o w id with ⟨n, _, _, absent, _⟩ | ⟨q', hq', after⟩ | ⟨none, _⟩
  · rw [absent] at stored
    cases stored
  · obtain rfl : q' = q := Option.some.inj (hq'.symm.trans hq)
    rw [after, stored]
    rfl
  · rw [none] at hq
    cases hq

theorem notification_cases (ext : Ext) (x : Choice) (o : Op) (w : World) (id : Uuid) :
    (∃ r, w.notification id = some r ∧ ∃ r', (exec ext x o w).2.notification id = some r' ∧
        (r' = r ∨ ∃ q, ran o (exec ext x o w).1 = some q ∧ r' = q.rewrite (x.env ext) w.db r)) ∨
      w.notification id = none ∧
        ((exec ext x o w).2.notification id = none ∨
          ∃ n, inserted o (exec ext x o w).1 = some n ∧ n.id = id ∧
            (exec ext x o w).2.notification id = some (n.row x.now)) := by
  rcases notification_exec ext x o w id with ⟨n, ins, same, absent, after⟩ | ⟨q, hq, after⟩ |
    ⟨_, after⟩
  · exact .inr ⟨absent, .inr ⟨n, ins, same, after⟩⟩
  · rcases stored : w.notification id with _ | r
    · exact .inr ⟨rfl, .inl (by rw [after, stored]; rfl)⟩
    · exact .inl ⟨r, rfl, _, by rw [after, stored]; rfl, .inr ⟨q, hq, rfl⟩⟩
  · rcases stored : w.notification id with _ | r
    · exact .inr ⟨rfl, .inl (by rw [after, stored])⟩
    · exact .inl ⟨r, rfl, r, by rw [after, stored], .inl rfl⟩

theorem stored_exec (stored : (w.notification id).isSome = true) :
    ((exec ext x o w).2.notification id).isSome = true := by
  rcases notification_cases ext x o w id with ⟨r, _, r', after, _⟩ | ⟨absent, _⟩
  · rw [after]
    rfl
  · rw [absent] at stored
    cases stored

end

/-- What is true of a notification when it is stored, and kept by every statement, stays true. -/
theorem notification_invariant {w : World} {g : ℕ → Option (Call × Phase)}
    (run : Phased ext w₀ es w g) (P : NotificationRow → Prop)
    (start : ∀ r, w₀.notification id = some r → P r)
    (ins : ∀ e ∈ es, ∀ n, inserted e.op e.ans = some n → n.id = id → P (n.row e.choice.now))
    (kept : ∀ (q : Db.Notifications.Query) r env db, P r → P (q.rewrite env db r)) :
    ∀ r, w.notification id = some r → P r := by
  induction run with
  | init => exact start
  | start _ _ _ ih => exact ih ins
  | @step es w g i c s o x _ _ _ ih =>
    have ih := ih fun e he => ins e (List.mem_append_left _ he)
    intro r' after
    rcases notification_cases ext x o w id with ⟨r, stored, r₁, after₁, same | ⟨q, _, rewritten⟩⟩ |
      ⟨_, none | ⟨n, inserted, same, after₁⟩⟩
    · cases after.symm.trans after₁
      exact same ▸ ih r stored
    · cases after.symm.trans after₁
      exact rewritten ▸ kept q r _ _ (ih r stored)
    · cases after.symm.trans none
    · cases after.symm.trans after₁
      exact ins ((system ext).event i c o x w) (by simp) n inserted same

end Estafeta
