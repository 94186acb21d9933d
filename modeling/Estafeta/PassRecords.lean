import Estafeta.Loading

/-!
# What an escalation pass has done

A pass finds its batch and then handles each notification in a round of its own: it reads the type,
reads the clock if the notification is due again, updates the count, and performs the action.
`Escalates` says after which interactions a pass performs which operation; a pass ends when each of
the batch has had its round, or with the first statement that fails.
-/

open Atomic

namespace Estafeta

/-! ## Rounds -/

/-- The statement that finds the batch of a pass. -/
abbrev scanOp : Op := .sql (.notifications (.getEscalationDue batchSize))

namespace NotificationRow

variable (r : NotificationRow)

/-- The statement that reads the type of a notification. -/
abbrev typeOp : Op := .sql (.schemas (.getNotificationTypeById r.notificationTypeId))

/-- The statement that counts an escalation. -/
abbrev countOp (next : Option Time) : Op :=
  .sql (.notifications (.updateEscalation r.id (r.escalationCount + 1) next))

/-- The statement that performs the action of a type. -/
abbrev actionOp (type : Option NotificationTypeRow) : Op :=
  .sql (.notifications (escalationQuery (escalationAction type) r.id))

end NotificationRow

/-- What a pass does between reading the type of a notification and counting the escalation: it reads
the clock, if the notification is due again. -/
inductive Rearms (r : NotificationRow) :
    Option NotificationTypeRow → Record → Option Time → Prop where
  | ends {type} : (∀ nt, type = some nt → r.escalationCount + 1 < nt.maxEscalations →
    nt.escalationIntervalSeconds = none) → Rearms r type [] none
  | again {nt : NotificationTypeRow} {s : Int32} {t : Time} :
    r.escalationCount + 1 < nt.maxEscalations → nt.escalationIntervalSeconds = some s →
    Rearms r (some nt) [⟨.utcNow, t⟩] (some (t + Duration.seconds s))

/-- What a pass has done for a notification that it is done with. -/
inductive Round (r : NotificationRow) : Record → Prop where
  | mk {type h next a b} : Rearms r type h next →
    Round r (⟨r.typeOp, .ok type⟩ :: (h ++ [⟨r.countOp next, .ok a⟩, ⟨r.actionOp type, .ok b⟩]))

/-- A pass has come to a notification of its batch. -/
inductive Reached (r : NotificationRow) : Record → Prop where
  | mk {earlier later hs} : List.Forall₂ Round earlier hs →
    Reached r (⟨scanOp, .ok (earlier ++ r :: later)⟩ :: hs.flatten)

/-- What a pass may do next. -/
inductive Escalates : Record → Op → Prop where
  | scan : Escalates [] scanOp
  | type {r h} : Reached r h → Escalates h r.typeOp
  | clock {r h} {nt : NotificationTypeRow} {s : Int32} : Reached r h →
    r.escalationCount + 1 < nt.maxEscalations → nt.escalationIntervalSeconds = some s →
    Escalates (h ++ [⟨r.typeOp, .ok (some nt)⟩]) .utcNow
  | count {r h type h' next} : Reached r h → Rearms r type h' next →
    Escalates (h ++ ⟨r.typeOp, .ok type⟩ :: h') (r.countOp next)
  | act {r h type h' next a} : Reached r h → Rearms r type h' next →
    Escalates (h ++ ⟨r.typeOp, .ok type⟩ :: (h' ++ [⟨r.countOp next, .ok a⟩])) (r.actionOp type)

/-- A pass has ended with a statement that failed. -/
def Aborted (h : Record) : Prop :=
  ∃ h₀ q e, Escalates h₀ (.sql q) ∧ h = h₀ ++ [⟨.sql q, .error e⟩]

/-- A pass has handled its batch. -/
inductive Handled : Record → Prop where
  | mk {rows hs} : List.Forall₂ Round rows hs → Handled (⟨scanOp, .ok rows⟩ :: hs.flatten)

/-! ## Every pass is so -/

section

variable {ext : Ext} {r : NotificationRow} {h : Record}

/-- A statement of a pass: it is permitted, and where it fails the pass ends. -/
theorem pass_query {q : Sql} {Q : Record → q.Resp → Prop} (may : Escalates h (.sql q))
    (returns : ∀ a, Q (h ++ [⟨.sql q, .ok a⟩]) a) :
    (ext.run q).Obeys (.recording Escalates) (fun h _ => Aborted h) Q h :=
  (obeys_run ext q).2 ⟨may, fun e => ⟨h, q, e, may, rfl⟩, returns⟩

theorem nextEscalation_records {type : Option NotificationTypeRow}
    {Q : Record → Option Time → Prop} (reached : Reached r h)
    (returns : ∀ h' next, Rearms r type h' next → Q (h ++ ⟨r.typeOp, .ok type⟩ :: h') next) :
    (nextEscalation type (r.escalationCount + 1)).Obeys (.recording Escalates)
      (fun h _ => Aborted h) Q (h ++ [⟨r.typeOp, .ok type⟩]) := by
  unfold nextEscalation
  split
  next nt =>
    split
    next below =>
      split
      next s interval =>
        refine ⟨.clock reached below interval, fun t => ?_⟩
        have next := returns _ _ (.again (t := t) below interval)
        rw [List.append_cons] at next
        exact next
      next none => exact returns _ _ (.ends fun nt' same _ => by cases same; exact none)
    next reached =>
      refine returns _ _ (.ends fun nt' same below => ?_)
      cases same
      exact absurd below reached
  next => exact returns _ _ (.ends nofun)

theorem escalate_records {Q : Record → PUnit → Prop} (reached : Reached r h)
    (returns : ∀ h', Round r h' → Q (h ++ h') ⟨⟩) :
    (escalate ext r).Obeys (.recording Escalates) (fun h _ => Aborted h) Q h := by
  simp only [escalate, Prog.obeys_bind]
  refine pass_query (.type reached) fun type => ?_
  refine nextEscalation_records reached fun h' next rearms => ?_
  refine pass_query (.count reached rearms) fun a => ?_
  rw [List.append_assoc, List.cons_append]
  refine pass_query (.act reached rearms) fun b => ?_
  have round := returns _ (.mk (a := a) (b := b) rearms)
  rwa [List.append_assoc, List.cons_append, List.append_assoc]

theorem runEscalation_records : (runEscalation ext).Obeys (.recording Escalates)
    (fun h _ => Aborted h) (fun h _ => Handled h) [] := by
  unfold runEscalation
  rw [Prog.obeys_bind]
  refine pass_query .scan fun due => ?_
  -- the rounds so far, and the notifications that are left
  refine Prog.obeys_forM (fun todo h => ∃ earlier hs, due = earlier ++ todo ∧
    List.Forall₂ Round earlier hs ∧ h = ⟨scanOp, .ok due⟩ :: hs.flatten) _ _ ?_ ?_
    ⟨[], [], rfl, .nil, rfl⟩
  · rintro r todo _ ⟨earlier, hs, rfl, rounds, rfl⟩
    refine escalate_records (.mk rounds) fun h' round => ?_
    refine ⟨earlier ++ [r], hs ++ [h'], by simp, ?_, by simp⟩
    exact List.rel_append rounds (.cons round .nil)
  · rintro _ ⟨earlier, hs, rfl, rounds, rfl⟩
    rw [List.append_nil]
    exact .mk rounds

/-- What an escalation pass may do after what it has done. -/
def Call.Escalates : Call → Record → Op → Prop
  | .escalation => Estafeta.Escalates
  | _ => fun _ _ => True

/-- What an escalation pass has done when it ends. -/
def Call.Ended : Call → Record → Prop
  | .escalation, h => Handled h ∨ Aborted h
  | _, _ => True

theorem body_escalates (ext : Ext) (c : Call) :
    ((system ext).body c).Obeys (.recording c.Escalates) (fun h _ => c.Ended h)
      (fun h _ => c.Ended h) [] := by
  cases c with
  | escalation =>
    simp only [system, Call.body, Prog.obeys_bind, Prog.obeys_mapErr]
    exact runEscalation_records.mono (fun _ _ aborted => .inr aborted) fun _ _ handled => .inl handled
  | _ => exact Prog.obeys_of_forall (fun _ _ => trivial) _ _

end

end Estafeta
