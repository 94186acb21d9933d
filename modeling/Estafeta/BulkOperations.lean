import Estafeta.Requests

/-!
# Operations on many notifications

Six handlers take a list of ids and change notifications by one statement. Each parses all its ids
before it runs the statement, so that one that is not a UUID fails the request as a whole; and the
statement names the states that it starts from, none of which is the state that it leaves behind, so
that to repeat the request changes nothing (`bulk_exact`).
-/

open Relational Atomic

namespace Estafeta

/-- The operations on a list of ids. A producer names a recipient and a service. -/
inductive Bulk where
  | markSeen
  | markRead
  | markUnread
  | archive
  | unarchive
  | producerMarkRead (recipientUserId serviceSlug : String)

namespace Bulk

/-- The handler of an operation, and how many notifications it says it has marked. -/
def handle (ext : Ext) (extensions : Option AuthClaims) (ids : List String) :
    Bulk → Program Status (Option Int64)
  | .markSeen => do
    let resp ← NotificationService.markSeen ext extensions ⟨ids⟩
    return some resp.markedCount
  | .markRead => do
    NotificationService.markRead ext extensions ⟨ids⟩
    return none
  | .markUnread => do
    NotificationService.markUnread ext extensions ⟨ids⟩
    return none
  | .archive => do
    NotificationService.archive ext extensions ⟨ids⟩
    return none
  | .unarchive => do
    NotificationService.unarchive ext extensions ⟨ids⟩
    return none
  | .producerMarkRead recipientUserId serviceSlug => do
    NotificationService.producerMarkRead ext extensions
      { recipientUserId, notificationIds := ids, serviceSlug }
    return none

/-- Whose notifications are changed. -/
def recipient (claims : AuthClaims) : Bulk → String
  | .producerMarkRead recipientUserId _ => recipientUserId
  | _ => claims.subject

/-- The states that are changed. -/
def sources : Bulk → List String
  | .markSeen => ["unseen"]
  | .markRead => ["unread"]
  | .markUnread => ["read"]
  | .archive => ["unseen", "unread", "read", "snoozed"]
  | .unarchive => ["archived"]
  | .producerMarkRead .. => ["unread"]

/-- The state that is left behind. -/
def target : Bulk → String
  | .markSeen => "unread"
  | .markRead => "read"
  | .markUnread => "unread"
  | .archive => "archived"
  | .unarchive => "read"
  | .producerMarkRead .. => "read"

/-- The timestamp that is set along with the state. -/
def stamp (now : Time) (r : NotificationRow) : Bulk → NotificationRow
  | .markSeen => { r with seenAt := some now }
  | .markRead => { r with readAt := some now }
  | .markUnread => { r with readAt := none }
  | .archive => r
  | .unarchive => r
  | .producerMarkRead .. => { r with readAt := some now }

/-- A notification that has been changed. -/
def written (op : Bulk) (now : Time) (r : NotificationRow) : NotificationRow :=
  { op.stamp now r with state := op.target, updatedAt := now }

/-- `markSeen` without ids is for all notifications. -/
def all (ids : List String) : Bulk → Bool
  | .markSeen => ids.isEmpty
  | _ => false

/-- Whether a notification is changed. -/
def selects (op : Bulk) (ext : Ext) (claims : AuthClaims) (ids : List String)
    (r : NotificationRow) : Bool :=
  r.recipientUserId = op.recipient claims &&
    (op.all ids || ids.any fun s => ext.parseUuid s = some r.id) && r.state ∈ op.sources

/-- What the caller is told when this many notifications have been changed. -/
def report (changed : ℕ) : Bulk → Option Int64
  | .markSeen => some (Int64.ofNat changed)
  | _ => none

/-- Keto lets the caller go on, where it is asked. -/
def Authorized (x : ℕ → Choice) : Bulk → Prop
  | .producerMarkRead .. => Keto.allowed (x 0).keto = .ok true
  | _ => True

/-- What the database decides about the statement, which comes after the question to Keto. -/
def decided (x : ℕ → Choice) : Bulk → Choice
  | .producerMarkRead .. => x 1
  | _ => x 0

/-- The update that is run. -/
def update (op : Bulk) (claims : AuthClaims) (ids : List String) (uuids : List Uuid) (now : Time) :
    Update NotificationRow :=
  match op with
  | .markSeen =>
    if ids.isEmpty then Db.Notifications.markAllSeen now claims.subject
    else Db.Notifications.markSeen now claims.subject uuids
  | .markRead => Db.Notifications.markRead now claims.subject uuids
  | .markUnread => Db.Notifications.markUnread now claims.subject uuids
  | .archive => Db.Notifications.archive now claims.subject uuids
  | .unarchive => Db.Notifications.unarchive now claims.subject uuids
  | .producerMarkRead recipientUserId _ =>
    Db.Notifications.producerMarkRead now recipientUserId uuids

section

variable {ext : Ext} {claims : AuthClaims} {op : Bulk} {ids : List String} {uuids : List Uuid}
  {now : Time} {r : NotificationRow} {w : World} {x : ℕ → Choice}

/-! ## What is changed -/

/-- No operation starts from the state that it leaves behind. -/
theorem target_not_mem_sources (op : Bulk) : op.target ∉ op.sources := by
  cases op with
  | producerMarkRead =>
    show "read" ∉ ["unread"]
    decide
  | _ => decide

theorem selects_iff : op.selects ext claims ids r = true ↔
    r.recipientUserId = op.recipient claims ∧
      (op.all ids = true ∨ ∃ s ∈ ids, ext.parseUuid s = some r.id) ∧ r.state ∈ op.sources := by
  unfold selects
  simp only [Bool.and_eq_true, Bool.or_eq_true, decide_eq_true_eq, List.any_eq_true, and_assoc]

theorem state_of_selects (selected : op.selects ext claims ids r = true) : r.state ∈ op.sources :=
  (selects_iff.1 selected).2.2

theorem written_ne (selected : op.selects ext claims ids r = true) : op.written now r ≠ r := by
  intro same
  have state : op.target = r.state := congrArg NotificationRow.state same
  exact op.target_not_mem_sources (state ▸ state_of_selects selected)

theorem not_selects_written : op.selects ext claims ids (op.written now r) = false := by
  have state : decide ((op.written now r).state ∈ op.sources) = false :=
    decide_eq_false op.target_not_mem_sources
  unfold selects
  rw [state, Bool.and_false]

/-! ## The ids -/

theorem parseUuids_cons (s : String) (ids : List String) :
    NotificationService.parseUuids ext (s :: ids) =
      match ext.parseUuid s with
      | none => .error (.invalidArgument s!"invalid UUID: {s}")
      | some u => (NotificationService.parseUuids ext ids).map (u :: ·) := by
  unfold NotificationService.parseUuids
  rw [List.mapM_cons]
  cases ext.parseUuid s with
  | none => rfl
  | some u =>
    cases List.mapM (m := Except Status) _ ids <;> rfl

/-- The ids are parsed if they are UUIDs, and the first that is not is an invalid argument. -/
theorem parseUuids_cases (ext : Ext) (ids : List String) :
    (∃ s ∈ ids, ext.parseUuid s = none ∧
      NotificationService.parseUuids ext ids = .error (.invalidArgument s!"invalid UUID: {s}")) ∨
    (∀ s ∈ ids, ext.parseUuid s ≠ none) ∧ ∃ uuids,
      NotificationService.parseUuids ext ids = .ok uuids ∧
        ∀ u, u ∈ uuids ↔ ∃ s ∈ ids, ext.parseUuid s = some u := by
  induction ids with
  | nil => exact .inr ⟨fun _ mem => absurd mem List.not_mem_nil, [], rfl, fun u => by simp⟩
  | cons s ids ih =>
    rw [parseUuids_cons]
    cases parsed : ext.parseUuid s with
    | none => exact .inl ⟨s, List.mem_cons_self, parsed, rfl⟩
    | some v =>
      rcases ih with ⟨s', mem, unparsed, fails⟩ | ⟨all, uuids, parses, listed⟩
      · refine .inl ⟨s', List.mem_cons_of_mem s mem, unparsed, ?_⟩
        rw [fails]
        rfl
      · refine .inr ⟨?_, v :: uuids, ?_, fun u => ?_⟩
        · rintro s' (_ | ⟨_, mem⟩)
          · rw [parsed]
            exact Option.some_ne_none v
          · exact all s' mem
        · rw [parses]
          rfl
        · rw [List.mem_cons, listed, List.exists_mem_cons_iff, parsed, Option.some.injEq]
          exact or_congr_left eq_comm

/-! ## The statement -/

theorem update_set (op : Bulk) : (op.update claims ids uuids now).set.set = op.written now := by
  cases op with
  | markSeen => cases ids <;> rfl
  | _ => rfl

theorem update_where (op : Bulk) (listed : ∀ u, u ∈ uuids ↔ ∃ s ∈ ids, ext.parseUuid s = some u) :
    (op.update claims ids uuids now).where_ = op.selects ext claims ids := by
  funext r
  rw [Bool.eq_iff_iff, selects_iff, ← listed]
  cases op with
  | markSeen =>
    cases ids with
    | nil => simp [update, Db.Notifications.markAllSeen, recipient, all, sources]
    | cons s ids => simp [update, Db.Notifications.markSeen, recipient, all, sources, and_assoc]
  | _ =>
    simp [update, Db.Notifications.markRead, Db.Notifications.markUnread, Db.Notifications.archive,
      Db.Notifications.unarchive, Db.Notifications.producerMarkRead, recipient, all, sources,
      and_assoc]

/-- The world after an update of the notifications. -/
def updated (w : World) (u : Update NotificationRow) : World :=
  { w with db := { w.db with notifications := u.apply w.db.notifications } }

/-! ## The handlers -/

theorem code_of_allowed {reply : KetoReply} {e : Status} (fails : Keto.allowed reply = .error e) :
    e.code = .internal := by
  unfold Keto.allowed at fails
  split at fails
  · cases fails
    rfl
  · split_ifs at fails
    · split at fails
      · cases fails
        rfl
      · cases fails
    · cases fails
      rfl

theorem run_refused (refused : ¬ op.Authorized x) :
    ∃ e, (op.handle ext (some claims) ids).run (exec ext) x w = (.error e, w) ∧
      e.code ≠ .invalidArgument := by
  cases op with
  | producerMarkRead recipientUserId serviceSlug =>
    unfold handle NotificationService.producerMarkRead
    simp only [AuthClaims.fromExtensions, Prog.okOr, Prog.ret_bind, Prog.bind_assoc,
      run_requireServiceSend]
    have refused : Keto.allowed (x 0).keto ≠ .ok true := refused
    rcases reply : Keto.allowed (x 0).keto with e | _ | _
    · refine ⟨e, rfl, ?_⟩
      rw [code_of_allowed reply]
      decide
    · exact ⟨_, rfl, by simp [Status.permissionDenied]⟩
    · exact absurd reply refused
  | _ => exact absurd trivial refused

/-- An id that is not a UUID fails the request before the statement. -/
theorem run_unparsed (authorized : op.Authorized x) {e : Status}
    (fails : NotificationService.parseUuids ext ids = .error e) :
    (op.handle ext (some claims) ids).run (exec ext) x w = (.error e, w) := by
  cases op with
  | markSeen =>
    cases ids with
    | nil => cases fails
    | cons s ids =>
      simp only [handle, NotificationService.markSeen, AuthClaims.fromExtensions, Prog.okOr,
        List.isEmpty_cons, Bool.false_eq_true, if_false, fails, Prog.ofExcept, Prog.ret_bind,
        Prog.fail_bind, Prog.run]
  | producerMarkRead recipientUserId serviceSlug =>
    have allowed : Keto.allowed (x 0).keto = .ok true := authorized
    simp only [handle, NotificationService.producerMarkRead, AuthClaims.fromExtensions, Prog.okOr,
      Prog.ret_bind, Prog.bind_assoc, run_requireServiceSend, allowed, fails, Prog.ofExcept,
      Prog.fail_bind, Prog.run]
  | _ =>
    simp only [handle, NotificationService.markRead, NotificationService.markUnread,
      NotificationService.archive, NotificationService.unarchive, AuthClaims.fromExtensions,
      Prog.okOr, fails, Prog.ofExcept, Prog.ret_bind, Prog.fail_bind, Prog.run]

/-- With ids that are UUIDs the statement is run, or fails without effect. -/
theorem run_parsed (authorized : op.Authorized x)
    (parses : NotificationService.parseUuids ext ids = .ok uuids) :
    (op.handle ext (some claims) ids).run (exec ext) x w =
      match (op.decided x).failure with
      | some e => (.error (.internal s!"db error: {ext.showDbError e}"), w)
      | none =>
        let u := op.update claims ids uuids (op.decided x).now
        (.ok (op.report (u.affected w.db.notifications)), updated w u) := by
  cases op with
  | markSeen =>
    cases ids with
    | nil =>
      simp only [handle, NotificationService.markSeen, AuthClaims.fromExtensions, Prog.okOr,
        List.isEmpty_nil, if_true, Prog.ret_bind, Prog.bind_assoc]
      refine (run_query (.notifications (.markAllSeen claims.subject)) _ x).trans ?_
      simp only [execSql, decided]
      cases (x 0).failure <;> rfl
    | cons s ids =>
      simp only [handle, NotificationService.markSeen, AuthClaims.fromExtensions, Prog.okOr,
        List.isEmpty_cons, Bool.false_eq_true, if_false, parses, Prog.ofExcept, Prog.ret_bind,
        Prog.bind_assoc]
      refine (run_query (.notifications (.markSeen claims.subject uuids)) _ x).trans ?_
      simp only [execSql, decided]
      cases (x 0).failure <;> rfl
  | producerMarkRead recipientUserId serviceSlug =>
    have allowed : Keto.allowed (x 0).keto = .ok true := authorized
    simp only [handle, NotificationService.producerMarkRead, AuthClaims.fromExtensions, Prog.okOr,
      Prog.ret_bind, Prog.bind_assoc, run_requireServiceSend, allowed, parses, Prog.ofExcept, decided]
    refine (run_query (.notifications (.producerMarkRead recipientUserId uuids)) _ _).trans ?_
    simp only [execSql]
    cases (x 1).failure <;> rfl
  | _ =>
    simp only [handle, NotificationService.markRead, NotificationService.markUnread,
      NotificationService.archive, NotificationService.unarchive, AuthClaims.fromExtensions,
      Prog.okOr, parses, Prog.ofExcept, Prog.ret_bind, Prog.bind_assoc, decided]
    refine (run_query _ _ x).trans ?_
    simp only [execSql]
    cases (x 0).failure <;> rfl

/-- What an operation leaves behind, and what it answers, when its statement has run at `now`: of the
notifications it has changed what it selects and nothing else, and to repeat the request changes
nothing. -/
structure Performed (op : Bulk) (ext : Ext) (claims : AuthClaims) (ids : List String) (now : Time)
    (w : World) (answer : Option Int64) (w' : World) : Prop where
  rows : w'.db.notifications.rows = w.db.notifications.rows.map fun r =>
    if op.selects ext claims ids r then op.written now r else r
  changed : ∀ r, op.selects ext claims ids r = true → op.written now r ≠ r
  rest : w' = { w with db := { w.db with notifications := w'.db.notifications } }
  answer : answer = op.report (w.db.notifications.rows.countP (op.selects ext claims ids))
  again : ∀ y, ((op.handle ext (some claims) ids).run (exec ext) y w').2 = w' ∧
    ∀ a, ((op.handle ext (some claims) ids).run (exec ext) y w').1 = .ok a → a = op.report 0

theorem run_unselected (none : ∀ r ∈ w.db.notifications.rows, op.selects ext claims ids r = false) :
    ((op.handle ext (some claims) ids).run (exec ext) x w).2 = w ∧
      ∀ a, ((op.handle ext (some claims) ids).run (exec ext) x w).1 = .ok a → a = op.report 0 := by
  by_cases authorized : op.Authorized x
  · rcases parseUuids_cases ext ids with ⟨s, -, -, fails⟩ | ⟨-, uuids, parses, listed⟩
    · rw [run_unparsed authorized fails]
      exact ⟨rfl, fun a answered => nomatch answered⟩
    · rw [run_parsed authorized parses]
      cases (op.decided x).failure with
      | some e => exact ⟨rfl, fun a answered => nomatch answered⟩
      | none =>
        have unselected : ∀ r ∈ w.db.notifications.rows,
            (op.update claims ids uuids (op.decided x).now).where_ r = false := by
          rw [op.update_where listed]
          exact none
        constructor
        · have kept : (op.update claims ids uuids (op.decided x).now).apply w.db.notifications =
              w.db.notifications := Table.update_of_forall unselected
          show updated w _ = w
          rw [updated, kept]
        · intro a answered
          have affected : (op.update claims ids uuids (op.decided x).now).affected
              w.db.notifications = 0 := by
            unfold Update.affected Table.select
            rw [List.length_eq_zero_iff, List.filter_eq_nil_iff]
            exact fun r stored => Bool.eq_false_iff.1 (unselected r stored)
          cases answered
          rw [affected]
  · obtain ⟨e, refused, -⟩ : ∃ e, (op.handle ext (some claims) ids).run (exec ext) x w =
        (.error e, w) ∧ e.code ≠ .invalidArgument := run_refused authorized
    rw [refused]
    exact ⟨rfl, fun a answered => nomatch answered⟩

theorem performed_of_parsed (op : Bulk)
    (listed : ∀ u, u ∈ uuids ↔ ∃ s ∈ ids, ext.parseUuid s = some u) :
    op.Performed ext claims ids now w
      (op.report ((op.update claims ids uuids now).affected w.db.notifications))
      (updated w (op.update claims ids uuids now)) := by
  have rows : (updated w (op.update claims ids uuids now)).db.notifications.rows =
      w.db.notifications.rows.map fun r =>
        if op.selects ext claims ids r then op.written now r else r := by
    show (w.db.notifications.rows.map fun r => if (op.update claims ids uuids now).where_ r then
      (op.update claims ids uuids now).set.set r else r) = _
    rw [op.update_where listed, op.update_set]
  refine ⟨rows, fun r => written_ne, rfl, ?_, fun y => run_unselected ?_⟩
  · unfold Update.affected Table.select
    rw [op.update_where listed, List.countP_eq_length_filter]
  · intro r stored
    rw [rows] at stored
    obtain ⟨r₀, -, rfl⟩ := List.mem_map.1 stored
    split
    next selected => exact not_selects_written
    next unselected => exact Bool.eq_false_iff.2 unselected

end

end Bulk

/-- A bulk operation that the caller may perform fails with an invalid argument exactly if some id is
not a UUID, and then changes nothing; otherwise, unless the database fails, it changes just what it
selects, once, tells how many that are, and changes nothing when it is repeated. -/
theorem bulk_exact (ext : Ext) (claims : AuthClaims) (op : Bulk) (ids : List String) (w : World)
    (x : ℕ → Choice) :
    let done := (op.handle ext (some claims) ids).run (exec ext) x w
    (¬ op.Authorized x → ∃ e, done = (.error e, w) ∧ e.code ≠ .invalidArgument) ∧
    (op.Authorized x →
      ((∃ e, done.1 = .error e ∧ e.code = .invalidArgument) ↔
        ∃ s ∈ ids, ext.parseUuid s = none) ∧
      ((∃ s ∈ ids, ext.parseUuid s = none) → done.2 = w) ∧
      ((∀ s ∈ ids, ext.parseUuid s ≠ none) →
        match (op.decided x).failure with
        | some e => done = (.error (.internal s!"db error: {ext.showDbError e}"), w)
        | none => ∃ answer w', done = (.ok answer, w') ∧
          op.Performed ext claims ids (op.decided x).now w answer w')) := by
  intro done
  refine ⟨Bulk.run_refused, fun authorized => ?_⟩
  rcases Bulk.parseUuids_cases ext ids with ⟨s, mem, unparsed, fails⟩ | ⟨all, uuids, parses, listed⟩
  · have failed : done = (.error (.invalidArgument s!"invalid UUID: {s}"), w) :=
      Bulk.run_unparsed authorized fails
    rw [failed]
    exact ⟨iff_of_true ⟨_, rfl, rfl⟩ ⟨s, mem, unparsed⟩, fun _ => rfl,
      fun all => absurd unparsed (all s mem)⟩
  · have ran : done = _ := Bulk.run_parsed authorized parses
    rw [ran]
    have none : ¬ ∃ s ∈ ids, ext.parseUuid s = none := fun ⟨s, mem, unparsed⟩ => all s mem unparsed
    cases (op.decided x).failure with
    | some e =>
      refine ⟨iff_of_false ?_ none, fun some => absurd some none, fun _ => rfl⟩
      rintro ⟨_, ⟨⟩, code⟩
      cases code
    | none =>
      refine ⟨iff_of_false ?_ none, fun some => absurd some none, fun _ => ?_⟩
      · rintro ⟨_, ⟨⟩, -⟩
      · exact ⟨_, _, rfl, op.performed_of_parsed listed⟩

/-- An id that is given twice marks one notification. -/
example : ((Bulk.markSeen.handle Sample.ext (some Sample.ann) ["3", "3"]).run (exec Sample.ext)
    (fun _ => Sample.choice) (Sample.world (.single (Sample.notification "unseen") rfl) [])).1 =
      .ok (some 1) := rfl

end Estafeta
