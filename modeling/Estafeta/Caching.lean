import Estafeta.Registrations
import Estafeta.Loading
import Estafeta.Histories

/-!
# What the caches hold

A value that is found in a cache was put there by an event of the history, and has not been
invalidated since (`cached_origin`); a type that is found in the database was written by an event,
and not since (`type_origin`). With what justifies the insertions (`Justified`), this leads from what
a processor uses back to the reads that it rests on.
-/

open Relational Atomic

namespace Estafeta

variable {ext : Ext} {x : Choice} {o : Op} {w w₀ : World} {es : History} {p : State}

/-- A value in a cache has been put there, or was there before. -/
theorem caches_exec {inst : ℕ} {c : Cache} {key : String} {v : c.Value}
    (held : (exec ext x o w).2.caches inst c key = some v) :
    o = .cacheInsert inst c key v ∨ w.caches inst c key = some v ∧
      o ≠ .cacheInvalidate inst c key ∧ ∀ v', o ≠ .cacheInsert inst c key v' := by
  cases o with
  | cacheInsert inst' c' key' v' =>
    simp only [exec, World.setCache_get] at held
    split at held
    next same =>
      obtain ⟨rfl, rfl, rfl⟩ := same
      cases held
      exact .inl rfl
    next other =>
      refine .inr ⟨held, by simp, fun v'' same => other ?_⟩
      cases same
      exact ⟨rfl, rfl, rfl⟩
  | cacheInvalidate inst' c' key' =>
    simp only [exec, World.setCache_get] at held
    split at held
    next same =>
      obtain ⟨rfl, rfl, rfl⟩ := same
      cases held
    next other =>
      refine .inr ⟨held, fun same => other ?_, by simp⟩
      cases same
      exact ⟨rfl, rfl, rfl⟩
  | sql q =>
    refine .inr ⟨?_, by simp, by simp⟩
    rcases execSql_cases ext x q w with ⟨e, failed⟩ | ⟨a, db, ok, answered⟩
    · simpa only [exec, failed] using held
    · simpa only [exec, answered] using held
  | publishIngest | publish | ack =>
    refine .inr ⟨?_, by simp, by simp⟩
    simp only [exec] at held
    split at held <;> exact held
  | _ => exact .inr ⟨held, by simp, by simp⟩

/-- Since an event put a value into a cache, nothing has been put in its place. -/
def Stays (inst : ℕ) (c : Cache) (key : String) (es : History) : Prop :=
  ∀ e ∈ es, e.op ≠ .cacheInvalidate inst c key ∧ ∀ v, e.op ≠ .cacheInsert inst c key v

/-- A value in a cache has been put there by an event, and has stayed there since. -/
theorem cached_origin (run : (system ext).Run (Pool.idle w₀) es p)
    (cold : ∀ inst c key, w₀.caches inst c key = none) {inst : ℕ} {c : Cache} {key : String}
    {v : c.Value} (held : p.world.caches inst c key = some v) :
    ∃ pre d post, es = pre ++ d :: post ∧ d.done = ⟨.cacheInsert inst c key v, ()⟩ ∧
      Stays inst c key post := by
  induction run with
  | init => cases (cold inst c key).symm.trans held
  | start _ _ _ ih => exact ih held
  | @step es p i k o l x _ _ ih =>
    rcases caches_exec held with rfl | ⟨before, other⟩
    · exact ⟨es, _, [], rfl, rfl, by simp [Stays]⟩
    · obtain ⟨pre, d, post, rfl, put, since⟩ := ih before
      refine ⟨pre, d, post ++ [(system ext).event i k o x p.world], by simp, put, fun e he => ?_⟩
      rcases List.mem_append.1 he with he | he
      · exact since e he
      · exact List.mem_singleton.1 he ▸ other

/-- A type that is found has been written by an event, and not since, or was there at the start. -/
theorem type_origin (run : (system ext).Run (Pool.idle w₀) es p) {serviceId : Uuid}
    {typeKey : String} {row : NotificationTypeRow}
    (found : p.world.db.notificationTypes.lookup (.typeKey serviceId typeKey) = some row) :
    (∃ pre e post, es = pre ++ e :: post ∧
        typeWritten e.op e.ans = some (serviceId, typeKey, row) ∧
        ∀ e' ∈ post, ∀ row', typeWritten e'.op e'.ans ≠ some (serviceId, typeKey, row')) ∨
      ∀ e ∈ es, ∀ row', typeWritten e.op e.ans ≠ some (serviceId, typeKey, row') := by
  induction run with
  | init => exact .inr (by simp)
  | start _ _ _ ih => exact ih found
  | @step es p i c o k x _ _ ih =>
    rcases types_exec ext x o p.world serviceId typeKey with ⟨row', written, found'⟩ |
      ⟨unwritten, same⟩
    · cases found.symm.trans found'
      exact .inl ⟨es, _, [], rfl, written, by simp⟩
    · have later : ∀ {l : History}, (∀ e' ∈ l, ∀ row',
          typeWritten e'.op e'.ans ≠ some (serviceId, typeKey, row')) →
          ∀ e' ∈ l ++ [(system ext).event i c o x p.world], ∀ row',
            typeWritten e'.op e'.ans ≠ some (serviceId, typeKey, row') := by
        intro l since e' he'
        rcases List.mem_append.1 he' with he' | he'
        · exact since e' he'
        · exact List.mem_singleton.1 he' ▸ unwritten
      rcases ih (same.symm.trans found) with ⟨pre, e, post, rfl, written, since⟩ | since
      · exact .inl ⟨pre, e, _, by simp, written, later since⟩
      · exact .inr (later since)

/-! ## Insertions -/

theorem Op.stores_sql {q : Sql} (h : Op.stores (.sql q) = true) :
    ∃ n, q = .notifications (.insertNotification n) := by
  unfold Op.stores at h
  split at h
  next same => cases same
  next n same =>
    cases same
    exact ⟨n, rfl⟩
  next => cases h

/-- Only processors put values into caches, and store notifications. -/
theorem processor_of_stores {c : Call} {s : Phase} (permitted : c.monitor.may s o)
    (stores : o.stores = true) : ∃ inst seq, c = .processor inst seq := by
  cases c with
  | processor inst seq => exact ⟨inst, seq, rfl⟩
  | rpc inst extensions r =>
    cases s with
    | rpc granted =>
      rcases permitted with ⟨q, rfl, registry⟩ | ⟨_, q, _, rfl, _, owner⟩ | ⟨_, ⟨q, rfl, reads⟩ | rfl |
        ⟨_, _, _, rfl⟩ | ⟨_, rfl⟩ | ⟨claims, check, _, privileged, _⟩⟩
      · obtain ⟨n, rfl⟩ := Op.stores_sql stores
        cases registry
      · obtain ⟨n, rfl⟩ := Op.stores_sql stores
        cases owner
      · obtain ⟨n, rfl⟩ := Op.stores_sql stores
        cases reads
      · cases stores
      · cases stores
      · cases stores
      · cases privileged with
        | admin admin =>
          obtain ⟨n, rfl⟩ := Op.stores_sql stores
          cases admin
        | producer => cases stores
        | publish => cases stores
    | _ => exact permitted.elim
  | escalation =>
    simp only [Call.monitor, escalationMonitor] at permitted
    split at permitted
    next => cases stores
    next => cases stores
    next => cases stores
    next => cases stores
    next =>
      obtain ⟨n, same⟩ := Op.stores_sql stores
      cases same
      unfold escalationQuery at permitted
      split at permitted <;> cases permitted
    next => exact permitted.elim
  | snoozeWake | ttlExpiry =>
    simp only [Call.monitor, sweepMonitor] at permitted
    split at permitted
    next =>
      obtain ⟨n, same⟩ := Op.stores_sql stores
      cases permitted.symm.trans same
    next => cases stores
    next => exact permitted.elim

/-- What puts a value into a cache, or stores a notification, is a processor, and what it has done
justifies it. -/
theorem justified_of_stores (run : (system ext).Run (Pool.idle w₀) es p) {pre post : History}
    {d : Event Call Op Op.Ans World Choice} (split : es = pre ++ d :: post)
    (stores : d.op.stores = true) :
    ∃ inst seq, d.call = .processor inst seq ∧ Justified inst seq (doneBy pre d.tid) d.op := by
  obtain ⟨g, watched, _⟩ := phased run
  obtain ⟨_, call, s, o, x, w, performed, permitted⟩ := watched.permitted d (by simp [split])
  have justified := (recorded run).1 pre d post split
  subst performed
  obtain ⟨inst, seq, rfl⟩ := processor_of_stores permitted stores
  exact ⟨inst, seq, rfl, justified⟩

/-- An insertion is a processor's, and justified by what it has done. -/
theorem insertion (run : (system ext).Run (Pool.idle w₀) es p) {pre post : History}
    {d : Event Call Op Op.Ans World Choice} {inst : ℕ} {c : Cache} {key : String} {v : c.Value}
    (split : es = pre ++ d :: post) (put : d.done = ⟨.cacheInsert inst c key v, ()⟩) :
    ∃ seq, d.call = .processor inst seq ∧
      Justified inst seq (doneBy pre d.tid) (.cacheInsert inst c key v) := by
  have op : d.op = .cacheInsert inst c key v := congrArg Sigma.fst put
  obtain ⟨inst', seq, call, justified⟩ := justified_of_stores run split (by rw [op]; rfl)
  rw [op] at justified
  generalize doneBy pre d.tid = h at justified ⊢
  obtain rfl : inst' = inst := by
    cases justified with
    | other stores => cases stores
    | _ => rfl
  exact ⟨seq, call, justified⟩

/-- What is found in a cache was put there by an earlier event, and has stayed there since. -/
theorem hit_origin {pre post : History} {e : Event Call Op Op.Ans World Choice}
    (run : (system ext).Run (Pool.idle w₀) (pre ++ e :: post) p)
    (cold : ∀ inst c key, w₀.caches inst c key = none) {inst : ℕ} {c : Cache} {key : String}
    {v : c.Value} (hit : e.done = ⟨.cacheGet inst c key, some v⟩) :
    ∃ pre' d mid, pre = pre' ++ d :: mid ∧ d.done = ⟨.cacheInsert inst c key v, ()⟩ ∧
      Stays inst c key mid := by
  obtain ⟨q, _, _, o, _, x, rfl, run', _⟩ := run.at
  cases o with
  | cacheGet inst' c' key' =>
    obtain ⟨same, answer⟩ := Sigma.mk.inj hit
    cases same
    have answer : (if x.evicted then none else q.world.caches inst c key) = some v :=
      eq_of_heq answer
    split at answer
    · cases answer
    · exact cached_origin run' cold answer
  | _ => cases (Sigma.mk.inj hit).1

/-- Where a value that thread `i` has got from a cache was put there: by the thread itself, or by
another one, and nothing was put in its place until the thread found it. -/
inductive PutAt (inst : ℕ) (c : Cache) (key : String) (v : c.Value) (es : History) (i : ℕ) :
    History → Event Call Op Op.Ans World Choice → Prop where
  | own {pre d post} : es = pre ++ d :: post → d.tid = i →
    d.done = ⟨.cacheInsert inst c key v, ()⟩ → PutAt inst c key v es i pre d
  | found {pre d mid e post} : es = pre ++ d :: (mid ++ e :: post) →
    d.done = ⟨.cacheInsert inst c key v, ()⟩ → Stays inst c key mid → e.tid = i →
    e.done = ⟨.cacheGet inst c key, some v⟩ → PutAt inst c key v es i pre d

theorem got_putAt (run : (system ext).Run (Pool.idle w₀) es p)
    (cold : ∀ inst c key, w₀.caches inst c key = none) {inst i : ℕ} {c : Cache} {key : String}
    {v : c.Value} (got : Got inst c key v (doneBy es i)) :
    ∃ pre d, PutAt inst c key v es i pre d := by
  rcases got with hit | put
  · obtain ⟨e, he, own, done⟩ := mem_doneBy.1 hit
    obtain ⟨pre, post, rfl⟩ := List.append_of_mem he
    obtain ⟨pre', d, mid, rfl, put, stays⟩ := hit_origin run cold done
    exact ⟨pre', d, .found (List.append_assoc ..) put stays own done⟩
  · obtain ⟨e, he, own, done⟩ := mem_doneBy.1 put
    obtain ⟨pre, post, rfl⟩ := List.append_of_mem he
    exact ⟨pre, e, .own rfl own done⟩

theorem PutAt.split {inst i : ℕ} {c : Cache} {key : String} {v : c.Value} {pre : History}
    {d : Event Call Op Op.Ans World Choice} (put : PutAt inst c key v es i pre d) :
    ∃ post, es = pre ++ d :: post ∧ d.done = ⟨.cacheInsert inst c key v, ()⟩ := by
  cases put with
  | own split _ put => exact ⟨_, split, put⟩
  | found split put => exact ⟨_, split, put⟩

theorem got_origin (run : (system ext).Run (Pool.idle w₀) es p)
    (cold : ∀ inst c key, w₀.caches inst c key = none) {inst i : ℕ} {c : Cache} {key : String}
    {v : c.Value} (got : Got inst c key v (doneBy es i)) :
    ∃ pre d post, es = pre ++ d :: post ∧ d.done = ⟨.cacheInsert inst c key v, ()⟩ := by
  obtain ⟨pre, d, put⟩ := got_putAt run cold got
  exact ⟨pre, d, put.split⟩

theorem answered {e : Event Call Op Op.Ans World Choice} {q : Sql} {a : q.Resp}
    (run : (system ext).Run (Pool.idle w₀) es p) (he : e ∈ es) (done : e.done = ⟨.sql q, .ok a⟩) :
    q.exec (e.choice.env ext) e.before.db = .ok (a, e.after.db) := by
  obtain ⟨i, c, o, x, w, rfl⟩ := performed run e he
  cases o with
  | sql q' =>
    obtain ⟨same, answer⟩ := Sigma.mk.inj done
    cases same
    have answer : (execSql ext x q w).1 = .ok a := eq_of_heq answer
    show q.exec (x.env ext) w.db = .ok (a, (execSql ext x q w).2.db)
    rcases execSql_cases ext x q w with ⟨e, failed⟩ | ⟨a', db, ok, same⟩
    · rw [failed] at answer
      cases answer
    · rw [same] at answer ⊢
      cases answer
      exact ok
  | _ => cases (Sigma.mk.inj done).1

/-- A service is found under its slug from then on, with the same id. -/
theorem service_since {pre post : History} {e : Event Call Op Op.Ans World Choice} {slug : String}
    {service : ServiceRow} (run : (system ext).Run (Pool.idle w₀) (pre ++ e :: post) p)
    (found : e.before.db.services.lookup (.slug slug) = some service) :
    ∃ service', p.world.db.services.lookup (.slug slug) = some service' ∧
      service'.id = service.id := by
  refine run.since
    (K := fun w => ∃ r, w.db.services.lookup (.slug slug) = some r ∧ r.id = service.id)
    (fun x o w ⟨r, found, same⟩ => ?_) ⟨service, found, rfl⟩
  obtain ⟨r', found', same'⟩ := service_exec ext x o found
  exact ⟨r', found', same'.trans same⟩

/-- A thread has read a service, and then run a statement: when it did, the service was still found. -/
theorem two_reads (run : (system ext).Run (Pool.idle w₀) es p) {pre post : History} {i : ℕ}
    {h t : Record} {slug : String} {service : ServiceRow} {q : Sql} {a : q.Resp}
    (split : es = pre ++ post) (past : doneBy pre i =
      h ++ ⟨.sql (.services (.getServiceBySlug slug)), .ok (some service)⟩ :: ⟨.sql q, .ok a⟩ :: t) :
    ∃ before r after service', pre = before ++ r :: after ∧ r.tid = i ∧
      r.done = ⟨.sql q, .ok a⟩ ∧ q.exec (r.choice.env ext) r.before.db = .ok (a, r.after.db) ∧
      r.before.db.services.lookup (.slug slug) = some service' ∧ service'.id = service.id := by
  obtain ⟨before, s, after, rfl, _, read, _, rest⟩ := doneBy_split past
  obtain ⟨mid, r, after, rfl, own, read', _, _⟩ := doneBy_split (h := []) rest
  have split : es = (before ++ s :: mid) ++ r :: (after ++ post) := by simp [split]
  have exec := answered run (by simp [split]) read'
  have found := congrArg Prod.fst (Except.ok.inj (answered run (by simp [split]) read))
  subst split
  obtain ⟨q', _, _, _, _, _, rfl, run', _⟩ := run.at
  obtain ⟨service', found', same⟩ := service_since run' found
  exact ⟨before ++ s :: mid, _, after, service', by simp, own, read', exec, found', same⟩

end Estafeta
