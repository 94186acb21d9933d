import Estafeta.CacheKeys
import Estafeta.Snapshots

/-!
# Deciding with what is cached

Preferences and levels are not invalidated when they are written: a processor may go on using what it
has cached. What it decides is what the preferences and the level give as they were when they were
last put into the cache (`decidedAsLoaded`), and so what they give now, if they have not changed since
they were read.
-/

open Relational Atomic

namespace Estafeta

section Resolve

variable {now : Time} {prefs : CachedUserPrefs} {notifType notifType' : CachedNotificationType}

/-- Whether a notification is delivered depends on the type only by its ids. -/
theorem resolve_state (id : notifType.id = notifType'.id)
    (serviceId : notifType.serviceId = notifType'.serviceId) (severity : Option Int32) :
    (resolve now prefs notifType severity).state = (resolve now prefs notifType' severity).state := by
  have mutes : ∀ rule : CachedMuteRule, rule.mutes notifType now = rule.mutes notifType' now := by
    intro rule
    rw [CachedMuteRule.mutes, CachedMuteRule.mutes, id, serviceId]
  unfold resolve
  simp only [mutes, id, serviceId]
  split
  · rfl
  · split
    · rfl
    · split
      · rfl
      · split
        · split <;> rfl
        · rfl

end Resolve

/-! ## Where it was read -/

/-- The preferences that thread `i` has got were read at these positions of the history and at the
time `t`, before they were put into the cache. -/
def PrefsAt (inst : ℕ) (userId : String) (es : History) (w : World) (i : ℕ) (read : PrefPart → ℕ)
    (t : Time) : Prop :=
  ∃ v before s, PutAt inst .userPrefs userId v es i before s ∧
    LoadedAt es w s.tid userId read t v ∧ read .muteRule < before.length

/-- Thread `i` reads the level of a message at a position of the history. -/
def ReadsLevel (m : IngestMessage) (es : History) (i l : ℕ) : Prop :=
  ∃ e serviceId, es[l]? = some e ∧ e.tid = i ∧
    e.op = .sql (.schemas (.getNotificationLevel serviceId m.level))

/-- The level that thread `i` has for a message, if the message names one, was read at a position of
the history, before it was put into the cache, or by the thread itself, which found none. -/
inductive LevelAt (inst : ℕ) (m : IngestMessage) (es : History) (i l : ℕ) : Prop where
  | unnamed : m.level = "" → LevelAt inst m es i l
  | cached {v before s} :
    PutAt inst .notificationLevels (notificationLevelKey m.serviceSlug m.level) v es i before s →
    ReadsLevel m before s.tid l → LevelAt inst m es i l
  | absent : ReadsLevel m es i l → LevelAt inst m es i l

/-- The preferences of the recipient and the level of a message are what they were when they were
read. -/
structure Untouched (m : IngestMessage) (es : History) (w : World) (read : PrefPart → ℕ) (l : ℕ) :
    Prop where
  prefs : ∀ k n, read k ≤ n →
    ¬ Snapshot.Changes (World.prefPart m.recipientUserId) (worldAt es w) k n
  level : ∀ n, l ≤ n →
    (worldAt es w (n + 1)).db.messageLevel m = (worldAt es w n).db.messageLevel m

section Read

variable {ext : Ext} {w₀ : World} {es : History} {p : State} {inst i seq : ℕ} {m : IngestMessage}

theorem current_type (run : (system ext).Run (Pool.idle w₀) es p)
    (cold : ∀ inst c key, w₀.caches inst c key = none) (apart : Apart inst es)
    (processed : Processes inst es m) {v : CachedNotificationType}
    (got : Got inst .notificationTypes (notificationTypeKey m.serviceSlug m.notificationType) v
      (doneBy es i)) :
    ∃ nt, p.world.db.typeOf m.serviceSlug m.notificationType = some nt ∧ v.id = nt.id ∧
      v.serviceId = nt.serviceId := by
  obtain ⟨service, nt, found, typed, serviceId, id, _⟩ := (usesOwn run cold apart processed).type v got
  refine ⟨cachedNotificationType nt, ?_, id, ?_⟩
  · unfold Db.typeOf
    rw [found, Option.bind_some, typed, Option.map_some]
  · obtain ⟨ofService, _⟩ := typeKey_mem_keys.1 (Table.key_of_lookup typed)
    exact serviceId.trans ofService.symm

/-- What is resolved with the preferences that a thread has got rests on what was read. -/
theorem prefsAt_of_got (run : (system ext).Run (Pool.idle w₀) es p)
    (cold : ∀ inst c key, w₀.caches inst c key = none) {userId : String} {v : CachedUserPrefs}
    (got : Got inst .userPrefs userId v (doneBy es i)) :
    ∃ read t, PrefsAt inst userId es p.world i read t ∧ ∀ now notifType severity,
      resolve now v notifType severity =
        resolve now (prefsOf (fun k => (worldAt es p.world (read k)).prefPart userId k) t) notifType
          severity := by
  obtain ⟨before, s, put⟩ := got_putAt run cold got
  obtain ⟨post, split, done⟩ := put.split
  obtain ⟨read, t, loaded, earlier⟩ := prefs_loaded run split done
  exact ⟨read, t, ⟨v, before, s, put, loaded, earlier⟩, loaded.resolve⟩

/-- The level that a thread has for a message is the one that was registered when it was read. -/
theorem levelAt_of_got (run : (system ext).Run (Pool.idle w₀) es p)
    (cold : ∀ inst c key, w₀.caches inst c key = none) (apart : LevelsApart inst es)
    (processed : Processes inst es m) {level : Option CachedNotificationLevel}
    (got : GotLevel inst m (doneBy es i) level) :
    ∃ l, LevelAt inst m es i l ∧ (worldAt es p.world l).db.messageLevel m = level := by
  cases got with
  | unnamed none =>
    refine ⟨0, .unnamed none, ?_⟩
    unfold Db.messageLevel
    simp [none]
  | @got v named got =>
    obtain ⟨before, s, put⟩ := got_putAt run cold got
    obtain ⟨post, split, done⟩ := put.split
    obtain ⟨start, r, rest, m', service, level, rfl, loaded⟩ := level_loaded run split done
    obtain ⟨slug, key⟩ := apart.eq_of_key processed loaded.received named loaded.named loaded.key
    obtain ⟨serviceId, reads⟩ := loaded.reads
    refine ⟨start.length, .cached put ⟨r, serviceId, by simp, loaded.own, key ▸ reads⟩, ?_⟩
    rw [worldAt_of_getElem? (e := r) (by simp [split]), Db.messageLevel, if_pos (by simpa using named),
      Db.levelOf, slug, key, loaded.found, Option.bind_some, loaded.levelled, loaded.value,
      Option.map_some]
  | @absent h service reads =>
    obtain ⟨t, past⟩ := reads
    rw [List.append_assoc] at past
    obtain ⟨before, r, after, service', rfl, own, read, exec, found, same⟩ :=
      two_reads run (List.append_nil es).symm past.symm
    have absent := congrArg Prod.fst (Except.ok.inj exec)
    refine ⟨before.length, .absent ⟨r, _, by simp, own, congrArg Sigma.fst read⟩, ?_⟩
    rw [worldAt_of_getElem? (e := r) (by simp), Db.messageLevel, Db.levelOf, found, Option.bind_some,
      same, show r.before.db.notificationLevels.lookup (.key service.id m.level) = none from absent]
    split <;> rfl

/-- Preferences and a level that have not changed since they were read are current. -/
theorem Untouched.current {w : World} {read : PrefPart → ℕ} {l : ℕ}
    (untouched : Untouched m es w read l) (t : Time) :
    prefsOf (fun k => (worldAt es w (read k)).prefPart m.recipientUserId k) t =
        w.db.prefs m.recipientUserId t ∧
      (worldAt es w l).db.messageLevel m = w.db.messageLevel m := by
  have last : ∀ n, worldAt es w (max n es.length) = w := by
    intro n
    unfold worldAt
    rw [List.getElem?_eq_none (le_max_right ..)]
    rfl
  constructor
  · rw [← prefsOf_prefPart]
    congr 1
    funext k
    have same := Snapshot.eq_of_unchanged (le_max_left (read k) es.length) fun n low _ =>
      untouched.prefs k n low
    rw [last] at same
    exact same.symm
  · have same := @Snapshot.eq_of_unchanged World Unit _ (fun _ w => w.db.messageLevel m) _ () _ _
      (le_max_left l es.length) fun n low _ => not_not.2 (untouched.level n low)
    rw [last] at same
    exact same.symm

end Read

/-! ## Decisions -/

/-- The calls that write preferences, and `updateLevel`. -/
def Rpc.writesPrefs : Rpc → Bool
  | .updatePreferences _ | .setServicePreference _ | .deleteServicePreference _
  | .setTypePreference _ | .deleteTypePreference _ | .createMuteRule _ | .deleteMuteRule _
  | .updateLevel _ => true
  | _ => false

/-- One instance processes messages, preferences are written, and levels are updated. -/
def Call.writesOrProcesses (inst : ℕ) : Call → Bool
  | .processor inst' _ => inst' = inst
  | .rpc inst' _ r => inst' = inst && r.writesPrefs
  | _ => false

namespace Sample

/-- A message is processed, then `ann` turns notifications off, and then the other is processed. -/
def turnedOff : State × History :=
  played twice (.start 0 (.processor 0 0) :: (List.replicate 16 (.step 0 choice) ++
    .start 1 (.rpc 0 (some ann) (.updatePreferences ⟨false, "", ""⟩)) :: .step 1 choice ::
      .start 2 (.processor 0 1) :: List.replicate 6 (.step 2 choice)))

end Sample

/-- A message is delivered or suppressed as the recipient's preferences and the level say that were
last put into the cache, and so as they say now if they have not changed since they were read. -/
theorem decidedAsLoaded {ext : Ext} {w₀ : World} {es pre post : History} {p : State}
    {d : Event Call Op Op.Ans World Choice} {inst seq : ℕ} {n : Db.Notifications.InsertNotification}
    (run : (system ext).Run (Pool.idle w₀) es p)
    (cold : ∀ inst c key, w₀.caches inst c key = none) (split : es = pre ++ d :: post)
    (call : d.call = .processor inst seq) (op : d.op = .sql (.notifications (.insertNotification n)))
    (apart : Apart inst pre) :
    ∃ m now nt read t l, Received seq m (doneBy pre d.tid) ∧ ⟨.utcNow, now⟩ ∈ doneBy pre d.tid ∧
      d.before.db.typeOf m.serviceSlug m.notificationType = some nt ∧
      PrefsAt inst m.recipientUserId pre d.before d.tid read t ∧ LevelAt inst m pre d.tid l ∧
      n.state = (resolve now
        (prefsOf (fun k => (worldAt pre d.before (read k)).prefPart m.recipientUserId k) t) nt
        (((worldAt pre d.before l).db.messageLevel m).map (·.severity))).state ∧
      (t ≤ now → Untouched m pre d.before read l →
        n.state = (d.before.db.configOf m nt now).state) := by
  obtain ⟨inst', seq', call', justified⟩ := justified_of_stores run split (by rw [op]; rfl)
  cases call.symm.trans call'
  rw [op] at justified
  rw [split] at run
  obtain ⟨q, i, c, o, k, x, event, run, thread, _⟩ := run.at
  have thread : q.threads d.tid = some (d.call, .call o k) := event ▸ thread
  have world : d.before = q.world := event ▸ rfl
  rw [call] at thread
  rw [world]
  clear event split op
  generalize d.tid = i at thread justified ⊢
  generalize past : doneBy pre i = h at justified
  cases justified with
  | @store h m notifType level level' prefs expiresAt nextEscalationAt now received typed levelled _
      preferred clock =>
    subst past
    have processed := processes_of_received run thread received
    obtain ⟨nt, current, id, serviceId⟩ := current_type run cold apart processed typed
    obtain ⟨read, t, prefsAt, resolves⟩ := prefsAt_of_got run cold preferred
    obtain ⟨l, levelAt, rfl⟩ := levelAt_of_got run cold apart.levels processed levelled
    have decided : (resolve now prefs notifType _).state = _ :=
      (resolve_state id serviceId (((worldAt pre q.world l).db.messageLevel m).map (·.severity))).trans
        (congrArg ResolvedConfig.state (resolves now nt _))
    refine ⟨m, now, nt, read, t, l, received, clock, current, prefsAt, levelAt, decided,
      fun earlier untouched => ?_⟩
    obtain ⟨prefs, level⟩ := untouched.current t
    refine decided.trans ?_
    unfold Db.configOf
    rw [← resolve_later earlier]
    exact congrArg₂ (fun prefs level =>
      (resolve now prefs nt (level.map (·.severity))).state) prefs level
  | other stores => cases stores

theorem decidedAsLoaded_turnedOff : ∃ d n m now nt read t l,
    d ∈ Sample.turnedOff.2 ∧ d.op = .sql (.notifications (.insertNotification n)) ∧
    Received 1 m (doneBy (Sample.turnedOff.2.take 22) d.tid) ∧
    ⟨.utcNow, now⟩ ∈ doneBy (Sample.turnedOff.2.take 22) d.tid ∧
    d.before.db.typeOf m.serviceSlug m.notificationType = some nt ∧
    PrefsAt 0 m.recipientUserId (Sample.turnedOff.2.take 22) d.before d.tid read t ∧
    LevelAt 0 m (Sample.turnedOff.2.take 22) d.tid l ∧
    n.state = (resolve now
      (prefsOf (fun k => (worldAt (Sample.turnedOff.2.take 22) d.before (read k)).prefPart
        m.recipientUserId k) t) nt
      (((worldAt (Sample.turnedOff.2.take 22) d.before l).db.messageLevel m).map (·.severity))).state ∧
    (t ≤ now → Untouched m (Sample.turnedOff.2.take 22) d.before read l →
      n.state = (d.before.db.configOf m nt now).state) := by
  have run : (system Sample.ext).Run (Pool.idle Sample.twice) Sample.turnedOff.2
      Sample.turnedOff.1 := Sample.run_played rfl
  obtain ⟨d, post, n, split, call, op⟩ : ∃ d post n,
      Sample.turnedOff.2 = Sample.turnedOff.2.take 22 ++ d :: post ∧ d.call = .processor 0 1 ∧
        d.op = .sql (.notifications (.insertNotification n)) :=
    ⟨_, _, _, rfl, rfl, rfl⟩
  have checked : ((Sample.turnedOff.2.take 22).all fun e => Sample.plain e.done) = true := rfl
  have mem : d ∈ Sample.turnedOff.2 := by
    rw [split]
    simp
  obtain ⟨m, now, nt, read, t, l, decided⟩ :=
    decidedAsLoaded run (fun _ _ _ => rfl) split call op (Sample.apart_of_plain checked)
  exact ⟨d, n, m, now, nt, read, t, l, mem, op, decided⟩

/-- A message is delivered although its recipient has turned notifications off. -/
theorem not_decidedAsLoaded : ¬ ∀ (ext : Ext) (w₀ : World) (es pre post : History) (p : State)
    (d : Event Call Op Op.Ans World Choice) (inst seq : ℕ) (n : Db.Notifications.InsertNotification)
    (m : IngestMessage) (now : Time) (nt : CachedNotificationType),
    (system ext).Run (Pool.idle w₀) es p → (∀ inst c key, w₀.caches inst c key = none) →
      Serial es → (∀ e ∈ es, e.call.writesOrProcesses inst = true) → es = pre ++ d :: post →
      (∃ j extensions r a, j < d.tid ∧ r.writesPrefs = true ∧
        p.threads j = some (.rpc inst extensions r, .ret a)) →
      d.call = .processor inst seq → d.op = .sql (.notifications (.insertNotification n)) →
      Received seq m (doneBy pre d.tid) → ⟨.utcNow, now⟩ ∈ doneBy pre d.tid →
      d.before.db.typeOf m.serviceSlug m.notificationType = some nt →
      n.state = (d.before.db.configOf m nt now).state := by
  intro current
  have run : (system Sample.ext).Run (Pool.idle Sample.twice) Sample.turnedOff.2
      Sample.turnedOff.1 := Sample.run_played rfl
  have tids : Sample.turnedOff.2.map (·.tid) =
      List.replicate 16 0 ++ 1 :: List.replicate 6 2 := rfl
  have serial : Serial Sample.turnedOff.2 := by
    apply List.pairwise_map.1
    rw [tids]
    decide
  have calls : (Sample.turnedOff.2.all fun e => e.call.writesOrProcesses 0) = true := rfl
  obtain ⟨d, post, n, split, call, op, tid, typed, delivered, suppressed⟩ : ∃ d post n,
      Sample.turnedOff.2 = Sample.turnedOff.2.take 22 ++ d :: post ∧ d.call = .processor 0 1 ∧
        d.op = .sql (.notifications (.insertNotification n)) ∧ d.tid = 2 ∧
        d.before.db.typeOf "mail" "letter" = some Sample.cachedType ∧ n.state = "unseen" ∧
        (d.before.db.configOf { Sample.message with notificationId := 5, idempotencyKey := none }
          Sample.cachedType 7).state = "archived" :=
    ⟨_, _, _, rfl, rfl, rfl, rfl, rfl, rfl, rfl⟩
  have received : Received 1 { Sample.message with notificationId := 5, idempotencyKey := none }
      (doneBy (Sample.turnedOff.2.take 22) d.tid) := tid ▸ rfl
  have clock : ⟨.utcNow, 7⟩ ∈ doneBy (Sample.turnedOff.2.take 22) d.tid :=
    tid ▸ .tail _ (.tail _ (.tail _ (.head _)))
  have written : ∃ j extensions r a, j < d.tid ∧ r.writesPrefs = true ∧
      Sample.turnedOff.1.threads j = some (.rpc 0 extensions r, .ret a) :=
    ⟨1, _, _, _, tid ▸ by decide, rfl, rfl⟩
  have same := current _ _ _ _ _ _ d 0 1 n _ 7 Sample.cachedType run (fun _ _ _ => rfl) serial
    (List.all_eq_true.1 calls) split written call op received clock typed
  exact absurd (delivered.symm.trans (same.trans suppressed)) (by decide)

end Estafeta
