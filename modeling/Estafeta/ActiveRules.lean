import Estafeta.Snapshots

/-!
# Rules that run out

A processor loads the mute rules that are active when it reads them, and resolves with them for as
long as it has them in its cache. A rule that was left out had ended when the rules were loaded, and
by then `resolve` would not have heeded it (`resolve_prefiltered`); one that ends in the meantime is
among those loaded, and `resolve` looks at its end. So does a processor with what it has cached
(`cachedRules_decide`).
-/

open Relational Atomic

namespace Estafeta

/-- The preferences with other mute rules. -/
def CachedUserPrefs.withRules (prefs : CachedUserPrefs) (rules : List MuteRuleRow) :
    CachedUserPrefs :=
  { prefs with muteRules := rules.map cachedMuteRule }

section

variable {db : Db} {env env' : Env} {userId : String} {t t₀ : Time} {r : MuteRuleRow}
  {rules : List MuteRuleRow} {notifType : CachedNotificationType} {severity : Option Int32}

theorem active_of_mutes (later : t₀ ≤ t) (mutes : (cachedMuteRule r).mutes notifType t = true) :
    (r.mutedUntil.all fun u => t₀ < u) = true := by
  obtain ⟨-, active⟩ := (Bool.and_eq_true ..).mp mutes
  have active : (r.mutedUntil.isNone || r.mutedUntil.any fun u => t < u) = true := active
  cases ends : r.mutedUntil with
  | none => rfl
  | some u =>
    rw [ends] at active
    have active : t < u := of_decide_eq_true active
    exact decide_eq_true (later.trans_lt active)

theorem mem_listMuteRules :
    r ∈ Db.MuteRules.listMuteRules env userId db ↔ r ∈ db.muteRules.rows ∧ r.userId = userId := by
  unfold Db.MuteRules.listMuteRules
  rw [mem_sortOn, Table.mem_select, decide_eq_true_eq]

theorem mem_listActiveMuteRules :
    r ∈ Db.MuteRules.listActiveMuteRules env userId db ↔
      (r ∈ db.muteRules.rows ∧ r.userId = userId) ∧
        (r.mutedUntil.all fun u => env.now < u) = true := by
  unfold Db.MuteRules.listActiveMuteRules
  rw [mem_sortOn, Table.mem_select, Bool.and_eq_true, decide_eq_true_eq, and_assoc]

theorem resolve_withRules (prefs : CachedUserPrefs)
    (same : (∃ rule ∈ prefs.muteRules, rule.mutes notifType t = true) ↔
      ∃ r ∈ rules, (cachedMuteRule r).mutes notifType t = true) :
    resolve t prefs notifType severity = resolve t (prefs.withRules rules) notifType severity := by
  have muted : (prefs.muteRules.any fun rule => rule.mutes notifType t) =
      (rules.map cachedMuteRule).any fun rule => rule.mutes notifType t := by
    rw [Bool.eq_iff_iff, List.any_map, List.any_eq_true, List.any_eq_true]
    exact same
  unfold resolve CachedUserPrefs.withRules
  rw [muted]

/-- Of the rules of a user, those that were active at an earlier time mute what they all mute. -/
theorem active_mute_iff (later : t₀ ≤ t) :
    (∃ r, ((r ∈ db.muteRules.rows ∧ r.userId = userId) ∧
        (r.mutedUntil.all fun u => t₀ < u) = true) ∧
        (cachedMuteRule r).mutes notifType t = true) ↔
      ∃ r ∈ Db.MuteRules.listMuteRules env userId db,
        (cachedMuteRule r).mutes notifType t = true := by
  refine exists_congr fun r => and_congr_left fun mutes => ?_
  rw [mem_listMuteRules, and_iff_left (active_of_mutes later mutes)]

end

/-- Resolved with the rules that were active when they were loaded, a notification has the
configuration that all rules give it: at the time of loading, at any later time, and whatever the
order in which the database hands the rules out. -/
theorem resolve_prefiltered (db : Db) (userId : String) (env env' : Env) (t : Time)
    (later : env.now ≤ t) (prefs : CachedUserPrefs) (notifType : CachedNotificationType)
    (severity : Option Int32) :
    resolve t (prefs.withRules (Db.MuteRules.listActiveMuteRules env userId db)) notifType severity =
      resolve t (prefs.withRules (Db.MuteRules.listMuteRules env' userId db)) notifType
        severity := by
  refine resolve_withRules (prefs.withRules _) ?_
  rw [← active_mute_iff later]
  simp only [CachedUserPrefs.withRules, List.mem_map, exists_exists_and_eq_and,
    mem_listActiveMuteRules]

/-- What a processor has cached decides as all the rules that were stored when it read them, at any
time after that. -/
theorem cachedRules_decide {ext : Ext} {w₀ : World} {es pre post : History} {p : State}
    {s : Event Call Op Op.Ans World Choice} {inst : ℕ} {userId : String} {v : CachedUserPrefs}
    (run : (system ext).Run (Pool.idle w₀) es p) (split : es = pre ++ s :: post)
    (put : s.done = ⟨.cacheInsert inst .userPrefs userId v, ()⟩) :
    ∃ read t₀, LoadedAt es p.world s.tid userId read t₀ v ∧ ∀ env t, t₀ ≤ t →
      ∀ notifType severity, resolve t v notifType severity =
        resolve t (v.withRules (Db.MuteRules.listMuteRules env userId
          (worldAt es p.world (read .muteRule)).db)) notifType severity := by
  obtain ⟨read, t₀, loaded, -⟩ := prefs_loaded run split put
  refine ⟨read, t₀, loaded, fun env t later notifType severity => resolve_withRules _ ?_⟩
  have rules := loaded.same.muteRules
  rw [← active_mute_iff later]
  simp only [rules.mem_iff, prefsOf, World.prefPart, List.mem_map, exists_exists_and_eq_and,
    List.mem_filter, Table.mem_select, decide_eq_true_eq]

namespace Sample

/-- Rules of `ann` for `mail`, one that ends at time 5 and one that ends at time 9. -/
def ending : Db :=
  { db .empty with
    muteRules :=
      { rows := [⟨3, "ann", some 1, none, some 5, 0⟩, ⟨4, "ann", some 1, none, some 9, 1⟩]
        unique := by decide
        checked := fun _ _ => rfl } }

/-- The database at a time. -/
def envAt (t : Time) : Env where
  now := t
  uuid := 9
  rank id := id.toNat
  collationKey s := s

/-- Preferences that narrow nothing. -/
def openPrefs : CachedUserPrefs := ⟨true, [], [], []⟩

end Sample

open Sample in
/-- Loaded when the first has just ended, and resolved when the second does. -/
theorem resolve_prefiltered_ending :
    (Db.MuteRules.listActiveMuteRules (envAt 5) "ann" ending).length = 1 ∧
    resolve 9 (openPrefs.withRules (Db.MuteRules.listActiveMuteRules (envAt 5) "ann" ending))
        cachedType none =
      resolve 9 (openPrefs.withRules (Db.MuteRules.listMuteRules (envAt 5) "ann" ending)) cachedType
        none ∧
    (resolve 8 (openPrefs.withRules (Db.MuteRules.listMuteRules (envAt 5) "ann" ending)) cachedType
      none).shouldDeliver = false :=
  ⟨rfl, resolve_prefiltered ending "ann" (envAt 5) (envAt 5) 9 (by decide) openPrefs cachedType none,
    rfl⟩

end Estafeta
