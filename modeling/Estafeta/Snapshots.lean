import Estafeta.Interference
import Estafeta.Caching
import Estafeta.Lib.Snapshot

/-!
# Loading preferences

A processor reads the preferences of a user with four statements, and anything may happen between
them. What it has of them in the end is what each part was when it was read (`LoadedAt`). If no part
changes after it was read and before one that is yet to be read, what is resolved is what the
preferences gave at a single moment (`resolvedAtOnce`).
-/

open Relational Atomic

namespace Estafeta

/-! ## Parts of the preferences -/

/-- The parts of a user's preferences, each with a table of its own. -/
inductive PrefPart where
  | user
  | service
  | type
  | muteRule

/-- What is stored of a part. -/
@[reducible] def PrefPart.Rows : PrefPart → Type
  | .user => Bool
  | .service => List UserServicePreferenceRow
  | .type => List UserTypePreferenceRow
  | .muteRule => List MuteRuleRow

/-- The statement that reads a part. -/
def PrefPart.query (userId : String) : PrefPart → Sql
  | .user => .preferences (.getOrCreateUserPreference userId)
  | .service => .preferences (.listServicePreferences userId)
  | .type => .preferences (.listTypePreferences userId)
  | .muteRule => .muteRules (.listActiveMuteRules userId)

/-- A part of the preferences of a user. -/
def World.prefPart (userId : String) : (k : PrefPart) → World → k.Rows
  | .user, w => w.db.globalEnabled userId
  | .service, w => w.db.userServicePreferences.select fun r => r.userId = userId
  | .type, w => w.db.userTypePreferences.select fun r => r.userId = userId
  | .muteRule, w => w.db.muteRules.select fun r => r.userId = userId

/-- The preferences that parts make up, with the mute rules that are active at a time. -/
def prefsOf (parts : (k : PrefPart) → k.Rows) (t : Time) : CachedUserPrefs where
  globalEnabled := parts .user
  servicePrefs := (parts .service).map cachedServicePref
  typePrefs := (parts .type).map cachedTypePref
  muteRules := ((parts .muteRule).filter fun r => r.mutedUntil.all fun u => t < u).map cachedMuteRule

section Parts

variable {userId : String} {w : World} {t : Time} {parts : (k : PrefPart) → k.Rows}

theorem prefsOf_prefPart : prefsOf (fun k => w.prefPart userId k) t = w.db.prefs userId t := by
  unfold prefsOf Db.prefs
  simp only [World.prefPart, Table.select, List.filter_filter]
  congr 3
  funext r
  exact Bool.and_comm ..

/-- Parts that were stored at different moments make up preferences as well. -/
theorem distinct_prefsOf (stored : ∀ k, ∃ w : World, parts k = w.prefPart userId k) :
    (prefsOf parts t).Distinct where
  service := by
    obtain ⟨w, same⟩ := stored .service
    have distinct : (w.db.prefs userId t).Distinct := distinct_prefs
    have service := distinct.service
    rw [← prefsOf_prefPart] at service
    unfold prefsOf at service ⊢
    rwa [same]
  type := by
    obtain ⟨w, same⟩ := stored .type
    have distinct : (w.db.prefs userId t).Distinct := distinct_prefs
    have type := distinct.type
    rw [← prefsOf_prefPart] at type
    unfold prefsOf at type ⊢
    rwa [same]

end Parts

/-! ## Four reads -/

/-- Thread `i` has read the parts of a user's preferences at some positions of the history, the mute
rules at the time `t`, and `v` is what it has of them. -/
structure LoadedAt (es : History) (w : World) (i : ℕ) (userId : String) (read : PrefPart → ℕ)
    (t : Time) (v : CachedUserPrefs) : Prop where
  ordered : read .user < read .service ∧ read .service < read .type ∧ read .type < read .muteRule
  reads : ∀ k, ∃ e, es[read k]? = some e ∧ e.tid = i ∧ e.op = .sql (k.query userId)
  clock : ∃ e, es[read .muteRule]? = some e ∧ e.choice.now = t
  same : v.Same (prefsOf (fun k => (worldAt es w (read k)).prefPart userId k) t)

section Loaded

variable {ext : Ext} {w₀ : World} {es pre post : History} {p : State}
  {s : Event Call Op Op.Ans World Choice} {inst : ℕ} {userId : String} {v : CachedUserPrefs}

theorem prefs_loaded (run : (system ext).Run (Pool.idle w₀) es p) (split : es = pre ++ s :: post)
    (put : s.done = ⟨.cacheInsert inst .userPrefs userId v, ()⟩) :
    ∃ read t, LoadedAt es p.world s.tid userId read t v ∧ read .muteRule < pre.length := by
  obtain ⟨seq, _, justified⟩ := insertion run split put
  generalize past : doneBy pre s.tid = h at justified
  cases justified with
  | @prefs h m pref svcPrefs typePrefs muteRules _ =>
    obtain ⟨n₁, e₁, _, at₁, own₁, done₁, rest⟩ := doneBy_position (s := 0) past
    obtain ⟨n₂, e₂, lt₂, at₂, own₂, done₂, rest⟩ := doneBy_position (h := []) rest
    obtain ⟨n₃, e₃, lt₃, at₃, own₃, done₃, rest⟩ := doneBy_position (h := []) rest
    obtain ⟨n₄, e₄, lt₄, at₄, own₄, done₄, _⟩ := doneBy_position (h := []) rest
    have place : ∀ {n : ℕ} {e : Event Call Op Op.Ans World Choice}, pre[n]? = some e →
        es[n]? = some e := by
      intro n e h
      rw [split]
      exact List.getElem?_append_left (List.getElem?_eq_some_iff.1 h).1 ▸ h
    have answer : ∀ {n : ℕ} {e : Event Call Op Op.Ans World Choice} {q : Sql} {a : q.Resp},
        pre[n]? = some e → e.done = ⟨.sql q, .ok a⟩ →
        q.exec (e.choice.env ext) e.before.db = .ok (a, e.after.db) :=
      fun h => answered run (List.mem_of_getElem? (place h))
    have global := (getOrCreateUserPreference_reads (answer at₁ done₁)).1
    have services : Db.Preferences.listServicePreferences (e₂.choice.env ext) m.recipientUserId
        e₂.before.db = svcPrefs := congrArg Prod.fst (Except.ok.inj (answer at₂ done₂))
    have types : Db.Preferences.listTypePreferences (e₃.choice.env ext) m.recipientUserId
        e₃.before.db = typePrefs := congrArg Prod.fst (Except.ok.inj (answer at₃ done₃))
    have rules : Db.MuteRules.listActiveMuteRules (e₄.choice.env ext) m.recipientUserId
        e₄.before.db = muteRules := congrArg Prod.fst (Except.ok.inj (answer at₄ done₄))
    let read : PrefPart → ℕ
      | .user => n₁
      | .service => n₂
      | .type => n₃
      | .muteRule => n₄
    refine ⟨read, e₄.choice.now, ⟨⟨lt₂, lt₃, lt₄⟩, ?_, ⟨e₄, place at₄, rfl⟩, ?_⟩, ?_⟩
    · rintro (_ | _ | _ | _)
      · exact ⟨e₁, place at₁, own₁, congrArg Sigma.fst done₁⟩
      · exact ⟨e₂, place at₂, own₂, congrArg Sigma.fst done₂⟩
      · exact ⟨e₃, place at₃, own₃, congrArg Sigma.fst done₃⟩
      · exact ⟨e₄, place at₄, own₄, congrArg Sigma.fst done₄⟩
    · constructor <;> simp only [prefsOf, read]
      · rw [worldAt_of_getElem? (place at₁)]
        exact global
      · rw [worldAt_of_getElem? (place at₂)]
        refine List.Perm.map _ ?_
        rw [← services]
        exact sortOn_perm _ _ _
      · rw [worldAt_of_getElem? (place at₃)]
        refine List.Perm.map _ ?_
        rw [← types]
        exact sortOn_perm _ _ _
      · rw [worldAt_of_getElem? (place at₄)]
        refine List.Perm.map _ ?_
        rw [← rules, World.prefPart, Table.select, List.filter_filter]
        refine (sortOn_perm _ _ _).trans (.of_eq ?_)
        simp only [Table.select, Bool.and_comm]
        rfl
    · exact (List.getElem?_eq_some_iff.1 at₄).1
  | other stores => cases stores

/-- What is resolved rests on each part as it was read. -/
theorem LoadedAt.resolve {i : ℕ} {w : World} {read : PrefPart → ℕ} {t : Time}
    (loaded : LoadedAt es w i userId read t v) (now : Time) (notifType : CachedNotificationType)
    (severity : Option Int32) : Estafeta.resolve now v notifType severity =
      Estafeta.resolve now (prefsOf (fun k => (worldAt es w (read k)).prefPart userId k) t) notifType
        severity :=
  resolve_same loaded.same (distinct_prefsOf fun _ => ⟨_, rfl⟩) severity

theorem not_changes {w : World} {k : PrefPart} {b : k.Rows} {m : ℕ}
    (same : (es.map Event.before ++ [w]).map (World.prefPart userId k) = List.replicate m b) (a : ℕ) :
    ¬ Snapshot.Changes (World.prefPart userId) (worldAt es w) k a :=
  not_not.2 ((worldAt_constant same (a + 1)).trans (worldAt_constant same a).symm)

end Loaded

/-- While thread `i` reads the preferences of a user, a part changes that it has read, and then one
that it is yet to read. -/
def TornReads (i : ℕ) (userId : String) (es : History) (w : World) : Prop :=
  ∃ read : PrefPart → ℕ,
    (∀ k, ∃ e, es[read k]? = some e ∧ e.tid = i ∧ e.op = .sql (k.query userId)) ∧
    Snapshot.Torn (World.prefPart userId) (worldAt es w) read

namespace Sample

/-- A world where `ann` has muted `mail`. -/
def mutedMail : World :=
  { world .empty [.ok message] with
    db :=
      { db .empty with
        muteRules := .single
          { id := 3
            userId := "ann"
            serviceId := some 1
            notificationTypeId := none
            mutedUntil := none
            createdAt := 0 } rfl } }

/-- While a processor reads the preferences of `ann`, she turns `mail` off in them, and then takes
back the rule. -/
def replaced : State × History :=
  played mutedMail (.start 0 (.processor 0 0) :: (List.replicate 8 (.step 0 choice) ++
    .start 1 (.rpc 0 (some ann) (.setServicePreference ⟨"mail", false, 0⟩)) ::
      (List.replicate 2 (.step 1 choice) ++
        .start 2 (.rpc 0 (some ann) (.deleteMuteRule ⟨"3"⟩)) :: .step 2 choice ::
          List.replicate 6 (.step 0 choice))))

/-- The same, but she keeps the rule. -/
def narrowed : State × History :=
  played mutedMail (.start 0 (.processor 0 0) :: (List.replicate 8 (.step 0 choice) ++
    .start 1 (.rpc 0 (some ann) (.setServicePreference ⟨"mail", false, 0⟩)) ::
      (List.replicate 2 (.step 1 choice) ++ List.replicate 6 (.step 0 choice))))

end Sample

/-- What is resolved from preferences that have been loaded is what they gave at a single moment
between the first read and the last, if the reads are not torn. -/
theorem resolvedAtOnce {ext : Ext} {w₀ : World} {es pre post : History} {p : State}
    {s : Event Call Op Op.Ans World Choice} {inst : ℕ} {userId : String} {v : CachedUserPrefs}
    (run : (system ext).Run (Pool.idle w₀) es p) (split : es = pre ++ s :: post)
    (put : s.done = ⟨.cacheInsert inst .userPrefs userId v, ()⟩)
    (untorn : ¬ TornReads s.tid userId es p.world) :
    ∃ read t n, LoadedAt es p.world s.tid userId read t v ∧ read .muteRule < pre.length ∧
      read .user ≤ n ∧ n ≤ read .muteRule ∧ ∀ now notifType severity,
        resolve now v notifType severity =
          resolve now ((worldAt es p.world n).db.prefs userId t) notifType severity := by
  obtain ⟨read, t, loaded, before⟩ := prefs_loaded run split put
  have ordered := loaded.ordered
  have start : ∀ k, read .user ≤ read k := by
    rintro (_ | _ | _ | _) <;> omega
  have stop : ∀ k, read k ≤ read .muteRule := by
    rintro (_ | _ | _ | _) <;> omega
  obtain ⟨n, low, high, same⟩ := Snapshot.exists_moment start stop (by omega) fun torn =>
    untorn ⟨read, loaded.reads, torn⟩
  refine ⟨read, t, n, loaded, before, low, high, fun now notifType severity => ?_⟩
  rw [loaded.resolve, ← prefsOf_prefPart]
  congr 2
  funext k
  exact (same k).symm

theorem resolvedAtOnce_narrowed : ∃ v read t n,
    LoadedAt Sample.narrowed.2 Sample.narrowed.1.world 0 "ann" read t v ∧
      read .muteRule < (Sample.narrowed.2.take 12).length ∧
      read .user ≤ n ∧ n ≤ read .muteRule ∧ ∀ now notifType severity,
        resolve now v notifType severity =
          resolve now ((worldAt Sample.narrowed.2 Sample.narrowed.1.world n).db.prefs "ann" t) notifType
            severity := by
  have run : (system Sample.ext).Run (Pool.idle Sample.mutedMail) Sample.narrowed.2
      Sample.narrowed.1 := Sample.run_played rfl
  obtain ⟨s, post, v, split, tid, put⟩ : ∃ s post v,
      Sample.narrowed.2 = Sample.narrowed.2.take 12 ++ s :: post ∧ s.tid = 0 ∧
        s.done = ⟨.cacheInsert 0 .userPrefs "ann" v, ()⟩ :=
    ⟨_, _, _, rfl, rfl, rfl⟩
  refine ⟨v, tid ▸ resolvedAtOnce run split put ?_⟩
  rintro ⟨_, _, torn⟩
  refine Snapshot.not_torn_of_one (k := .service) (fun j a changes => ?_) torn
  cases j with
  | service => rfl
  | user => exact absurd changes (not_changes (b := true) (m := 17) rfl a)
  | type => exact absurd changes (not_changes (b := []) (m := 17) rfl a)
  | muteRule => exact absurd changes (not_changes (m := 17) rfl a)

/-- The rule is in force until the preference is set, but neither is found. -/
theorem not_resolvedAtOnce : ¬ ∀ (ext : Ext) (w₀ : World) (es pre post : History) (p : State)
    (s : Event Call Op Op.Ans World Choice) (inst : ℕ) (userId : String) (v : CachedUserPrefs),
    (system ext).Run (Pool.idle w₀) es p → es = pre ++ s :: post →
      s.done = ⟨.cacheInsert inst .userPrefs userId v, ()⟩ →
      ∃ read t n, LoadedAt es p.world s.tid userId read t v ∧
        read .user ≤ n ∧ n ≤ read .muteRule ∧ ∀ now notifType severity,
          (resolve now v notifType severity).shouldDeliver =
            (resolve now ((worldAt es p.world n).db.prefs userId t) notifType severity).shouldDeliver
    := by
  intro atOnce
  have run : (system Sample.ext).Run (Pool.idle Sample.mutedMail) Sample.replaced.2
      Sample.replaced.1 := Sample.run_played rfl
  obtain ⟨s, post, v, split, put, delivers⟩ : ∃ s post v,
      Sample.replaced.2 = Sample.replaced.2.take 13 ++ s :: post ∧
        s.done = ⟨.cacheInsert 0 .userPrefs "ann" v, ()⟩ ∧
        (resolve 7 v Sample.cachedType none).shouldDeliver = true :=
    ⟨_, _, _, rfl, rfl, rfl⟩
  obtain ⟨_, t, n, _, _, _, same⟩ := atOnce _ _ _ _ _ _ _ _ _ _ run split put
  have suppressed : (resolve 7 ((worldAt Sample.replaced.2 Sample.replaced.1.world n).db.prefs "ann" t)
      Sample.cachedType none).shouldDeliver = false :=
    worldAt_constant (m := 18)
      (f := fun w : World => (resolve 7 (w.db.prefs "ann" t) Sample.cachedType none).shouldDeliver) rfl n
  exact absurd (delivers.symm.trans ((same 7 Sample.cachedType none).trans suppressed)) (by decide)

end Estafeta
