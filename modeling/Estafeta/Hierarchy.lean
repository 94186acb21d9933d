import Estafeta.Queue

/-!
# The preference hierarchy as a rule

The five tests of the resolution order, each with the reason it gives when it fails. `resolve` scans
three lists and returns at the first failure; `resolve_cases` shows that it finds the first test that
fails, wherever in the lists the preference or rule that fails it stands.
-/

namespace Estafeta

/-- The tests of the hierarchy. -/
inductive Test where
  | globalToggle
  | muteRules
  | service
  | severity
  | type
  deriving DecidableEq

/-- The place of a test in the resolution order. -/
def Test.position : Test → ℕ
  | .globalToggle => 1
  | .muteRules => 2
  | .service => 3
  | .severity => 4
  | .type => 5

/-- A test fails, for a reason. -/
inductive Test.FailsFor (prefs : CachedUserPrefs) (notifType : CachedNotificationType)
    (levelSeverity : Option Int32) (now : Time) : Test → String → Prop
  | globalToggle (off : prefs.globalEnabled = false) :
    FailsFor prefs notifType levelSeverity now .globalToggle
      "user has notifications globally disabled"
  | muteRules {rule : CachedMuteRule} (mem : rule ∈ prefs.muteRules)
    (service : rule.serviceId = none ∨ rule.serviceId = some notifType.serviceId)
    (type : rule.notificationTypeId = none ∨ rule.notificationTypeId = some notifType.id)
    (active : rule.mutedUntil = none ∨ ∃ t, rule.mutedUntil = some t ∧ now < t) :
    FailsFor prefs notifType levelSeverity now .muteRules "muted by user rule"
  | service {sp : CachedServicePref} (mem : sp ∈ prefs.servicePrefs)
    (same : sp.serviceId = notifType.serviceId) (off : sp.enabled = false) :
    FailsFor prefs notifType levelSeverity now .service "service disabled by user preference"
  | severity {sp : CachedServicePref} {minSev levelSev : Int32} (mem : sp ∈ prefs.servicePrefs)
    (same : sp.serviceId = notifType.serviceId) (threshold : sp.minSeverity = some minSev)
    (given : levelSeverity = some levelSev) (below : levelSev < minSev) :
    FailsFor prefs notifType levelSeverity now .severity
      s!"level severity {levelSev} below user threshold {minSev}"
  | type {tp : CachedTypePref} (mem : tp ∈ prefs.typePrefs)
    (same : tp.notificationTypeId = notifType.id) (off : tp.enabled = false) :
    FailsFor prefs notifType levelSeverity now .type "notification type disabled by user preference"

/-- A test fails for a reason, and none before it does. -/
def Test.FirstFails (prefs : CachedUserPrefs) (notifType : CachedNotificationType)
    (levelSeverity : Option Int32) (now : Time) (test : Test) (reason : String) : Prop :=
  test.FailsFor prefs notifType levelSeverity now reason ∧
    ∀ earlier : Test, earlier.position < test.position →
      ∀ r, ¬ earlier.FailsFor prefs notifType levelSeverity now r

section

variable {prefs : CachedUserPrefs} {notifType : CachedNotificationType}
  {levelSeverity : Option Int32} {now : Time}

theorem Test.position_injective {test test' : Test} (same : test.position = test'.position) :
    test = test' := by
  cases test <;> cases test' <;> first | rfl | exact absurd same (by decide)

/-! ## The tests, one by one -/

theorem failsFor_globalToggle {reason : String} :
    Test.FailsFor prefs notifType levelSeverity now .globalToggle reason ↔
      prefs.globalEnabled = false ∧ reason = "user has notifications globally disabled" := by
  constructor
  · rintro ⟨off⟩
    exact ⟨off, rfl⟩
  · rintro ⟨off, rfl⟩
    exact .globalToggle off

theorem mutes_iff {rule : CachedMuteRule} : rule.mutes notifType now = true ↔
    (rule.serviceId = none ∨ rule.serviceId = some notifType.serviceId) ∧
      (rule.notificationTypeId = none ∨ rule.notificationTypeId = some notifType.id) ∧
      (rule.mutedUntil = none ∨ ∃ t, rule.mutedUntil = some t ∧ now < t) := by
  unfold CachedMuteRule.mutes
  simp only [Bool.and_eq_true, Bool.or_eq_true, Option.isNone_iff_eq_none, decide_eq_true_eq,
    Option.any_eq_true, and_assoc]

theorem failsFor_muteRules {reason : String} :
    Test.FailsFor prefs notifType levelSeverity now .muteRules reason ↔
      (prefs.muteRules.any fun rule => rule.mutes notifType now) = true ∧
        reason = "muted by user rule" := by
  rw [List.any_eq_true]
  constructor
  · rintro ⟨⟩
    rename_i rule mem service type active
    exact ⟨⟨rule, mem, mutes_iff.2 ⟨service, type, active⟩⟩, rfl⟩
  · rintro ⟨⟨rule, mem, covers⟩, rfl⟩
    obtain ⟨service, type, active⟩ := mutes_iff.1 covers
    exact .muteRules mem service type active

theorem find?_eq_some_iff_of_unique {α : Type} {p : α → Bool} {l : List α}
    (unique : ∀ a ∈ l, ∀ b ∈ l, p a = true → p b = true → a = b) {a : α} :
    l.find? p = some a ↔ a ∈ l ∧ p a = true := by
  constructor
  · intro found
    exact ⟨List.mem_of_find?_eq_some found, List.find?_some found⟩
  · rintro ⟨ha, hpa⟩
    cases found : l.find? p with
    | none => exact absurd hpa (List.find?_eq_none.1 found a ha)
    | some b =>
      rw [unique a ha b (List.mem_of_find?_eq_some found) hpa (List.find?_some found)]

theorem CachedUserPrefs.Distinct.find_service (distinct : prefs.Distinct) {sp : CachedServicePref} :
    (prefs.servicePrefs.find? fun p => p.serviceId = notifType.serviceId) = some sp ↔
      sp ∈ prefs.servicePrefs ∧ sp.serviceId = notifType.serviceId := by
  rw [find?_eq_some_iff_of_unique, decide_eq_true_eq]
  intro a ha b hb hpa hpb
  exact distinct.service a ha b hb ((of_decide_eq_true hpa).trans (of_decide_eq_true hpb).symm)

theorem CachedUserPrefs.Distinct.find_type (distinct : prefs.Distinct) {tp : CachedTypePref} :
    (prefs.typePrefs.find? fun p => p.notificationTypeId = notifType.id) = some tp ↔
      tp ∈ prefs.typePrefs ∧ tp.notificationTypeId = notifType.id := by
  rw [find?_eq_some_iff_of_unique, decide_eq_true_eq]
  intro a ha b hb hpa hpb
  exact distinct.type a ha b hb ((of_decide_eq_true hpa).trans (of_decide_eq_true hpb).symm)

theorem CachedUserPrefs.Distinct.failsFor_service (distinct : prefs.Distinct) {reason : String} :
    Test.FailsFor prefs notifType levelSeverity now .service reason ↔
      ∃ sp, (prefs.servicePrefs.find? fun p => p.serviceId = notifType.serviceId) = some sp ∧
        sp.enabled = false ∧ reason = "service disabled by user preference" := by
  constructor
  · rintro ⟨⟩
    rename_i sp mem same off
    exact ⟨sp, distinct.find_service.2 ⟨mem, same⟩, off, rfl⟩
  · rintro ⟨sp, found, off, rfl⟩
    obtain ⟨mem, same⟩ := distinct.find_service.1 found
    exact .service mem same off

theorem CachedUserPrefs.Distinct.failsFor_severity (distinct : prefs.Distinct) {reason : String} :
    Test.FailsFor prefs notifType levelSeverity now .severity reason ↔
      ∃ sp minSev levelSev,
        (prefs.servicePrefs.find? fun p => p.serviceId = notifType.serviceId) = some sp ∧
          sp.minSeverity = some minSev ∧ levelSeverity = some levelSev ∧ levelSev < minSev ∧
          reason = s!"level severity {levelSev} below user threshold {minSev}" := by
  constructor
  · rintro ⟨⟩
    rename_i sp minSev levelSev mem same threshold given below
    exact ⟨sp, minSev, levelSev, distinct.find_service.2 ⟨mem, same⟩, threshold, given, below, rfl⟩
  · rintro ⟨sp, minSev, levelSev, found, threshold, given, below, rfl⟩
    obtain ⟨mem, same⟩ := distinct.find_service.1 found
    exact .severity mem same threshold given below

theorem CachedUserPrefs.Distinct.failsFor_type (distinct : prefs.Distinct) {reason : String} :
    Test.FailsFor prefs notifType levelSeverity now .type reason ↔
      ∃ tp, (prefs.typePrefs.find? fun p => p.notificationTypeId = notifType.id) = some tp ∧
        tp.enabled = false ∧ reason = "notification type disabled by user preference" := by
  constructor
  · rintro ⟨⟩
    rename_i tp mem same off
    exact ⟨tp, distinct.find_type.2 ⟨mem, same⟩, off, rfl⟩
  · rintro ⟨tp, found, off, rfl⟩
    obtain ⟨mem, same⟩ := distinct.find_type.1 found
    exact .type mem same off

/-- With one preference for each service and type, a test fails for one reason only. -/
theorem Test.FailsFor.unique (distinct : prefs.Distinct) {test : Test} {reason reason' : String}
    (fails : test.FailsFor prefs notifType levelSeverity now reason)
    (fails' : test.FailsFor prefs notifType levelSeverity now reason') : reason = reason' := by
  cases test with
  | globalToggle =>
    rw [(failsFor_globalToggle.1 fails).2, (failsFor_globalToggle.1 fails').2]
  | muteRules => rw [(failsFor_muteRules.1 fails).2, (failsFor_muteRules.1 fails').2]
  | service =>
    obtain ⟨_, _, _, rfl⟩ := distinct.failsFor_service.1 fails
    obtain ⟨_, _, _, rfl⟩ := distinct.failsFor_service.1 fails'
    rfl
  | severity =>
    obtain ⟨sp, minSev, levelSev, found, threshold, given, _, rfl⟩ :=
      distinct.failsFor_severity.1 fails
    obtain ⟨sp', minSev', levelSev', found', threshold', given', _, rfl⟩ :=
      distinct.failsFor_severity.1 fails'
    cases found.symm.trans found'
    cases threshold.symm.trans threshold'
    cases given.symm.trans given'
    rfl
  | type =>
    obtain ⟨_, _, _, rfl⟩ := distinct.failsFor_type.1 fails
    obtain ⟨_, _, _, rfl⟩ := distinct.failsFor_type.1 fails'
    rfl

theorem Test.FirstFails.unique (distinct : prefs.Distinct) {test test' : Test}
    {reason reason' : String} (first : test.FirstFails prefs notifType levelSeverity now reason)
    (first' : test'.FirstFails prefs notifType levelSeverity now reason') : reason = reason' := by
  rcases Nat.lt_trichotomy test.position test'.position with lt | same | lt
  · exact absurd first.1 (first'.2 test lt reason)
  · cases Test.position_injective same
    exact first.1.unique distinct first'.1
  · exact absurd first'.1 (first.2 test' lt reason')

/-! ## The scan finds the first failure -/

variable (now) in
/-- The service and severity tests, at the one preference for the service. -/
theorem CachedUserPrefs.Distinct.servicePrefSkips_some (distinct : prefs.Distinct)
    {sp : CachedServicePref} {reason : String}
    (found : (prefs.servicePrefs.find? fun p => p.serviceId = notifType.serviceId) = some sp)
    (skips : servicePrefSkips sp levelSeverity = some reason) :
    Test.FailsFor prefs notifType levelSeverity now .service reason ∨
      (∀ r, ¬ Test.FailsFor prefs notifType levelSeverity now .service r) ∧
        Test.FailsFor prefs notifType levelSeverity now .severity reason := by
  unfold servicePrefSkips at skips
  cases enabled : sp.enabled with
  | false =>
    rw [enabled] at skips
    cases skips
    exact .inl (distinct.failsFor_service.2 ⟨sp, found, enabled, rfl⟩)
  | true =>
    rw [enabled, if_neg (by decide)] at skips
    refine .inr ⟨fun r fails => ?_, ?_⟩
    · obtain ⟨sp', found', off, _⟩ := distinct.failsFor_service.1 fails
      cases found.symm.trans found'
      exact absurd (enabled.symm.trans off) (by decide)
    · split at skips
      · rename_i minSev levelSev threshold
        split at skips
        · rename_i below
          cases skips
          exact distinct.failsFor_severity.2
            ⟨sp, minSev, levelSev, found, threshold, rfl, below, rfl⟩
        · cases skips
      · cases skips

variable (now) in
theorem CachedUserPrefs.Distinct.servicePrefSkips_none (distinct : prefs.Distinct)
    (skips : ((prefs.servicePrefs.find? fun p => p.serviceId = notifType.serviceId).bind
      fun sp => servicePrefSkips sp levelSeverity) = none) (r : String) :
    ¬ Test.FailsFor prefs notifType levelSeverity now .service r ∧
      ¬ Test.FailsFor prefs notifType levelSeverity now .severity r := by
  constructor
  · intro fails
    obtain ⟨sp, found, off, _⟩ := distinct.failsFor_service.1 fails
    rw [found, Option.bind_some] at skips
    unfold servicePrefSkips at skips
    rw [off] at skips
    cases skips
  · intro fails
    obtain ⟨sp, minSev, levelSev, found, threshold, given, below, _⟩ :=
      distinct.failsFor_severity.1 fails
    rw [found, Option.bind_some] at skips
    unfold servicePrefSkips at skips
    rw [threshold, given] at skips
    cases enabled : sp.enabled with
    | false => simp [enabled] at skips
    | true => simp [enabled, below] at skips

variable (notifType levelSeverity now) in
/-- `resolve` skips for the first test that fails, and delivers if there is none. -/
theorem resolve_cases (distinct : prefs.Distinct) :
    (∃ test reason, Test.FirstFails prefs notifType levelSeverity now test reason ∧
        resolve now prefs notifType levelSeverity = .skipped notifType reason) ∨
      (∀ test reason, ¬ Test.FailsFor prefs notifType levelSeverity now test reason) ∧
        resolve now prefs notifType levelSeverity = .delivered notifType := by
  unfold resolve
  by_cases toggle : prefs.globalEnabled = false
  · refine .inl ⟨.globalToggle, _, ⟨.globalToggle toggle, ?_⟩, by rw [toggle]; rfl⟩
    intro earlier lt
    cases earlier <;> exact absurd lt (by decide)
  rw [Bool.not_eq_false] at toggle
  rw [toggle, if_neg (by decide)]
  have wanted (r : String) : ¬ Test.FailsFor prefs notifType levelSeverity now .globalToggle r :=
    fun fails => absurd (toggle.symm.trans (failsFor_globalToggle.1 fails).1) (by decide)
  by_cases muted : (prefs.muteRules.any fun rule => rule.mutes notifType now) = true
  · refine .inl ⟨.muteRules, _, ⟨failsFor_muteRules.2 ⟨muted, rfl⟩, ?_⟩, by rw [if_pos muted]⟩
    intro earlier lt
    cases earlier with
    | globalToggle => exact wanted
    | _ => exact absurd lt (by decide)
  rw [if_neg muted]
  have heard (r : String) : ¬ Test.FailsFor prefs notifType levelSeverity now .muteRules r :=
    fun fails => muted (failsFor_muteRules.1 fails).1
  split
  · rename_i reason skips
    obtain ⟨sp, found, skips⟩ := Option.bind_eq_some_iff.1 skips
    rcases distinct.servicePrefSkips_some now found skips with fails | ⟨served, fails⟩
    · refine .inl ⟨.service, reason, ⟨fails, fun earlier lt => ?_⟩, rfl⟩
      cases earlier with
      | globalToggle => exact wanted
      | muteRules => exact heard
      | _ => exact absurd lt (by decide)
    · refine .inl ⟨.severity, reason, ⟨fails, fun earlier lt => ?_⟩, rfl⟩
      cases earlier with
      | globalToggle => exact wanted
      | muteRules => exact heard
      | service => exact served
      | _ => exact absurd lt (by decide)
  · rename_i skips
    have served := distinct.servicePrefSkips_none now skips
    by_cases off : ∃ r, Test.FailsFor prefs notifType levelSeverity now .type r
    · obtain ⟨r, fails⟩ := off
      obtain ⟨tp, found, off, rfl⟩ := distinct.failsFor_type.1 fails
      refine .inl ⟨.type, _, ⟨fails, fun earlier lt => ?_⟩, by rw [found]; simp only [off]; rfl⟩
      cases earlier with
      | globalToggle => exact wanted
      | muteRules => exact heard
      | service => exact fun r => (served r).1
      | severity => exact fun r => (served r).2
      | type => exact absurd lt (by decide)
    · refine .inr ⟨fun test reason fails => ?_, ?_⟩
      · cases test with
        | globalToggle => exact wanted reason fails
        | muteRules => exact heard reason fails
        | service => exact (served reason).1 fails
        | severity => exact (served reason).2 fails
        | type => exact off ⟨reason, fails⟩
      · split
        · rename_i tp found
          split
          · rename_i disabled
            rw [Bool.not_eq_true'] at disabled
            exact absurd ⟨_, distinct.failsFor_type.2 ⟨tp, found, disabled, rfl⟩⟩ off
          · rfl
        · rfl

theorem distinct_of_nodup (services : (prefs.servicePrefs.map (·.serviceId)).Nodup)
    (types : (prefs.typePrefs.map (·.notificationTypeId)).Nodup) : prefs.Distinct where
  service _ hsp _ hsp' same := List.inj_on_of_nodup_map services hsp hsp' same
  type _ htp _ htp' same := List.inj_on_of_nodup_map types htp htp' same

end

/-- With one preference for each service and one for each type, a notification is delivered just
when no test fails; otherwise the reason is that of the first test that does. The times and limits
are always the type's, and the order of the preferences and rules does not matter. -/
theorem resolve_hierarchy (prefs : CachedUserPrefs)
    (services : (prefs.servicePrefs.map (·.serviceId)).Nodup)
    (types : (prefs.typePrefs.map (·.notificationTypeId)).Nodup)
    (notifType : CachedNotificationType) (levelSeverity : Option Int32) (now : Time) :
    let config := resolve now prefs notifType levelSeverity
    (config.shouldDeliver = true ↔
        ∀ test reason, ¬ Test.FailsFor prefs notifType levelSeverity now test reason) ∧
      (config.shouldDeliver = !config.skipReason.isSome) ∧
      (∀ reason, config.skipReason = some reason ↔
        ∃ test, Test.FirstFails prefs notifType levelSeverity now test reason) ∧
      config.ttlSeconds = notifType.defaultTtlSeconds ∧
      config.escalationIntervalSeconds = notifType.escalationIntervalSeconds ∧
      config.maxEscalations = notifType.maxEscalations ∧
      ∀ prefs' : CachedUserPrefs, prefs'.Same prefs →
        resolve now prefs' notifType levelSeverity = config := by
  intro config
  have distinct := distinct_of_nodup services types
  have order (prefs' : CachedUserPrefs) (same : prefs'.Same prefs) :
      resolve now prefs' notifType levelSeverity = config :=
    resolve_same same distinct levelSeverity
  rcases resolve_cases notifType levelSeverity now distinct with
    ⟨test, reason, first, skipped⟩ | ⟨passed, delivered⟩
  · have skipped : config = .skipped notifType reason := skipped
    refine ⟨⟨fun delivers => ?_, fun passed => absurd first.1 (passed test reason)⟩,
      by rw [skipped]; rfl, fun reason' => ⟨fun skips => ⟨test, ?_⟩, fun ⟨test', first'⟩ => ?_⟩,
      by rw [skipped]; rfl, by rw [skipped]; rfl, by rw [skipped]; rfl, order⟩
    · rw [skipped] at delivers
      cases delivers
    · rw [skipped] at skips
      cases skips
      exact first
    · rw [skipped, first'.unique distinct first]
      rfl
  · have delivered : config = .delivered notifType := delivered
    refine ⟨⟨fun _ => passed, fun _ => by rw [delivered]; rfl⟩, by rw [delivered]; rfl,
      fun reason => ⟨fun skips => ?_, fun ⟨test, first⟩ => absurd first.1 (passed test reason)⟩,
      by rw [delivered]; rfl, by rw [delivered]; rfl, by rw [delivered]; rfl, order⟩
    rw [delivered] at skips
    cases skips

namespace Sample

/-- A rule that is over, a threshold for `mail` behind another service, and a type turned off. -/
def thresholdPrefs : CachedUserPrefs where
  globalEnabled := true
  servicePrefs := [⟨4, false, none⟩, ⟨1, true, some 5⟩]
  typePrefs := [⟨2, false⟩]
  muteRules := [⟨some 1, none, some 7⟩]

theorem resolve_hierarchy_threshold :
    (∃ test, Test.FirstFails thresholdPrefs cachedType (some 3) 8 test
        "level severity 3 below user threshold 5") ∧
      ¬ ∀ test reason, ¬ Test.FailsFor thresholdPrefs cachedType (some 3) 8 test reason := by
  obtain ⟨delivers, _, first, _⟩ :=
    resolve_hierarchy thresholdPrefs (by decide) (by decide) cachedType (some 3) 8
  refine ⟨(first _).1 rfl, fun passed => absurd (delivers.2 passed) ?_⟩
  decide

end Sample

end Estafeta
