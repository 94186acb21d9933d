import Estafeta.Badges
import Estafeta.Tokens

/-!
# The filters of a listing

A request may ask for states, for services, for types and for a group. Unknown states and slugs are
dropped, and a filter of which nothing is left is none; the filter on types is not applied. A listing
meets the filters for every page just when each notification it covers is `Filtered`
(`listing_satisfies_iff`).
-/

open Relational Atomic

namespace Estafeta

/-- A stored notification is one that the request asks for. -/
structure ListNotificationsRequest.Satisfies (req : ListNotificationsRequest) (db : Db)
    (r : NotificationRow) : Prop where
  state : req.states ≠ [] → ∃ v ∈ req.states, ∃ s, NotificationState.fromProto v = .ok s ∧
    r.state = s.asDbStr
  service : req.serviceSlugs ≠ [] → ∃ svc, db.services.lookup (.id r.serviceId) = some svc ∧
    svc.slug ∈ req.serviceSlugs
  type : req.notificationTypes ≠ [] →
    ∃ t, db.notificationTypes.lookup (.id r.notificationTypeId) = some t ∧
      t.typeKey ∈ req.notificationTypes
  group : req.groupKey ≠ "" → r.groupKey = some req.groupKey

/-- What the code leaves to the request: that some requested state is known, some requested slug is
that of a service, and the type is among those requested. -/
structure ListNotificationsRequest.Filtered (req : ListNotificationsRequest) (db : Db)
    (r : NotificationRow) : Prop where
  states : req.states ≠ [] → NotificationService.stateFilter req.states ≠ []
  services : req.serviceSlugs ≠ [] → db.serviceIds req.serviceSlugs ≠ []
  types : req.notificationTypes ≠ [] →
    ∃ t, db.notificationTypes.lookup (.id r.notificationTypeId) = some t ∧
      t.typeKey ∈ req.notificationTypes

section

variable {ext : Ext} {claims : AuthClaims} {w : World} {db : Db} {req : ListNotificationsRequest}
  {r : NotificationRow} {subject : String}

theorem mem_stateFilter {states : List Int32} {name : String} :
    name ∈ NotificationService.stateFilter states ↔
      ∃ v ∈ states, ∃ s, NotificationState.fromProto v = .ok s ∧ name = s.asDbStr := by
  unfold NotificationService.stateFilter
  rw [List.mem_filterMap]
  refine exists_congr fun v => and_congr_right fun _ => ?_
  cases NotificationState.fromProto v with
  | error e => simp
  | ok s => simp [eq_comm]

theorem serviceId_mem_keys {svc : ServiceRow} {id : Uuid} :
    ServiceKey.id id ∈ Schema.keys svc ↔ svc.id = id := by
  show ServiceKey.id id ∈ [.id svc.id, .slug svc.slug] ↔ _
  simp [eq_comm]

theorem mem_serviceIds {slugs : List String} {id : Uuid} :
    id ∈ db.serviceIds slugs ↔
      ∃ svc, db.services.lookup (.id id) = some svc ∧ svc.slug ∈ slugs := by
  unfold Db.serviceIds
  rw [List.mem_filterMap]
  constructor
  · rintro ⟨slug, requested, resolved⟩
    obtain ⟨svc, found, rfl⟩ := Option.map_eq_some_iff.1 resolved
    obtain ⟨stored, named⟩ := Table.lookup_eq_some.1 found
    exact ⟨svc, Table.lookup_of_mem stored List.mem_cons_self,
      (slug_mem_keys.1 named).symm ▸ requested⟩
  · rintro ⟨svc, found, requested⟩
    obtain ⟨stored, named⟩ := Table.lookup_eq_some.1 found
    have same : svc.id = id := serviceId_mem_keys.1 named
    refine ⟨svc.slug, requested, Option.map_eq_some_iff.2 ⟨svc, ?_, same⟩⟩
    exact Table.lookup_of_mem stored (slug_mem_keys.2 rfl)

theorem mem_of_anyOf {α : Type} [DecidableEq α] {filter : List α} {a : α} (some : filter ≠ [])
    (passes : anyOf filter a = true) : a ∈ filter := by
  unfold anyOf at passes
  rw [List.isEmpty_eq_false_iff.2 some] at passes
  exact of_decide_eq_true passes

/-- Of the notifications that a listing covers, the request asks for those that are filtered. -/
theorem satisfies_iff (covered : req.covers subject db r = true) :
    req.Satisfies db r ↔ req.Filtered db r := by
  unfold ListNotificationsRequest.covers at covered
  simp only [Bool.and_eq_true] at covered
  obtain ⟨⟨⟨-, ofState⟩, ofService⟩, ofGroup⟩ := covered
  constructor
  · intro satisfies
    refine ⟨fun some => ?_, fun some => ?_, satisfies.type⟩
    · obtain ⟨v, requested, s, known, -⟩ := satisfies.state some
      exact List.ne_nil_of_mem (mem_stateFilter.2 ⟨v, requested, s, known, rfl⟩)
    · exact List.ne_nil_of_mem (mem_serviceIds.2 (satisfies.service some))
  · intro filtered
    refine ⟨fun some => ?_, fun some => ?_, filtered.types, fun some => ?_⟩
    · exact mem_stateFilter.1 (mem_of_anyOf (filtered.states some) ofState)
    · exact mem_serviceIds.1 (mem_of_anyOf (filtered.services some) ofService)
    · have asked : nonEmpty req.groupKey = req.groupKey :=
        if_neg fun empty => some (String.isEmpty_iff.1 empty)
      rw [asked] at ofGroup
      exact of_decide_eq_true ofGroup

theorem covered_of_mem_rows {rank : Uuid → ℕ} (mem : r ∈ req.rows subject rank db) :
    r ∈ db.notifications.rows ∧ req.covers subject db r = true :=
  Table.mem_select.1 (mem_sortOn.1 (List.mem_of_mem_drop (List.mem_of_mem_take mem)))

/-- Every page that is handed out of a listing has notifications that the request asks for. -/
def PagesSatisfy (ext : Ext) (claims : AuthClaims) (w : World) (req : ListNotificationsRequest) :
    Prop :=
  ∀ (pagination : Option Pagination) (x : ℕ → Choice) (resp : ListNotificationsResponse),
    ((NotificationService.listNotifications ext (some claims) { req with pagination }).run
      (exec ext) x w).1 = .ok resp →
    ∀ n ∈ resp.notifications, ∃ r ∈ w.db.notifications.rows,
      n = NotificationService.rowToProto ext r ∧ req.Satisfies w.db r

/-- Each notification that a listing covers is on one of its pages. -/
theorem listed_of_covered (ext : Ext) (fits : w.db.notifications.rows.length < 2 ^ 63) {x : Choice}
    (works : x.failure = none) (injective : x.rank.Injective) (stored : r ∈ w.db.notifications.rows)
    (covered : req.covers claims.subject w.db r = true) :
    ∃ pagination resp,
      ((NotificationService.listNotifications ext (some claims) { req with pagination }).run
        (exec ext) (fun _ => x) w).1 = .ok resp ∧
      NotificationService.rowToProto ext r ∈ resp.notifications := by
  have shows : req.Shows claims.subject w.db r.id r :=
    ⟨Table.lookup_of_mem stored List.mem_cons_self, covered⟩
  -- a page of one, at the place of the notification
  have small : req.place claims.subject x.rank w.db r < 2 ^ 63 :=
    (shows.place_lt injective).trans ((List.length_filter_le _ _).trans_lt fits)
  have one : 0 < pageLimit 1 := pageLimit_pos (by decide)
  let token := toString (Int64.ofNat (req.place claims.subject x.rank w.db r))
  have ensured : (NotificationService.listNotifications ext (some claims) (req.page 1 token)).Ensures
      (exec ext) (fun y => y = x) (fun _ _ => False)
      (fun _ page => NotificationService.rowToProto ext r ∈ page.notifications) w := by
    refine listNotifications_ensures req (by decide) (offset_of_next small rfl) small
      (fun y same lost _ => ?_) fun y same => ?_
    · rw [same] at lost
      exact of_lost works lost
    · rw [same]
      exact List.mem_map_of_mem
        (shows.mem_window injective le_rfl (Nat.lt_add_of_pos_right one))
  obtain ⟨resp, answers, listed⟩ := ensured.exists_ok fun _ => (rfl : x = x)
  exact ⟨some ⟨1, token⟩, resp, answers, listed⟩

theorem rowToProto_injective (showsUuid : Function.Injective ext.showUuid) {r' : NotificationRow}
    (stored : r ∈ w.db.notifications.rows) (stored' : r' ∈ w.db.notifications.rows)
    (same : NotificationService.rowToProto ext r = NotificationService.rowToProto ext r') :
    r = r' := by
  have named : r.id = r'.id := showsUuid (congrArg Notification.id same)
  exact Table.eq_of_mem_keys (k := NotificationKey.id r.id) stored stored' List.mem_cons_self
    (named ▸ List.mem_cons_self)

/-- Every page of a listing meets the filters of the request just when some requested state is known,
some requested slug is that of a service, and the notifications that pass the other filters are of
the requested types; or else when there is no notification that passes the filters that are left. -/
theorem listing_satisfies_iff (ext : Ext) (claims : AuthClaims) (w : World)
    (req : ListNotificationsRequest) (showsUuid : Function.Injective ext.showUuid)
    (fits : w.db.notifications.rows.length < 2 ^ 63) :
    PagesSatisfy ext claims w req ↔
      ∀ r ∈ w.db.notifications.rows, req.covers claims.subject w.db r = true →
        req.Filtered w.db r := by
  constructor
  · intro satisfied r stored covered
    obtain ⟨pagination, resp, answered, listed⟩ := listed_of_covered ext fits
      (x := .calm) rfl Choice.calm_injective stored covered
    obtain ⟨r', stored', same, satisfies⟩ := satisfied pagination _ resp answered _ listed
    rw [rowToProto_injective showsUuid stored stored' same] at covered ⊢
    exact (satisfies_iff covered).1 satisfies
  · intro filtered pagination x resp answered n listed
    obtain ⟨-, rank, rfl⟩ := of_answered (Q := fun _ resp => ∃ rank, resp =
        ({ req with pagination } : ListNotificationsRequest).answer ext
          (({ req with pagination } : ListNotificationsRequest).rows claims.subject rank w.db))
      (listNotifications_answers _ (fun _ _ _ _ => trivial) (fun _ _ => trivial)
        fun x _ _ _ => ⟨x.rank, rfl⟩) answered
    obtain ⟨r, onPage, rfl⟩ := List.mem_map.1 listed
    obtain ⟨stored, covered⟩ := covered_of_mem_rows onPage
    have covered : req.covers claims.subject w.db r = true := covered
    exact ⟨r, stored, rfl, (satisfies_iff covered).2 (filtered r stored covered)⟩

end

namespace Sample

/-- Third-party functions that show a UUID as a number. -/
def numberExt : Ext := { ext with showUuid := fun u => toString u.toNat }

theorem showUuid_injective : Function.Injective numberExt.showUuid := by
  intro u u' same
  have digits : Nat.toDigits 10 u.toNat = Nat.toDigits 10 u'.toNat := by
    have shown := congrArg String.toList same
    exact Nat.toList_repr.symm.trans (shown.trans Nat.toList_repr)
  have value := parseDigits_toDigits u.toNat
  rw [digits, parseDigits_toDigits] at value
  exact BitVec.eq_of_toNat_eq (Option.some.inj value).symm

/-- A request of `ann` without pagination. -/
def asking (states : List Int32) (slugs types : List String) : ListNotificationsRequest :=
  ⟨states, slugs, types, "", none⟩

end Sample

open Sample in
theorem listing_satisfies_letters :
    PagesSatisfy numberExt ann letters (asking [1, 99] ["mail", "nowhere"] ["letter"]) := by
  refine (listing_satisfies_iff numberExt ann letters _ showUuid_injective
    (show 1 < 2 ^ 63 by decide)).2 fun r stored _ => ?_
  cases List.mem_singleton.1 stored
  exact ⟨fun _ => by decide, fun _ => by decide, fun _ => ⟨notificationType, rfl, .head _⟩⟩

open Sample in
/-- The letter is listed for a state that there is not, for a service that there is not, and for
another type. -/
theorem not_listing_satisfies :
    ¬ PagesSatisfy ext ann letters (asking [99] [] []) ∧
    ¬ PagesSatisfy ext ann letters (asking [] ["nowhere"] []) ∧
    ¬ PagesSatisfy ext ann letters (asking [] [] ["other"]) := by
  refine ⟨fun satisfied => ?_, fun satisfied => ?_, fun satisfied => ?_⟩
  · obtain ⟨r, stored, -, satisfies⟩ := satisfied none (fun _ => choice) _ rfl _ (.head _)
    obtain ⟨v, requested, s, known, -⟩ := satisfies.state (List.cons_ne_nil _ _)
    cases List.mem_singleton.1 requested
    cases known
  · obtain ⟨r, stored, -, satisfies⟩ := satisfied none (fun _ => choice) _ rfl _ (.head _)
    obtain ⟨svc, found, requested⟩ := satisfies.service (List.cons_ne_nil _ _)
    cases List.mem_singleton.1 stored
    cases found
    exact absurd requested (by decide)
  · obtain ⟨r, stored, -, satisfies⟩ := satisfied none (fun _ => choice) _ rfl _ (.head _)
    obtain ⟨t, found, requested⟩ := satisfies.type (List.cons_ne_nil _ _)
    cases List.mem_singleton.1 stored
    cases found
    exact absurd requested (by decide)

end Estafeta
