import Estafeta.Lib.Paging
import Estafeta.Tokens

/-!
# Walks through the types of a service

A client that follows the tokens of `ListTypes` over a registry that does not change. The collation
of the type keys is deterministic, so that the order of the types is that of their keys alone and
each call has its page of one and the same list.
-/

open Relational Atomic

namespace Estafeta

/-- The answer to the `n`-th call of a client that lists types, at a token. -/
def askTypes (ext : Ext) (slug : String) (size : Int32) (worlds : ℕ → World)
    (choices : ℕ → ℕ → Choice) (n : ℕ) (token : String) : Except Status ListTypesResponse :=
  ((SchemaRegistryService.listTypes ext ⟨slug, some ⟨size, token⟩⟩).run (exec ext) (choices n)
    (worlds n)).1

/-- The token that a client goes on with, none after the last page. -/
def ListTypesResponse.next (page : ListTypesResponse) : Option String :=
  nonEmpty (nextToken page.pagination)

/-- A token stands for an offset within a list of `count` rows. -/
def StandsFor (count : ℕ) (token : String) (o : ℕ) : Prop :=
  o ≤ count ∧ (parseI64 token).getD 0 = Int64.ofNat o

section

variable {ext : Ext} {db : Db} {service : ServiceRow} {slug : String} {size : Int32}
  {worlds : ℕ → World} {choices : ℕ → ℕ → Choice} {rank rank' : Uuid → ℕ}

/-- Under a deterministic collation nothing but the keys decides the order. -/
theorem typeRows_eq (deterministic : Function.Injective ext.collationKey) :
    db.typeRows ext service rank = db.typeRows ext service rank' :=
  sortOn_rank _ fun _ hr _ hr' same => typeKey_apart hr hr' (deterministic same)

theorem typeRows_sorted (deterministic : Function.Injective ext.collationKey) :
    (db.typeRows ext service rank).Pairwise fun r r' =>
      ext.collationKey r.typeKey < ext.collationKey r'.typeKey := by
  have apart : (db.typeRows ext service rank).Pairwise fun r r' => r.typeKey ≠ r'.typeKey :=
    List.pairwise_map.1 (nodup_typeRows service rank)
  refine ((sortOn_sorted _ _ _).and apart).imp fun ⟨le, apart⟩ => ?_
  exact lt_of_le_of_ne le fun same => apart (deterministic same)

/-- The calls of a walk meet a registry that does not change. -/
def Unchanged (db : Db) (worlds : ℕ → World) : Prop :=
  ∀ n, (worlds n).db.services = db.services ∧
    (worlds n).db.notificationTypes = db.notificationTypes

/-- A token stands for an offset of a page that the statement accepts. -/
theorem StandsFor.page {count o : ℕ} {token : String} (stands : StandsFor count token o)
    (fits : count < 2 ^ 63) (positive : 1 ≤ size) :
    pageOffset (some ⟨size, token⟩) = Int64.ofNat o ∧
      (pageOffset (some ⟨size, token⟩)).toNatClampNeg = o ∧
      (pageSize (some ⟨size, token⟩)).toNatClampNeg = pageLimit size ∧
      ¬ (pageSize (some ⟨size, token⟩) < 0 ∨ pageOffset (some ⟨size, token⟩) < 0) := by
  have start : pageOffset (some ⟨size, token⟩) = Int64.ofNat o := stands.2
  have small : o < 2 ^ 63 := stands.1.trans_lt fits
  have limit : pageLimit size ≤ 100 := min_le_right _ _
  rw [start, pageSize_eq positive, Int64.toNatClampNeg_ofNat_of_lt small,
    Int64.toNatClampNeg_ofNat_of_lt (by omega), Int64.lt_iff_toInt_lt, Int64.lt_iff_toInt_lt,
    Int64.toInt_ofNat_of_lt (by omega), Int64.toInt_ofNat_of_lt small, Int64.toInt_zero]
  refine ⟨rfl, rfl, rfl, ?_⟩
  omega

theorem askTypes_ensures {ok : Choice → Prop} (failed : Prop)
    (deterministic : Function.Injective ext.collationKey)
    (found : db.services.lookup (.slug slug) = some service) (unchanged : Unchanged db worlds)
    (fits : (db.typeRows ext service rank).length < 2 ^ 63) (positive : 1 ≤ size) {token : String}
    {o : ℕ} (stands : StandsFor (db.typeRows ext service rank).length token o) (n : ℕ)
    (lost : ∀ x, ok x → x.failure.isSome = true → failed) :
    (SchemaRegistryService.listTypes ext ⟨slug, some ⟨size, token⟩⟩).Ensures (exec ext) ok
      (fun _ _ => failed)
      (fun _ page =>
        page.types = ((db.typeList ext service slug rank).drop o).take (pageLimit size) ∧
        nextToken page.pagination =
          if o + pageLimit size ≤ (db.typeRows ext service rank).length then
            toString (Int64.ofNat (o + pageLimit size))
          else "") (worlds n) := by
  obtain ⟨services, types⟩ := unchanged n
  obtain ⟨start, offset, limit, nonneg⟩ := stands.page fits positive
  refine listTypes_answers _ (fun x sound h _ => lost x sound h) (fun none => ?_)
    (fun negative => absurd negative nonneg) fun x service' _ found' _ _ => ?_
  · rw [services, found] at none
    cases none
  · rw [services, found] at found'
    cases found'
    have same : (worlds n).db.typeRows ext service x.rank = db.typeRows ext service rank := by
      unfold Db.typeRows
      rw [types]
      exact typeRows_eq deterministic
    rw [same, offset, limit]
    constructor
    · show List.map _ _ = _
      unfold Db.typeList
      rw [← List.map_drop, ← List.map_take]
    · show nextPageToken _ _ (pageOffset (some ⟨size, token⟩)) = _
      rw [start, nextPageToken_eq positive token o _ (List.length_take_le _ _), List.length_take,
        List.length_drop]
      have positive := pageLimit_pos positive
      exact if_congr (by omega) rfl rfl

theorem serves_types (choices : ℕ → ℕ → Choice)
    (deterministic : Function.Injective ext.collationKey)
    (found : db.services.lookup (.slug slug) = some service) (unchanged : Unchanged db worlds)
    (fits : (db.typeRows ext service rank).length < 2 ^ 63) (positive : 1 ≤ size) :
    Paging.Serves (askTypes ext slug size worlds choices) ListTypesResponse.next (·.types)
      (StandsFor (db.typeRows ext service rank).length) (db.typeList ext service slug rank)
      (pageLimit size) := by
  have length : (db.typeList ext service slug rank).length =
      (db.typeRows ext service rank).length := List.length_map _
  have answered : ∀ {n token o page}, StandsFor (db.typeRows ext service rank).length token o →
      askTypes ext slug size worlds choices n token = .ok page →
      page.types = ((db.typeList ext service slug rank).drop o).take (pageLimit size) ∧
        nextToken page.pagination =
          if o + pageLimit size ≤ (db.typeRows ext service rank).length then
            toString (Int64.ofNat (o + pageLimit size))
          else "" := by
    intro n token o page stands answer
    obtain ⟨-, answered⟩ := of_answered
      (askTypes_ensures True deterministic found unchanged fits positive stands n
        fun _ _ _ => trivial) answer
    exact answered
  constructor
  · intro n token o page stands answer
    exact (answered stands answer).1
  · intro n token o page stands answer full
    rw [length] at full
    have token_eq := (answered stands answer).2
    rw [if_pos full] at token_eq
    refine ⟨_, ?_, full, offset_of_next (full.trans_lt fits) rfl⟩
    unfold ListTypesResponse.next nonEmpty
    rw [token_eq, if_neg fun empty => toString_ne_empty _ (String.isEmpty_iff.1 empty)]
  · intro n token o page stands answer short
    rw [length] at short
    have token_eq := (answered stands answer).2
    rw [if_neg (Nat.not_le.2 short)] at token_eq
    unfold ListTypesResponse.next
    rw [token_eq]
    rfl

/-- A client that follows the tokens of the types of a service, from the first page on, comes to an
end after as many calls as there are full pages, and one, and gets each type once, in the order of
the keys. -/
theorem types_walked (ext : Ext) (db : Db) (service : ServiceRow) (slug : String) (size : Int32)
    (worlds : ℕ → World) (choices : ℕ → ℕ → Choice)
    (deterministic : Function.Injective ext.collationKey)
    (found : db.services.lookup (.slug slug) = some service) (unchanged : Unchanged db worlds)
    (fits : db.notificationTypes.rows.length < 2 ^ 63) (positive : 1 ≤ size) (fuel : ℕ)
    (enough : (db.notificationTypes.select fun r => r.serviceId = service.id).length /
      pageLimit size < fuel) :
    (∀ pages left,
      Paging.follow (askTypes ext slug size worlds choices) ListTypesResponse.next fuel 0 "" =
        .ok (pages, left) →
      left = none ∧
      pages.length = (db.notificationTypes.select fun r => r.serviceId = service.id).length /
        pageLimit size + 1 ∧
      (pages.flatMap (·.types)).Perm
        ((db.notificationTypes.select fun r => r.serviceId = service.id).map fun r =>
          SchemaRegistryService.rowToProto ext r slug) ∧
      (pages.flatMap (·.types)).Pairwise fun t t' =>
        ext.collationKey t.typeKey < ext.collationKey t'.typeKey) ∧
    ((∀ n k, (choices n k).failure = none) → ∃ pages left,
      Paging.follow (askTypes ext slug size worlds choices) ListTypesResponse.next fuel 0 "" =
        .ok (pages, left)) := by
  have count : (db.typeRows ext service fun _ => 0).length =
      (db.notificationTypes.select fun r => r.serviceId = service.id).length :=
    (sortOn_perm _ _ _).length_eq
  have listed : (db.typeList ext service slug fun _ => 0).length =
      (db.notificationTypes.select fun r => r.serviceId = service.id).length :=
    (List.length_map _).trans count
  have within : (db.typeRows ext service fun _ => 0).length < 2 ^ 63 :=
    count ▸ (List.length_filter_le _ _).trans_lt fits
  have serves := serves_types choices deterministic found unchanged within positive
  have first : StandsFor (db.typeRows ext service fun _ => 0).length "" 0 := ⟨Nat.zero_le _, rfl⟩
  constructor
  · intro pages left followed
    obtain ⟨ended, length, types⟩ := serves.follow_eq (pageLimit_pos positive) first
      (by rw [listed]; exact enough) followed
    rw [List.drop_zero] at types
    refine ⟨ended, ?_, ?_, ?_⟩
    · rw [length, listed, Nat.sub_zero]
    · rw [types]
      exact (sortOn_perm _ _ _).map _
    · rw [types]
      exact List.pairwise_map.2 (typeRows_sorted deterministic)
  · intro works
    have answers : ∀ n token o, StandsFor (db.typeRows ext service fun _ => 0).length token o →
        ∃ page, askTypes ext slug size worlds choices n token = .ok page := by
      intro n token o stands
      obtain ⟨page, answered, -⟩ := (askTypes_ensures False deterministic found unchanged within
        positive stands n fun _ works lost => of_lost works lost).exists_ok (works n)
      exact ⟨page, answered⟩
    obtain ⟨⟨pages, left⟩, followed⟩ := serves.answered (n := 0) first answers
    exact ⟨pages, left, followed⟩

end

namespace Sample

/-- A world in which `mail` has two types, the later one first by its key. -/
def twoTypes : World where
  db :=
    { db .empty with
      notificationTypes :=
        { rows := [notificationType, { notificationType with id := 8, typeKey := "card" }]
          unique := List.pairwise_pair.2
            (show ∀ k ∈ [NotificationTypeKey.id 2, .typeKey 1 "letter"],
              k ∉ [NotificationTypeKey.id 8, .typeKey 1 "card"] by decide)
          checked := fun _ _ => rfl } }
  stream := []
  acked := []
  published := []
  caches _ _ _ := none

end Sample

open Sample in
theorem types_walked_twoTypes :
    ∃ pages, Paging.follow (askTypes ext "mail" 1 (fun _ => twoTypes) fun _ _ => choice)
        ListTypesResponse.next 3 0 "" = .ok (pages, none) ∧
      pages.length = 3 ∧ (pages.flatMap (·.types)).length = 2 ∧
      (pages.flatMap (·.types)).Pairwise fun t t' => t.typeKey < t'.typeKey := by
  obtain ⟨walked, answered⟩ := types_walked ext twoTypes.db service "mail" 1 (fun _ => twoTypes)
    (fun _ _ => choice) (fun _ _ same => same) rfl (fun _ => ⟨rfl, rfl⟩)
    (show 2 < 2 ^ 63 by decide) (by decide) 3 (show 2 / 1 < 3 by decide)
  obtain ⟨pages, left, followed⟩ := answered fun _ _ => rfl
  obtain ⟨rfl, length, types, sorted⟩ := walked pages left followed
  exact ⟨pages, followed, length, types.length_eq, sorted⟩

end Estafeta
