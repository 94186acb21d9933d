import Estafeta.Pages

/-!
# Walks over a store that changes

The token of a page is an offset, so a walk that is overtaken by changes hands out windows of
different listings. A notification that stays in the listing is stepped over when enough of those
before it leave between two fetches (`not_walk_returns`), and only then; if all of those stay listed,
whatever arrives and whatever happens to those after it, it is handed out (`walk_returns`).
-/

open Relational Atomic

namespace Estafeta

/-- What goes on in the system takes the store from one fetch to the next, and a notification stays
in the listing. -/
def StaysListed (ext : Ext) (subject : String) (req : ListNotificationsRequest) (id : Uuid)
    (w w' : World) : Prop :=
  ∃ (p p' : State) (es : History), p.world = w ∧ p'.world = w' ∧ (system ext).Run p es p' ∧
    ∀ e ∈ es, ∃ r, req.Shows subject e.after.db id r

/-- A walk to the end, ties broken by `rank`, during which a notification stays in the listing; no
store has more notifications than `COUNT(*)` can count. -/
structure WalkedPast (ext : Ext) (claims : AuthClaims) (req : ListNotificationsRequest)
    (size : Int32) (rank : Uuid → ℕ) (id : Uuid) (fs : List Fetch) : Prop where
  positive : 1 ≤ size
  injective : rank.Injective
  walk : Walk ext claims req size "" fs
  complete : Complete fs
  fits : ∀ f ∈ fs, f.world.db.notifications.rows.length < 2 ^ 63
  ties : ∀ f ∈ fs, ∀ n, (f.choices n).rank = rank
  listed : ∀ f ∈ fs, ∃ r, req.Shows claims.subject f.world.db id r
  between : ∀ k f f', fs[k]? = some f → fs[k + 1]? = some f' →
    StaysListed ext claims.subject req id f.world f'.world

/-- The walk hands the notification out, as it is at that time. -/
def Returned (ext : Ext) (id : Uuid) (fs : List Fetch) : Prop :=
  ∃ f ∈ fs, ∃ r, f.world.db.notifications.lookup (.id id) = some r ∧
    NotificationService.rowToProto ext r ∈ f.page.notifications

/-- Between two fetches the notification is not carried to the front across the offset that the walk
has reached: if at one fetch at least as many stand before it as have been handed out after it, so
they do at the next. -/
def NotCarriedPast (subject : String) (req : ListNotificationsRequest) (size : Int32)
    (rank : Uuid → ℕ) (id : Uuid) (fs : List Fetch) : Prop :=
  ∀ k f f' r r', fs[k]? = some f → fs[k + 1]? = some f' →
    req.Shows subject f.world.db id r → req.Shows subject f'.world.db id r' →
    (k + 1) * pageLimit size ≤ req.place subject rank f.world.db r →
    (k + 1) * pageLimit size ≤ req.place subject rank f'.world.db r'

/-- Every notification that stands before it at one fetch is listed at the next too. So it is where
notifications only arrive between the two fetches, or change after it. -/
def KeepsAhead (subject : String) (req : ListNotificationsRequest) (rank : Uuid → ℕ) (id : Uuid)
    (fs : List Fetch) : Prop :=
  ∀ k f f' r, fs[k]? = some f → fs[k + 1]? = some f' → req.Shows subject f.world.db id r →
    ∀ s ∈ f.world.db.notifications.select (req.covers subject f.world.db),
      Ahead (fun r : NotificationRow => -r.createdAt) (fun r => rank r.id) s r →
        ∃ s', req.Shows subject f'.world.db s.id s'

section

variable {ext : Ext} {claims : AuthClaims} {req : ListNotificationsRequest} {size : Int32}
  {rank : Uuid → ℕ} {id : Uuid} {fs : List Fetch} {f : Fetch} {k : ℕ} {r : NotificationRow}

theorem WalkedPast.page_eq (walked : WalkedPast ext claims req size rank id fs)
    (fetched : fs[k]? = some f) : f.page = pageOf ext size (k * pageLimit size)
      (req.window claims.subject rank size (k * pageLimit size) f.world.db) := by
  obtain ⟨n, page⟩ := walked.walk.pages (o := 0) walked.positive rfl (by decide) walked.fits fetched
  rw [walked.ties f (List.mem_of_getElem? fetched) n, Nat.zero_add] at page
  exact page

/-- A notification that a page does not hand out stands before the page or after it. -/
theorem WalkedPast.returned_of_window (walked : WalkedPast ext claims req size rank id fs)
    (fetched : fs[k]? = some f) (shows : req.Shows claims.subject f.world.db id r)
    (starts : k * pageLimit size ≤ req.place claims.subject rank f.world.db r)
    (ends : req.place claims.subject rank f.world.db r < (k + 1) * pageLimit size) :
    Returned ext id fs := by
  rw [Nat.succ_mul] at ends
  refine ⟨f, List.mem_of_getElem? fetched, r, shows.1, ?_⟩
  rw [walked.page_eq fetched]
  exact List.mem_map_of_mem (shows.mem_window walked.injective starts ends)

theorem createdAt_exec {x : Choice} {o : Op} {w : World} {t : Time}
    (stored : (w.notification id).map (·.createdAt) = some t) :
    ((exec ext x o w).2.notification id).map (·.createdAt) = some t := by
  rcases notification_exec ext x o w id with ⟨_, _, _, absent, _⟩ | ⟨q, _, after⟩ | ⟨_, after⟩
  · rw [absent] at stored
    cases stored
  · rw [after, Option.map_map, ← stored]
    refine congrArg (Option.map · (w.notification id)) (funext fun r => ?_)
    rcases Db.Notifications.rewrite_cases (x.env ext) w.db q r with same | ⟨_, _, set⟩
    · exact congrArg NotificationRow.createdAt same
    · rw [Function.comp_apply, set]
      cases q <;> rfl
  · rw [after]
    exact stored

theorem StaysListed.createdAt {subject : String} {w w' : World} {r r' : NotificationRow} {id' : Uuid}
    (stays : StaysListed ext subject req id' w w') (stored : w.notification id = some r)
    (stored' : w'.notification id = some r') : r'.createdAt = r.createdAt := by
  obtain ⟨p, p', es, rfl, rfl, run, -⟩ := stays
  have kept : (p'.world.notification id).map (·.createdAt) = some r.createdAt :=
    run.keeps (K := fun w => (w.notification id).map (·.createdAt) = some r.createdAt)
      (fun _ _ _ => createdAt_exec) (by rw [stored]; rfl)
  rw [stored'] at kept
  exact Option.some.inj kept

theorem nodup_ids {subject : String} {db : Db} (p : NotificationRow → Bool) :
    (((db.notifications.select (req.covers subject db)).filter p).map (·.id)).Nodup := by
  refine List.pairwise_map.2
    (((db.notifications.unique.filter (req.covers subject db)).filter p).imp fun apart same => ?_)
  exact apart _ (.head _) (same ▸ .head _)

/-- If all that stands before it stays listed, a notification does not move forward. -/
theorem WalkedPast.notCarriedPast (walked : WalkedPast ext claims req size rank id fs)
    (kept : KeepsAhead claims.subject req rank id fs) :
    NotCarriedPast claims.subject req size rank id fs := by
  intro k f f' r r' fetched fetched' shows shows' starts
  refine starts.trans ?_
  have stays := walked.between k f f' fetched fetched'
  have time : r'.createdAt = r.createdAt := stays.createdAt shows.1 shows'.1
  have same : r'.id = r.id := (World.id_of shows'.1).trans (World.id_of shows.1).symm
  have ids : ∀ rows : List NotificationRow, rows.length = (rows.map (·.id)).length := fun _ =>
    (List.length_map _).symm
  unfold ListNotificationsRequest.place
  rw [List.countP_eq_length_filter, List.countP_eq_length_filter, ids,
    ids (List.filter _ (f'.world.db.notifications.select _))]
  refine ((nodup_ids _).subperm fun i mem => ?_).length_le
  obtain ⟨s, standing, rfl⟩ := List.mem_map.1 mem
  obtain ⟨listed, ahead⟩ := List.mem_filter.1 standing
  have ahead := of_decide_eq_true ahead
  obtain ⟨s', there⟩ := kept k f f' r fetched fetched' shows s listed ahead
  have old : f.world.notification s.id = some s :=
    Table.lookup_of_mem (Table.mem_select.1 listed).1 (.head _)
  have named : s'.id = s.id := World.id_of there.1
  refine List.mem_map.2 ⟨s', List.mem_filter.2 ⟨there.mem_select, decide_eq_true ?_⟩, named⟩
  unfold Ahead at ahead ⊢
  dsimp only
  rw [named, same, time, stays.createdAt old there.1]
  exact ahead

/-- As long as it has not been handed out, the notification stands after all the pages so far. -/
theorem WalkedPast.place_of_missed (walked : WalkedPast ext claims req size rank id fs)
    (kept : NotCarriedPast claims.subject req size rank id fs) (missed : ¬ Returned ext id fs)
    (fetched : fs[k]? = some f) (shows : req.Shows claims.subject f.world.db id r) :
    (k + 1) * pageLimit size ≤ req.place claims.subject rank f.world.db r := by
  induction k generalizing f r with
  | zero =>
    by_contra before
    exact missed (walked.returned_of_window fetched shows (by omega) (by omega))
  | succ k ih =>
    obtain ⟨bound, -⟩ := List.getElem?_eq_some_iff.1 fetched
    have fetched' : fs[k]? = some fs[k] := List.getElem?_eq_getElem (by omega)
    obtain ⟨r', shows'⟩ := walked.listed _ (List.mem_of_getElem? fetched')
    have starts := kept k _ f r' r fetched' fetched shows' shows (ih fetched' shows')
    by_contra before
    exact missed (walked.returned_of_window fetched shows starts (by omega))

/-- What is never carried past the walk is handed out. -/
theorem WalkedPast.returned (walked : WalkedPast ext claims req size rank id fs)
    (kept : NotCarriedPast claims.subject req size rank id fs) : Returned ext id fs := by
  by_contra missed
  obtain ⟨f, last, ends⟩ := walked.complete
  -- the last page is not full, so nothing stands after it
  have fetched : fs[fs.length - 1]? = some f := List.getLast?_eq_getElem? (l := fs) ▸ last
  obtain ⟨r, shows⟩ := walked.listed f (List.mem_of_getElem? fetched)
  have after := walked.place_of_missed kept missed fetched shows
  have within := shows.place_lt walked.injective
  rcases Fetch.next_cases (walked.page_eq fetched) with ⟨-, next⟩ | ⟨short, -⟩
  · exact absurd (next.symm.trans ends) (toString_ne_empty _)
  · rw [length_window] at short
    rw [Nat.succ_mul] at after
    omega

end

/-- A notification that stays in the listing through a whole walk is handed out, if it is not carried
past the walk between two fetches; so in particular if all that stands before it stays listed, whatever
arrives, and whatever happens to notifications after it. -/
theorem walk_returns (ext : Ext) (claims : AuthClaims) (req : ListNotificationsRequest)
    (size : Int32) (rank : Uuid → ℕ) (id : Uuid) (fs : List Fetch)
    (walked : WalkedPast ext claims req size rank id fs) :
    (NotCarriedPast claims.subject req size rank id fs → Returned ext id fs) ∧
      (KeepsAhead claims.subject req rank id fs → Returned ext id fs) :=
  ⟨walked.returned, fun kept => walked.returned (walked.notCarriedPast kept)⟩

namespace Sample

/-- Two unseen notifications for `ann`, the second created at a time of its own. -/
def pair (created : Time) : World :=
  world
    { rows := [notification "unseen",
        { notification "unseen" with id := 4, idempotencyKey := none, createdAt := created }]
      unique := List.pairwise_pair.2
        (show ∀ k ∈ [NotificationKey.id 3, .idempotency "key"], k ∉ [NotificationKey.id 4] by decide)
      checked := by
        intro r hr
        rcases List.mem_cons.1 hr with rfl | hr
        · rfl
        · rcases List.mem_singleton.1 hr with rfl
          rfl } []

/-- `ann` marks the first as seen. -/
def markedSeen (created : Time) : State × History :=
  played (pair created) [.start 1 (.rpc 0 (some ann) (.markSeen ⟨["3"]⟩)), .step 1 choice]

/-- Her request for the unseen ones. -/
def unseenOnes : ListNotificationsRequest := ⟨[NotificationState.unseen.toProto], [], [], "", none⟩

/-- A walk with one notification on a page, the first marked as seen after the first page. -/
def overtaken (created : Time) : List Fetch :=
  [fetched unseenOnes 1 "" (pair created),
    fetched unseenOnes 1 "1" (markedSeen created).1.world]

theorem rank_injective : choice.rank.Injective := fun _ _ same => BitVec.eq_of_toNat_eq same

theorem walkedPast_overtaken {created : Time}
    (walk : Walk ext ann unseenOnes 1 "" (overtaken created)) (complete : Complete (overtaken created)) :
    WalkedPast ext ann unseenOnes 1 choice.rank 4 (overtaken created) where
  positive := by decide
  injective := rank_injective
  walk := walk
  complete := complete
  fits f hf := by
    rcases List.mem_cons.1 hf with rfl | hf
    · exact show 2 < 2 ^ 63 by decide
    · rcases List.mem_singleton.1 hf with rfl
      exact show 2 < 2 ^ 63 by decide
  ties f hf n := by
    rcases List.mem_cons.1 hf with rfl | hf
    · rfl
    · rcases List.mem_singleton.1 hf with rfl
      rfl
  listed f hf := by
    rcases List.mem_cons.1 hf with rfl | hf
    · exact ⟨_, rfl, rfl⟩
    · rcases List.mem_singleton.1 hf with rfl
      exact ⟨_, rfl, rfl⟩
  between k f f' hf hf' := by
    cases k with
    | zero =>
      cases hf
      cases hf'
      refine ⟨Pool.idle (pair created), (markedSeen created).1, (markedSeen created).2, rfl, rfl,
        run_played rfl, fun e he => ?_⟩
      cases he with
      | head => exact ⟨_, rfl, rfl⟩
      | tail _ he => cases he
    | succ k => cases hf'

/-- The older of two notifications is on the second page, and a message is on its way. -/
def expecting : World :=
  { pair (-5) with stream := [.ok { message with notificationId := 9, idempotencyKey := none }] }

/-- The notification of the message arrives. -/
def arrived : State × History :=
  played expecting (.start 0 (.processor 0 0) :: List.replicate 16 (.step 0 choice))

/-- A walk with one notification on a page, during which one arrives after the first page. -/
def lengthened : List Fetch :=
  [fetched unseenOnes 1 "" expecting, fetched unseenOnes 1 "1" arrived.1.world,
    fetched unseenOnes 1 "2" arrived.1.world, fetched unseenOnes 1 "3" arrived.1.world]

theorem walkedPast_lengthened : WalkedPast ext ann unseenOnes 1 choice.rank 4 lengthened where
  positive := by decide
  injective := rank_injective
  walk := .more rfl (by decide) (.more rfl (by decide) (.more rfl (by decide) (.last rfl rfl)))
  complete := ⟨_, rfl, rfl⟩
  fits f hf := by
    have few : (lengthened.all fun f => f.world.db.notifications.rows.length ≤ 3) = true := rfl
    exact (of_decide_eq_true (List.all_eq_true.1 few f hf)).trans_lt (by decide)
  ties f hf n := by
    simp only [lengthened, List.mem_cons, List.not_mem_nil, or_false] at hf
    obtain rfl | rfl | rfl | rfl := hf <;> rfl
  listed f hf := by
    simp only [lengthened, List.mem_cons, List.not_mem_nil, or_false] at hf
    obtain rfl | rfl | rfl | rfl := hf <;> exact ⟨_, rfl, rfl⟩
  between k f f' hf hf' := by
    have unchanged : StaysListed ext ann.subject unseenOnes 4 arrived.1.world arrived.1.world :=
      ⟨arrived.1, arrived.1, [], rfl, rfl, .init, fun e he => absurd he List.not_mem_nil⟩
    rcases k with _ | _ | _ | k
    · cases hf
      cases hf'
      have shown : (arrived.2.all fun e => (e.after.notification 4).any
        (unseenOnes.covers ann.subject e.after.db)) = true := rfl
      refine ⟨Pool.idle expecting, arrived.1, arrived.2, rfl, rfl, run_played rfl, fun e he => ?_⟩
      exact (Option.any_eq_true ..).1 (List.all_eq_true.1 shown e he)
    · cases hf
      cases hf'
      exact unchanged
    · cases hf
      cases hf'
      exact unchanged
    · cases hf'

theorem keepsAhead_lengthened : KeepsAhead ann.subject unseenOnes choice.rank 4 lengthened := by
  have stays : ∀ w ∈ lengthened.map (·.world),
      ((w.db.notifications.select (unseenOnes.covers ann.subject w.db)).all fun s =>
        (arrived.1.world.notification s.id).any
          (unseenOnes.covers ann.subject arrived.1.world.db)) = true := by
    intro w hw
    simp only [lengthened, List.map_cons, List.map_nil, List.mem_cons, List.not_mem_nil,
      or_false] at hw
    obtain rfl | rfl | rfl | rfl := hw <;> rfl
  intro k f f' r hf hf' _ s listed _
  have last : f'.world = arrived.1.world := by
    rcases k with _ | _ | _ | k <;> cases hf' <;> rfl
  rw [last]
  have listed := List.all_eq_true.1
    (stays _ (List.mem_map_of_mem (List.mem_of_getElem? hf))) s listed
  exact (Option.any_eq_true ..).1 listed

/-- The older notification is handed out on the third page. -/
theorem walk_returns_lengthened : NotCarriedPast ann.subject unseenOnes 1 choice.rank 4 lengthened ∧
    Returned ext 4 lengthened := by
  have kept := walkedPast_lengthened.notCarriedPast keepsAhead_lengthened
  exact ⟨kept, (walk_returns ext ann unseenOnes 1 choice.rank 4 lengthened walkedPast_lengthened).1
    kept⟩

theorem created_of_returned {created : Time} (returned : Returned ext 4 (overtaken created))
    (first : (fetched unseenOnes 1 "" (pair created)).page.notifications.map
      (fun n => n.createdAt) = [toTimestamp 0])
    (second : (fetched unseenOnes 1 "1" (markedSeen created).1.world).page.notifications = []) :
    toTimestamp created = toTimestamp 0 := by
  obtain ⟨f, hf, r, found, handed⟩ := returned
  rcases List.mem_cons.1 hf with rfl | hf
  · have listed := List.mem_map_of_mem (f := fun n : Notification => n.createdAt) handed
    have row : r.createdAt = created :=
      congrArg NotificationRow.createdAt (Option.some.inj found).symm
    rw [first] at listed
    exact row ▸ List.mem_singleton.1 listed
  · rcases List.mem_singleton.1 hf with rfl
    rw [second] at handed
    exact absurd handed List.not_mem_nil

end Sample

/-- The second notification is the older one: it stands after the first page, and before the second
when the first notification has been marked as seen. -/
theorem not_walk_returns : ¬ ∀ (ext : Ext) (claims : AuthClaims) (req : ListNotificationsRequest)
    (size : Int32) (rank : Uuid → ℕ) (id : Uuid) (fs : List Fetch),
    WalkedPast ext claims req size rank id fs → Returned ext id fs := by
  intro returns
  have walk : Walk Sample.ext Sample.ann Sample.unseenOnes 1 "" (Sample.overtaken (-5)) :=
    .more rfl (by decide) (.last rfl rfl)
  have returned := returns _ _ _ _ Sample.choice.rank 4 _
    (Sample.walkedPast_overtaken walk ⟨_, rfl, rfl⟩)
  exact absurd (Sample.created_of_returned returned rfl rfl) (by decide)

end Estafeta
