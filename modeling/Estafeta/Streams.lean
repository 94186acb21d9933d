import Estafeta.Grpc.Streaming
import Estafeta.System

/-!
# What a stream delivers

The subject of a user's events is made from the user's id, whatever characters the id has. Streams of
different users are kept apart unless the ids meet as patterns (`Meets`, `separate_iff`); ids without
wildcards meet only if one is the other followed by `.state` (`meets_iff_of_plain`).
-/

open Atomic Subjects

namespace Estafeta

/-! ## Subjects -/

namespace Nats

theorem tokens_append (a b : String) : tokens (a ++ "." ++ b) = tokens a ++ tokens b := by
  unfold tokens
  simp [← List.splitOn_append_cons_self]

theorem tokens_ne_nil (s : String) : tokens s ≠ [] := List.splitOn_ne_nil _ _

theorem tokens_injective : Function.Injective tokens := by
  intro s t same
  apply String.toList_injective
  have same := congrArg ([('.' : Char)].intercalate) same
  simpa [tokens] using same

theorem tokens_state (s : String) :
    tokens (s ++ ".state") = tokens s ++ [['s', 't', 'a', 't', 'e']] := by
  have parts := tokens_append s "state"
  rw [String.append_assoc] at parts
  exact parts

theorem tokens_user (s : String) :
    tokens s!"rt.user.{s}" = ['r', 't'] :: ['u', 's', 'e', 'r'] :: tokens s :=
  tokens_append "rt.user" s

theorem accepts_user (u v : String) : accepts s!"rt.user.{u}" s!"rt.user.{v}" = accepts u v := by
  unfold accepts
  rw [tokens_user, tokens_user, accepts_cons_self (by simp), accepts_cons_self (tokens_ne_nil u)]

theorem accepts_user_state (u v : String) :
    accepts s!"rt.user.{u}" s!"rt.user.{v}.state" = accepts u (v ++ ".state") := by
  rw [← accepts_user u]
  exact congrArg (accepts _) (String.append_assoc ..)

theorem accepts_state_user (u v : String) :
    accepts s!"rt.user.{u}.state" s!"rt.user.{v}" = accepts (u ++ ".state") v := by
  rw [← accepts_user _ v]
  exact congrArg (fun s => accepts s _) (String.append_assoc ..)

theorem accepts_state_state (u v : String) :
    accepts s!"rt.user.{u}.state" s!"rt.user.{v}.state" = accepts (u ++ ".state") (v ++ ".state") := by
  rw [← accepts_user_state]
  exact congrArg (fun s => accepts s _) (String.append_assoc ..)

theorem accepts_self (s : String) : accepts s s = true := accepts_iff.2 (.inl (fits_refl _ _))

theorem not_accepts_state (u : String) : ¬ accepts (u ++ ".state") u = true := by
  unfold accepts
  rw [tokens_state, accepts_snoc (by decide)]
  intro fits
  have lengths := List.Forall₂.length_eq fits
  rw [List.length_append, List.length_singleton] at lengths
  omega

end Nats

/-- The streams of two users are not kept apart: as a pattern the one's id accepts the other's, or an
id followed by `.state` takes the place of an id. -/
def Meets (u v : String) : Prop :=
  u ≠ v ∧ Nats.accepts u v = true ∨ Nats.accepts u (v ++ ".state") = true ∨
    Nats.accepts (u ++ ".state") v = true

/-- An id without wildcards. -/
def Plain (u : String) : Prop := ['*'] ∉ Nats.tokens u ∧ ['>'] ∉ Nats.tokens u

theorem Plain.accepts_iff {u v : String} (plain : Plain u) : Nats.accepts u v = true ↔ u = v := by
  unfold Nats.accepts
  rw [accepts_iff_of_plain plain.1 plain.2]
  exact Nats.tokens_injective.eq_iff

theorem Plain.state {u : String} (plain : Plain u) : Plain (u ++ ".state") := by
  unfold Plain
  rw [Nats.tokens_state]
  constructor
  · simpa using plain.1
  · simpa using plain.2

/-- Ids without wildcards meet only if one is the other followed by `.state`. -/
theorem meets_iff_of_plain {u v : String} (plain : Plain u) :
    Meets u v ↔ u = v ++ ".state" ∨ v = u ++ ".state" := by
  unfold Meets
  rw [plain.accepts_iff, plain.accepts_iff, plain.state.accepts_iff]
  constructor
  · rintro (⟨other, same⟩ | same | same)
    · exact absurd same other
    · exact .inl same
    · exact .inr same.symm
  · rintro (same | same)
    · exact .inr (.inl same)
    · exact .inr (.inr same.symm)

/-- Where the subject of the one's state changes accepts that of the other's, the ids meet. -/
theorem accepts_of_state {u v : String}
    (accepted : Nats.accepts (u ++ ".state") (v ++ ".state") = true) :
    Nats.accepts u v = true := by
  unfold Nats.accepts at accepted ⊢
  rw [Nats.tokens_state, Nats.tokens_state, accepts_snoc (by decide), fits_snoc] at accepted
  obtain ⟨ts, t, same, fits, _⟩ := accepted
  obtain ⟨rfl, _⟩ := List.append_inj' same rfl
  exact accepts_iff.2 (.inl fits)

/-! ## Streams -/

/-- The arm that relays what is published in this way. -/
def Publication.branch : Publication → StreamingService.Branch
  | realtime .. => .newNotification
  | stateChange .. => .stateChange

namespace StreamingService

variable {ext : Ext} {sub : Subscription} {s s' : Stream} {u v : String}

/-- The subscription that an arm reads receives the publication. -/
def Receives (sub : Subscription) (b : Branch) (publication : Publication) : Prop :=
  (subscription sub b).any (fun subject => Nats.accepts subject publication.subject) = true

/-- Whatever waits in a stream, or has been sent, was received by the subscription. -/
structure Stream.Sound (sub : Subscription) (s : Stream) : Prop where
  pending : ∀ b, ∀ p ∈ s.pending b, Receives sub b p
  sent : ∀ d ∈ s.sent, Receives sub d.branch d.publication

theorem deliver_sound (publication : Publication) (sound : s.Sound sub) :
    (deliver sub publication s).Sound sub where
  pending b p hp := by
    simp only [deliver] at hp
    split at hp
    next received =>
      rcases List.mem_append.1 hp with hp | hp
      · exact sound.pending b p hp
      · exact List.mem_singleton.1 hp ▸ received
    next => exact sound.pending b p hp
  sent := sound.sent

theorem iterate_sound {b : Branch} {connected : Bool} (sound : s.Sound sub)
    (step : iterate ext sub b connected s = some s') : s'.Sound sub := by
  unfold iterate at step
  split at step
  next publication rest _ waiting =>
    have first : Receives sub b publication := sound.pending b publication (by simp [waiting])
    have taken : ∀ c, ∀ p ∈ Function.update s.pending b rest c, Receives sub c p := by
      intro c p hp
      by_cases same : c = b
      · subst same
        rw [Function.update_self] at hp
        exact sound.pending c p (by simp [waiting, hp])
      · rw [Function.update_of_ne same] at hp
        exact sound.pending c p hp
    split at step
    next =>
      cases step
      exact ⟨taken, sound.sent⟩
    next event _ =>
      split at step
      next =>
        cases step
        refine ⟨taken, fun d hd => ?_⟩
        rcases List.mem_append.1 hd with hd | hd
        · exact sound.sent d hd
        · exact List.mem_singleton.1 hd ▸ first
      next =>
        cases step
        exact ⟨taken, sound.sent⟩
  next => cases step

theorem reached_sound (reached : Reached ext sub s) : s.Sound sub := by
  induction reached with
  | opened => exact ⟨by simp [Stream.opened], by simp [Stream.opened]⟩
  | act a _ step ih =>
    cases a with
    | publish publication =>
      cases step
      exact deliver_sound publication ih
    | take b connected => exact iterate_sound ih step

/-- What has been sent is what its arm makes of the text of an event. -/
theorem reached_relayed (reached : Reached ext sub s) : ∀ d ∈ s.sent,
    relay ext sub d.branch (d.publication.received ext) = some d.event := by
  induction reached with
  | opened => exact fun d sent => absurd sent List.not_mem_nil
  | act a _ step ih =>
    cases a with
    | publish publication =>
      cases step
      exact ih
    | take b connected =>
      have step : iterate ext sub b connected _ = some _ := step
      unfold iterate at step
      split at step
      next publication rest _ waiting =>
        split at step
        next =>
          cases step
          exact ih
        next event relayed =>
          split at step
          next =>
            cases step
            intro d sent
            rcases List.mem_append.1 sent with sent | sent
            · exact ih d sent
            · exact List.mem_singleton.1 sent ▸ relayed
          next =>
            cases step
            exact ih
      next => cases step

/-- What an arm makes of a publication that its subscription receives can be sent. -/
theorem sent_of_relay {b : Branch} {publication : Publication} {event : NotificationEvent}
    (received : Receives sub b publication)
    (relayed : relay ext sub b (publication.received ext) = some event) :
    ∃ s, Reached ext sub s ∧ ⟨b, publication, event⟩ ∈ s.sent := by
  have published : Reached ext sub (deliver sub publication .opened) :=
    Reached.opened.act (.publish publication) rfl
  have waits : (deliver sub publication .opened).pending b = [publication] := by
    unfold Receives at received
    simp [deliver, Stream.opened, received]
  have going : (deliver sub publication .opened).ended = false := rfl
  have step := published.act (.take b true) (by simp only [act, iterate, waits, going, relayed]; rfl)
  exact ⟨_, step, by simp⟩

theorem exists_sent (ext : Ext) {b : Branch} {publication : Publication}
    (received : Receives sub b publication)
    (unfiltered : sub.serviceFilter = []) :
    ∃ s event, Reached ext sub s ∧ ⟨b, publication, event⟩ ∈ s.sent := by
  obtain ⟨event, relayed⟩ : ∃ event,
      relay ext sub b (publication.received ext) = some event := by
    cases b with
    | newNotification => exact ⟨_, by simp [relay, newNotification, unfiltered]; rfl⟩
    | stateChange => exact ⟨_, rfl⟩
  obtain ⟨s, reached, sent⟩ := sent_of_relay received relayed
  exact ⟨s, event, reached, sent⟩

theorem natsSubscribe_cases (nats : String → Except String Unit) (subject : String) :
    natsSubscribe nats subject = .ret () ∨ ∃ e, natsSubscribe nats subject = .fail e := by
  unfold natsSubscribe
  rcases nats subject with e | ⟨⟩
  · exact .inr ⟨_, rfl⟩
  · exact .inl rfl

theorem subscribed {nats : String → Except String Unit} {claims : AuthClaims}
    {req : SubscribeRequest} (opened : subscribe nats (some claims) req = .ret sub) :
    sub = ⟨claims.subject, s!"rt.user.{claims.subject}",
      if req.includeStateChanges then some s!"rt.user.{claims.subject}.state" else none,
      req.serviceSlugs⟩ := by
  simp only [subscribe, AuthClaims.fromExtensions, Prog.okOr, Prog.ret_bind] at opened
  rcases natsSubscribe_cases nats s!"rt.user.{claims.subject}" with ok | ⟨e, failed⟩
  · rw [ok, Prog.ret_bind] at opened
    split at opened
    next included =>
      rcases natsSubscribe_cases nats s!"rt.user.{claims.subject}.state" with ok | ⟨e, failed⟩
      · rw [ok, Prog.ret_bind] at opened
        cases opened
        rw [if_pos included]
      · rw [failed] at opened
        cases opened
    next excluded =>
      cases opened
      rw [if_neg excluded]
  · rw [failed] at opened
    cases opened

theorem subscribe_eq_ret {nats : String → Except String Unit} {claims : AuthClaims}
    {req : SubscribeRequest} (opened : subscribe nats (some claims) req = .ret sub) :
    sub.newSub = s!"rt.user.{claims.subject}" ∧
      ∀ subject, sub.stateSub = some subject → subject = s!"rt.user.{claims.subject}.state" := by
  rw [subscribed opened]
  refine ⟨rfl, fun subject same => ?_⟩
  dsimp only at same
  split at same
  · exact (Option.some.inj same).symm
  · cases same

end StreamingService

/-- Nothing that is published for the one user is delivered to the other, and what is published for
a user comes through the arm that it is meant for. -/
def Separate (ext : Ext) (u v : String) : Prop :=
  ∀ nats scopes req sub s, StreamingService.subscribe nats (some ⟨u, scopes⟩) req = .ret sub →
    StreamingService.Reached ext sub s → ∀ d ∈ s.sent, d.publication.userId = v →
      u = v ∧ d.branch = d.publication.branch

section

open StreamingService

variable (ext : Ext) (u v : String)

theorem not_separate_of_meets (meets : Meets u v) : ¬ Separate ext u v := by
  intro separate
  have sends : ∀ b publication, publication.userId = v →
      Receives ⟨u, s!"rt.user.{u}", some s!"rt.user.{u}.state", []⟩ b publication →
      u = v ∧ b = publication.branch := by
    intro b publication user received
    obtain ⟨s, event, reached, sent⟩ := exists_sent ext received rfl
    exact separate (fun _ => .ok ()) [] ⟨[], true⟩ _ s rfl reached _ sent user
  have event : RealtimeEvent :=
    ⟨.newNotification, 0, "", "", none, none, none, none, none, none, none, none, none⟩
  rcases meets with ⟨other, accepted⟩ | accepted | accepted
  · rw [← Nats.accepts_user] at accepted
    exact other (sends .newNotification (.realtime v event) rfl accepted).1
  · rw [← Nats.accepts_user_state] at accepted
    cases (sends .newNotification (.stateChange v event) rfl accepted).2
  · rw [← Nats.accepts_state_user] at accepted
    cases (sends .stateChange (.realtime v event) rfl accepted).2

theorem separate_of_not_meets (apart : ¬ Meets u v) : Separate ext u v := by
  rintro nats scopes req sub s opened reached ⟨b, publication, event⟩ sent user
  obtain ⟨newSub, stateSub⟩ := subscribe_eq_ret opened
  have received := (reached_sound reached).sent _ sent
  have own : Nats.accepts u v = true → u = v := fun accepted =>
    by_contra fun other => apart (.inl ⟨other, accepted⟩)
  cases b with
  | newNotification =>
    have received : Nats.accepts sub.newSub publication.subject = true := received
    rw [newSub] at received
    cases publication with
    | realtime w event =>
      obtain rfl : w = v := user
      exact ⟨own ((Nats.accepts_user u w).symm.trans received), rfl⟩
    | stateChange w event =>
      obtain rfl : w = v := user
      exact absurd (.inr (.inl ((Nats.accepts_user_state u w).symm.trans received))) apart
  | stateChange =>
    obtain ⟨subject, subscribed, received⟩ := (Option.any_eq_true ..).1 received
    obtain rfl := stateSub subject subscribed
    cases publication with
    | realtime w event =>
      obtain rfl : w = v := user
      exact absurd (.inr (.inr ((Nats.accepts_state_user u w).symm.trans received))) apart
    | stateChange w event =>
      obtain rfl : w = v := user
      have accepted := (Nats.accepts_state_state u w).symm.trans received
      exact ⟨own (accepts_of_state accepted), rfl⟩

/-- The streams of two users are kept apart, and so are the arms of the stream of one, if and only if
the ids do not meet. -/
theorem separate_iff : Separate ext u v ↔ ¬ Meets u v := by
  constructor
  · intro separate meets
    exact not_separate_of_meets ext u v meets separate
  · exact separate_of_not_meets ext u v

/-- A new notification for `ann.state` is delivered to `ann` as a state change. -/
theorem not_separate : ¬ ∀ (ext : Ext) (u v : String), Separate ext u v := by
  intro separate
  refine not_separate_of_meets Sample.ext "ann" "ann.state" ?_ (separate _ _ _)
  exact .inr (.inr (by decide))

end

end Estafeta
