import BrokerClient.Proofs.Client.History

/-!
# What a call accounts for

Some things change only by calls of one kind: objects are made by the calls that make them, client
IDs are claimed by the calls that set them, only uses of a connection rule out that it gets one, and
durable names are subscribed to and given up by sessions, unless somebody goes to the subscriptions
directly. Every change is traced to an allowed call of that kind, so a step by any other call leaves
the thing as it was.
-/

namespace BrokerClient

namespace Call

def makesConnection : Call → Bool
  | openConnection .. | connect .. => true
  | _ => false

def makesSession : Call → Bool
  | createSession .. => true
  | _ => false

def makesConsumer : Call → Bool
  | createConsumer .. | createDurable .. => true
  | _ => false

def isClaimFor (c : ConnectionId) : Call → Bool
  | setClientId c' _ => c' == c
  | _ => false

/-- The call claims a client ID, for a connection or directly. -/
def isClaim : Call → Bool
  | setClientId .. | claimId .. => true
  | _ => false

/-- The call goes to these durable subscriptions and not to a session. -/
def isDirectOn (d : SubscriptionsId) : Call → Bool
  | bindDurable d' .. | removeDurable d' _ => d' == d
  | _ => false

/-- The call may be on names in these durable subscriptions. -/
def isOnNames (d : SubscriptionsId) : Call → Bool
  | createDurable .. | unsubscribe .. => true
  | call => call.isDirectOn d

end Call

namespace Client

variable {allowed : Call → Prop}

/-- What the second client has made, claimed or counted more than the first, or does not admit any
more, is accounted for by allowed calls. -/
structure Accounted (allowed : Call → Prop) (before after : Client) : Prop where
  connection_keys :
    Explained allowed Call.makesConnection before.connections.keys after.connections.keys
  session_keys : Explained allowed Call.makesSession before.sessions.keys after.sessions.keys
  consumer_keys : Explained allowed Call.makesConsumer before.consumers.keys after.consumers.keys
  assignable : ∀ c, Explained allowed (Call.isUseOf c) (before.connection c).assignable
    (after.connection c).assignable
  clientId : ∀ c, Explained allowed (Call.isClaimFor c) (before.connection c).clientId
    (after.connection c).clientId
  collisions : Explained allowed Call.isClaim before.metrics.collisions after.metrics.collisions
  durables : ∀ d, Explained allowed (Call.isOnNames d) (before.durables d) (after.durables d)

namespace Accounted

variable {before middle after : Client}

theorem refl (cl : Client) : Accounted allowed cl cl where
  connection_keys := .refl _
  session_keys := .refl _
  consumer_keys := .refl _
  assignable _ := .refl _
  clientId _ := .refl _
  collisions := .refl _
  durables _ := .refl _

theorem trans (h : Accounted allowed before middle) (h' : Accounted allowed middle after) :
    Accounted allowed before after where
  connection_keys := h.connection_keys.trans h'.connection_keys
  session_keys := h.session_keys.trans h'.session_keys
  consumer_keys := h.consumer_keys.trans h'.consumer_keys
  assignable c := (h.assignable c).trans (h'.assignable c)
  clientId c := (h.clientId c).trans (h'.clientId c)
  collisions := h.collisions.trans h'.collisions
  durables d := (h.durables d).trans (h'.durables d)

/-- Where nothing of the kind happens there is nothing to account for. -/
theorem of_eq (hc : after.connections.keys = before.connections.keys)
    (hs : after.sessions.keys = before.sessions.keys)
    (hk : after.consumers.keys = before.consumers.keys)
    (ha : ∀ c, (after.connection c).assignable = (before.connection c).assignable)
    (hi : ∀ c, (after.connection c).clientId = (before.connection c).clientId)
    (hm : after.metrics.collisions = before.metrics.collisions)
    (hd : ∀ d, after.durables d = before.durables d) : Accounted allowed before after where
  connection_keys := Or.inl hc
  session_keys := Or.inl hs
  consumer_keys := Or.inl hk
  assignable c := Or.inl (ha c)
  clientId c := Or.inl (hi c)
  collisions := Or.inl hm
  durables d := Or.inl (hd d)

theorem addConsumer {cl : Client} (k : ConsumerId) (x : Consumer)
    (ha : ∃ call, allowed call ∧ call.makesConsumer = true) :
    Accounted allowed cl (cl.addConsumer k x) where
  connection_keys := .refl _
  session_keys := Or.inl (Table.keys_modify _ _ _)
  consumer_keys := Or.inr ha
  assignable _ := .refl _
  clientId _ := .refl _
  collisions := .refl _
  durables _ := .refl _

end Accounted

theorem Change.accounted {before after : Client} (h : Change allowed before after) :
    Accounted allowed before after := by
  cases h with
  | aside h =>
    refine .of_eq ?_ ?_ ?_ ?_ ?_ h.collisions h.durables
    · rw [h.connections]
    · rw [h.sessions]
    · rw [h.consumers]
    · exact fun c => by rw [connection_congr h.connections]
    · exact fun c => by rw [connection_congr h.connections]
  | openConnection c t r d hc _ _ _ ha =>
    have hv := connection_withConnection hc (.fresh t r d)
    -- A connection that does not exist reads as one that was never used.
    have hdef : before.connection c = default := Table.get_of_not_has hc
    have hmakes : ∃ call, allowed call ∧ call.makesConnection = true := by
      rcases ha with ⟨deaf, ha⟩ | ⟨f, ha, -⟩
      · exact ⟨_, ha, rfl⟩
      · exact ⟨_, ha, rfl⟩
    exact {
      connection_keys := Or.inr hmakes
      session_keys := .refl _
      consumer_keys := .refl _
      assignable := fun c' => Or.inl (by
        rw [hv]
        split
        · next he => rw [he, hdef]; rfl
        · rfl)
      clientId := fun c' => Or.inl (by
        rw [hv]
        split
        · next he => rw [he, hdef]; rfl
        · rfl)
      collisions := .refl _
      durables := fun _ => .refl _ }
  | adjust c f hc hf _ ha _ _ =>
    have hv := connection_onConnection_of_has hc f
    exact {
      connection_keys := Or.inl (Table.keys_modify _ _ _)
      session_keys := .refl _
      consumer_keys := .refl _
      assignable := fun c' => by
        rw [hv]
        split
        · next he => rw [he]; exact ha
        · exact .refl _
      clientId := fun c' => Or.inl (by
        rw [hv]
        split
        · next he => rw [he]; exact (congrArg Connection.clientId hf :)
        · rfl)
      collisions := .refl _
      durables := fun _ => .refl _ }
  | identify c id claimed ho _ _ ha =>
    have hv := connection_identified ho id claimed
    exact {
      connection_keys := Or.inl (Table.keys_modify _ _ _)
      session_keys := .refl _
      consumer_keys := .refl _
      assignable := fun c' => Or.inl (by
        rw [hv]
        split
        · next he => rw [he]
        · rfl)
      clientId := fun c' => by
        rw [hv]
        split
        · next he => exact Or.inr ⟨_, ha, beq_iff_eq.mpr he.symm⟩
        · exact .refl _
      collisions := .refl _
      durables := fun _ => .refl _ }
  | collide id ha =>
    have hclaims : ∃ call, allowed call ∧ call.isClaim = true := by
      rcases ha with ⟨c, ha⟩ | ⟨r, ha⟩
      · exact ⟨_, ha, rfl⟩
      · exact ⟨_, ha, rfl⟩
    exact { Accounted.refl before with collisions := Or.inr hclaims }
  | createSession c s transacted mode ho _ ha =>
    obtain ⟨kind, ha⟩ := ha
    have hv := connection_withSession_eq (has_connection ho) s
      (before.nextSession c transacted mode)
    exact {
      connection_keys := Or.inl (Table.keys_modify _ _ _)
      session_keys := Or.inr ⟨_, ha, rfl⟩
      consumer_keys := .refl _
      assignable := fun c' => Or.inl (by
        obtain ⟨ss, n, -, he⟩ := hv c'
        rw [he])
      clientId := fun c' => Or.inl (by
        obtain ⟨ss, n, -, he⟩ := hv c'
        rw [he])
      collisions := .refl _
      durables := fun _ => .refl _ }
  | switch c stopped _ _ h =>
    refine .of_eq h.connection_keys h.session_keys ?_ ?_ ?_ ?_ ?_
    · rw [h.consumers]
    · exact fun c' => by rw [h.connection_eq]
    · exact fun c' => by rw [h.connection_eq]
    · rw [h.metrics]
    · exact fun d => by rw [durables, durables, h.subscriptions]
  | tell s paused _ _ =>
    exact .of_eq rfl (Table.keys_modify _ _ _) rfl (fun _ => rfl) (fun _ => rfl) rfl fun _ => rfl
  | shut c ss _ _ h =>
    refine .of_eq h.connection_keys h.session_keys h.consumer_keys ?_ ?_ ?_ ?_
    · exact fun c' => by rw [h.connection_eq]
    · exact fun c' => by rw [h.connection_eq]
    · rw [h.metrics]
    · exact fun d => by rw [durables, durables, h.subscriptions]
  | retire c handles _ _ h =>
    refine .of_eq h.connection_keys h.session_keys h.consumer_keys ?_ ?_ ?_ ?_
    · exact fun c' => by rw [h.connection_eq]
    · exact fun c' => by rw [h.connection_eq]
    · rw [h.metrics]
      rfl
    · exact fun d => by rw [durables, durables, h.subscriptions]
  | addConsumer k x _ _ _ _ _ ha =>
    obtain ⟨token, destination, selector, -, ha⟩ := ha
    exact .addConsumer k x ⟨_, ha, rfl⟩
  | subscribe k x name d _ _ _ _ _ _ ha =>
    obtain ⟨token, topic, selector, -, ha⟩ := ha
    have hbind : Accounted allowed before
        (before.onDurables (before.session x.session).subscriptions fun _ => d) :=
      { Accounted.refl before with durables := fun _ => Or.inr ⟨_, ha, rfl⟩ }
    exact hbind.trans (.addConsumer k x ⟨_, ha, rfl⟩)
  | unsubscribe s name _ _ ha =>
    exact { Accounted.refl before with durables := fun _ => Or.inr ⟨_, ha, rfl⟩ }
  | closeConsumer k _ h =>
    refine .of_eq ?_ h.session_keys h.consumer_keys ?_ ?_ ?_ ?_
    · rw [h.connections]
    · exact fun c => by rw [h.connection]
    · exact fun c => by rw [h.connection]
    · rw [h.metrics]
    · exact fun d => by rw [durables, durables, h.subscriptions]
  | claims r f id _ => exact .of_eq rfl rfl rfl (fun _ => rfl) (fun _ => rfl) rfl fun _ => rfl
  | bindings d f name k ha _ =>
    refine { Accounted.refl before with durables := fun d' => ?_ }
    by_cases he : d' = d
    · rw [he]
      rcases ha with ha | ha
      · exact Or.inr ⟨_, ha, beq_self_eq_true d⟩
      · exact Or.inr ⟨_, ha, beq_self_eq_true d⟩
    · exact Or.inl (before.subscriptions.get_modify_of_ne he f)
  | closeTransport t _ => exact .of_eq rfl rfl rfl (fun _ => rfl) (fun _ => rfl) rfl fun _ => rfl

theorem Changes.accounted {before after : Client} (h : Changes allowed before after) :
    Accounted allowed before after := by
  induction h with
  | refl => exact .refl before
  | tail _ hlast ih => exact ih.trans hlast.accounted

/-- A step changes nothing that its call does not account for. -/
theorem accounted_step {cl : Client} (h : Sound cl) (call : Call) :
    Accounted (· = call) cl (cl.step call).1 :=
  Changes.accounted (changes_step h rfl)

end Client

end BrokerClient
