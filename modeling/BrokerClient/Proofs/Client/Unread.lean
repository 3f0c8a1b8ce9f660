import BrokerClient.Proofs.Client.Draining

/-!
# What closing does not read

Until it closes the transport, the close of a connection looks at no transport, and it never looks
at listeners and recorders. Whatever these are, it does the same and leaves them as they are.
-/

namespace BrokerClient.Client

variable {cl : Client}

def withUnread (cl : Client) (transports : Table TransportId Transport)
    (listeners : Table ListenerId Listener) (recorders : Table RecorderId (List TransportError)) :
    Client :=
  { cl with transports, listeners, recorders }

variable (ts : Table TransportId Transport) (ls : Table ListenerId Listener)
  (rs : Table RecorderId (List TransportError))

@[simp] theorem connection_withUnread (c : ConnectionId) :
    (cl.withUnread ts ls rs).connection c = cl.connection c := rfl

@[simp] theorem session_withUnread (s : SessionId) :
    (cl.withUnread ts ls rs).session s = cl.session s := rfl

theorem closeWithSession_withUnread (cl : Client) (k : ConsumerId) :
    (cl.withUnread ts ls rs).closeWithSession k =
      (cl.closeWithSession k).withUnread ts ls rs := by
  by_cases hc : (cl.consumer k).closed = true
  · have h : cl.closeWithSession k = cl := if_pos hc
    have h' : (cl.withUnread ts ls rs).closeWithSession k = cl.withUnread ts ls rs := if_pos hc
    rw [h, h']
  · have h : cl.closeWithSession k = _ := if_neg hc
    have h' : (cl.withUnread ts ls rs).closeWithSession k = _ := if_neg hc
    rw [h, h']
    rfl

theorem foldl_closeWithSession_withUnread (ks : List ConsumerId) (cl : Client) :
    ks.foldl closeWithSession (cl.withUnread ts ls rs) =
      (ks.foldl closeWithSession cl).withUnread ts ls rs := by
  induction ks generalizing cl with
  | nil => rfl
  | cons k ks ih => rw [List.foldl_cons, closeWithSession_withUnread, ih, List.foldl_cons]

theorem shutSession_withUnread (cl : Client) (s : SessionId) :
    (cl.withUnread ts ls rs).shutSession s = (cl.shutSession s).withUnread ts ls rs := by
  have hf := foldl_closeWithSession_withUnread ts ls rs (cl.session s).consumers
    (cl.onSession s fun x => { x with closed := true, consumers := [] })
  by_cases hc : (cl.session s).closed = true
  · rw [shutSession_of_closed hc]
    exact shutSession_of_closed hc
  · have h : cl.shutSession s = _ := if_neg hc
    have h' : (cl.withUnread ts ls rs).shutSession s = _ := if_neg hc
    rw [h, h']
    exact congrArg (fun z : Client =>
      (z.count Metrics.sessionClosed).note (.sessionClosed (cl.session s).number)) hf

theorem closeSession_withUnread (cl : Client) (s : SessionId) :
    (cl.withUnread ts ls rs).closeSession s = (cl.closeSession s).withUnread ts ls rs := by
  simp only [closeSession, session_withUnread, shutSession_withUnread, connection_withUnread]
  split <;> rfl

theorem drainStep?_withUnread (cl : Client) (c : ConnectionId) :
    (cl.withUnread ts ls rs).drainStep? c =
      (cl.drainStep? c).map (withUnread · ts ls rs) := by
  simp only [drainStep?, connection_withUnread, closeSession_withUnread]
  split <;> rfl

theorem drainWithin_withUnread (cl : Client) (c : ConnectionId) (rounds : Nat) :
    (cl.withUnread ts ls rs).drainWithin c rounds =
      (cl.drainWithin c rounds).withUnread ts ls rs := by
  induction rounds generalizing cl with
  | zero => rfl
  | succ rounds ih =>
    simp only [drainWithin, drainStep?_withUnread]
    cases cl.drainStep? c with
    | none => rfl
    | some cl' => exact ih cl'

theorem releaseId_withUnread (cl : Client) (r : RegistryId) (id : String) :
    (cl.withUnread ts ls rs).releaseId r id = (cl.releaseId r id).withUnread ts ls rs := by
  by_cases hh : (cl.registry r).holds id = true
  · have h : cl.releaseId r id = _ := if_pos hh
    have h' : (cl.withUnread ts ls rs).releaseId r id = _ := if_pos hh
    rw [h, h']
    rfl
  · have h : cl.releaseId r id = cl := if_neg hh
    have h' : (cl.withUnread ts ls rs).releaseId r id = cl.withUnread ts ls rs := if_neg hh
    rw [h, h']

theorem releaseClientId_withUnread (cl : Client) (c : ConnectionId) :
    (cl.withUnread ts ls rs).releaseClientId c = (cl.releaseClientId c).withUnread ts ls rs := by
  simp only [releaseClientId, connection_withUnread, releaseId_withUnread]
  split <;> rfl

theorem tearDown_withUnread (cl : Client) (c : ConnectionId) :
    (cl.withUnread ts ls rs).tearDown c = (cl.tearDown c).withUnread ts ls rs := by
  have hm : (cl.withUnread ts ls rs).onConnection c (fun x => { x with closed := true }) =
      (cl.onConnection c fun x => { x with closed := true }).withUnread ts ls rs := rfl
  simp only [tearDown, drain, hm, releaseClientId_withUnread, drainWithin_withUnread,
    connection_withUnread]
  rfl

/-- Tearing down changes nothing that it does not read. -/
theorem tearDown_unread (cl : Client) (c : ConnectionId) :
    cl.tearDown c = (cl.tearDown c).withUnread cl.transports cl.listeners cl.recorders :=
  tearDown_withUnread cl.transports cl.listeners cl.recorders cl c

end BrokerClient.Client
