import BrokerClient.Proofs.Client.History
import BrokerClient.Proofs.Teardown

/-!
# Endings of connections

A connection ends by its close, with the guard that holds it, or with the last reference to it. The
last reference is gone before the connection is closed, so its sessions do not find it any more. All
endings come to the same.
-/

namespace BrokerClient.Client

variable {cl : Client} {c : ConnectionId}

/-- All of a client but how many refer to a connection and what was noted. -/
def apartFromReferences (cl : Client) (c : ConnectionId) : Client := cl.recounted c 0 []

theorem apart_recounted (cl : Client) (c : ConnectionId) (handles : Nat) (log : List Event) :
    (cl.recounted c handles log).apartFromReferences c = cl.apartFromReferences c := by
  simp only [apartFromReferences, recounted, Table.modify_modify]

/-- A retirement is determined but for the references that it leaves and for what it notes. -/
theorem Retires.apart_eq {before after after' : Client} {handles handles' : Nat}
    (h : Retires c handles before after) (h' : Retires c handles' before after') :
    after.apartFromReferences c = after'.apartFromReferences c := by
  have hv : ∀ {x : Client} {n : Nat}, Retires c n before x → ∀ c',
      (x.onConnection c fun y => { y with handles := 0 }).connection c' =
        if c' = c then { before.connection c with closed := true, handles := 0 }
        else before.connection c' := by
    intro x n hx c'
    rw [connection_onConnection (fun _ => rfl), hx.connection, hx.connection, if_pos rfl]
    split <;> rfl
  have hconnections : after.connections.modify c (fun y => { y with handles := 0 }) =
      after'.connections.modify c fun y => { y with handles := 0 } := by
    refine Table.ext_get ?_ fun c' => (hv h c').trans (hv h' c').symm
    rw [Table.keys_modify, Table.keys_modify, h.connection_keys, h'.connection_keys]
  have hsessions : after.sessions = after'.sessions :=
    Table.ext_get (h.session_keys.trans h'.session_keys.symm) fun s =>
      (h.session s).trans (h'.session s).symm
  have hconsumers : after.consumers = after'.consumers :=
    Table.ext_get (h.consumer_keys.trans h'.consumer_keys.symm) fun k =>
      (h.consumer k).trans (h'.consumer k).symm
  have hregistries : after.registries = after'.registries :=
    Table.ext_get (h.registry_keys.trans h'.registry_keys.symm) fun r =>
      (h.registry r).trans (h'.registry r).symm
  have htransports : after.transports = after'.transports :=
    Table.ext_get (h.transport_keys.trans h'.transport_keys.symm) fun t =>
      (h.transport t).trans (h'.transport t).symm
  rw [apartFromReferences, apartFromReferences, recounted, recounted, hconnections, hsessions,
    hconsumers, hregistries, htransports, h.subscriptions, h'.subscriptions, h.factories,
    h'.factories, h.listeners, h'.listeners, h.recorders, h'.recorders, h.metrics, h'.metrics]

/-- How many refer to a connection makes no difference to its close. -/
theorem apart_close_recounted (hw : WellFormed cl) (ho : (cl.connection c).closed = false)
    (handles : Nat) (log : List Event) :
    ((cl.recounted c handles log).close c).1.apartFromReferences c =
      (cl.close c).1.apartFromReferences c :=
  (retires_close_recounted hw ho handles log).apart_eq (retires_close hw ho)

theorem closed_close (hw : WellFormed cl) (ho : (cl.connection c).closed = false) :
    ((cl.close c).1.connection c).closed = true := by
  rw [(retires_close hw ho).connection, if_pos rfl]

/-- The result of a close is what the close of the transport came to. -/
theorem result_close (hw : WellFormed cl) (ho : (cl.connection c).closed = false) :
    (cl.close c).2 = closeResult (cl.transport (cl.connection c).transport).close.2 := by
  rw [← closeWith_self, closeWith_eq hw ho]

theorem apart_drop_of_last (hw : WellFormed cl) (ho : (cl.connection c).closed = false)
    (h : (cl.connection c).handles = 1) :
    (cl.drop c).apartFromReferences c = (cl.close c).1.apartFromReferences c := by
  have hclose := apart_close_recounted hw ho 0 (cl.log ++ [.connectionDropped])
  rw [drop_of_last ho (by rw [h])]
  split
  · next hd =>
    rw [hd] at hclose
    exact hclose
  · next hd =>
    rw [hd] at hclose
    exact hclose

theorem step_drop (hr : (cl.connection c).isReferred = true) :
    cl.step (.drop c) = (cl.drop c, .done) :=
  if_pos hr

/-- Giving up all references to a connection, one after the other, comes to its close. -/
theorem run_drops (hs : Sound cl) (ho : (cl.connection c).closed = false) {n : Nat}
    (h : (cl.connection c).handles = n + 1) :
    (cl.run (List.replicate (n + 1) (.drop c))).1.apartFromReferences c =
        (cl.close c).1.apartFromReferences c ∧
      (cl.run (List.replicate (n + 1) (.drop c))).2 = List.replicate (n + 1) .done := by
  induction n generalizing cl with
  | zero =>
    have hstep := step_drop (hs.referred c ho)
    have hrun : cl.run (List.replicate 1 (.drop c)) = (cl.drop c, [.done]) := by
      rw [List.replicate_one, run, hstep]
      rfl
    rw [hrun]
    exact ⟨apart_drop_of_last hs.toWellFormed ho h, rfl⟩
  | succ n ih =>
    -- All references but the last only go.
    have hc := has_connection ho
    have hdrop : cl.drop c = cl.recounted c (n + 1) cl.log := by
      rw [drop_eq_recounted hc (Or.inl (by omega)), h]
      rfl
    have hstep : cl.step (.drop c) = (cl.recounted c (n + 1) cl.log, .done) := by
      rw [step_drop (hs.referred c ho), hdrop]
    have hv := connection_recounted hc (n + 1) cl.log c
    rw [if_pos rfl] at hv
    have hs' : Sound (cl.recounted c (n + 1) cl.log) := by
      have hsound := hs.step (.drop c)
      rw [hstep] at hsound
      exact hsound
    obtain ⟨hrest, hanswers⟩ := ih hs' (by rw [hv]; exact ho) (by rw [hv])
    have hrun : cl.run (List.replicate (n + 1 + 1) (.drop c)) =
        (((cl.recounted c (n + 1) cl.log).run (List.replicate (n + 1) (.drop c))).1,
          .done :: ((cl.recounted c (n + 1) cl.log).run (List.replicate (n + 1) (.drop c))).2) := by
      rw [List.replicate_succ, run, hstep]
    rw [hrun, hrest, hanswers]
    exact ⟨apart_close_recounted hs.toWellFormed ho (n + 1) cl.log, rfl⟩

theorem apart_dropGuard (hw : WellFormed cl) (ho : (cl.connection c).closed = false) :
    (cl.dropGuard c).apartFromReferences c = (cl.close c).1.apartFromReferences c := by
  have hcl := closed_close hw ho
  have hc : (cl.close c).1.connections.has c = true :=
    ((retires_close hw ho).sameShape.connections_has c).trans
      (((shuts_drain hw c).connections_has c).trans (has_connection ho))
  -- The reference of the guard is given up once the connection is closed.
  unfold dropGuard
  rcases hd : cl.close c with ⟨cl', e | ⟨⟨⟩⟩⟩
  · rw [hd] at hcl hc
    have hdrop : (cl'.note (.guardCloseFailed e)).drop c = _ := drop_eq_recounted hc (Or.inr hcl)
    refine (congrArg (apartFromReferences · c) hdrop).trans ?_
    exact apart_recounted (cl'.note (.guardCloseFailed e)) c _ _
  · rw [hd] at hcl hc
    have hdrop : cl'.drop c = _ := drop_eq_recounted hc (Or.inr hcl)
    refine (congrArg (apartFromReferences · c) hdrop).trans ?_
    exact apart_recounted cl' c _ _

/-- In every reachable state the close of an open connection, the end of a guard that holds it and
the end of all references to it close it and leave the same client, but for the number of references
and the log. Only the close itself answers with an I/O error of the transport. A closed connection
loses at most a reference by them and nothing is noted. A guard that is released changes nothing but
the log. -/
theorem endings_agree (h : Reachable (fun _ => True) cl) (c : ConnectionId) :
    ((cl.connection c).closed = false →
      let closed := cl.step (.close c)
      let unguarded := cl.step (.dropGuard c)
      let dropped := cl.run (List.replicate (cl.connection c).handles (.drop c))
      (closed.1.connection c).closed = true ∧
        unguarded.1.apartFromReferences c = closed.1.apartFromReferences c ∧
        dropped.1.apartFromReferences c = closed.1.apartFromReferences c ∧
        closed.2 = (match (cl.transport (cl.connection c).transport).close.2 with
          | .error (.io e) => .failed (.transport e)
          | _ => .done) ∧
        unguarded.2 = .done ∧
        dropped.2 = List.replicate (cl.connection c).handles .done) ∧
    ((cl.connection c).isReferred = true → (cl.connection c).closed = true →
      let less := cl.recounted c ((cl.connection c).handles - 1) cl.log
      cl.step (.close c) = (cl, .done) ∧ cl.step (.dropGuard c) = (less, .done) ∧
        cl.step (.drop c) = (less, .done)) ∧
    ((cl.connection c).isReferred = true →
      cl.step (.releaseGuard c) = (cl.note .guardReleased, .done)) := by
  have hs := h.sound
  have hw := hs.toWellFormed
  have hclose : (cl.connection c).isReferred = true →
      cl.step (.close c) = ((cl.close c).1, .ofUnit (cl.close c).2) := fun hr => if_pos hr
  have hguard : (cl.connection c).isReferred = true →
      cl.step (.dropGuard c) = (cl.dropGuard c, .done) := fun hr => if_pos hr
  refine ⟨fun ho => ?_, fun hr hcl => ?_, fun hr => if_pos hr⟩
  · have hr := hs.referred c ho
    obtain ⟨n, hn⟩ : ∃ n, (cl.connection c).handles = n + 1 :=
      Nat.exists_eq_succ_of_ne_zero (bne_iff_ne.mp hr)
    obtain ⟨hdrops, hanswers⟩ := run_drops hs ho hn
    rw [hclose hr, hguard hr, hn]
    refine ⟨closed_close hw ho, apart_dropGuard hw ho, hdrops, ?_, rfl, hanswers⟩
    rw [result_close hw ho, closeResult_eq]
    rcases (cl.transport (cl.connection c).transport).close.2 with (_ | _ | _) | _ <;> rfl
  · have hless := drop_eq_recounted (has_connection_of_isReferred hr) (Or.inr hcl)
    have hgone : cl.dropGuard c = cl.drop c := by
      rw [dropGuard, close_of_closed hcl]
    rw [hclose hr, hguard hr, step_drop hr, hgone, close_of_closed hcl, hless]
    exact ⟨rfl, rfl, rfl⟩

/-- A connection with a client ID and a durable subscriber, to which a second reference exists. The
close of its transport is going to fail. -/
def failingCalls : List Call :=
  [.makeRegistry ⟨0⟩, .makeSubscriptions ⟨0⟩, .openTransport ⟨0⟩,
    .openConnection ⟨0⟩ ⟨0⟩ ⟨0⟩ ⟨0⟩ false, .setClientId ⟨0⟩ "a",
    .createSession .plain ⟨0⟩ ⟨0⟩ false .autoAcknowledge,
    .createDurable ⟨0⟩ ⟨0⟩ "x" (.topic "t") "n" none, .share ⟨0⟩,
    .failNextClose ⟨0⟩ (.io ⟨.brokenPipe, none⟩)]

theorem endings_agree_io :
    let cl := (initial.run failingCalls).1
    (cl.step (.close ⟨0⟩)).2 = .failed (.transport ⟨.brokenPipe, none⟩) ∧
      (cl.step (.dropGuard ⟨0⟩)).1.apartFromReferences ⟨0⟩ =
        (cl.step (.close ⟨0⟩)).1.apartFromReferences ⟨0⟩ ∧
      (cl.run [.drop ⟨0⟩, .drop ⟨0⟩]).1.apartFromReferences ⟨0⟩ =
        (cl.step (.close ⟨0⟩)).1.apartFromReferences ⟨0⟩ ∧
      (cl.step (.releaseGuard ⟨0⟩)).2 = .done := by
  have h : Reachable (fun _ => True) (initial.run failingCalls).1 :=
    Reachable.initial.run failingCalls fun _ _ => trivial
  obtain ⟨hopen, -, hreleased⟩ := endings_agree h ⟨0⟩
  obtain ⟨-, hguard, hdrops, hfails, -, -⟩ := hopen (by decide)
  exact ⟨hfails.trans rfl, hguard, hdrops, congrArg Prod.snd (hreleased (by decide))⟩

end BrokerClient.Client
