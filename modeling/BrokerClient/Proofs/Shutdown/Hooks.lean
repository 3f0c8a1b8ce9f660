import BrokerClient.Proofs.Client.Attribution
import BrokerClient.Proofs.Client.Creating

/-!
# Whom a transport tells

The hooks of a transport are those that calls registered with it, in the order of the calls. A
connection is registered at most once, and only with its own transport. When the hooks run, those
that are recorders leave everything to the one that is a connection.
-/

namespace BrokerClient

def ShutdownHook.connection? : ShutdownHook → Option ConnectionId
  | connection c => some c
  | recorder _ => none

/-- The hook that the call registers with the transport if it succeeds. -/
def Call.hookOn? (t : TransportId) : Call → Option ShutdownHook
  | openConnection c t' _ _ deaf => if t' = t ∧ deaf = false then some (.connection c) else none
  | connect _ c t' _ => if t' = t then some (.connection c) else none
  | addRecorder t' h => if t' = t then some (.recorder h) else none
  | _ => none

namespace Client

variable {cl : Client} {c : ConnectionId} {t : TransportId}

def hooked (t : TransportId) (e : Client × Call) : Option ShutdownHook :=
  if (answered e).isDone then e.2.hookOn? t else none

theorem hooked_of_not {call : Call} (h : call.isHookOn t = false) : hooked t (cl, call) = none := by
  unfold hooked
  split
  · cases call with
    | openConnection c t' r d deaf => exact if_neg fun hb => beq_eq_false_iff_ne.mp h hb.1
    | connect f c t' d => exact if_neg (beq_eq_false_iff_ne.mp h)
    | addRecorder t' r => exact if_neg (beq_eq_false_iff_ne.mp h)
    | _ => rfl
  · rfl

theorem hooked_of_not_done {call : Call} (h : (answered (cl, call)).isDone = false) :
    hooked t (cl, call) = none :=
  if_neg (Bool.eq_false_iff.mp h)

theorem hooked_of_done {call : Call} (h : answered (cl, call) = .done) :
    hooked t (cl, call) = call.hookOn? t := by
  unfold hooked
  rw [h]
  exact if_pos rfl

theorem transport_onShutdown (ht : cl.transports.has t = true) (hook : ShutdownHook) :
    ((cl.onTransport t fun x => x.onShutdown hook).transport t).hooks =
      (cl.transport t).hooks ++ [hook] := by
  have hv := Table.get_modify_of_has ht (fun x => x.onShutdown hook) t
  rw [if_pos rfl] at hv
  exact (congrArg Transport.hooks hv :)

theorem hooks_openConnection (ht : cl.transports.has t = true) (r : RegistryId)
    (d : SubscriptionsId) (deaf : Bool) :
    ((cl.openConnection c t r d deaf).transport t).hooks =
      (cl.transport t).hooks ++ if deaf then [] else [.connection c] := by
  cases deaf with
  | true => exact (List.append_nil _).symm
  | false => exact transport_onShutdown ht (.connection c)

/-- A transport just opened for a connection tells nobody else. -/
theorem hooks_connect {f : FactoryId} {d : SubscriptionsId} (ht : cl.transports.has t = false)
    (hx : (cl.factory f).connector = .loopback) :
    (cl.connect f c t d).2 = .ok () ∧
      ((cl.connect f c t d).1.transport t).hooks =
        (cl.transport t).hooks ++ [.connection c] := by
  have hnew : (cl.openTransport t).transports.has t = true :=
    (Table.has_insert ht .fresh t).mpr (Or.inr rfl)
  have hkept : ((cl.openTransport t).transport t).hooks = (cl.transport t).hooks := by
    have ha : Aside (fun _ => False) cl (cl.openTransport t) := aside_openTransport cl t
    exact (ha.hooks_kept t).resolve_right fun ⟨_, hno, _⟩ => hno
  have hadjusted : ∀ (x : Client) f, (x.onConnection c f).transport t = x.transport t :=
    fun _ _ => rfl
  simp only [connect, hx]
  refine ⟨trivial, ?_⟩
  rw [hadjusted, ← hkept]
  refine (hooks_openConnection ?_ _ _ false).trans rfl
  exact hnew

theorem hooks_step_openConnection {r : RegistryId} {d : SubscriptionsId} {deaf : Bool}
    (ha : cl.admits (.openConnection c t r d deaf) = true) :
    ((cl.step (.openConnection c t r d deaf)).1.transport t).hooks =
      (cl.transport t).hooks ++ (hooked t (cl, .openConnection c t r d deaf)).toList := by
  have hstep : cl.step (.openConnection c t r d deaf) =
      (cl.openConnection c t r d deaf, .done) := if_pos ha
  simp only [admits, Bool.and_eq_true, Bool.not_eq_true'] at ha
  rw [hooked_of_done (by rw [answered, hstep]), hstep]
  refine (hooks_openConnection ha.1.1.2 r d deaf).trans ?_
  cases deaf <;> simp [Call.hookOn?]

theorem hooks_step_connect {f : FactoryId} {d : SubscriptionsId}
    (ha : cl.admits (.connect f c t d) = true) :
    ((cl.step (.connect f c t d)).1.transport t).hooks =
      (cl.transport t).hooks ++ (hooked t (cl, .connect f c t d)).toList := by
  have hstep : cl.step (.connect f c t d) = (cl.connect f c t d).map id .ofUnit := if_pos ha
  simp only [admits, Bool.and_eq_true, Bool.not_eq_true'] at ha
  cases hx : (cl.factory f).connector with
  | failing e =>
    have hfail : cl.connect f c t d = (cl, .error (.ofTransport e)) := by
      simp only [connect, hx]
    rw [hooked_of_not_done (by rw [answered, hstep, hfail]; rfl), hstep, hfail]
    exact (List.append_nil _).symm
  | loopback =>
    obtain ⟨hok, hhooks⟩ := hooks_connect (c := c) (d := d) ha.1.2 hx
    have hdone : answered (cl, .connect f c t d) = .done := by
      rw [answered, hstep]
      exact congrArg Answer.ofUnit hok
    rw [hooked_of_done hdone, hstep]
    refine hhooks.trans ?_
    simp [Call.hookOn?]

theorem hooks_step_addRecorder {r : RecorderId} (ha : cl.admits (.addRecorder t r) = true) :
    ((cl.step (.addRecorder t r)).1.transport t).hooks =
      (cl.transport t).hooks ++ (hooked t (cl, .addRecorder t r)).toList := by
  have hstep : cl.step (.addRecorder t r) = (cl.addRecorder t r, .done) := if_pos ha
  simp only [admits, Bool.and_eq_true, Bool.not_eq_true'] at ha
  rw [hooked_of_done (by rw [answered, hstep]), hstep]
  refine (transport_onShutdown ?_ (.recorder r)).trans ?_
  · exact ha.1
  · simp [Call.hookOn?]
    rfl

theorem hooks_step (h : Sound cl) (t : TransportId) (call : Call) :
    ((cl.step call).1.transport t).hooks =
      (cl.transport t).hooks ++ (hooked t (cl, call)).toList := by
  cases ha : cl.admits call with
  | false =>
    have hstep : cl.step call = (cl, .refused) := step_refused ha
    rw [hooked_of_not_done (by rw [answered, hstep]; rfl), hstep]
    exact (List.append_nil _).symm
  | true =>
    cases hk : call.isHookOn t with
    | false =>
      rw [hooked_of_not hk, ((attributed_step h call).hooks t).eq hk]
      exact (List.append_nil _).symm
    | true =>
      cases call with
      | openConnection c t' r d deaf =>
        obtain rfl : t' = t := beq_iff_eq.mp hk
        exact hooks_step_openConnection ha
      | connect f c t' d =>
        obtain rfl : t' = t := beq_iff_eq.mp hk
        exact hooks_step_connect ha
      | addRecorder t' r =>
        obtain rfl : t' = t := beq_iff_eq.mp hk
        exact hooks_step_addRecorder ha
      | _ => cases hk

theorem hooks_run (calls : List Call) (t : TransportId) :
    ((initial.run calls).1.transport t).hooks = (initial.history calls).filterMap (hooked t) :=
  list_run (fun cl => (cl.transport t).hooks) (hooked t) (fun _ call h => hooks_step h t call)
    sound_initial calls

/-- A connection is registered with a transport by the call that opens it over the transport. -/
theorem opening_of_hookOn? {call : Call} (h : call.hookOn? t = some (.connection c)) :
    (∃ r d, call = .openConnection c t r d false) ∨ ∃ f d, call = .connect f c t d := by
  cases call with
  | openConnection c' t' r d deaf =>
    simp only [Call.hookOn?] at h
    split at h
    · next hb =>
      obtain ⟨rfl, rfl⟩ := hb
      cases h
      exact Or.inl ⟨r, d, rfl⟩
    · cases h
  | connect f c' t' d =>
    simp only [Call.hookOn?] at h
    split at h
    · next hb =>
      cases h
      exact Or.inr ⟨f, d, by rw [hb]⟩
    · cases h
  | addRecorder t' r =>
    simp only [Call.hookOn?] at h
    split at h <;> cases h
  | _ => cases h

theorem opening_of_hooked {call : Call} (h : hooked t (cl, call) = some (.connection c)) :
    (answered (cl, call)).isDone = true ∧
      ((∃ r d, call = .openConnection c t r d false) ∨ ∃ f d, call = .connect f c t d) := by
  unfold hooked at h
  split at h
  · next hdone => exact ⟨hdone, opening_of_hookOn? h⟩
  · cases h

/-- A hook that tells a connection comes with the connection. -/
theorem madeConnection_of_hooked {e : Client × Call} (h : hooked t e = some (.connection c)) :
    madeConnection e = some c := by
  obtain ⟨cl, call⟩ := e
  obtain ⟨hdone, hopening⟩ := opening_of_hooked h
  rcases hopening with ⟨r, d, rfl⟩ | ⟨f, d, rfl⟩
  · exact if_pos hdone
  · exact if_pos hdone

/-- A connection is registered with its own transport. -/
theorem transport_of_hooked {call : Call} (h : hooked t (cl, call) = some (.connection c)) :
    ((cl.step call).1.connection c).transport = t := by
  obtain ⟨hdone, hopening⟩ := opening_of_hooked h
  cases ha : cl.admits call with
  | false =>
    have hstep : cl.step call = (cl, .refused) := step_refused ha
    rw [answered, hstep] at hdone
    cases hdone
  | true =>
    have hstep : cl.step call = cl.perform call := if_pos ha
    rcases hopening with ⟨r, d, rfl⟩ | ⟨f, d, rfl⟩
    · simp only [admits, Bool.and_eq_true, Bool.not_eq_true'] at ha
      rw [hstep]
      exact congrArg Connection.transport (connection_openConnection ha.1.1.1 t r d false)
    · simp only [admits, Bool.and_eq_true, Bool.not_eq_true'] at ha
      have hperform : cl.perform (.connect f c t d) = (cl.connect f c t d).map id .ofUnit := rfl
      rw [answered, hstep, hperform] at hdone
      cases hx : (cl.factory f).connector with
      | failing e =>
        simp only [connect, hx] at hdone
        cases hdone
      | loopback =>
        have hnew := (connection_connect (t := t) (d := d) ha.1.1.2 hx).2
        rw [hstep]
        exact congrArg Connection.transport hnew

theorem hooked_known {calls : List Call}
    (h : .connection c ∈ (initial.history calls).filterMap (hooked t)) :
    (initial.run calls).1.connections.has c = true ∧
      ((initial.run calls).1.connection c).transport = t := by
  obtain ⟨⟨cl, call⟩, he, hk⟩ := List.mem_filterMap.mp h
  obtain ⟨hsound, later, hrun⟩ := run_of_mem_history sound_initial he
  have hkeys := connections_step hsound call
  rw [madeConnection_of_hooked hk] at hkeys
  have hhas : (cl.step call).1.connections.has c = true := by
    rw [Table.has_iff, hkeys]
    exact List.mem_append_right _ (List.mem_singleton_self c)
  have hcontinues := continues_run (hsound.step call) later
  rw [hrun]
  refine ⟨hcontinues.connections_has c hhas, ?_⟩
  have horigin := (congrArg Prod.fst (hcontinues.connection c hhas).origin :)
  exact horigin.trans (transport_of_hooked hk)

/-- What is picked from a list is in the order of what is picked less strictly. -/
theorem filterMap_sublist {α β : Type} {f g : α → Option β}
    (h : ∀ a b, f a = some b → g a = some b) (l : List α) :
    (l.filterMap f).Sublist (l.filterMap g) := by
  induction l with
  | nil => exact .refl _
  | cons a l ih =>
    cases hf : f a with
    | none =>
      rw [List.filterMap_cons_none hf]
      cases hg : g a with
      | none =>
        rw [List.filterMap_cons_none hg]
        exact ih
      | some b =>
        rw [List.filterMap_cons_some hg]
        exact ih.cons b
    | some b =>
      rw [List.filterMap_cons_some hf, List.filterMap_cons_some (h a b hf)]
      exact ih.cons_cons b

/-- A list without repetition whose members are all the same has one member. -/
theorem eq_singleton {α : Type} {a : α} {l : List α} (hn : l.Nodup) (hm : a ∈ l)
    (hall : ∀ b ∈ l, b = a) : l = [a] := by
  have hl : l = List.replicate l.length a := List.eq_replicate_of_mem hall
  have hle : l.length ≤ 1 := by
    rw [hl] at hn
    exact List.nodup_replicate.mp hn
  have hlt := List.length_pos_of_mem hm
  have hone : l.length = 1 := by omega
  rw [hl, hone]
  rfl

/-- A connection that alone is over a transport, and is registered with it, is the only one that the
transport tells, and is told once. -/
theorem connections_hooked {calls : List Call}
    (h : .connection c ∈ (initial.history calls).filterMap (hooked t))
    (honly : ∀ c', (initial.run calls).1.connections.has c' = true →
      ((initial.run calls).1.connection c').transport = t → c' = c) :
    ((initial.run calls).1.transport t).hooks.filterMap ShutdownHook.connection? = [c] := by
  rw [hooks_run]
  have hmem : ∀ c', c' ∈ ((initial.history calls).filterMap (hooked t)).filterMap
      ShutdownHook.connection? → c' = c := by
    intro c' hm
    obtain ⟨hook, hhook, hc⟩ := List.mem_filterMap.mp hm
    cases hook with
    | connection c'' =>
      cases hc
      obtain ⟨hhas, ht⟩ := hooked_known hhook
      exact honly c' hhas ht
    | recorder r => cases hc
  refine eq_singleton ?_ (List.mem_filterMap.mpr ⟨_, h, rfl⟩) hmem
  -- Each of them was opened by one call of the history, and no connection is opened twice.
  rw [List.filterMap_filterMap]
  have hmade : ((initial.history calls).filterMap madeConnection).Nodup := by
    rw [← connections_run]
    exact (initial.run calls).1.connections.nodup
  refine (filterMap_sublist ?_ _).nodup hmade
  intro e c' he
  obtain ⟨hook, hhook, hc⟩ := Option.bind_eq_some_iff.mp he
  cases hook with
  | connection c'' =>
    cases hc
    exact madeConnection_of_hooked hhook
  | recorder r => cases hc

/-- Recorders that are told of a shutdown keep it, and nothing else comes of that. -/
theorem runHooks_recorders {hooks : List ShutdownHook}
    (h : hooks.filterMap ShutdownHook.connection? = []) (cause : TransportError) :
    ∃ tell : Table RecorderId (List TransportError) → Table RecorderId (List TransportError),
      ∀ cl : Client, hooks.foldl (runHook cause) cl =
        { cl with recorders := tell cl.recorders } := by
  induction hooks with
  | nil => exact ⟨id, fun _ => rfl⟩
  | cons hook hooks ih =>
    cases hook with
    | connection c => cases h
    | recorder r =>
      obtain ⟨tell, hrest⟩ := ih h
      exact ⟨fun rs => tell (rs.modify r fun told => told ++ [cause]),
        fun cl => hrest (cl.record r cause)⟩

/-- Of hooks that tell one connection, that is the one that matters. -/
theorem runHooks_connection {hooks : List ShutdownHook}
    (h : hooks.filterMap ShutdownHook.connection? = [c]) (cause : TransportError) :
    ∃ earlier later :
        Table RecorderId (List TransportError) → Table RecorderId (List TransportError),
      ∀ cl : Client, hooks.foldl (runHook cause) cl =
        let told := runHook cause { cl with recorders := earlier cl.recorders } (.connection c)
        { told with recorders := later told.recorders } := by
  induction hooks with
  | nil => cases h
  | cons hook hooks ih =>
    cases hook with
    | connection c' =>
      obtain ⟨rfl, hno⟩ : c' = c ∧ hooks.filterMap ShutdownHook.connection? = [] := by
        simpa [ShutdownHook.connection?] using h
      obtain ⟨later, hrest⟩ := runHooks_recorders hno cause
      exact ⟨id, later, fun cl => hrest (runHook cause cl (.connection c'))⟩
    | recorder r =>
      obtain ⟨earlier, later, hrest⟩ := ih h
      exact ⟨fun rs => earlier (rs.modify r fun told => told ++ [cause]), later,
        fun cl => hrest (cl.record r cause)⟩

end Client

end BrokerClient
