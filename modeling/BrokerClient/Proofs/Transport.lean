import BrokerClient.Proofs.Client.Lookup
import Mathlib.Data.List.Induction

/-!
# Transports over whole runs

Whoever holds a transport can close it, make its next close fail, add a hook, or be the broker and
shut it down. What each of these comes to is determined by what was done before: whether something
has ended the transport, what was last said about the next close, and which hooks were added.
-/

namespace BrokerClient

namespace Transport

/-- One use of a transport. -/
inductive Use where
  | failNextClose (failure : TransportError)
  | close
  | signalShutdown (reason : String)
  | onShutdown (hook : ShutdownHook)
  deriving DecidableEq, Repr

namespace Use

/-- The use ends the transport if nothing did before. -/
def ends : Use → Bool
  | close | signalShutdown _ => true
  | _ => false

/-- What the use leaves of a failure of the next close, if it says anything about that. -/
def script? : Use → Option (Option TransportError)
  | failNextClose failure => some (some failure)
  | close => some none
  | _ => none

/-- The reason that the broker gives, if it is the broker that ends the transport. -/
def reason? : Use → Option String
  | signalShutdown reason => some reason
  | _ => none

def hook? : Use → Option ShutdownHook
  | onShutdown hook => some hook
  | _ => none

end Use

def used (x : Transport) : Use → Transport
  | .failNextClose failure => x.failNextClose failure
  | .close => x.close.1
  | .signalShutdown _ => x.signalShutdown.1
  | .onShutdown hook => x.onShutdown hook

/-- What a close that finds the transport so returns. -/
def result? (x : Transport) : Use → Option (Except TransportError Unit)
  | .close => some x.close.2
  | _ => none

/-- The hooks that a use runs, each with the cause that it is told, in the order of their running. -/
def told (x : Transport) : Use → List (ShutdownHook × TransportError)
  | .signalShutdown reason => x.signalShutdown.2.map fun hook => (hook, .shutdownSignal reason)
  | _ => []

/-- The transport after uses in their order. -/
def after (x : Transport) (uses : List Use) : Transport := uses.foldl used x

def history (x : Transport) : List Use → List (Transport × Use)
  | [] => []
  | u :: uses => (x, u) :: (x.used u).history uses

def results (x : Transport) (uses : List Use) : List (Except TransportError Unit) :=
  (x.history uses).filterMap fun e => e.1.result? e.2

/-- All hooks that the uses run, in the order in which they run. -/
def toldBy (x : Transport) (uses : List Use) : List (ShutdownHook × TransportError) :=
  (x.history uses).flatMap fun e => e.1.told e.2

def failedWith (failure : TransportError) : Except TransportError Unit → Bool
  | .error e => e == failure
  | .ok _ => false

/-- A failure was set for the next close, and since then there was neither a close nor another
failure set. -/
def Scripted (uses : List Use) (failure : TransportError) : Prop :=
  ∃ before later, uses = before ++ .failNextClose failure :: later ∧
    ∀ u ∈ later, u ≠ .close ∧ ∀ other, u ≠ .failNextClose other

variable {x : Transport} {uses : List Use} {u : Use}

theorem closed_used (x : Transport) (u : Use) : (x.used u).closed = (x.closed || u.ends) := by
  cases u with
  | failNextClose failure => exact (Bool.or_false _).symm
  | close => rw [used, close_eq, Use.ends, Bool.or_true]
  | signalShutdown reason =>
    rw [used, signalShutdown, Use.ends, Bool.or_true]
    split
    · assumption
    · rfl
  | onShutdown hook => exact (Bool.or_false _).symm

theorem closeCalls_used (x : Transport) (u : Use) :
    (x.used u).closeCalls = x.closeCalls + [u].count .close := by
  cases u with
  | close => rw [used, close_eq]; rfl
  | signalShutdown reason =>
    rw [used, signalShutdown]
    split <;> rfl
  | failNextClose failure => rfl
  | onShutdown hook => rfl

theorem pendingFailure_used (x : Transport) (u : Use) :
    (x.used u).pendingFailure = u.script?.getD x.pendingFailure := by
  cases u with
  | close => rw [used, close_eq]; rfl
  | signalShutdown reason =>
    rw [used, signalShutdown]
    split <;> rfl
  | failNextClose failure => rfl
  | onShutdown hook => rfl

theorem hooks_used (x : Transport) (u : Use) : (x.used u).hooks = x.hooks ++ u.hook?.toList := by
  cases u with
  | close => rw [used, close_eq]; exact (List.append_nil _).symm
  | signalShutdown reason =>
    rw [used, signalShutdown]
    split <;> exact (List.append_nil _).symm
  | failNextClose failure => exact (List.append_nil _).symm
  | onShutdown hook => rfl

/-- A close returns what was set for it, or else whether the transport was open. -/
theorem result_close (x : Transport) :
    x.close.2 = match x.pendingFailure with
      | some failure => .error failure
      | none => if x.closed then .error .alreadyClosed else .ok () := by
  unfold close
  cases x.pendingFailure with
  | some failure => rfl
  | none => cases x.closed <;> rfl

theorem told_of_closed (h : x.closed = true) (u : Use) : x.told u = [] := by
  cases u with
  | signalShutdown reason => rw [told, signalShutdown, if_pos h]; rfl
  | _ => rfl

theorem after_append (x : Transport) (uses : List Use) (u : Use) :
    x.after (uses ++ [u]) = (x.after uses).used u := by
  rw [after, List.foldl_append]
  rfl

/-- The state of a transport as a function of what was done to it since it was opened. -/
structure Lived (uses : List Use) (x : Transport) : Prop where
  closed : x.closed = uses.any Use.ends
  closeCalls : x.closeCalls = uses.count .close
  pendingFailure : x.pendingFailure = (uses.filterMap Use.script?).getLast?.join
  hooks : x.hooks = uses.filterMap Use.hook?

theorem lived_fresh : Lived [] fresh := ⟨rfl, rfl, rfl, rfl⟩

theorem Lived.used (h : Lived uses x) (u : Use) : Lived (uses ++ [u]) (x.used u) where
  closed := by
    rw [closed_used, h.closed, List.any_append, List.any_cons, List.any_nil, Bool.or_false]
  closeCalls := by
    rw [closeCalls_used, h.closeCalls, List.count_append]
  pendingFailure := by
    rw [pendingFailure_used, h.pendingFailure, List.filterMap_append]
    cases hs : u.script? with
    | none => rw [List.filterMap_cons_none hs, List.filterMap_nil, List.append_nil]; rfl
    | some script => rw [List.filterMap_cons_some hs, List.filterMap_nil, List.getLast?_concat]; rfl
  hooks := by
    rw [hooks_used, h.hooks, List.filterMap_append]
    cases hk : u.hook? with
    | none => rw [List.filterMap_cons_none hk]; rfl
    | some hook => rw [List.filterMap_cons_some hk]; rfl

theorem lived_after (uses : List Use) : Lived uses (fresh.after uses) := by
  induction uses using List.reverseRecOn with
  | nil => exact lived_fresh
  | append_singleton uses u ih =>
    rw [after_append]
    exact ih.used u

/-- What is pending is what was set last, unless a close has used it up. -/
theorem scripted_iff (uses : List Use) (failure : TransportError) :
    Scripted uses failure ↔ (fresh.after uses).pendingFailure = some failure := by
  have hsilent : ∀ u : Use, u.script? = none ↔ u ≠ .close ∧ ∀ other, u ≠ .failNextClose other := by
    intro u
    cases u <;> simp [Use.script?]
  rw [(lived_after uses).pendingFailure, Option.join_eq_some_iff, List.getLast?_eq_some_iff]
  constructor
  · rintro ⟨before, later, rfl, hlater⟩
    refine ⟨before.filterMap Use.script?, ?_⟩
    have hnone : later.filterMap Use.script? = [] :=
      List.filterMap_eq_nil_iff.mpr fun u hu => (hsilent u).mpr (hlater u hu)
    have hset : Use.script? (.failNextClose failure) = some (some failure) := rfl
    rw [List.filterMap_append, List.filterMap_cons_some hset, hnone]
  · rintro ⟨scripts, hscripts⟩
    obtain ⟨before, rest, rfl, -, hrest⟩ := List.filterMap_eq_append_iff.mp hscripts
    obtain ⟨silent, u, later, rfl, -, hu, hlater⟩ := List.filterMap_eq_cons_iff.mp hrest
    have hset : u = .failNextClose failure := by
      cases u <;> simp_all [Use.script?]
    refine ⟨before ++ silent, later, ?_, fun v hv => ?_⟩
    · rw [hset, List.append_assoc]
    · exact (hsilent v).mp (List.filterMap_eq_nil_iff.mp hlater v hv)

/-- Only the first of all closes and shutdowns can be a close that went well. -/
theorem countP_isOk (x : Transport) (uses : List Use) :
    (x.results uses).countP Except.isOk ≤ if x.closed then 0 else 1 := by
  induction uses generalizing x with
  | nil => exact Nat.zero_le _
  | cons u uses ih =>
    have hended : u.ends = true → ((x.used u).results uses).countP Except.isOk ≤ 0 := by
      intro hu
      have hrest := ih (x.used u)
      rwa [closed_used, hu, Bool.or_true, if_pos rfl] at hrest
    cases u with
    | close =>
      have hresults : x.results (.close :: uses) = x.close.2 :: (x.used .close).results uses := rfl
      have hrest := hended rfl
      rw [hresults, List.countP_cons, result_close]
      cases x.pendingFailure with
      | some failure => exact Nat.le_trans hrest (Nat.zero_le _)
      | none =>
        cases x.closed with
        | true => exact hrest
        | false => exact Nat.add_le_add_right hrest 1
    | signalShutdown reason => exact Nat.le_trans (hended rfl) (Nat.zero_le _)
    | failNextClose failure => exact ih (x.used (.failNextClose failure))
    | onShutdown hook => exact ih (x.used (.onShutdown hook))

/-- Each time that a failure is set, one close at most fails with it. A transport that is closed
already is the only other reason for a close to fail. -/
theorem countP_failedWith {failure : TransportError} (hf : failure ≠ .alreadyClosed)
    (x : Transport) (uses : List Use) :
    (x.results uses).countP (failedWith failure) ≤
      (if x.pendingFailure = some failure then 1 else 0) +
        uses.count (.failNextClose failure) := by
  induction uses generalizing x with
  | nil => exact Nat.zero_le _
  | cons u uses ih =>
    have hrest := ih (x.used u)
    rw [List.count_cons]
    cases u with
    | close =>
      have hresults : x.results (.close :: uses) = x.close.2 :: (x.used .close).results uses := rfl
      have hnone : (x.used .close).pendingFailure = none := pendingFailure_used x .close
      rw [hnone, if_neg nofun, Nat.zero_add] at hrest
      rw [hresults, List.countP_cons, result_close]
      cases x.pendingFailure with
      | some other =>
        -- The failure that was pending is returned, and no longer pending.
        have hfailed : failedWith failure (.error other) = (other == failure) := rfl
        simp only [hfailed, beq_iff_eq, Option.some.injEq]
        omega
      | none =>
        have hother : failedWith failure (if x.closed then .error .alreadyClosed else .ok ()) =
            false := by
          cases x.closed with
          | true => exact beq_eq_false_iff_ne.mpr hf.symm
          | false => rfl
        rw [hother, if_neg nofun, if_neg nofun]
        omega
    | signalShutdown reason =>
      have hsame : (x.used (.signalShutdown reason)).pendingFailure = x.pendingFailure :=
        pendingFailure_used x (.signalShutdown reason)
      rw [hsame] at hrest
      exact hrest
    | failNextClose other =>
      have hset : (x.used (.failNextClose other)).pendingFailure = some other := rfl
      have hresults : x.results (.failNextClose other :: uses) =
          (x.used (.failNextClose other)).results uses := rfl
      rw [hset] at hrest
      rw [hresults]
      simp only [beq_iff_eq, Option.some.injEq, Use.failNextClose.injEq] at hrest ⊢
      omega
    | onShutdown hook => exact hrest

theorem told_of_not_ends (h : u.ends = false) (x : Transport) : x.told u = [] := by
  cases u with
  | signalShutdown reason => cases h
  | _ => rfl

/-- Only the first of all closes and shutdowns can run hooks, those that were there by then. -/
theorem toldBy_eq (x : Transport) (uses : List Use) :
    x.toldBy uses =
      if x.closed then []
      else
        match (uses.find? Use.ends).bind Use.reason? with
        | some reason =>
          (x.hooks ++ (uses.takeWhile fun u => !u.ends).filterMap Use.hook?).map fun hook =>
            (hook, .shutdownSignal reason)
        | none => [] := by
  induction uses generalizing x with
  | nil => cases x.closed <;> rfl
  | cons u uses ih =>
    have htold : x.toldBy (u :: uses) = x.told u ++ (x.used u).toldBy uses := rfl
    rw [htold, ih, closed_used]
    cases hc : x.closed with
    | true =>
      rw [told_of_closed hc]
      rfl
    | false =>
      cases he : u.ends with
      | false =>
        rw [told_of_not_ends he, hooks_used, List.find?_cons, List.takeWhile_cons, he]
        have hhook : u.hook?.toList ++ (uses.takeWhile fun u => !u.ends).filterMap Use.hook? =
            (u :: uses.takeWhile fun u => !u.ends).filterMap Use.hook? := by
          cases hk : u.hook? with
          | none => rw [List.filterMap_cons_none hk]; rfl
          | some hook => rw [List.filterMap_cons_some hk]; rfl
        rw [List.append_assoc, hhook]
        rfl
      | true =>
        rw [List.find?_cons, List.takeWhile_cons, he]
        cases u with
        | signalShutdown reason =>
          have hopen : x.told (.signalShutdown reason) =
              x.hooks.map fun hook => (hook, .shutdownSignal reason) := by
            rw [told, signalShutdown, if_neg (Bool.eq_false_iff.mp hc)]
          rw [hopen]
          refine (List.append_nil _).trans ?_
          change _ = (x.hooks ++ []).map _
          rw [List.append_nil]
        | close => rfl
        | failNextClose failure => cases he
        | onShutdown hook => cases he

/-- The client after the hooks that were told of a shutdown have run. -/
def heed (cl : Client) (told : List (ShutdownHook × TransportError)) : Client :=
  told.foldl (fun cl e => Client.runHook e.2 cl e.1) cl

/-- Each call of a client on a transport is one use of it, with the same result. The client runs the
hooks that the use tells of a shutdown. -/
structure UsedBy (cl : Client) (t : TransportId) : Prop where
  failNextClose : ∀ failure, cl.step (.failNextClose t failure) =
    (cl.onTransport t fun x => x.used (.failNextClose failure), .done)
  close : cl.step (.closeTransport t) =
    (cl.onTransport t fun x => x.used .close, .transport (cl.transport t).close.2)
  signal : ∀ reason, ∃ log, cl.step (.signal t reason) =
    (heed { cl.onTransport t fun x => x.used (.signalShutdown reason) with log }
      ((cl.transport t).told (.signalShutdown reason)), .done)
  addRecorder : ∀ h, cl.recorders.has h = false → cl.step (.addRecorder t h) =
    ({ cl with recorders := cl.recorders.insert h [] }.onTransport t fun x =>
      x.used (.onShutdown (.recorder h)), .done)

theorem usedBy {cl : Client} {t : TransportId} (ht : cl.transports.has t = true) :
    UsedBy cl t where
  failNextClose _ := if_pos ht
  close := if_pos ht
  signal reason := by
    have hstep : cl.step (.signal t reason) = (cl.signal t reason, .done) := if_pos ht
    cases hc : (cl.transport t).closed with
    | true =>
      have hx : (cl.transports.get t).used (.signalShutdown reason) = cl.transports.get t := by
        have hclosed : (cl.transports.get t).closed = true := hc
        rw [used, signalShutdown, if_pos hclosed]
      have hsame : cl.onTransport t (fun x => x.used (.signalShutdown reason)) = cl := by
        rw [Client.onTransport, Table.modify_eq_self hx]
      refine ⟨cl.log, ?_⟩
      rw [hstep, hsame, told_of_closed hc]
      exact congrArg (·, Answer.done) (if_pos hc)
    | false =>
      refine ⟨cl.log ++ [.loopbackShutDown reason], ?_⟩
      rw [hstep, heed, told, List.foldl_map]
      exact congrArg (·, Answer.done) (if_neg (Bool.eq_false_iff.mp hc))
  addRecorder h hh := by
    have ha : cl.admits (.addRecorder t h) = true := by
      rw [Client.admits, ht, hh]
      rfl
    exact if_pos ha

/-- What the uses of a transport have come to since it was opened. It is open until the first close
or shutdown. A close returns the failure that was set for it, if one was and no close came in
between, and else tells whether the transport was open, so one close at most goes well, and each
failure set is returned once at most. If a shutdown comes before all closes and other shutdowns, the
hooks added until then run, each once and in their order; no other hook ever runs. The calls of a
client use its transports in this way. -/
theorem uses_exact (uses : List Use) :
    let x := fresh.after uses
    x.closed = uses.any Use.ends ∧
    x.closeCalls = uses.count .close ∧
    (∀ failure, Scripted uses failure → x.close.2 = .error failure) ∧
    ((∀ failure, ¬ Scripted uses failure) →
      x.close.2 = if uses.any Use.ends then .error .alreadyClosed else .ok ()) ∧
    (fresh.results uses).countP Except.isOk ≤ 1 ∧
    (∀ failure, failure ≠ .alreadyClosed →
      (fresh.results uses).countP (failedWith failure) ≤ uses.count (.failNextClose failure)) ∧
    (fresh.toldBy uses =
      match (uses.find? Use.ends).bind Use.reason? with
      | some reason =>
        ((uses.takeWhile fun u => !u.ends).filterMap Use.hook?).map fun hook =>
          (hook, .shutdownSignal reason)
      | none => []) ∧
    ∀ (cl : Client) (t : TransportId), cl.transports.has t = true → UsedBy cl t := by
  intro x
  have hlived : Lived uses x := lived_after uses
  refine ⟨hlived.closed, hlived.closeCalls, fun failure hset => ?_, fun hnone => ?_,
    countP_isOk fresh uses, fun failure hf => ?_, ?_, fun cl t => usedBy⟩
  · rw [result_close, (scripted_iff uses failure).mp hset]
  · have hpending : x.pendingFailure = none :=
      Option.eq_none_iff_forall_ne_some.mpr fun failure h =>
        hnone failure ((scripted_iff uses failure).mpr h)
    rw [result_close, hpending, hlived.closed]
  · have hcount := countP_failedWith hf fresh uses
    rwa [show fresh.pendingFailure = none from rfl, if_neg nofun, Nat.zero_add] at hcount
  · exact toldBy_eq fresh uses

/-- A failure is set and replaced, the broker shuts the transport down, and two closes follow. -/
def shutDownUses : List Use :=
  [.onShutdown (.recorder ⟨0⟩), .failNextClose .alreadyClosed, .onShutdown (.recorder ⟨1⟩),
    .failNextClose (.io ⟨.brokenPipe, none⟩), .signalShutdown "maintenance",
    .onShutdown (.recorder ⟨2⟩)]

/-- The first close returns the second failure, though the transport is down by then, and the other
close that it is down. -/
theorem uses_exact_shut_down :
    (fresh.after shutDownUses).close.2 = .error (.io ⟨.brokenPipe, none⟩) ∧
    (fresh.after (shutDownUses ++ [.close])).close.2 = .error .alreadyClosed ∧
    (fresh.results (shutDownUses ++ [.close, .close])).countP
      (failedWith (.io ⟨.brokenPipe, none⟩)) ≤ 1 ∧
    fresh.toldBy shutDownUses = [(.recorder ⟨0⟩, .shutdownSignal "maintenance"),
      (.recorder ⟨1⟩, .shutdownSignal "maintenance")] := by
  obtain ⟨-, -, hscripted, -⟩ := uses_exact shutDownUses
  obtain ⟨-, -, -, hnone, -⟩ := uses_exact (shutDownUses ++ [.close])
  obtain ⟨-, -, -, -, -, honce, -⟩ := uses_exact (shutDownUses ++ [.close, .close])
  obtain ⟨-, -, -, -, -, -, htold, -⟩ := uses_exact shutDownUses
  refine ⟨hscripted _ ?_, hnone fun failure hset => ?_, honce _ nofun, htold⟩
  · exact ⟨shutDownUses.take 3, shutDownUses.drop 4, rfl, by simp [shutDownUses]⟩
  · -- A close came last, so nothing is pending.
    rw [scripted_iff] at hset
    cases hset

end Transport

end BrokerClient
