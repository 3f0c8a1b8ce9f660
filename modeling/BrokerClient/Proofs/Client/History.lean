import BrokerClient.Proofs.Client.Steps

/-!
# Histories

A run as the list of its calls, each with the client that it found. What each step adds to a list,
to a number or to a flag, a run adds entry by entry.
-/

namespace BrokerClient

/-- The call did what it was meant to and gives nothing back. -/
def Answer.isDone : Answer → Bool
  | done => true
  | _ => false

namespace Client

/-- The calls of a run, each with the client that it found. -/
def history (cl : Client) : List Call → List (Client × Call)
  | [] => []
  | call :: calls => (cl, call) :: (cl.step call).1.history calls

def answered (e : Client × Call) : Answer := (e.1.step e.2).2

variable {cl : Client}

theorem Sound.step (h : Sound cl) (call : Call) : Sound (cl.step call).1 := by
  have hc : Changes (fun _ => True) cl (cl.step call).1 := changes_step h trivial
  exact h.changes hc

theorem Sound.run (h : Sound cl) (calls : List Call) : Sound (cl.run calls).1 := by
  have hc : Changes (fun _ => True) cl (cl.run calls).1 := changes_run h calls fun _ _ => trivial
  exact h.changes hc

theorem continues_step (h : Sound cl) (call : Call) : Continues cl (cl.step call).1 := by
  have hc : Changes (fun _ => True) cl (cl.step call).1 := changes_step h trivial
  exact hc.continues

theorem continues_run (h : Sound cl) (calls : List Call) : Continues cl (cl.run calls).1 := by
  have hc : Changes (fun _ => True) cl (cl.run calls).1 := changes_run h calls fun _ _ => trivial
  exact hc.continues

theorem run_append (cl : Client) (calls later : List Call) :
    (cl.run (calls ++ later)).1 = ((cl.run calls).1.run later).1 := by
  induction calls generalizing cl with
  | nil => rfl
  | cons call calls ih => exact ih (cl.step call).1

/-- What is reachable is reached by a run of allowed calls. -/
theorem Reachable.exists_run {allowed : Call → Prop} (h : Reachable allowed cl) :
    ∃ calls, (∀ call ∈ calls, allowed call) ∧ (Client.initial.run calls).1 = cl := by
  induction h with
  | initial => exact ⟨[], nofun, rfl⟩
  | @step cl call _ ha ih =>
    obtain ⟨calls, hcalls, rfl⟩ := ih
    refine ⟨calls ++ [call], fun x hx => ?_, run_append Client.initial calls [call]⟩
    rcases List.mem_append.mp hx with hx | hx
    · exact hcalls x hx
    · rwa [List.mem_singleton.mp hx]

/-- A run goes on from each entry of its history. -/
theorem run_of_mem_history {e : Client × Call} (h : Sound cl) {calls : List Call}
    (he : e ∈ cl.history calls) :
    Sound e.1 ∧ ∃ later, (cl.run calls).1 = ((e.1.step e.2).1.run later).1 := by
  induction calls generalizing cl with
  | nil => exact absurd he List.not_mem_nil
  | cons call calls ih =>
    rcases List.mem_cons.mp he with rfl | he
    · exact ⟨h, calls, rfl⟩
    · exact ih (h.step call) he

/-- A list that each step may extend by one entry is extended by the entries of the history. -/
theorem list_run {α : Type} (made : Client → List α) (new : Client × Call → Option α)
    (hstep : ∀ cl call, Sound cl → made (cl.step call).1 = made cl ++ (new (cl, call)).toList)
    (h : Sound cl) (calls : List Call) :
    made (cl.run calls).1 = made cl ++ (cl.history calls).filterMap new := by
  induction calls generalizing cl with
  | nil => exact (List.append_nil _).symm
  | cons call calls ih =>
    have hrest := ih (h.step call)
    rw [hstep cl call h, List.append_assoc] at hrest
    refine hrest.trans ?_
    rw [history, List.filterMap_cons]
    cases new (cl, call) <;> rfl

/-- A number that certain steps raise by one is raised by as many as the history has. -/
theorem count_run {allowed : Call → Prop} (number : Client → Nat) (p : Client × Call → Bool)
    (hstep : ∀ cl call, Sound cl → allowed call →
      number (cl.step call).1 = number cl + if p (cl, call) then 1 else 0)
    (h : Sound cl) (calls : List Call) (ha : ∀ call ∈ calls, allowed call) :
    number (cl.run calls).1 = number cl + (cl.history calls).countP p := by
  induction calls generalizing cl with
  | nil => rfl
  | cons call calls ih =>
    have hrest := ih (h.step call) fun x hx => ha x (List.mem_cons_of_mem _ hx)
    rw [hstep cl call h (ha call List.mem_cons_self)] at hrest
    refine hrest.trans ?_
    rw [history, List.countP_cons]
    omega

/-- A value that certain steps replace is what the last of them in the history made it. -/
theorem last_run {α : Type} {allowed : Call → Prop} (value : Client → α)
    (new : Client × Call → Option α)
    (hstep : ∀ cl call, Sound cl → allowed call →
      value (cl.step call).1 = (new (cl, call)).getD (value cl))
    (h : Sound cl) (calls : List Call) (ha : ∀ call ∈ calls, allowed call) :
    value (cl.run calls).1 = ((cl.history calls).filterMap new).getLast?.getD (value cl) := by
  induction calls generalizing cl with
  | nil => rfl
  | cons call calls ih =>
    have hrest := ih (h.step call) fun x hx => ha x (List.mem_cons_of_mem _ hx)
    rw [hstep cl call h (ha call List.mem_cons_self)] at hrest
    refine hrest.trans ?_
    rw [history]
    cases hn : new (cl, call) with
    | none => rw [List.filterMap_cons_none hn]; rfl
    | some a =>
      rw [List.filterMap_cons_some hn, List.getLast?_cons]
      rfl

/-- A flag that certain steps set and none takes back is set if the history has such a step. -/
theorem flag_run (flag : Client → Bool) (p : Client × Call → Bool)
    (hstep : ∀ cl call, Sound cl → flag (cl.step call).1 = (flag cl || p (cl, call)))
    (h : Sound cl) (calls : List Call) :
    flag (cl.run calls).1 = (flag cl || (cl.history calls).any p) := by
  induction calls generalizing cl with
  | nil => exact (Bool.or_false _).symm
  | cons call calls ih =>
    have hrest := ih (h.step call)
    rw [hstep cl call h, Bool.or_assoc] at hrest
    exact hrest

end Client

end BrokerClient
