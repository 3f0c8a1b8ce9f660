import BrokerClient.Proofs.Client.Lookup
import BrokerClient.Proofs.DurableSubscriptions

/-!
# Subscribing and unsubscribing

What comes of subscribing under a durable name and of giving it up, case by case. Both either leave
the client as it is or change what is bound as they are meant to.
-/

namespace BrokerClient.Client

variable {cl : Client} {s : SessionId} {name : String}

/-- What may come of subscribing: an error and no change, or a binding and a consumer. -/
inductive Subscribing (cl : Client) (k : ConsumerId) (x : Consumer) (name : String) :
    Client × Except MessagingError Unit → Prop where
  | fails (e : MessagingError) : Subscribing cl k x name (cl, .error e)
  | succeeds (after : DurableSubscriptions) (log : List Event) :
    (cl.session x.session).closed = false →
      ((cl.durables (cl.session x.session).subscriptions).bind cl.isOpen name k = .bound after ∨
        (cl.durables (cl.session x.session).subscriptions).bind cl.isOpen name k =
          .rebound after) →
      Subscribing cl k x name
        ({ (cl.onDurables (cl.session x.session).subscriptions fun _ => after).addConsumer k x with
            log }, .ok ())

theorem subscribing_createDurable (cl : Client) (s : SessionId) (k : ConsumerId) (token : String)
    (topic : Destination) (name : String) (selector : Option String) :
    Subscribing cl k (consumerOf s token topic selector (some name)) name
      (cl.createDurable s k token topic name selector) := by
  unfold createDurable bindDurable
  dsimp only
  cases ho : (cl.session s).closed with
  | true => exact .fails _
  | false =>
    rw [if_neg Bool.false_ne_true]
    split
    · exact .fails _
    · split
      · exact .fails _
      · cases hb : (cl.durables (cl.session s).subscriptions).bind cl.isOpen name k with
        | bound after => exact .succeeds after _ ho (Or.inl hb)
        | rebound after => exact .succeeds after _ ho (Or.inr hb)
        | refused holder => exact .fails _

/-- Taking out a name that is not there changes nothing. -/
theorem removeDurable_of_unknown {d : SubscriptionsId}
    (h : (cl.durables d).contains name = false) : cl.removeDurable d name = (cl, false) := by
  have hd : (cl.durables d).remove name = cl.durables d :=
    congrArg DurableSubscriptions.mk (Table.erase_of_not_has h)
  have ht : cl.subscriptions.modify d (fun x => x.remove name) = cl.subscriptions :=
    Table.modify_eq_self hd
  unfold removeDurable onDurables
  rw [ht, h]

theorem unsubscribe_of_closed (h : (cl.session s).closed = true) :
    cl.unsubscribe s name = (cl, .error .sessionClosed) :=
  if_pos h

theorem unsubscribe_of_active {holder : ConsumerId} (ho : (cl.session s).closed = false)
    (h : cl.activeConsumer? (cl.session s).subscriptions name = some holder) :
    cl.unsubscribe s name = (cl, .error (.illegalState
      ("Cannot unsubscribe '" ++ name ++ "' while a consumer is active"))) := by
  simp only [unsubscribe, ho, h, Option.isSome_some, Bool.false_eq_true, if_true, if_false]

theorem unsubscribe_of_unknown (ho : (cl.session s).closed = false)
    (ha : cl.activeConsumer? (cl.session s).subscriptions name = none)
    (h : (cl.durables (cl.session s).subscriptions).contains name = false) :
    cl.unsubscribe s name = (cl, .error (.invalidDestination
      ("Unknown durable subscription '" ++ name ++ "'"))) := by
  simp only [unsubscribe, ho, ha, removeDurable_of_unknown h, Option.isSome_none,
    Bool.false_eq_true, if_false]

theorem unsubscribe_of_known (ho : (cl.session s).closed = false)
    (ha : cl.activeConsumer? (cl.session s).subscriptions name = none)
    (h : (cl.durables (cl.session s).subscriptions).contains name = true) :
    cl.unsubscribe s name =
      ((cl.onDurables (cl.session s).subscriptions fun x => x.remove name).note
        (.subscriptionRemoved (cl.session s).number name), .ok ()) := by
  simp only [unsubscribe, removeDurable, ho, ha, h, Option.isSome_none, Bool.false_eq_true,
    if_false]

end BrokerClient.Client
