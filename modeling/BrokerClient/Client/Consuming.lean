import BrokerClient.Client.Basic
import BrokerClient.ObjectMessage

/-!
# Consuming

What a session makes and reads: consumers, durable subscriptions and the payloads of messages.
-/

namespace BrokerClient.Client

def consumerOf (s : SessionId) (token : String) (destination : Destination)
    (selector subscription : Option String) : Consumer :=
  ⟨Consumer.tagOf token, s, destination, selector, subscription, false⟩

/-- Adds a consumer at the end of its session's list. -/
def addConsumer (cl : Client) (k : ConsumerId) (x : Consumer) : Client :=
  { cl with consumers := cl.consumers.insert k x }.onSession x.session fun y =>
    { y with consumers := y.consumers ++ [k] }

def createConsumer (cl : Client) (s : SessionId) (k : ConsumerId) (token : String)
    (destination : Destination) (selector : Option String) :
    Client × Except MessagingError Unit :=
  if (cl.session s).closed then (cl, .error .sessionClosed)
  else
    let x := consumerOf s token destination selector none
    ((cl.addConsumer k x).note (.consumerCreated (cl.session s).number x.tag destination), .ok ())

/-- Binds a consumer to a name, or gives the open consumer that has it. -/
def bindDurable (cl : Client) (d : SubscriptionsId) (name : String) (k : ConsumerId) :
    Client × Option ConsumerId :=
  match (cl.durables d).bind cl.isOpen name k with
  | .bound after => ((cl.onDurables d fun _ => after).note (.subscriptionBound name), none)
  | .rebound after => ((cl.onDurables d fun _ => after).note (.subscriptionRebound name), none)
  | .refused holder => (cl, some holder)

/-- Removes the subscription of a name and tells whether there was one. -/
def removeDurable (cl : Client) (d : SubscriptionsId) (name : String) : Client × Bool :=
  (cl.onDurables d fun x => x.remove name, (cl.durables d).contains name)

/-- Makes a consumer for a durable subscription to a topic. -/
def createDurable (cl : Client) (s : SessionId) (k : ConsumerId) (token : String)
    (topic : Destination) (name : String) (selector : Option String) :
    Client × Except MessagingError Unit :=
  let y := cl.session s
  if y.closed then (cl, .error .sessionClosed)
  else if !topic.isTopic then
    (cl, .error (.invalidDestination
      ("Durable subscriptions require a topic, got " ++ topic.display)))
  else if Text.isBlankText name then
    (cl, .error (.invalidDestination "Durable subscription name cannot be empty"))
  else
    match cl.bindDurable y.subscriptions name k with
    | (cl, some _) =>
      (cl, .error (.illegalState ("Durable subscription '" ++ name ++ "' is already active")))
    | (cl, none) =>
      ((cl.addConsumer k (consumerOf s token topic selector (some name))).note
        (.durableSubscribed y.number name topic), .ok ())

/-- Ends a durable subscription, which must have no open consumer. -/
def unsubscribe (cl : Client) (s : SessionId) (name : String) :
    Client × Except MessagingError Unit :=
  let y := cl.session s
  if y.closed then (cl, .error .sessionClosed)
  else if (cl.activeConsumer? y.subscriptions name).isSome then
    (cl, .error (.illegalState
      ("Cannot unsubscribe '" ++ name ++ "' while a consumer is active")))
  else
    match cl.removeDurable y.subscriptions name with
    | (cl, true) => (cl.note (.subscriptionRemoved y.number name), .ok ())
    | (cl, false) =>
      (cl, .error (.invalidDestination ("Unknown durable subscription '" ++ name ++ "'")))

/-- Counts a payload that was refused as untrusted. -/
def countRefusal (cl : Client) : Except MessagingError Json.Value → Client
  | .error (.untrustedPayload _) => cl.count Metrics.refused
  | _ => cl

/-- Decodes the payload of a message under the policy of a session, open or closed. -/
def readObject (cl : Client) (s : SessionId) (m : ObjectMessage) (t : PayloadType)
    (complaint : Complaint) : Client × Except MessagingError Json.Value :=
  let result := m.getObject (cl.session s).trusted t complaint
  (cl.countRefusal result, result)

end BrokerClient.Client
