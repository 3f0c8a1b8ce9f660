import BrokerClient.Error
import BrokerClient.Json.Decode
import BrokerClient.Text.Digits

/-!
# Acknowledgement

How the receipt of consumed messages is confirmed to the broker.
-/

namespace BrokerClient

inductive AcknowledgeMode where
  /-- On commit, as transacted sessions do. -/
  | sessionTransacted
  | autoAcknowledge
  | clientAcknowledge
  /-- Lazily, so that messages may come twice. -/
  | dupsOkAcknowledge
  deriving DecidableEq, Repr

namespace AcknowledgeMode

/-- The number of a mode in the messaging API. -/
def code : AcknowledgeMode → Int
  | sessionTransacted => 0
  | autoAcknowledge => 1
  | clientAcknowledge => 2
  | dupsOkAcknowledge => 3

/-- The name of a mode in the messaging API. -/
def name : AcknowledgeMode → String
  | sessionTransacted => "SESSION_TRANSACTED"
  | autoAcknowledge => "AUTO_ACKNOWLEDGE"
  | clientAcknowledge => "CLIENT_ACKNOWLEDGE"
  | dupsOkAcknowledge => "DUPS_OK_ACKNOWLEDGE"

/-- The name of a mode in descriptions of a session. -/
def label : AcknowledgeMode → String
  | sessionTransacted => "SessionTransacted"
  | autoAcknowledge => "AutoAcknowledge"
  | clientAcknowledge => "ClientAcknowledge"
  | dupsOkAcknowledge => "DupsOkAcknowledge"

def all : List AcknowledgeMode :=
  [sessionTransacted, autoAcknowledge, clientAcknowledge, dupsOkAcknowledge]

def ofCode (n : Int) : Except MessagingError AcknowledgeMode :=
  match all.find? fun m => m.code == n with
  | some m => .ok m
  | none => .error (.illegalState ("Unknown acknowledge mode " ++ Text.ofInt n))

def ofName? (s : String) : Option AcknowledgeMode :=
  all.find? fun m => m.name == s

def ofJson? (s : Json.Syntax) : Option AcknowledgeMode :=
  s.choice?.bind ofName?

def toJson (m : AcknowledgeMode) : Json.Value :=
  .string m.name

end AcknowledgeMode

end BrokerClient
