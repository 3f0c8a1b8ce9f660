import BrokerClient.Text.Digits

/-!
# Metrics

What is counted over all connections of a client, and the text in which a monitor reads the counts:
for each metric in the order of the names a line of help, one of its kind and one with its value.
-/

namespace BrokerClient

structure Metrics where
  openConnections : Int
  openSessions : Int
  /-- Claims of a client ID refused because it was held. -/
  collisions : Nat
  shutdowns : Nat
  /-- Payloads refused because no policy trusts their type. -/
  untrusted : Nat
  deriving DecidableEq, Repr

namespace Metrics

def zero : Metrics := ⟨0, 0, 0, 0, 0⟩
def connectionOpened (m : Metrics) : Metrics := { m with openConnections := m.openConnections + 1 }
def connectionClosed (m : Metrics) : Metrics := { m with openConnections := m.openConnections - 1 }
def sessionOpened (m : Metrics) : Metrics := { m with openSessions := m.openSessions + 1 }
def sessionClosed (m : Metrics) : Metrics := { m with openSessions := m.openSessions - 1 }
def collided (m : Metrics) : Metrics := { m with collisions := m.collisions + 1 }
def shutDown (m : Metrics) : Metrics := { m with shutdowns := m.shutdowns + 1 }
def refused (m : Metrics) : Metrics := { m with untrusted := m.untrusted + 1 }

/-- A metric as it is published. -/
structure Sample where
  name : String
  help : String
  kind : String
  value : Int

/-- The published metrics in the order of their names. -/
def samples (m : Metrics) : List Sample :=
  [⟨"rmq_messaging_client_id_collisions_total", "Total number of rejected client ID claims.",
      "counter", m.collisions⟩,
    ⟨"rmq_messaging_open_connections", "Number of open connections.", "gauge", m.openConnections⟩,
    ⟨"rmq_messaging_open_sessions", "Number of open sessions.", "gauge", m.openSessions⟩,
    ⟨"rmq_messaging_transport_shutdowns_total",
      "Total number of asynchronous transport shutdowns.", "counter", m.shutdowns⟩,
    ⟨"rmq_messaging_untrusted_payloads_total",
      "Total number of object payloads rejected as untrusted.", "counter", m.untrusted⟩]

def Sample.render (s : Sample) : String :=
  "# HELP " ++ s.name ++ " " ++ s.help ++ "\n# TYPE " ++ s.name ++ " " ++ s.kind ++ "\n" ++ s.name
    ++ " " ++ Text.ofInt s.value ++ "\n"

def render (m : Metrics) : String :=
  String.join (m.samples.map Sample.render)

end Metrics

end BrokerClient
