import BrokerClient.Text.Digits

/-!
# Provider metadata

Which messaging API a connection offers and who provides it.
-/

namespace BrokerClient

structure ProviderMetadata where
  apiVersion : String
  apiMajor : Nat
  apiMinor : Nat
  providerName : String
  providerVersion : String
  properties : List String
  deriving DecidableEq, Repr

namespace ProviderMetadata

def versionBound : Nat := Nat.pow 2 32

/-- A part of a version as a number of 32 bits: digits, with a plus sign before them if need be. -/
def versionNumber? (part : List Char) : Option Nat :=
  let digits := match part with
    | '+' :: r => r
    | _ => part
  match Text.readDecimal? digits with
  | some n => if n < versionBound then some n else none
  | none => none

/-- A part of the provider's version by its place between the points, 0 if it is no number. -/
def versionPart (m : ProviderMetadata) (place : Nat) : Nat :=
  match (m.providerVersion.toList.splitOn '.')[place]? with
  | some part => (versionNumber? part).getD 0
  | none => 0

def providerMajor (m : ProviderMetadata) : Nat := m.versionPart 0
def providerMinor (m : ProviderMetadata) : Nat := m.versionPart 1

end ProviderMetadata

/-- The description that every connection gives. -/
def connectionMetadata : ProviderMetadata where
  apiVersion := "1.1"
  apiMajor := 1
  apiMinor := 1
  providerName := "RabbitMQ"
  providerVersion := "0.1.0"
  properties := ["JMSXGroupID", "JMSXGroupSeq"]

end BrokerClient
