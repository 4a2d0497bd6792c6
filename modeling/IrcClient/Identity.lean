import IrcClient.Network
import IrcClient.Sasl.Mechanism

/-!
# Identities

An identity says where a network is found and who the client is there. The network may
be found at several endpoints, which are tried in the order of their priorities.
-/

namespace IrcClient

/-- A place where a network is found. Lower priorities come first. -/
structure Endpoint where
  address : String
  port : Nat
  tls : Bool := false
  priority : Int := 0
deriving DecidableEq, Repr, Inhabited

namespace Endpoint

/-- The address and the port. -/
def place (e : Endpoint) : String :=
  e.address ++ ":" ++ toString e.port

/-- The text of an endpoint. -/
def text (e : Endpoint) : String :=
  if e.tls then e.place ++ " (tls)" else e.place

end Endpoint

/-- How the client authenticates. The certificate is the name of a file. -/
structure SaslSettings where
  enabled : Bool := false
  mechanism : MechanismName := .plain
  username : String := ""
  password : String := ""
  externalCert : Option String := none
deriving DecidableEq, Repr, Inhabited

/-- A network as it is configured: where it is, and who the client is there. -/
structure Identity where
  id : NetworkId
  name : String
  endpoints : List Endpoint
  nickname : String
  username : String
  realname : String
  password : Option String := none
  sasl : SaslSettings := {}
  autoConnect : Bool := false
deriving DecidableEq, Repr, Inhabited

namespace Identity

/-- The endpoints in the order in which they are tried; equal priorities keep their order. -/
def endpointsByPriority (i : Identity) : List Endpoint :=
  i.endpoints.mergeSort fun a b => decide (a.priority ≤ b.priority)

theorem endpointsByPriority_perm (i : Identity) :
    i.endpointsByPriority.Perm i.endpoints :=
  List.mergeSort_perm _ _

/-- The mechanism to authenticate with, if the client is to. -/
def mechanism? (i : Identity) (nonce : String) : Option Mechanism :=
  if i.sasl.enabled then
    some (.new i.sasl.mechanism i.sasl.username i.sasl.password nonce)
  else none

/-- The lines that ask the server to register the client. -/
def registration (i : Identity) : List String :=
  (i.password.map ("PASS " ++ ·)).toList ++
    ["NICK " ++ i.nickname, "USER " ++ i.username ++ " 0 * :" ++ i.realname]

end Identity

end IrcClient
