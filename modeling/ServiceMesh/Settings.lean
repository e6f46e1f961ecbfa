import ServiceMesh.Balance.Strategy
import ServiceMesh.Identity

/-!
# Settings of a broker
-/

namespace ServiceMesh

/-- Settings of the pools of links to other endpoints. -/
structure PoolSettings where
  /-- How an endpoint is chosen. -/
  strategy : Strategy := .roundRobin
  /-- How long a call may take. -/
  callTimeoutMs : Nat := 30000
  /-- How often broken endpoints are tried again and names resolved again. -/
  refreshIntervalMs : Nat := 10000
  /-- Whether links are opened before they are needed. -/
  eagerConnect : Bool := false
  /-- The share of calls that explore, for the strategy by latency. -/
  exploration : Float := 0.1

/-- Settings of the membership in a cluster of brokers. -/
structure MembershipSettings where
  /-- Brokers to contact until they answer. -/
  seeds : List String := []
  /-- How often a broker gossips. -/
  gossipIntervalMs : Nat := 1000
  /-- Silence after which a member has failed. -/
  failureTimeoutMs : Nat := 5000
  /-- How long one exchange may take. -/
  requestTimeoutMs : Nat := 1000

/-- Settings of a broker. -/
structure Settings where
  /-- The id of the broker, chosen at random if there is none. -/
  brokerId : Option String := none
  /-- The name under which control events address this process. -/
  appName : String := "meshrpc-broker"
  /-- The address. -/
  ip : String := "127.0.0.1"
  /-- The public name. -/
  externalDomain : Option String := none
  /-- The transport between brokers. -/
  schema : String := "tcp"
  /-- The port for brokers. -/
  port : UInt16 := 9999
  /-- The port of the console. -/
  webPort : UInt16 := 9998
  /-- Brokers to contact until they answer. -/
  seeds : List String := []
  /-- How often the broker gossips. -/
  gossipIntervalMs : Nat := 1000
  /-- Silence after which a peer has failed. -/
  failureTimeoutMs : Nat := 5000
  /-- How often broken endpoints are tried again and names resolved again. -/
  refreshIntervalMs : Nat := 10000
  /-- How a provider is chosen. -/
  loadBalance : Strategy := .roundRobin
  /-- Whether all calls are sticky. -/
  sticky : Bool := false
  /-- How long a call may take. -/
  callTimeoutMs : Nat := 30000
  /-- Whether links are opened before they are needed. -/
  eagerConnect : Bool := false
  /-- The share of calls that explore, for the strategy by latency. -/
  exploration : Float := 0.1
  /-- Whether logs are written as JSON. -/
  logJson : Bool := false

namespace Settings

/-- What the broker says about itself to others. -/
def brokerInfo (s : Settings) (id : String) (startTimeMs : UInt64) : BrokerInfo where
  id := id
  schema := s.schema
  ip := s.ip
  externalDomain := s.externalDomain
  port := s.port
  webPort := s.webPort
  startTimeMs := startTimeMs
  status := 1

/-- The settings of its pools. -/
def pools (s : Settings) : PoolSettings where
  strategy := s.loadBalance
  callTimeoutMs := s.callTimeoutMs
  refreshIntervalMs := s.refreshIntervalMs
  eagerConnect := s.eagerConnect
  exploration := s.exploration

/-- The settings of its membership.  An exchange may take one gossip interval, but
never less than a tenth of a second. -/
def membership (s : Settings) : MembershipSettings where
  seeds := s.seeds
  gossipIntervalMs := s.gossipIntervalMs
  failureTimeoutMs := s.failureTimeoutMs
  requestTimeoutMs := max s.gossipIntervalMs 100

end Settings

end ServiceMesh
