import Passage.Hop.JumpHost
import Passage.Hop.Proxy

namespace Passage

inductive HopSettings where
  | socks (proxy : Proxy)
  | ssh (host : JumpHost)
  deriving DecidableEq

namespace HopSettings

def endpoint : HopSettings → Endpoint
  | .socks proxy => proxy.endpoint
  | .ssh host => host.endpoint

def address : HopSettings → String
  | .socks proxy => proxy.address
  | .ssh host => host.label

/-- The failure of a hop that was stopped before it was done. -/
def stoppedFault : HopSettings → Fault
  | .socks proxy => .proxyConnect proxy.address "tunnel stopped" ""
  | .ssh host => .sshConnect host.label "tunnel stopped" ""

def debug : HopSettings → String
  | .socks proxy => Quoted.wrapped "Socks" proxy.debug
  | .ssh host => Quoted.wrapped "Ssh" host.debug

end HopSettings

structure Plan where
  hops : List HopSettings
  target : Endpoint
  deriving DecidableEq

namespace Plan

/-- The proxy comes first, and the jump host is reached through it. -/
def ofParts (target : Endpoint) (proxy : Option Proxy) (ssh : Option JumpHost) : Plan :=
  ⟨(proxy.map .socks).toList ++ (ssh.map .ssh).toList, target⟩

/-- The route with one more hop before the target. -/
def add (plan : Plan) (hop : HopSettings) : Plan :=
  { plan with hops := plan.hops ++ [hop] }

/-- What each hop is asked to reach: the server of the next hop, and the target for the last one. -/
def nextEndpoints (plan : Plan) : List Endpoint :=
  (plan.hops.drop 1).map HopSettings.endpoint ++ [plan.target]

def debug (plan : Plan) : String :=
  Quoted.record "TunnelPlan"
    [("hops", Quoted.list HopSettings.debug plan.hops), ("target", plan.target.debug)]

def chainDebug (plan : Plan) : String :=
  Quoted.record "TunnelChain"
    [("hops", Quoted.list (fun h => Quoted.text (HopSettings.address h)) plan.hops),
      ("target", plan.target.debug)]

end Plan
end Passage
