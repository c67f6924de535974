import PodTraffic.Address
import PodTraffic.Collections
import PodTraffic.Port
import PodTraffic.Traffic

/-!
# Peer matchers

Who may be at the other end, and on which ports. A rule stands for one matcher per peer; without
peers it stands for every peer. An address block is a network less some excepted networks, which
are kept sorted, one of each.
-/
namespace PodTraffic

/-- Blanks around the text are dropped. -/
def readNetwork (text : String) : Except PolicyError Network :=
  match Network.parse? (Text.trim text) with
  | some n => .ok n
  | none => .error (.network text)

def readAddress (text : String) : Except PolicyError Address :=
  match Address.parse? (Text.trim text) with
  | some a => .ok a
  | none => .error (.address text)

structure IpBlock where
  network : Network
  except : List Network
  deriving DecidableEq

namespace IpBlock

def read (network : String) (except : List String) : Except PolicyError IpBlock := do
  let network ← readNetwork network
  let except ← except.mapM readNetwork
  return ⟨network, Ordered.distinct except⟩

def contains (b : IpBlock) (a : Address) : Bool :=
  b.network.contains a && !b.except.any (·.contains a)

def text (b : IpBlock) : String :=
  if b.except.isEmpty then b.network.text
  else b.network.text ++ " except [" ++ ", ".intercalate (b.except.map (·.text)) ++ "]"

end IpBlock

inductive NamespaceMatcher where
  | all
  | exact (name : String)
  | selector (s : LabelSelector)
  deriving DecidableEq

namespace NamespaceMatcher

/-- Without a selector, the namespace of the policy; with an empty one, every namespace. -/
def ofRule (own : String) : Option LabelSelector → NamespaceMatcher
  | none => exact own
  | some s => if s.isEmpty then all else selector s

def allows (m : NamespaceMatcher) (ns : String) (labels : Labels) : Bool :=
  match m with
  | all => true
  | exact name => name == ns
  | selector s => s.isMatch labels

def key : NamespaceMatcher → String
  | all => "all namespaces"
  | exact name => "namespace " ++ name
  | selector s => "namespaces " ++ s.key

def text : NamespaceMatcher → String
  | all => "all namespaces"
  | exact name => "namespace " ++ name
  | selector s => "namespaces with " ++ s.describe

end NamespaceMatcher

inductive PodMatcher where
  | all
  | selector (s : LabelSelector)
  deriving DecidableEq

namespace PodMatcher

def ofRule : Option LabelSelector → PodMatcher
  | none => all
  | some s => if s.isEmpty then all else selector s

def allows (m : PodMatcher) (labels : Labels) : Bool :=
  match m with
  | all => true
  | selector s => s.isMatch labels

def key : PodMatcher → String
  | all => "all pods"
  | selector s => "pods " ++ s.key

def text : PodMatcher → String
  | all => "all pods"
  | selector s => "pods with " ++ s.describe

end PodMatcher

inductive PeerMatcher where
  | all
  | ports (port : PortMatcher)
  | block (block : IpBlock) (port : PortMatcher)
  | pod (ns : NamespaceMatcher) (pods : PodMatcher) (port : PortMatcher)
  /-- Matches no one: what a direction without rules starts from. -/
  | nobody
  deriving DecidableEq

namespace PeerMatcher

def ofPeer (policy own : String) (port : PortMatcher) (rule : PeerRule) :
    Except PolicyError PeerMatcher :=
  match rule.ipBlock with
  | some b =>
    if rule.namespaceSelector.isSome || rule.podSelector.isSome then
      throw (.malformed policy .mixedPeer)
    else return block (← IpBlock.read b.cidr (b.except.getD [])) port
  | none =>
    return pod (.ofRule own rule.namespaceSelector) (.ofRule rule.podSelector) port

/-- The matchers of a rule of `policy` in namespace `own`. -/
def ofRule (policy own : String) (portRules : List PortRule) (peers : List PeerRule) :
    Except PolicyError (List PeerMatcher) := do
  let port ← PortMatcher.ofRules portRules
  if peers.isEmpty then
    return [if port = .all then all else ports port]
  peers.mapM (ofPeer policy own port)

def allows (m : PeerMatcher) (peer : Endpoint) (q : PortQuery) : Bool :=
  match m with
  | all => true
  | ports port => port.allows q
  | block b port => (peer.ip.any b.contains) && port.allows q
  | pod ns pods port =>
    peer.pod.any (fun p => ns.allows p.ns p.nsLabels && pods.allows p.labels) && port.allows q
  | nobody => false

/-- Identifies the pods of a pod matcher, whatever the ports. -/
def podKey (ns : NamespaceMatcher) (pods : PodMatcher) : String := ns.key ++ " / " ++ pods.key

def text : PeerMatcher → String
  | all => "all peers on all ports and protocols"
  | ports port => "all peers on " ++ port.text
  | block b port => "ip block " ++ b.text ++ " on " ++ port.text
  | pod ns pods port => pods.text ++ " in " ++ ns.text ++ " on " ++ port.text
  | nobody => "no peers"

end PeerMatcher
end PodTraffic
