/-
Any number of nodes on one Redis. A node takes its own steps; the PUBLISH commands it issued in a step
and that Redis executed are handed once to every connection whose subscription to the channel is active,
the publisher's own included, and a node's `receiveLoop` takes what its connection was handed in order.
The web application publishes too, and subscriptions become active and inactive at any time.
-/
import NodejsHelper.Server.Basic

namespace NodejsHelper

namespace Cluster

open Server

variable {ι : Type*}

/-- A message Redis handed to a connection, with the call behind it when a node published it. -/
structure Delivery where
  channel : String
  raw : String
  call : Option CallID

/-- The message of an executed PUBLISH. -/
def deliveryOf (c : Command) : Delivery := ⟨c.channel, c.payload, some c.call⟩

/-- The nodes, and for each the channels active on its PubSub connection and what the connection holds. -/
structure State (ι : Type*) where
  node : ι → Server.State
  active : ι → String → Bool
  inbox : ι → List Delivery

/-- A step of a node, a message taken up by its `receiveLoop`, a change of its subscriptions in Redis, and
a publish of the web application. -/
inductive Label (ι : Type*)
  | node (i : ι) (l : Server.Label)
  | receive (i : ι)
  | activate (i : ι) (channel : String) (on : Bool)
  | external (channel raw : String)

/-- The connections after Redis handed out messages. -/
def State.hand (c : State ι) (msgs : List Delivery) (n : ι) : List Delivery :=
  c.inbox n ++ msgs.filter fun d => c.active n d.channel

/-- What Redis executed of the commands a node added. -/
def executed (before after : Memory) : List Delivery :=
  ((after.commands.drop before.commands.length).filter Command.ok).map deliveryOf

/-- The label takes a message from Redis. -/
def receives : Server.Label → Bool
  | .start (.receive _ _ _) => true
  | _ => false

variable [DecidableEq ι] (p : Auth.Primitives) (cfg : ι → Config)

/-- One step of the cluster. -/
def step (c : State ι) : Label ι → Option (State ι)
  | .node i l =>
    if receives l then none
    else (Server.step p (cfg i) (c.node i) l).map fun s =>
      { c with node := Function.update c.node i s, inbox := c.hand (executed (c.node i).mem s.mem) }
  | .receive i =>
    match c.inbox i with
    | [] => none
    | d :: rest => (Server.step p (cfg i) (c.node i) (.start (.receive d.channel d.raw d.call))).map fun s =>
      { c with node := Function.update c.node i s, inbox := Function.update c.inbox i rest }
  | .activate i channel on =>
    some { c with active := Function.update c.active i (Function.update (c.active i) channel on) }
  | .external channel raw => some { c with inbox := c.hand [⟨channel, raw, none⟩] }

/-- Freshly started nodes. -/
def init : State ι := ⟨fun _ => Server.init, fun _ _ => false, fun _ => []⟩

end Cluster

end NodejsHelper
