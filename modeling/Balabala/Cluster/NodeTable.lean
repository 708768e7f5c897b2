import Mathlib.Logic.Function.Basic
import Balabala.Foundation.Machine
import Balabala.Cluster.Codec

/-!
# Which descriptor leads to which node

`TcpClusterTransport` keeps two maps by hand, `nodeToFd_` and `fdToNode_`. A handshake enters a pair
in both, the loss of a connection takes it out, and a node that shakes hands on a second connection
has the pair of the first one taken out of `fdToNode_` beforehand.

The other direction is not provided for: a descriptor on which a second node shakes hands keeps
its entry in `nodeToFd_` under the first. And once the second connection of a node has replaced the
first, nothing leads back to it.
-/

namespace Balabala

open Foundation

structure ClusterNode where
  nodeId : Bytes
  address : Bytes
  port : Int := 0
  alive : Bool := false
  deriving DecidableEq, Repr

/-- The tables of `TcpClusterTransport`. -/
structure NodeTable where
  nodeToFd : Bytes → Option Fd
  fdToNode : Fd → Option Bytes
  pendingNodeId : Fd → Option Bytes
  knownNodes : List ClusterNode

namespace NodeTable

/-- The loops over `knownNodes_`, which stop at the first entry of the node. -/
def setAlive (nodeId : Bytes) (alive : Bool) : List ClusterNode → List ClusterNode
  | [] => []
  | node :: nodes =>
    if node.nodeId = nodeId then { node with alive } :: nodes
    else node :: setAlive nodeId alive nodes

variable (t : NodeTable)

/-- What `ConnectToNode` enters for the descriptor of the new `Connector`. -/
def connectToNode (nodeId ip : Bytes) (port : Int) (fd : Fd) : NodeTable :=
  { t with
    pendingNodeId := Function.update t.pendingNodeId fd (some nodeId)
    knownNodes := t.knownNodes ++ [{ nodeId, address := ip, port }] }

def registerNodeFd (nodeId : Bytes) (fd : Fd) : NodeTable where
  nodeToFd := Function.update t.nodeToFd nodeId (some fd)
  fdToNode :=
    Function.update
      (match t.nodeToFd nodeId with
      | some oldFd => if oldFd ≠ fd then Function.update t.fdToNode oldFd none else t.fdToNode
      | none => t.fdToNode)
      fd (some nodeId)
  pendingNodeId := Function.update t.pendingNodeId fd none
  knownNodes := setAlive nodeId true t.knownNodes

def getFdByNodeId (nodeId : Bytes) : Fd := (t.nodeToFd nodeId).getD (-1)

def getNodeIdByFd (fd : Fd) : Bytes :=
  match t.fdToNode fd with
  | some nodeId => nodeId
  | none => (t.pendingNodeId fd).getD []

def onNodeDisconnected (fd : Fd) : NodeTable :=
  match t.fdToNode fd with
  | none => { t with pendingNodeId := Function.update t.pendingNodeId fd none }
  | some nodeId =>
    let wasActiveFd := t.nodeToFd nodeId = some fd
    { nodeToFd := if wasActiveFd then Function.update t.nodeToFd nodeId none else t.nodeToFd
      fdToNode := Function.update t.fdToNode fd none
      pendingNodeId := Function.update t.pendingNodeId fd none
      knownNodes :=
        if nodeId ≠ [] ∧ wasActiveFd then setAlive nodeId false t.knownNodes else t.knownNodes }

/-- `SendPacket`, where `getConnection` says which descriptors have a connection: `none` when it
returns false, else the bytes for `Send` and the descriptor whose connection they are for. -/
def sendPacket (getConnection : Fd → Bool) (packet : ClusterPacket) : Option (Fd × Bytes) :=
  let fd := t.getFdByNodeId packet.targetNodeId
  if fd < 0 then none
  else if getConnection fd then some (fd, ClusterPacketCodec.encode packet)
  else none

/-- The tables of a new transport. -/
def empty : NodeTable where
  nodeToFd := fun _ => none
  fdToNode := fun _ => none
  pendingNodeId := fun _ => none
  knownNodes := []

/-! ### What each call does to the two maps -/

variable {t : NodeTable} {nodeId m : Bytes} {fd f : Fd}

lemma nodeToFd_registerNodeFd : (t.registerNodeFd nodeId fd).nodeToFd m =
    if m = nodeId then some fd else t.nodeToFd m := by
  simp [registerNodeFd, Function.update_apply]

lemma fdToNode_registerNodeFd : (t.registerNodeFd nodeId fd).fdToNode f =
    if f = fd then some nodeId
    else if t.nodeToFd nodeId = some f then none else t.fdToNode f := by
  by_cases hf : f = fd
  · simp [registerNodeFd, hf]
  · cases hold : t.nodeToFd nodeId with
    | none => simp [registerNodeFd, hold, hf]
    | some oldFd =>
      by_cases hne : oldFd = fd
      · simp [registerNodeFd, hold, hf, hne, Ne.symm hf]
      · simp [registerNodeFd, hold, hf, hne, Function.update_apply, eq_comm]

lemma fdToNode_onNodeDisconnected : (t.onNodeDisconnected fd).fdToNode f =
    if f = fd then none else t.fdToNode f := by
  cases hn : t.fdToNode fd with
  | none =>
    by_cases hf : f = fd
    · simp [onNodeDisconnected, hn, hf]
    · simp [onNodeDisconnected, hn, hf]
  | some nodeId => simp [onNodeDisconnected, hn, Function.update_apply]

lemma nodeToFd_onNodeDisconnected : (t.onNodeDisconnected fd).nodeToFd m =
    if t.fdToNode fd = some m ∧ t.nodeToFd m = some fd then none else t.nodeToFd m := by
  cases hn : t.fdToNode fd with
  | none => simp [onNodeDisconnected, hn]
  | some nodeId =>
    by_cases hm : nodeId = m
    · subst hm
      by_cases hfd : t.nodeToFd nodeId = some fd <;> simp [onNodeDisconnected, hn, hfd]
    · have hne : ¬ m = nodeId := fun h => hm h.symm
      by_cases hfd : t.nodeToFd nodeId = some fd <;>
        simp [onNodeDisconnected, hn, hfd, hm, hne]

/-! ### The two maps against each other -/

variable (t) in
/-- The descriptor a node leads to belongs to this node. -/
def Consistent : Prop := ∀ n f, t.nodeToFd n = some f → t.fdToNode f = some n

variable (t) in
/-- The node a descriptor belongs to leads to this descriptor. -/
def Mirrored : Prop := ∀ n f, t.fdToNode f = some n → t.nodeToFd n = some f

/-- No call breaks this direction. -/
lemma Mirrored.registerNodeFd (h : t.Mirrored) : (t.registerNodeFd nodeId fd).Mirrored := by
  intro n f hn
  rw [fdToNode_registerNodeFd] at hn
  rw [nodeToFd_registerNodeFd]
  split_ifs at hn with hf hold
  · obtain rfl : nodeId = n := Option.some.inj hn
    rw [if_pos rfl, hf]
  · have hold' : n ≠ nodeId := by
      rintro rfl
      exact hold (h _ _ hn)
    rw [if_neg hold', h _ _ hn]

lemma Mirrored.onNodeDisconnected (h : t.Mirrored) : (t.onNodeDisconnected fd).Mirrored := by
  intro n f hn
  rw [fdToNode_onNodeDisconnected] at hn
  split_ifs at hn with hf
  have hnf := h _ _ hn
  rw [nodeToFd_onNodeDisconnected, if_neg, hnf]
  rintro ⟨-, hfd⟩
  exact hf (Option.some.inj (hnf.symm.trans hfd))

/-- A handshake keeps the maps consistent unless another node holds the descriptor. -/
lemma consistent_registerNodeFd_iff (hm : t.Mirrored) (hc : t.Consistent) :
    (t.registerNodeFd nodeId fd).Consistent ↔ ∀ m, t.fdToNode fd = some m → m = nodeId := by
  constructor
  · intro h m hfd
    by_contra hne
    have hstale : (t.registerNodeFd nodeId fd).nodeToFd m = some fd := by
      rw [nodeToFd_registerNodeFd, if_neg hne, hm _ _ hfd]
    have hnew := h m fd hstale
    rw [fdToNode_registerNodeFd, if_pos rfl] at hnew
    exact hne (Option.some.inj hnew).symm
  · intro h n f hn
    rw [nodeToFd_registerNodeFd] at hn
    rw [fdToNode_registerNodeFd]
    split_ifs at hn with hnode
    · rw [if_pos (Option.some.inj hn).symm, hnode]
    · have hf : f ≠ fd := by
        rintro rfl
        exact hnode (h n (hc _ _ hn))
      have hold : t.nodeToFd nodeId ≠ some f := by
        intro hold
        exact hnode (Option.some.inj ((hc _ _ hn).symm.trans (hc _ _ hold)))
      rw [if_neg hf, if_neg hold, hc _ _ hn]

lemma Consistent.onNodeDisconnected (hc : t.Consistent) :
    (t.onNodeDisconnected fd).Consistent := by
  intro n f hn
  rw [nodeToFd_onNodeDisconnected] at hn
  split_ifs at hn with herased
  rw [fdToNode_onNodeDisconnected, if_neg, hc _ _ hn]
  rintro rfl
  exact herased ⟨hc _ _ hn, hn⟩

end NodeTable

/-! ### Runs of the transport -/

/-- The calls that change the tables. Descriptors of sockets are not negative. -/
inductive NodeOp
  | connectToNode (nodeId ip : Bytes) (port : Int) (fd : Nat)
  | registerNodeFd (nodeId : Bytes) (fd : Nat)
  | onNodeDisconnected (fd : Nat)
  deriving DecidableEq

/-- The tables together with the calls that were made, the latest first. -/
structure Routing where
  table : NodeTable
  past : List NodeOp

namespace Routing

def start : Routing := ⟨.empty, []⟩

def apply (t : NodeTable) : NodeOp → NodeTable
  | .connectToNode nodeId ip port fd => t.connectToNode nodeId ip port fd
  | .registerNodeFd nodeId fd => t.registerNodeFd nodeId fd
  | .onNodeDisconnected fd => t.onNodeDisconnected fd

def machine : Machine Routing NodeOp where
  init r := r = start
  next r op := some ⟨apply r.table op, op :: r.past⟩

/-- The node that was the last to shake hands on a descriptor, until the connection is lost. -/
def peer (fd : Fd) : List NodeOp → Option Bytes
  | [] => none
  | .connectToNode .. :: past => peer fd past
  | .registerNodeFd nodeId f :: past => if f = fd then some nodeId else peer fd past
  | .onNodeDisconnected f :: past => if f = fd then none else peer fd past

/-- The node has shaken hands on the descriptor, and the connection was not lost since. -/
def Handshaken (nodeId : Bytes) (fd : Nat) : List NodeOp → Prop
  | [] => False
  | .connectToNode .. :: past => Handshaken nodeId fd past
  | .registerNodeFd n f :: past => (n = nodeId ∧ f = fd) ∨ Handshaken nodeId fd past
  | .onNodeDisconnected f :: past => f ≠ fd ∧ Handshaken nodeId fd past

/-! ### Descriptors of lost connections -/

/-- A node only leads to a descriptor that belongs to it and on which it was the last to shake
hands, and so does a packet for the node. -/
structure Routed (r : Routing) : Prop where
  consistent : r.table.Consistent
  live : ∀ n f, r.table.nodeToFd n = some f → peer f r.past = some n
  sent : ∀ getConnection packet f bytes, r.table.sendPacket getConnection packet = some (f, bytes) →
    peer f r.past = some packet.targetNodeId

/-- No descriptor is registered for a second node as long as it belongs to a first one. -/
def OneNodePerFd (r : Routing) (op : NodeOp) : Prop :=
  ∀ n m (fd : Nat), op = .registerNodeFd n fd → r.table.fdToNode fd = some m → m = n

/-- What every call keeps: `fdToNode_` is right. -/
structure Sound (r : Routing) : Prop where
  mirrored : r.table.Mirrored
  peer : ∀ n f, r.table.fdToNode f = some n → peer f r.past = some n

variable {r r' : Routing} {op : NodeOp}

lemma next_eq (h : machine.next r op = some r') : r' = ⟨apply r.table op, op :: r.past⟩ :=
  (Option.some.inj h).symm

lemma sound_start : Sound start where
  mirrored := by
    intro n f h
    cases h
  peer := by
    intro n f h
    cases h

lemma Sound.next (h : Sound r) (hs : machine.next r op = some r') : Sound r' := by
  obtain rfl := next_eq hs
  cases op with
  | connectToNode nodeId ip port fd => exact ⟨h.mirrored, h.peer⟩
  | registerNodeFd nodeId fd =>
    refine ⟨h.mirrored.registerNodeFd, fun n f hn => ?_⟩
    change (r.table.registerNodeFd nodeId fd).fdToNode f = some n at hn
    rw [NodeTable.fdToNode_registerNodeFd] at hn
    split_ifs at hn with hf
    · simp [Routing.peer, hf, Option.some.inj hn]
    · simp [Routing.peer, Ne.symm hf, h.peer n f hn]
  | onNodeDisconnected fd =>
    refine ⟨h.mirrored.onNodeDisconnected, fun n f hn => ?_⟩
    change (r.table.onNodeDisconnected fd).fdToNode f = some n at hn
    rw [NodeTable.fdToNode_onNodeDisconnected] at hn
    split_ifs at hn with hf
    simp [Routing.peer, Ne.symm hf, h.peer n f hn]

/-- As long as the two maps are consistent, no route is out of date. -/
lemma Sound.consistent_iff (h : Sound r) : Routed r ↔ r.table.Consistent := by
  constructor
  · exact Routed.consistent
  · intro hc
    have live : ∀ n f, r.table.nodeToFd n = some f → Routing.peer f r.past = some n :=
      fun n f hn => h.peer n f (hc n f hn)
    refine ⟨hc, live, fun getConnection packet f bytes hsent => ?_⟩
    unfold NodeTable.sendPacket NodeTable.getFdByNodeId at hsent
    cases hn : r.table.nodeToFd packet.targetNodeId with
    | none => simp [hn] at hsent
    | some fd =>
      simp only [hn, Option.getD_some] at hsent
      split_ifs at hsent
      obtain ⟨rfl, -⟩ := Prod.mk.inj (Option.some.inj hsent)
      exact live _ _ hn

lemma Sound.routed_next_iff (h : Sound r) (hr : Routed r) (hs : machine.next r op = some r') :
    Routed r' ↔ OneNodePerFd r op := by
  rw [(h.next hs).consistent_iff]
  obtain rfl := next_eq hs
  cases op with
  | connectToNode nodeId ip port fd =>
    constructor
    · rintro - n m f ⟨⟩
    · intro _
      exact hr.consistent
  | registerNodeFd nodeId fd =>
    show (r.table.registerNodeFd nodeId fd).Consistent ↔ _
    rw [NodeTable.consistent_registerNodeFd_iff h.mirrored hr.consistent]
    constructor
    · rintro hm n m f ⟨⟩ hf
      exact hm m hf
    · intro hone m hm
      exact hone nodeId m fd rfl hm
  | onNodeDisconnected fd =>
    constructor
    · rintro - n m f ⟨⟩
    · intro _
      exact hr.consistent.onNodeDisconnected

/-- In a run no packet for a node goes out over a descriptor of another peer or of a lost
connection exactly when no two nodes shake hands on one descriptor at a time. -/
theorem routed_iff (ops : List NodeOp) :
    machine.Always Routed start ops ↔ machine.Admits OneNodePerFd start ops := by
  refine Machine.always_iff_admits (I := Sound) (by simp [machine]) ?_ ?_ sound_start ?_ ops
  · intro r op r' h _ hs
    exact h.next hs
  · intro r op r' h hr hs
    exact h.routed_next_iff hr hs
  · apply sound_start.consistent_iff.mpr
    intro n f h
    cases h

/-- A second node shakes hands on descriptor 5, which is lost and then taken by a third. -/
def secondHandshake : List NodeOp :=
  [.registerNodeFd [97] 5, .registerNodeFd [98] 5, .onNodeDisconnected 5, .registerNodeFd [99] 5]

/-- The packets for the first node go to the third. -/
theorem misrouted_after_secondHandshake : ¬ machine.Always Routed start secondHandshake := by
  intro h
  have hr := h secondHandshake _ (List.prefix_refl _) rfl
  have hsent := hr.sent (fun _ => true) { targetNodeId := [97] } 5 _ rfl
  exact absurd hsent (by decide)

/-! ### Nodes with several connections -/

/-- A node with a connection on which it has shaken hands is reached over such a connection. -/
def Connected (r : Routing) : Prop :=
  ∀ n, (∃ fd, Handshaken n fd r.past) →
    ∃ fd : Nat, Handshaken n fd r.past ∧ r.table.getFdByNodeId n = fd ∧
      r.table.getFdByNodeId n ≠ -1

/-- A descriptor that a node leads to is only lost when the node has no other connection. -/
def LosesLast (r : Routing) (op : NodeOp) : Prop :=
  ∀ n (fd fd' : Nat), op = .onNodeDisconnected fd → r.table.nodeToFd n = some (fd : Fd) →
    Handshaken n fd' r.past → fd' = fd

lemma getFdByNodeId_eq_natCast {t : NodeTable} {n : Bytes} {fd : Nat} :
    t.getFdByNodeId n = fd ↔ t.nodeToFd n = some (fd : Fd) := by
  rw [NodeTable.getFdByNodeId]
  cases t.nodeToFd n with
  | none =>
    constructor
    · intro h
      have h : (-1 : Int) = fd := h
      omega
    · rintro ⟨⟩
  | some f => simp

/-- The lookup never says `-1` when it leads to a descriptor. -/
lemma connected_iff : Connected r ↔ ∀ n, (∃ fd, Handshaken n fd r.past) →
    ∃ fd : Nat, Handshaken n fd r.past ∧ r.table.nodeToFd n = some (fd : Fd) := by
  constructor
  · intro h n hn
    obtain ⟨fd, hfd, hget, -⟩ := h n hn
    exact ⟨fd, hfd, getFdByNodeId_eq_natCast.mp hget⟩
  · intro h n hn
    obtain ⟨fd, hfd, hget⟩ := h n hn
    have hget := getFdByNodeId_eq_natCast.mpr hget
    refine ⟨fd, hfd, hget, ?_⟩
    rw [hget]
    have hfd : (fd : Int) ≠ -1 := by omega
    exact hfd

lemma connected_registerNodeFd {nodeId : Bytes} {fd : Nat} (hc : Connected r) :
    Connected ⟨r.table.registerNodeFd nodeId fd, .registerNodeFd nodeId fd :: r.past⟩ := by
  rw [connected_iff] at hc ⊢
  rintro n ⟨f, hf⟩
  simp only [NodeTable.nodeToFd_registerNodeFd]
  by_cases hn : n = nodeId
  · exact ⟨fd, .inl ⟨hn.symm, rfl⟩, by rw [if_pos hn]⟩
  · have hold : Handshaken n f r.past := by
      rcases hf with ⟨rfl, -⟩ | hf
      · exact absurd rfl hn
      · exact hf
    obtain ⟨f', hf', hget⟩ := hc n ⟨f, hold⟩
    exact ⟨f', .inr hf', by rw [if_neg hn, hget]⟩

lemma connected_onNodeDisconnected_iff {fd : Nat} (hc : Connected r) :
    Connected ⟨r.table.onNodeDisconnected fd, .onNodeDisconnected fd :: r.past⟩ ↔
      ∀ n (fd' : Nat), r.table.nodeToFd n = some (fd : Fd) → Handshaken n fd' r.past →
        fd' = fd := by
  rw [connected_iff] at hc ⊢
  simp only [NodeTable.nodeToFd_onNodeDisconnected]
  constructor
  · intro h n fd' hfd hshaken
    by_contra hne
    obtain ⟨f, ⟨hf, -⟩, hget⟩ := h n ⟨fd', Ne.symm hne, hshaken⟩
    split_ifs at hget
    have hff : (f : Int) = fd := Option.some.inj (hget.symm.trans hfd)
    exact hf (by omega)
  · rintro hlast n ⟨f, hf, hshaken⟩
    obtain ⟨f', hf', hget⟩ := hc n ⟨f, hshaken⟩
    have hne : fd ≠ f' := by
      rintro rfl
      exact hf (hlast n f hget hshaken).symm
    have hother : ¬ (r.table.fdToNode fd = some n ∧ r.table.nodeToFd n = some (fd : Fd)) := by
      rintro ⟨-, hfd⟩
      have hff : (f' : Int) = fd := Option.some.inj (hget.symm.trans hfd)
      exact hne (by omega)
    exact ⟨f', ⟨hne, hf'⟩, by rw [if_neg hother, hget]⟩

lemma connected_next_iff (hc : Connected r) (hs : machine.next r op = some r') :
    Connected r' ↔ LosesLast r op := by
  obtain rfl := next_eq hs
  cases op with
  | connectToNode nodeId ip port fd =>
    constructor
    · rintro - n fd fd' ⟨⟩
    · intro _
      exact hc
  | registerNodeFd nodeId fd =>
    constructor
    · rintro - n fd fd' ⟨⟩
    · intro _
      exact connected_registerNodeFd hc
  | onNodeDisconnected fd =>
    apply (connected_onNodeDisconnected_iff hc).trans
    constructor
    · rintro hlast n f f' ⟨⟩ hn hshaken
      exact hlast n f' hn hshaken
    · intro hlast n fd' hn hshaken
      exact hlast n fd fd' rfl hn hshaken

/-- In a run every node stays connected exactly when a node never loses the connection it leads to
while it has another. -/
theorem connected_iff_losesLast (ops : List NodeOp) :
    machine.Always Connected start ops ↔ machine.Admits LosesLast start ops := by
  refine Machine.always_iff_admits (I := fun _ => True) (by simp [machine]) ?_ ?_ trivial ?_ ops
  · intro r op r' _ _ _
    trivial
  · intro r op r' _ hc hs
    exact connected_next_iff hc hs
  · rintro n ⟨fd, hfd⟩
    cases hfd

/-- A node shakes hands on descriptor 5, then on descriptor 6, and loses the latter. -/
def losesSecond : List NodeOp :=
  [.registerNodeFd [97] 5, .registerNodeFd [97] 6, .onNodeDisconnected 6]

/-- The node is not found, with the connection on descriptor 5 still there. -/
theorem unreachable_after_losesSecond : ¬ machine.Always Connected start losesSecond := by
  intro h
  have hc := h losesSecond _ (List.prefix_refl _) rfl
  obtain ⟨fd, -, -, hfound⟩ := hc [97] ⟨5, by simp [Handshaken]⟩
  exact hfound (by decide)

end Routing

end Balabala
