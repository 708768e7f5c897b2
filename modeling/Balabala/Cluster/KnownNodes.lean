import Balabala.Cluster.NodeTable

/-!
# Which of the known nodes are alive

`ConnectToNode` enters its node in `knownNodes_`, whether it is there already or connected already,
and `alive` is set and cleared at the first entry of a node only. So a second entry keeps what it
was entered with.
-/

namespace Balabala

open Foundation

namespace NodeTable

variable (t : NodeTable)

def getKnownNodes : List ClusterNode := t.knownNodes

/-- The entries of a node. -/
def entries (nodeId : Bytes) : List ClusterNode := t.knownNodes.filter (·.nodeId = nodeId)

/-- The known nodes are alive that lead to a descriptor. -/
def AliveMatches : Prop :=
  ∀ node ∈ t.getKnownNodes, node.alive = true ↔ t.getFdByNodeId node.nodeId ≠ -1

/-! ### The loops over `knownNodes_` -/

variable {t : NodeTable} {nodeId m : Bytes} {alive : Bool} {fd : Fd}

lemma filter_setAlive_of_ne (h : m ≠ nodeId) (nodes : List ClusterNode) :
    (setAlive nodeId alive nodes).filter (·.nodeId = m) = nodes.filter (·.nodeId = m) := by
  induction nodes with
  | nil => rfl
  | cons node nodes ih =>
    rw [setAlive]
    split_ifs with hnode
    · have hm : ¬ node.nodeId = m := fun e => h (e.symm.trans hnode)
      simp [hm]
    · simp only [List.filter_cons, ih]

/-- The first entry of the node is changed and no other. -/
lemma filter_setAlive_self (nodes : List ClusterNode) :
    (setAlive nodeId alive nodes).filter (·.nodeId = nodeId) =
      (nodes.filter (·.nodeId = nodeId)).head?.toList.map ({ · with alive }) ++
        (nodes.filter (·.nodeId = nodeId)).tail := by
  induction nodes with
  | nil => rfl
  | cons node nodes ih =>
    rw [setAlive]
    split_ifs with hnode
    · simp [hnode]
    · simp [hnode, ih]

/-- Entries that say the opposite are all corrected only if there is one at most. -/
lemma forall_setAlive_iff {nodes : List ClusterNode}
    (h : ∀ node ∈ nodes.filter (·.nodeId = nodeId), node.alive = !alive) :
    (∀ node ∈ (setAlive nodeId alive nodes).filter (·.nodeId = nodeId), node.alive = alive) ↔
      (nodes.filter (·.nodeId = nodeId)).length ≤ 1 := by
  rw [filter_setAlive_self]
  cases hnodes : nodes.filter (·.nodeId = nodeId) with
  | nil => simp
  | cons node rest =>
    rw [hnodes] at h
    constructor
    · intro hall
      cases rest with
      | nil => exact Nat.le_refl 1
      | cons second rest =>
        have hold := h second (by simp)
        rw [hall second (by simp)] at hold
        cases alive <;> cases hold
    · intro hlen
      obtain rfl : rest = [] := by
        rw [← List.length_eq_zero_iff]
        exact Nat.le_zero.mp (Nat.le_of_succ_le_succ hlen)
      simp

/-- Entries that are right already stay so. -/
lemma forall_setAlive {nodes : List ClusterNode}
    (h : ∀ node ∈ nodes.filter (·.nodeId = nodeId), node.alive = alive) :
    ∀ node ∈ (setAlive nodeId alive nodes).filter (·.nodeId = nodeId), node.alive = alive := by
  rw [filter_setAlive_self]
  cases hnodes : nodes.filter (·.nodeId = nodeId) with
  | nil => simp
  | cons first rest =>
    rw [hnodes] at h
    intro node hnode
    rcases List.mem_append.mp hnode with hnode | hnode
    · obtain rfl : { first with alive } = node := by simpa [eq_comm] using hnode
      rfl
    · exact h node (List.mem_cons_of_mem _ hnode)

/-! ### Node by node -/

variable (t) in
/-- No node leads to `-1`, which is what the lookup says when there is no entry. -/
def NoMinusOne : Prop := ∀ n, t.nodeToFd n ≠ some (-1)

lemma NoMinusOne.getFdByNodeId_eq (h : t.NoMinusOne) :
    t.getFdByNodeId m = -1 ↔ t.nodeToFd m = none := by
  rw [getFdByNodeId]
  cases hm : t.nodeToFd m with
  | none => simp
  | some f =>
    constructor
    · rintro rfl
      exact absurd hm (h m)
    · rintro ⟨⟩

variable (t) in
/-- The entries of one node are right. -/
def AliveAt (m : Bytes) : Prop := ∀ node ∈ t.entries m, node.alive = (t.nodeToFd m).isSome

lemma NoMinusOne.aliveMatches_iff (h : t.NoMinusOne) : t.AliveMatches ↔ ∀ m, t.AliveAt m := by
  have hnode : ∀ node : ClusterNode, (node.alive = true ↔ t.getFdByNodeId node.nodeId ≠ -1) ↔
      node.alive = (t.nodeToFd node.nodeId).isSome := by
    intro node
    rw [Ne, h.getFdByNodeId_eq]
    cases node.alive <;> cases t.nodeToFd node.nodeId <;> simp
  constructor
  · intro ha m node hmem
    obtain ⟨hknown, hm⟩ := List.mem_filter.mp hmem
    obtain rfl : node.nodeId = m := by simpa using hm
    exact (hnode node).mp (ha node hknown)
  · intro ha node hmem
    exact (hnode node).mpr (ha node.nodeId node (List.mem_filter.mpr ⟨hmem, by simp⟩))

variable (nodeId) in
/-- A call that leaves the other nodes as they were only has to be right about its own. -/
lemma NoMinusOne.aliveMatches_iff_aliveAt {t' : NodeTable} (h : t.NoMinusOne) (h' : t'.NoMinusOne)
    (ha : t.AliveMatches) (hentries : ∀ m, m ≠ nodeId → t'.entries m = t.entries m)
    (hfd : ∀ m, m ≠ nodeId → t'.nodeToFd m = t.nodeToFd m) :
    t'.AliveMatches ↔ t'.AliveAt nodeId := by
  rw [h'.aliveMatches_iff]
  constructor
  · intro hall
    exact hall nodeId
  · intro hat m
    by_cases hm : m = nodeId
    · rw [hm]
      exact hat
    · rw [AliveAt, hentries m hm, hfd m hm]
      exact h.aliveMatches_iff.mp ha m

/-! ### The calls -/

variable {ip : Bytes} {port : Int}

lemma entries_connectToNode : (t.connectToNode nodeId ip port fd).entries m =
    if m = nodeId then t.entries nodeId ++ [{ nodeId, address := ip, port }]
    else t.entries m := by
  rw [entries, connectToNode, List.filter_append]
  by_cases hm : m = nodeId
  · simp [hm, entries]
  · simp [hm, Ne.symm hm, entries]

lemma NoMinusOne.registerNodeFd {fd : Nat} (h : t.NoMinusOne) :
    (t.registerNodeFd nodeId fd).NoMinusOne := by
  intro n hn
  rw [nodeToFd_registerNodeFd] at hn
  split_ifs at hn
  · have hn : (fd : Int) = -1 := Option.some.inj hn
    omega
  · exact h n hn

lemma NoMinusOne.onNodeDisconnected (h : t.NoMinusOne) : (t.onNodeDisconnected fd).NoMinusOne := by
  intro n hn
  rw [nodeToFd_onNodeDisconnected] at hn
  split_ifs at hn
  exact h n hn

/-- The new entry is not alive, which is right unless the node is connected already. -/
lemma aliveMatches_connectToNode_iff (h : t.NoMinusOne) (ha : t.AliveMatches) :
    (t.connectToNode nodeId ip port fd).AliveMatches ↔ t.getFdByNodeId nodeId = -1 := by
  have h' : (t.connectToNode nodeId ip port fd).NoMinusOne := h
  have hat := h.aliveMatches_iff.mp ha nodeId
  rw [h.aliveMatches_iff_aliveAt nodeId h' ha
    (fun m hm => by rw [entries_connectToNode, if_neg hm]) (fun _ _ => rfl),
    h.getFdByNodeId_eq, AliveAt, entries_connectToNode, if_pos rfl]
  constructor
  · intro hall
    have hnew := hall { nodeId, address := ip, port } (by simp)
    exact Option.not_isSome_iff_eq_none.mp (Bool.eq_false_iff.mp hnew.symm)
  · intro hnone node hmem
    rcases List.mem_append.mp hmem with hmem | hmem
    · exact hat node hmem
    · obtain rfl := List.mem_singleton.mp hmem
      exact (Option.isSome_eq_false_iff.mpr (Option.isNone_iff_eq_none.mpr hnone)).symm

/-- A handshake makes one entry alive, which is enough if the node was connected already. -/
lemma aliveMatches_registerNodeFd_iff {fd : Nat} (h : t.NoMinusOne) (ha : t.AliveMatches) :
    (t.registerNodeFd nodeId fd).AliveMatches ↔
      (t.getFdByNodeId nodeId = -1 → (t.entries nodeId).length ≤ 1) := by
  have hat := h.aliveMatches_iff.mp ha nodeId
  rw [h.aliveMatches_iff_aliveAt nodeId h.registerNodeFd ha
    (fun m hm => filter_setAlive_of_ne hm _)
    (fun m hm => by rw [nodeToFd_registerNodeFd, if_neg hm]),
    h.getFdByNodeId_eq, AliveAt, nodeToFd_registerNodeFd, if_pos rfl]
  cases hold : t.nodeToFd nodeId with
  | none =>
    rw [AliveAt, hold] at hat
    rw [imp_iff_right rfl]
    exact forall_setAlive_iff hat
  | some oldFd =>
    rw [AliveAt, hold] at hat
    constructor
    · rintro - ⟨⟩
    · intro _
      exact forall_setAlive hat

/-- The loss of a descriptor over which its node is reached marks one entry, and none of the node
without a name. -/
lemma knownNodes_onNodeDisconnected (hnode : t.fdToNode fd = some nodeId)
    (hactive : t.nodeToFd nodeId = some fd) : (t.onNodeDisconnected fd).knownNodes =
      if nodeId = [] then t.knownNodes else setAlive nodeId false t.knownNodes := by
  by_cases hempty : nodeId = [] <;> simp [onNodeDisconnected, hnode, hactive, hempty]

lemma aliveAt_onNodeDisconnected_iff (hnode : t.fdToNode fd = some nodeId)
    (hactive : t.nodeToFd nodeId = some fd) (hat : t.AliveAt nodeId) :
    (t.onNodeDisconnected fd).AliveAt nodeId ↔
      (t.entries nodeId).length ≤ 1 ∧ (nodeId = [] → t.entries nodeId = []) := by
  rw [AliveAt, hactive] at hat
  rw [AliveAt, nodeToFd_onNodeDisconnected, if_pos ⟨hnode, hactive⟩, entries,
    knownNodes_onNodeDisconnected hnode hactive]
  by_cases hempty : nodeId = []
  · rw [if_pos hempty]
    constructor
    · intro hall
      have hnone : t.entries nodeId = [] := by
        rw [List.eq_nil_iff_forall_not_mem]
        intro node hmem
        have hdead := hall node hmem
        rw [hat node hmem] at hdead
        cases hdead
      simp [hnone]
    · rintro ⟨-, hnone⟩ node hmem
      have hmem : node ∈ t.entries nodeId := hmem
      rw [hnone hempty] at hmem
      cases hmem
  · have hset : (∀ node ∈ (setAlive nodeId false t.knownNodes).filter (·.nodeId = nodeId),
        node.alive = false) ↔ (t.entries nodeId).length ≤ 1 := forall_setAlive_iff hat
    simpa [hempty] using hset

/-- The loss of any other descriptor. -/
lemma aliveMatches_onNodeDisconnected_of_not_active
    (h : ∀ n, t.fdToNode fd = some n → t.nodeToFd n ≠ some fd) :
    (t.onNodeDisconnected fd).AliveMatches ↔ t.AliveMatches := by
  have hknown : (t.onNodeDisconnected fd).knownNodes = t.knownNodes := by
    cases hnode : t.fdToNode fd with
    | none => simp [onNodeDisconnected, hnode]
    | some n => simp [onNodeDisconnected, hnode, h n hnode]
  have hfd : (t.onNodeDisconnected fd).nodeToFd = t.nodeToFd := by
    funext n
    rw [nodeToFd_onNodeDisconnected, if_neg]
    rintro ⟨hn, hfd⟩
    exact h n hn hfd
  simp only [AliveMatches, getKnownNodes, getFdByNodeId, hknown, hfd]

lemma aliveMatches_onNodeDisconnected_iff (h : t.NoMinusOne) (ha : t.AliveMatches) :
    (t.onNodeDisconnected fd).AliveMatches ↔
      ∀ n, t.fdToNode fd = some n → t.nodeToFd n = some fd →
        (t.entries n).length ≤ 1 ∧ (n = [] → t.entries n = []) := by
  by_cases hactive : ∃ n, t.fdToNode fd = some n ∧ t.nodeToFd n = some fd
  · obtain ⟨nodeId, hnode, hfd⟩ := hactive
    have hentries : ∀ m, m ≠ nodeId → (t.onNodeDisconnected fd).entries m = t.entries m := by
      intro m hm
      rw [entries, knownNodes_onNodeDisconnected hnode hfd]
      split_ifs
      · rfl
      · exact filter_setAlive_of_ne hm _
    have hothers : ∀ m, m ≠ nodeId → (t.onNodeDisconnected fd).nodeToFd m = t.nodeToFd m := by
      intro m hm
      rw [nodeToFd_onNodeDisconnected, if_neg]
      rintro ⟨hnode', -⟩
      exact hm (Option.some.inj (hnode'.symm.trans hnode))
    rw [h.aliveMatches_iff_aliveAt nodeId h.onNodeDisconnected ha hentries hothers,
      aliveAt_onNodeDisconnected_iff hnode hfd (h.aliveMatches_iff.mp ha nodeId)]
    simp [hnode, hfd]
  · have hne : ∀ n, t.fdToNode fd = some n → t.nodeToFd n ≠ some fd :=
      fun n hn hfd => hactive ⟨n, hn, hfd⟩
    rw [aliveMatches_onNodeDisconnected_of_not_active hne]
    constructor
    · intro _ n hn hfd
      exact absurd hfd (hne n hn)
    · intro _
      exact ha

end NodeTable

namespace Routing

variable {r r' : Routing} {op : NodeOp}

/-- What is entered is not connected yet, and what becomes connected or is lost has one entry at
most. -/
def OneEntry (r : Routing) : NodeOp → Prop
  | .connectToNode nodeId _ _ _ => r.table.getFdByNodeId nodeId = -1
  | .registerNodeFd nodeId _ =>
    r.table.getFdByNodeId nodeId = -1 → (r.table.entries nodeId).length ≤ 1
  | .onNodeDisconnected fd =>
    ∀ n, r.table.fdToNode fd = some n → r.table.nodeToFd n = some (fd : Fd) →
      (r.table.entries n).length ≤ 1 ∧ (n = [] → r.table.entries n = [])

lemma noMinusOne_next (h : r.table.NoMinusOne) (hs : machine.next r op = some r') :
    r'.table.NoMinusOne := by
  obtain rfl := next_eq hs
  cases op with
  | connectToNode nodeId ip port fd => exact h
  | registerNodeFd nodeId fd => exact h.registerNodeFd
  | onNodeDisconnected fd => exact h.onNodeDisconnected

lemma aliveMatches_next_iff (h : r.table.NoMinusOne) (ha : r.table.AliveMatches)
    (hs : machine.next r op = some r') : r'.table.AliveMatches ↔ OneEntry r op := by
  obtain rfl := next_eq hs
  cases op with
  | connectToNode nodeId ip port fd => exact NodeTable.aliveMatches_connectToNode_iff h ha
  | registerNodeFd nodeId fd => exact NodeTable.aliveMatches_registerNodeFd_iff h ha
  | onNodeDisconnected fd => exact NodeTable.aliveMatches_onNodeDisconnected_iff h ha

/-- In a run the known nodes are alive that have a descriptor exactly when no node is entered that
is connected, none with two entries becomes connected or is lost, and none without a name is lost
that was entered. -/
theorem aliveMatches_iff_oneEntry (ops : List NodeOp) :
    machine.Always (fun r => r.table.AliveMatches) start ops ↔
      machine.Admits OneEntry start ops := by
  refine Machine.always_iff_admits (I := fun r => r.table.NoMinusOne) (by simp [machine])
    ?_ ?_ ?_ ?_ ops
  · intro r op r' h _ hs
    exact noMinusOne_next h hs
  · intro r op r' h ha hs
    exact aliveMatches_next_iff h ha hs
  · rintro n ⟨⟩
  · rintro node ⟨⟩

/-- A node is connected to twice before it answers the first handshake. -/
def connectedTwice : List NodeOp :=
  [.connectToNode [98] [] 7001 5, .connectToNode [98] [] 7001 6, .registerNodeFd [98] 5]

/-- Its second entry is not alive. -/
theorem not_alive_of_connectedTwice :
    ¬ machine.Always (fun r => r.table.AliveMatches) start connectedTwice := by
  intro h
  have ha := h connectedTwice _ (List.prefix_refl _) rfl
  have hnode := ha ⟨[98], [], 7001, false⟩ (by decide)
  exact absurd (hnode.mpr (by decide)) (by decide)

end Routing

end Balabala
