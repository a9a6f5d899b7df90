import Madara.Rpc.NewHeadsRuns

/-! A node serving any number of `starknet_subscribeNewHeads` calls at once. Each call is
its own task, with its own sink, receiver and `block_n`; all of them read the one
backend and its one `subscribe_block_info` channel. Tasks step in any order, between
any of the backend's stores and broadcasts. Seen alone, each call is exactly a run of
the one-subscription model of `Madara.Rpc.NewHeads`, so what holds there holds of every
call on every interleaving. -/
namespace Madara.Rpc

/-- One `subscribe_new_heads` task: the block id it was called with, and its own state. -/
structure Subscription where
  blockId : BlockId
  phase : Phase
  start : Nat
  sent : List Nat

/-- The backend's blocks and broadcasts, and the subscriptions the node serves. -/
structure Node where
  blocks : List Felt
  announced : Nat
  subscriptions : List Subscription

/-- One subscription as the one-subscription model sees it. -/
def Node.view (node : Node) (sub : Subscription) : World :=
  ⟨node.blocks, node.announced, sub.phase, sub.start, sub.sent⟩

/-- The subscription a task's step leaves. -/
def Subscription.after (sub : Subscription) (w : World) : Subscription :=
  ⟨sub.blockId, w.phase, w.start, w.sent⟩

variable (blockPastLimit : Nat)

inductive NodeStep : Node → Node → Prop
  /-- A client calls `starknet_subscribeNewHeads`. -/
  | request {node} (blockId : BlockId) :
      NodeStep node
        { node with subscriptions := node.subscriptions ++ [⟨blockId, .accepting, 0, []⟩] }
  /-- One task takes a step of its own; the backend is as it was. -/
  | serve {node before after sub w} : node.subscriptions = before ++ sub :: after →
      Step blockPastLimit sub.blockId (node.view sub) w → w.blocks = node.blocks →
      w.announced = node.announced →
      NodeStep node { node with subscriptions := before ++ sub.after w :: after }
  | store {node} (blockHash : Felt) :
      NodeStep node { node with blocks := node.blocks ++ [blockHash] }
  | broadcast {node} : node.announced < node.blocks.length →
      NodeStep node { node with announced := node.announced + 1 }

inductive NodeReachable : Node → Prop
  | boot (blocks : List Felt) (announced : Nat) : announced ≤ blocks.length →
      NodeReachable ⟨blocks, announced, []⟩
  | step {node node'} : NodeReachable node → NodeStep blockPastLimit node node' →
      NodeReachable node'

variable {blockPastLimit}

theorem Step.local_or_backend {blockId : BlockId} {w w' : World}
    (stepped : Step blockPastLimit blockId w w') :
    (w'.blocks = w.blocks ∧ w'.announced = w.announced) ∨
      (∃ blockHash, w' = { w with blocks := w.blocks ++ [blockHash] }) ∨
      (w.announced < w.blocks.length ∧ w' = { w with announced := w.announced + 1 }) := by
  cases stepped with
  | store blockHash => exact .inr (.inl ⟨blockHash, rfl⟩)
  | broadcast pending => exact .inr (.inr ⟨pending, rfl⟩)
  | _ => exact .inl ⟨rfl, rfl⟩

theorem Node.view_after {node : Node} {sub : Subscription} {w : World}
    (blocks : w.blocks = node.blocks) (announced : w.announced = node.announced) :
    node.view (sub.after w) = w := by
  cases w; cases blocks; cases announced; rfl

theorem NodeReachable.views {node : Node} (reach : NodeReachable blockPastLimit node) :
    node.announced ≤ node.blocks.length ∧
      ∀ sub ∈ node.subscriptions, Reachable blockPastLimit sub.blockId (node.view sub) := by
  induction reach with
  | boot _ _ bound => exact ⟨bound, fun _ => nofun⟩
  | step _ stepped ih =>
    obtain ⟨bound, views⟩ := ih
    cases stepped with
    | request blockId =>
      refine ⟨bound, fun sub member => ?_⟩
      rcases List.mem_append.mp member with old | new
      · exact views sub old
      · rw [List.mem_singleton.mp new]
        exact Reachable.request _ _ bound
    | serve split stepped blocks announced =>
      rename_i served w
      obtain ⟨_, _, phase, start, sent⟩ := w
      subst blocks announced
      refine ⟨bound, fun sub member => ?_⟩
      rcases List.mem_append.mp member with old | member
      · exact views sub (split ▸ List.mem_append_left _ old)
      rcases List.mem_cons.mp member with rfl | old
      · have member := split ▸ List.mem_append_right _ (List.mem_cons_self _ _)
        exact (views served member).step stepped
      · exact views sub (split ▸ List.mem_append_right _ (List.mem_cons_of_mem _ old))
    | store blockHash =>
      refine ⟨by simp only [List.length_append]; omega, fun sub member => ?_⟩
      exact (views sub member).step (.store blockHash)
    | broadcast pending =>
      exact ⟨pending, fun sub member => (views sub member).step (.broadcast pending)⟩

theorem Reachable.embed {blockId : BlockId} {w : World}
    (reach : Reachable blockPastLimit blockId w) :
    ∃ node sub, NodeReachable blockPastLimit node ∧ sub ∈ node.subscriptions ∧
      sub.blockId = blockId ∧ node.view sub = w := by
  induction reach with
  | request blocks announced bound =>
    exact ⟨_, _, (NodeReachable.boot blocks announced bound).step (.request blockId),
      List.mem_singleton_self _, rfl, rfl⟩
  | @step w w' _ stepped ih =>
    obtain ⟨node, sub, reach, member, rfl, rfl⟩ := ih
    rcases stepped.local_or_backend with
      ⟨blocks, announced⟩ | ⟨blockHash, rfl⟩ | ⟨pending, rfl⟩
    · obtain ⟨before, after, split⟩ := List.append_of_mem member
      exact ⟨_, _, reach.step (.serve split stepped blocks announced),
        List.mem_append_right _ (List.mem_cons_self _ _), rfl, Node.view_after blocks announced⟩
    · exact ⟨_, sub, reach.step (.store blockHash), member, rfl, rfl⟩
    · exact ⟨_, sub, reach.step (.broadcast pending), member, rfl, rfl⟩

theorem reachable_iff_node (blockId : BlockId) (w : World) :
    Reachable blockPastLimit blockId w ↔
      ∃ node sub, NodeReachable blockPastLimit node ∧ sub ∈ node.subscriptions ∧
        sub.blockId = blockId ∧ node.view sub = w := by
  refine ⟨Reachable.embed, ?_⟩
  rintro ⟨node, sub, reach, member, rfl, rfl⟩
  exact reach.views.2 sub member

end Madara.Rpc
