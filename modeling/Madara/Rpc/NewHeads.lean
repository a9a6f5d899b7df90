import Madara.Primitives.Felt

/-! `starknet_subscribeNewHeads` (`versions/v0_8_0/methods/ws/lib.rs`) against a backend
that keeps storing blocks. The backend holds blocks `0 .. blocks.length - 1`; storing a
block first makes it readable through `get_block_info`, and a later, separate step
broadcasts it on the `subscribe_block_info` channel, blocks in order. A receiver is a
cursor into that sequence, starting at the broadcasts not yet made when it subscribes,
as a `tokio` broadcast receiver starts at the channel's tail. The subscription's steps
interleave freely with the backend's. Every early return (a closed sink, a database or
send error, a lagging receiver) is one `close` step, allowed at any time.

Block numbers are `u64` in the code; no chain reaches `u64::MAX`, so `saturating_add(1)`
and the step of `block_n..` are `+ 1` here. `BLOCK_PAST_LIMIT` is a parameter. -/
namespace Madara.Rpc

inductive BlockTag
  | latest
  | pending

/-- `starknet_core::types::BlockId`. -/
inductive BlockId
  | hash (blockHash : Felt)
  | number (blockN : Nat)
  | tag (tag : BlockTag)

inductive StarknetWsApiError
  | noBlocks
  | blockNotFound
  | tooManyBlocksBack
  | pending
  | internal (message : String)
  deriving DecidableEq

/-- `get_block_n(&BlockId::Tag(BlockTag::Latest))`, also `get_latest_block_n()`. -/
def latestBlockN (blocks : List Felt) : Option Nat :=
  if blocks = [] then none else some (blocks.length - 1)

/-- `get_block_n(&BlockId::Hash(block_hash))`. -/
def blockNOfHash (blocks : List Felt) (blockHash : Felt) : Option Nat :=
  blocks.indexOf? blockHash

/-- The check both explicit block ids share: at most `BLOCK_PAST_LIMIT` blocks back. -/
def checkPastLimit (blockPastLimit blockLatest blockN : Nat) : Except StarknetWsApiError Nat :=
  if blockN < blockLatest - blockPastLimit then .error .tooManyBlocksBack else .ok blockN

/-- The `block_n` the subscription starts at, or the error it returns. -/
def startBlockN (blockPastLimit : Nat) (blocks : List Felt) :
    BlockId → Except StarknetWsApiError Nat
  | .number blockN =>
    match latestBlockN blocks with
    | none => .error .noBlocks
    | some blockLatest => checkPastLimit blockPastLimit blockLatest blockN
  | .hash blockHash =>
    match latestBlockN blocks, blockNOfHash blocks blockHash with
    | none, _ => .error .blockNotFound
    | some _, none =>
      .error (.internal ("Failed to retrieve block info at hash " ++ String.mk blockHash.formatHex))
    | some blockLatest, some blockN => checkPastLimit blockPastLimit blockLatest blockN
  | .tag .latest =>
    match latestBlockN blocks with
    | none => .error (.internal "Failed to retrieve block info for latest block")
    | some blockN => .ok blockN
  | .tag .pending => .error .pending

theorem checkPastLimit_ok {blockPastLimit blockLatest blockN s : Nat}
    (passed : checkPastLimit blockPastLimit blockLatest blockN = .ok s) :
    s = blockN ∧ blockLatest - blockPastLimit ≤ s := by
  unfold checkPastLimit at passed
  split at passed
  · cases passed
  · cases passed; exact ⟨rfl, by omega⟩

theorem latestBlockN_some {blocks : List Felt} {blockLatest : Nat}
    (found : latestBlockN blocks = some blockLatest) :
    blocks ≠ [] ∧ blockLatest = blocks.length - 1 := by
  unfold latestBlockN at found
  split at found
  · cases found
  · cases found; exact ⟨‹_›, rfl⟩

/-- An admitted start lies at most `BLOCK_PAST_LIMIT` blocks behind the head of a
nonempty chain; only an explicit number admits a block not yet stored. -/
theorem startBlockN_admitted {blockPastLimit : Nat} {blocks : List Felt} {blockId : BlockId}
    {s : Nat} (admitted : startBlockN blockPastLimit blocks blockId = .ok s) :
    blocks ≠ [] ∧ blocks.length - 1 - blockPastLimit ≤ s ∧
      ((∃ blockN, blockId = .number blockN) ∨ s < blocks.length) := by
  rcases blockId with blockHash | blockN | _ | _ <;> simp only [startBlockN] at admitted
  · split at admitted <;> try cases admitted
    rename_i found stored
    obtain ⟨nonempty, rfl⟩ := latestBlockN_some found
    obtain ⟨rfl, behind⟩ := checkPastLimit_ok admitted
    exact ⟨nonempty, behind, .inr (List.findIdx?_eq_some_iff_findIdx_eq.mp stored).1⟩
  · split at admitted
    · cases admitted
    · obtain ⟨nonempty, rfl⟩ := latestBlockN_some ‹_›
      exact ⟨nonempty, (checkPastLimit_ok admitted).2, .inl ⟨_, rfl⟩⟩
  · split at admitted
    · cases admitted
    · cases admitted
      obtain ⟨nonempty, rfl⟩ := latestBlockN_some ‹_›
      have := List.length_pos.mpr nonempty
      exact ⟨nonempty, by omega, .inr (by omega)⟩
  · cases admitted

theorem startBlockN_admitted_ahead :
    [Felt.zero] ≠ [] ∧ [Felt.zero].length - 1 - 0 ≤ 5 ∧
      ((∃ blockN, BlockId.number 5 = .number blockN) ∨ 5 < [Felt.zero].length) :=
  startBlockN_admitted (show startBlockN 0 [Felt.zero] (.number 5) = .ok 5 from rfl)

/-- Where the subscription is. `cursor` is the receiver `rx`: the next broadcast it
delivers is block `cursor`. -/
inductive Phase
  | accepting
  | resolved (blockN : Nat)
  | catchUp (n blockN cursor : Nat)
  | live (blockN cursor : Nat)
  | closed
  deriving DecidableEq

structure World where
  /-- The hashes of the stored blocks, block `n` at index `n`. -/
  blocks : List Felt
  /-- Blocks `0 .. announced - 1` have been broadcast. -/
  announced : Nat
  phase : Phase
  /-- The `block_n` the subscription was admitted at. -/
  start : Nat
  /-- The block numbers of the headers sent on the sink, in order. -/
  sent : List Nat

variable (blockPastLimit : Nat) (blockId : BlockId)

inductive Step : World → World → Prop
  /-- `block_n` resolved from the requested block id. -/
  | accept {w s} : w.phase = .accepting → startBlockN blockPastLimit w.blocks blockId = .ok s →
      Step w { w with phase := .resolved s, start := s }
  /-- `let mut rx = self.backend.subscribe_block_info()`. -/
  | subscribe {w blockN} : w.phase = .resolved blockN →
      Step w { w with phase := .catchUp blockN blockN w.announced }
  /-- An iteration of `for n in block_n..` that finds block `n` and sends its header. -/
  | catchUpSend {w n blockN cursor} : w.phase = .catchUp n blockN cursor → n < w.blocks.length →
      Step w { w with phase := .catchUp (n + 1) (blockN + 1) cursor, sent := w.sent ++ [n] }
  /-- `Ok(None) => break`. -/
  | catchUpBreak {w n blockN cursor} : w.phase = .catchUp n blockN cursor →
      w.blocks.length ≤ n → Step w { w with phase := .live blockN cursor }
  /-- `rx.recv()` yields block `cursor`; its header is sent when it is block `block_n`,
  and `block_n` advances either way. -/
  | recv {w blockN cursor} : w.phase = .live blockN cursor → cursor < w.announced →
      Step w { w with phase := .live (blockN + 1) (cursor + 1),
                      sent := if cursor = blockN then w.sent ++ [cursor] else w.sent }
  /-- Any early return. -/
  | close {w} : w.phase ≠ .closed → Step w { w with phase := .closed }
  /-- The backend stores the next block. -/
  | store {w} (blockHash : Felt) : Step w { w with blocks := w.blocks ++ [blockHash] }
  /-- The backend broadcasts the oldest stored block not yet broadcast. -/
  | broadcast {w} : w.announced < w.blocks.length → Step w { w with announced := w.announced + 1 }

/-- The worlds a subscription to `blockId` reaches from its request, over any chain and
any interleaving with the backend. -/
inductive Reachable : World → Prop
  | request (blocks : List Felt) (announced : Nat) : announced ≤ blocks.length →
      Reachable ⟨blocks, announced, .accepting, 0, []⟩
  | step {w w'} : Reachable w → Step blockPastLimit blockId w w' → Reachable w'

end Madara.Rpc
