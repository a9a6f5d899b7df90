import Madara.Rpc.NewHeads
import Mathlib.Logic.Relation

/-! Runs of the new-heads subscription. On every run the headers sent are the
consecutive blocks from the start, each once. The live loop is either in step with
the receiver, when it sends every broadcast block, or behind it for good: `block_n`
advances on every received block, so once a received block differs from `block_n`
every later one does, and nothing is sent again; once in step, it stays in step until
it closes. Whether it starts in step is decided while the catch-up loop reads: a start
two or more blocks past the head, or a block the loop sends after `rx` subscribed,
puts it behind. -/
namespace Madara.Rpc

/-- The headers sent so far are blocks `start .. blockN - 1`. -/
def SentUpTo (w : World) (blockN : Nat) : Prop :=
  w.start ≤ blockN ∧ w.sent = List.range' w.start (blockN - w.start)

def Consecutive (w : World) : Prop := ∃ m, w.sent = List.range' w.start m

/-- What each phase keeps of the headers sent and of the receiver. -/
def PhaseInv (w : World) : Phase → Prop
  | .accepting => w.sent = []
  | .resolved blockN => blockN = w.start ∧ w.sent = []
  | .catchUp n blockN cursor => n = blockN ∧ cursor ≤ w.announced ∧ SentUpTo w blockN
  | .live blockN cursor => cursor ≤ w.announced ∧
      (cursor = blockN ∧ SentUpTo w blockN ∨ cursor < blockN ∧ Consecutive w)
  | .closed => Consecutive w

structure Inv (w : World) : Prop where
  announced_le : w.announced ≤ w.blocks.length
  phase : PhaseInv w w.phase

theorem SentUpTo.consecutive {w : World} {blockN : Nat} (sent : SentUpTo w blockN) :
    Consecutive w := ⟨_, sent.2⟩

theorem SentUpTo.snoc {w w' : World} {blockN : Nat} (sent : SentUpTo w blockN)
    (start : w'.start = w.start) (appended : w'.sent = w.sent ++ [blockN]) :
    SentUpTo w' (blockN + 1) := by
  obtain ⟨below, sent⟩ := sent
  refine ⟨by omega, ?_⟩
  rw [appended, sent, start, show blockN + 1 - w.start = blockN - w.start + 1 by omega,
    List.range'_concat, one_mul, Nat.add_sub_cancel' below]

theorem PhaseInv.consecutive {w : World} : ∀ {phase}, PhaseInv w phase → Consecutive w
  | .accepting, sent => ⟨0, sent⟩
  | .resolved _, ⟨_, sent⟩ => ⟨0, sent⟩
  | .catchUp .., ⟨_, _, sent⟩ => sent.consecutive
  | .live .., ⟨_, .inl ⟨_, sent⟩⟩ => sent.consecutive
  | .live .., ⟨_, .inr ⟨_, sent⟩⟩ => sent
  | .closed, sent => sent

theorem PhaseInv.broadcast {w : World} :
    ∀ {phase}, PhaseInv w phase → PhaseInv { w with announced := w.announced + 1 } phase
  | .accepting, inv | .resolved _, inv | .closed, inv => inv
  | .catchUp .., ⟨same, cursor, sent⟩ => ⟨same, by simp only; omega, sent⟩
  | .live .., ⟨cursor, sync⟩ => ⟨by simp only; omega, sync⟩

theorem initial_inv {blocks : List Felt} {announced : Nat} (bound : announced ≤ blocks.length) :
    Inv ⟨blocks, announced, .accepting, 0, []⟩ := ⟨bound, rfl⟩

variable {blockPastLimit : Nat} {blockId : BlockId}

theorem Inv.step {w w' : World} (inv : Inv w) (stepped : Step blockPastLimit blockId w w') :
    Inv w' := by
  obtain ⟨bound, phase⟩ := inv
  cases stepped with
  | accept accepting _ =>
    rw [accepting] at phase
    exact ⟨bound, rfl, phase⟩
  | subscribe resolved =>
    rw [resolved] at phase
    obtain ⟨rfl, sent⟩ := phase
    exact ⟨bound, rfl, le_refl _, le_refl _, by simpa using sent⟩
  | catchUpSend reading _ =>
    rw [reading] at phase
    obtain ⟨rfl, cursor, sent⟩ := phase
    exact ⟨bound, rfl, cursor, sent.snoc rfl rfl⟩
  | @catchUpBreak n _ cursor reading past =>
    rw [reading] at phase
    obtain ⟨rfl, atMost, sent⟩ := phase
    refine ⟨bound, atMost, ?_⟩
    rcases (show cursor ≤ n by omega).eq_or_lt with same | behind
    · exact .inl ⟨same, sent⟩
    · exact .inr ⟨behind, sent.consecutive⟩
  | recv receiving pending =>
    rw [receiving] at phase
    obtain ⟨_, (⟨rfl, sent⟩ | ⟨behind, sent⟩)⟩ := phase
    · exact ⟨bound, by simp only; omega, .inl ⟨rfl, sent.snoc rfl (if_pos rfl)⟩⟩
    · exact ⟨bound, by simp only; omega,
        .inr ⟨by omega, by simpa only [if_neg (Nat.ne_of_lt behind)] using sent⟩⟩
  | close _ => exact ⟨bound, phase.consecutive⟩
  | store _ => exact ⟨by simp only [List.length_append]; omega, phase⟩
  | broadcast pending => exact ⟨pending, phase.broadcast⟩

theorem Reachable.inv {w : World} (reach : Reachable blockPastLimit blockId w) : Inv w := by
  induction reach with
  | request _ _ bound => exact initial_inv bound
  | step _ stepped ih => exact ih.step stepped

theorem run_invariant {P : World → Prop}
    (keeps : ∀ {w w'}, P w → Step blockPastLimit blockId w w' → P w') {w w' : World}
    (initial : P w) (run : Relation.ReflTransGen (Step blockPastLimit blockId) w w') : P w' := by
  induction run with
  | refl => exact initial
  | tail _ stepped ih => exact keeps ih stepped

/-- A subscription to the latest block of a one-block chain, resolved to block 0. -/
theorem latest_resolved : Reachable 0 (.tag .latest) ⟨[Felt.zero], 1, .resolved 0, 0, []⟩ :=
  (Reachable.request _ _ (by decide)).step (.accept rfl rfl)

/-- The same subscription after its catch-up loop sent block 0. -/
theorem latest_live : Reachable 0 (.tag .latest) ⟨[Felt.zero], 1, .live 1 1, 0, [0]⟩ :=
  ((latest_resolved.step (.subscribe rfl)).step (.catchUpSend rfl (by decide))).step
    (.catchUpBreak rfl (by decide))

theorem sent_consecutive {w : World} (reach : Reachable blockPastLimit blockId w) :
    ∃ m, w.sent = List.range' w.start m :=
  reach.inv.phase.consecutive

theorem sent_consecutive_latest : ∃ m, [0] = List.range' 0 m :=
  sent_consecutive latest_live

/-- Every header sent so far is of a stored block. -/
def SentStored (w : World) : Prop := ∀ n ∈ w.sent, n < w.blocks.length

theorem SentStored.step {w w' : World} (stored : SentStored w) (inv : Inv w)
    (stepped : Step blockPastLimit blockId w w') : SentStored w' := by
  cases stepped with
  | catchUpSend _ within =>
    intro n member
    rcases List.mem_append.mp member with old | new
    exacts [stored n old, List.mem_singleton.mp new ▸ within]
  | recv _ pending =>
    intro n member
    split at member
    · rcases List.mem_append.mp member with old | new
      exacts [stored n old, List.mem_singleton.mp new ▸ pending.trans_le inv.announced_le]
    · exact stored n member
  | store _ =>
    intro n member
    simpa only [List.length_append] using Nat.lt_add_right 1 (stored n member)
  | _ => exact stored

theorem sent_stored {w : World} (reach : Reachable blockPastLimit blockId w) :
    ∀ n ∈ w.sent, n < w.blocks.length := by
  induction reach with
  | request => nofun
  | step prev stepped ih => exact SentStored.step ih prev.inv stepped

theorem sent_stored_latest : 0 < [Felt.zero].length :=
  sent_stored latest_live 0 (List.mem_singleton_self 0)

theorem blocked_in_step_sent_all {w : World} {blockN cursor : Nat}
    (reach : Reachable blockPastLimit blockId w) (live : w.phase = .live blockN cursor)
    (inStep : cursor = blockN) (drained : cursor = w.announced)
    (noPending : w.announced = w.blocks.length) :
    w.sent = List.range' w.start (w.blocks.length - w.start) := by
  have phase := reach.inv.phase
  rw [live] at phase
  obtain ⟨_, ⟨_, _, sent⟩ | ⟨behind, _⟩⟩ := phase
  · rw [sent, ← noPending, ← drained, inStep]
  · omega

theorem blocked_in_step_sent_all_latest : [0] = List.range' 0 (1 - 0) :=
  blocked_in_step_sent_all latest_live rfl rfl rfl rfl

/-- Over, or live with the receiver behind `block_n`. -/
def Phase.Stalled : Phase → Prop
  | .live blockN cursor => cursor < blockN
  | .closed => True
  | _ => False

theorem stalled_step {w w' : World} (stalled : w.phase.Stalled)
    (stepped : Step blockPastLimit blockId w w') : w'.sent = w.sent ∧ w'.phase.Stalled := by
  cases stepped <;> simp_all [Phase.Stalled]
  omega

theorem stalled_run {w w' : World} (stalled : w.phase.Stalled)
    (run : Relation.ReflTransGen (Step blockPastLimit blockId) w w') : w'.sent = w.sent := by
  refine (@run_invariant blockPastLimit blockId (fun w' => w'.sent = w.sent ∧ w'.phase.Stalled)
    (fun kept stepped => ?_) _ _ ⟨rfl, stalled⟩ run).1
  obtain ⟨same, stalled⟩ := stalled_step kept.2 stepped
  exact ⟨same.trans kept.1, stalled⟩

/-- A step that neither stores a block nor closes the subscription. -/
def QuietStep (blockPastLimit : Nat) (blockId : BlockId) (w w' : World) : Prop :=
  Step blockPastLimit blockId w w' ∧ w'.blocks = w.blocks ∧ w'.phase ≠ .closed

/-- Where a quiet run from `resolved s` over `blocks`, all of them broadcast, can be. -/
def QuietCatchUp (blocks : List Felt) (s : Nat) (w : World) : Prop :=
  w.blocks = blocks ∧ w.announced = blocks.length ∧ w.start = s ∧ s ≤ blocks.length ∧
    match w.phase with
    | .resolved blockN => blockN = s ∧ w.sent = []
    | .catchUp n blockN cursor =>
      n = blockN ∧ cursor = blocks.length ∧ n ≤ blocks.length ∧ SentUpTo w n
    | .live blockN cursor => blockN = blocks.length ∧ cursor = blocks.length ∧ SentUpTo w blockN
    | _ => False

theorem QuietCatchUp.step {blocks : List Felt} {s : Nat} {w w' : World}
    (quiet : QuietCatchUp blocks s w) (stepped : QuietStep blockPastLimit blockId w w') :
    QuietCatchUp blocks s w' := by
  obtain ⟨stepped, kept, open_⟩ := stepped
  obtain ⟨stored, announced, start, within, phase⟩ := quiet
  cases stepped with
  | accept accepting _ => simp only [accepting] at phase
  | subscribe resolved =>
    simp only [resolved] at phase
    obtain ⟨rfl, sent⟩ := phase
    exact ⟨stored, announced, start, within, rfl, announced, within, start ▸ le_refl _,
      by simp [sent, start]⟩
  | catchUpSend reading more =>
    simp only [reading] at phase
    obtain ⟨rfl, rfl, _, sent⟩ := phase
    exact ⟨stored, announced, start, within, rfl, rfl, stored ▸ more, sent.snoc rfl rfl⟩
  | catchUpBreak reading past =>
    simp only [reading] at phase
    obtain ⟨rfl, rfl, atMost, sent⟩ := phase
    have head : _ = blocks.length := le_antisymm atMost (stored ▸ past)
    exact ⟨stored, announced, start, within, head, rfl, head ▸ sent⟩
  | recv receiving pending =>
    simp only [receiving] at phase
    omega
  | close _ => exact absurd rfl open_
  | store _ => simpa using congrArg List.length kept
  | broadcast pending => rw [stored] at pending; omega

theorem QuietCatchUp.run {blocks : List Felt} {s : Nat} {w w' : World}
    (quiet : QuietCatchUp blocks s w)
    (run : Relation.ReflTransGen (QuietStep blockPastLimit blockId) w w') :
    QuietCatchUp blocks s w' := by
  induction run with
  | refl => exact quiet
  | tail _ stepped ih => exact ih.step stepped

/-- The catch-up loop has read past the block the receiver delivers next, the live loop
is behind its receiver, or the subscription is over. -/
def Phase.PastCursor : Phase → Prop
  | .catchUp _ blockN cursor => cursor < blockN
  | .live blockN cursor => cursor < blockN
  | .closed => True
  | _ => False

theorem pastCursor_step {w w' : World} (past : w.phase.PastCursor)
    (stepped : Step blockPastLimit blockId w w') : w'.phase.PastCursor := by
  cases stepped <;> simp_all [Phase.PastCursor]
  omega

theorem pastCursor_run {w w' : World} (past : w.phase.PastCursor)
    (run : Relation.ReflTransGen (Step blockPastLimit blockId) w w') : w'.phase.PastCursor :=
  run_invariant pastCursor_step past run

theorem catchUp_past_cursor_live_behind {w w' : World} {n blockN cursor : Nat}
    (reading : w.phase = .catchUp n blockN cursor) (past : cursor < blockN)
    (run : Relation.ReflTransGen (Step blockPastLimit blockId) w w') {blockN' cursor' : Nat}
    (live : w'.phase = .live blockN' cursor') : cursor' < blockN' := by
  have later := pastCursor_run (by rwa [reading]) run
  rwa [live] at later

/-- A subscription from block 2 over a chain holding only block 0, once `rx` has
subscribed: the catch-up loop starts past the receiver's cursor. -/
theorem future_start_subscribed (blockPastLimit : Nat) :
    Reachable blockPastLimit (.number 2) ⟨[Felt.zero], 1, .catchUp 2 2 1, 2, []⟩ :=
  have admitted : startBlockN blockPastLimit [Felt.zero] (.number 2) = .ok 2 := by
    simp [startBlockN, latestBlockN, checkPastLimit]
  ((Reachable.request _ _ (by decide)).step (.accept rfl admitted)).step (.subscribe rfl)

theorem catchUp_past_cursor_live_behind_future : 1 < 2 :=
  catchUp_past_cursor_live_behind (show World.phase ⟨[Felt.zero], 1, .catchUp 2 2 1, 2, []⟩ = _
    from rfl) (by decide) (.single (@Step.catchUpBreak 0 (.number 2) _ _ _ _ rfl (by decide))) rfl

/-- The cursor is where `rx` stood when it subscribed. The catch-up loop is past it exactly
when the start lies beyond it, or when the loop has sent a block broadcast after that: one
stored during the catch-up, or one whose broadcast was still pending. -/
theorem catchUp_past_cursor_iff {w : World} {n blockN cursor : Nat}
    (reach : Reachable blockPastLimit blockId w) (reading : w.phase = .catchUp n blockN cursor) :
    cursor < blockN ↔ cursor < w.start ∨ ∃ m ∈ w.sent, cursor ≤ m := by
  have phase := reach.inv.phase
  rw [reading] at phase
  obtain ⟨-, -, below, sent⟩ := phase
  simp only [sent, List.mem_range'_1]
  constructor
  · intro past
    rcases Nat.lt_or_ge cursor w.start with early | late
    · exact .inl early
    · exact .inr ⟨cursor, ⟨late, by omega⟩, le_refl _⟩
  · rintro (early | ⟨m, ⟨_, sentBelow⟩, atMost⟩) <;> omega

/-- A subscription to block 0 of a one-block chain: the catch-up loop sent block 0, then
block 1, stored after `rx` subscribed. -/
theorem stored_during_catchUp :
    Reachable 0 (.number 0) ⟨[Felt.zero, Felt.zero], 1, .catchUp 2 2 1, 0, [0, 1]⟩ :=
  have admitted : startBlockN 0 [Felt.zero] (.number 0) = .ok 0 := by
    simp [startBlockN, latestBlockN, checkPastLimit]
  have first : Reachable 0 (.number 0) ⟨[Felt.zero], 1, .catchUp 1 1 1, 0, [0]⟩ :=
    (((Reachable.request _ _ (by decide)).step (.accept rfl admitted)).step (.subscribe rfl)).step
      (.catchUpSend rfl (by decide))
  (first.step (.store Felt.zero)).step (.catchUpSend rfl (by decide))

theorem catchUp_past_cursor_iff_stored : 1 < 2 ↔ 1 < 0 ∨ ∃ m ∈ [0, 1], 1 ≤ m :=
  catchUp_past_cursor_iff stored_during_catchUp rfl

/-- The same subscription after blocks 1 and 2 are stored and broadcast and the live loop
has received both. -/
theorem future_start_run (blockPastLimit : Nat) :
    Reachable blockPastLimit (.number 2) ⟨[Felt.zero, Felt.zero, Felt.zero], 3, .live 4 3, 2, []⟩ :=
  have caughtUp : Reachable blockPastLimit (.number 2) ⟨[Felt.zero], 1, .live 2 1, 2, []⟩ :=
    (future_start_subscribed blockPastLimit).step (.catchUpBreak rfl (by decide))
  have first : Reachable blockPastLimit (.number 2) ⟨[Felt.zero, Felt.zero], 2, .live 3 2, 2, []⟩ :=
    ((caughtUp.step (.store Felt.zero)).step (.broadcast (by decide))).step (.recv rfl (by decide))
  ((first.step (.store Felt.zero)).step (.broadcast (by decide))).step (.recv rfl (by decide))

theorem out_of_step_never_sends {w w' : World} {blockN cursor : Nat}
    (reach : Reachable blockPastLimit blockId w) (live : w.phase = .live blockN cursor)
    (outOfStep : cursor ≠ blockN) (run : Relation.ReflTransGen (Step blockPastLimit blockId) w w') :
    w'.sent = w.sent := by
  have phase := reach.inv.phase
  rw [live] at phase
  refine stalled_run ?_ run
  rw [live]
  exact phase.2.elim (fun inStep => absurd inStep.1 outOfStep) (fun behind => behind.1)

theorem out_of_step_never_sends_future :
    World.sent ⟨[Felt.zero, Felt.zero, Felt.zero, Felt.zero], 3, .live 4 3, 2, []⟩ =
      World.sent ⟨[Felt.zero, Felt.zero, Felt.zero], 3, .live 4 3, 2, []⟩ :=
  out_of_step_never_sends (future_start_run 0) rfl (by decide) (.single (.store Felt.zero))

/-- Live and in step with the receiver, every block before `block_n` sent; or over. -/
def InStep (w : World) : Prop :=
  w.phase = .closed ∨ ∃ blockN, w.phase = .live blockN blockN ∧ SentUpTo w blockN

theorem inStep_step {w w' : World} (inStep : InStep w)
    (stepped : Step blockPastLimit blockId w w') : InStep w' := by
  cases stepped with
  | recv receiving _ =>
    obtain closed | ⟨blockN, live, sent⟩ := inStep
    · rw [receiving] at closed; cases closed
    · rw [receiving] at live
      obtain ⟨rfl, rfl⟩ := Phase.live.inj live
      exact .inr ⟨_, rfl, sent.snoc rfl (if_pos rfl)⟩
  | close _ => exact .inl rfl
  | store _ => exact inStep
  | broadcast _ => exact inStep
  | accept other _ | subscribe other | catchUpSend other _ | catchUpBreak other _ =>
    obtain closed | ⟨_, live, _⟩ := inStep <;> simp_all

theorem in_step_stays_in_step {w w' : World} {blockN : Nat}
    (reach : Reachable blockPastLimit blockId w) (live : w.phase = .live blockN blockN)
    (run : Relation.ReflTransGen (Step blockPastLimit blockId) w w') :
    w'.phase = .closed ∨ ∃ blockN', w'.phase = .live blockN' blockN' ∧
      w'.sent = List.range' w'.start (blockN' - w'.start) := by
  have phase := reach.inv.phase
  rw [live] at phase
  have sent : SentUpTo w blockN :=
    phase.2.elim (·.2) fun behind => absurd behind.1 (lt_irrefl _)
  obtain closed | ⟨blockN', live', sent'⟩ :=
    run_invariant inStep_step (.inr ⟨blockN, live, sent⟩) run
  · exact .inl closed
  · exact .inr ⟨blockN', live', sent'.2⟩

theorem in_step_stays_in_step_latest :
    World.phase ⟨[Felt.zero, Felt.zero], 1, .live 1 1, 0, [0]⟩ = .closed ∨
      ∃ blockN', World.phase ⟨[Felt.zero, Felt.zero], 1, .live 1 1, 0, [0]⟩ =
          .live blockN' blockN' ∧
        World.sent ⟨[Felt.zero, Felt.zero], 1, .live 1 1, 0, [0]⟩ =
          List.range' 0 (blockN' - 0) :=
  in_step_stays_in_step latest_live rfl (.single (.store Felt.zero))

/-- A subscription from block 2 over a chain holding only block 0: blocks 1 and 2 are
stored and broadcast, the live loop skips both, and sits in `rx.recv()` with nothing
pending, the head at block 2, no header sent, and none sent in any continuation. -/
theorem future_start_never_sent (blockPastLimit : Nat) :
    ∃ w, Reachable blockPastLimit (.number 2) w ∧ w.start = 2 ∧ w.blocks.length = 3 ∧
      (∃ blockN, w.phase = .live blockN w.announced) ∧ w.announced = w.blocks.length ∧
      w.sent = [] ∧
      ∀ w', Relation.ReflTransGen (Step blockPastLimit (.number 2)) w w' → w'.sent = [] := by
  refine ⟨_, future_start_run blockPastLimit, rfl, rfl, ⟨4, rfl⟩, rfl, rfl, fun _ later => ?_⟩
  refine stalled_run ?_ later
  exact show 3 < 4 by decide

end Madara.Rpc
