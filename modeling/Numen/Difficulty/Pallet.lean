import Numen.Difficulty.Asert
import Numen.Foundation.Runs

/-!
# The difficulty pallet

Storage, genesis and block hook of `pallet-difficulty`, and the two places that
recompute a difficulty outside of it: `realtime_difficulty` and the runtime API
`difficulty_for_block` that block import calls.
-/

namespace Numen
namespace Difficulty

open Foundation

/-- The constants of the pallet.  `maxBlock` is the largest value of the block
number type, which is no wider than 64 bits. -/
structure Config where
  targetBlockTime : Nat
  halflife : Nat
  breakThresholdSecs : Nat
  maxBlock : Nat
  maxBlock_le : maxBlock ≤ u64Max

/-- The storage of the pallet, the block number and the timestamp pallet's
current time in milliseconds. -/
structure State where
  blockNumber : Nat
  now : UInt64
  currentDifficulty : Nat
  anchorTarget : Nat
  anchorTimestamp : Nat
  anchorHeight : Nat
  lastBlockTimestamp : Nat
deriving DecidableEq, Repr

/-- `GenesisConfig::build`. -/
def build (initialDifficulty : Fin (2 ^ 256)) : Except Panic State :=
  if initialDifficulty.val = 0 then
    Except.error (Panic.assertion "initial_difficulty must be non-zero")
  else
    Except.ok
      { blockNumber := 0
        now := 0
        currentDifficulty := initialDifficulty.val
        anchorTarget := u256Max / initialDifficulty.val
        anchorTimestamp := 0
        anchorHeight := 0
        lastBlockTimestamp := 0 }

/-- `try_into().unwrap_or(u64::MAX)`. -/
def heightToU64 (blockNumber : Nat) : Nat :=
  if blockNumber ≤ u64Max then blockNumber else u64Max

def reanchor (s : State) (target nowSecs height : Nat) : State :=
  { s with
    anchorTarget := target
    anchorTimestamp := nowSecs
    anchorHeight := height }

/-- `on_finalize`. -/
def onFinalize (cfg : Config) (s : State) : Except Panic State :=
  let currentHeight := heightToU64 s.blockNumber
  let nowSecs := s.now.toNat / 1000
  if s.anchorTimestamp = 0 ∧ 0 < nowSecs then
    Except.ok { s with
      anchorTimestamp := nowSecs
      anchorHeight := currentHeight
      lastBlockTimestamp := nowSecs }
  else if currentHeight ≤ s.anchorHeight then
    Except.ok { s with lastBlockTimestamp := nowSecs }
  else
    let heightDelta := currentHeight - s.anchorHeight
    let timeDelta : Int := nowSecs - s.anchorTimestamp
    if s.anchorTarget = 0 then
      Except.ok { s with lastBlockTimestamp := nowSecs }
    else do
      let nextTarget <- computeNextTarget s.anchorTarget timeDelta heightDelta
        cfg.targetBlockTime cfg.halflife
      let newDifficulty <- divide u256Max nextTarget
      let blockGap := nowSecs - s.lastBlockTimestamp
      let settled := { s with currentDifficulty := newDifficulty }
      let anchored :=
        if cfg.breakThresholdSecs < blockGap then
          reanchor settled nextTarget nowSecs currentHeight
        else settled
      return { anchored with lastBlockTimestamp := nowSecs }

/-- `realtime_difficulty`: what the block after the current one has to meet. -/
def realtimeDifficulty (cfg : Config) (s : State) (blockTimestampSecs : Nat) :
    Except Panic Nat := do
  let currentHeight := heightToU64 s.blockNumber
  let nextHeight := satAdd u64Max currentHeight 1
  let heightDelta := nextHeight - s.anchorHeight
  let timeDelta : Int := blockTimestampSecs - s.anchorTimestamp
  let nextTarget <- computeNextTarget s.anchorTarget timeDelta heightDelta
    cfg.targetBlockTime cfg.halflife
  divide u256Max nextTarget

/-!
## The runtime API

An extrinsic is decoded by code of another crate, which enters as `decode`.
-/

/-- The calls of an extrinsic, as far as the API tells them apart. -/
inductive RuntimeCall where
  | timestampSet (now : UInt64)
  | other
deriving DecidableEq, Repr

/-- The timestamp in an encoded timestamp inherent, in milliseconds. -/
def timestampFromInherent (decode : List UInt8 -> Option RuntimeCall)
    (encoded : List UInt8) : Option UInt64 :=
  match decode encoded with
  | some (RuntimeCall.timestampSet now) => some now
  | some RuntimeCall.other => none
  | none => none

/-- `difficulty_for_block`.  `none` is a malformed inherent. -/
def difficultyForBlock (decode : List UInt8 -> Option RuntimeCall)
    (cfg : Config) (s : State) (timestampInherent : List UInt8) :
    Except Panic (Option Nat) :=
  match timestampFromInherent decode timestampInherent with
  | none => Except.ok none
  | some nowMs =>
      (realtimeDifficulty cfg s (nowMs.toNat / 1000)).map some

/-!
## Blocks
-/

/-- Execute the next block with timestamp `now`: the timestamp inherent stores
the time, and the hook runs at the end. -/
def executeBlock (cfg : Config) (s : State) (now : UInt64) :
    Except Panic State :=
  onFinalize cfg { s with blockNumber := s.blockNumber + 1, now := now }

/-- Only blocks that execute and fit the block number type extend a chain. -/
def Extends (cfg : Config) (s : State) (now : UInt64) : Prop :=
  s.blockNumber < cfg.maxBlock ∧ exists t, executeBlock cfg s now = Except.ok t

def nextBlock (cfg : Config) (s : State) (now : UInt64) : State :=
  match executeBlock cfg s now with
  | Except.ok t => t
  | Except.error _ => s

/-- Executing blocks with the given timestamps from genesis leads to `s`. -/
def ReachedBy (cfg : Config) (initialDifficulty : Fin (2 ^ 256))
    (timestamps : List UInt64) (s : State) : Prop :=
  exists g, build initialDifficulty = Except.ok g ∧
    Run (Extends cfg) (nextBlock cfg) g timestamps s

/-!
## What a block can do
-/

/-- The block after `s` gets past every early return of `on_finalize` and
computes `target`. -/
structure Adjusts (cfg : Config) (s : State) (now : UInt64) (target : Nat) :
    Prop where
  anchored : ¬ (s.anchorTimestamp = 0 ∧ 0 < now.toNat / 1000)
  height : s.anchorHeight < heightToU64 (s.blockNumber + 1)
  anchorTarget : s.anchorTarget ≠ 0
  computed : computeNextTarget s.anchorTarget
      ((now.toNat / 1000 : Nat) - s.anchorTimestamp)
      (heightToU64 (s.blockNumber + 1) - s.anchorHeight)
      cfg.targetBlockTime cfg.halflife = Except.ok target

inductive BlockCase (cfg : Config) (s : State) (now : UInt64) :
    State -> Prop where
  | anchored : s.anchorTimestamp = 0 -> 0 < now.toNat / 1000 ->
      BlockCase cfg s now
        { s with
          blockNumber := s.blockNumber + 1
          now := now
          anchorTimestamp := now.toNat / 1000
          anchorHeight := heightToU64 (s.blockNumber + 1)
          lastBlockTimestamp := now.toNat / 1000 }
  | skipped :
      heightToU64 (s.blockNumber + 1) ≤ s.anchorHeight ∨ s.anchorTarget = 0 ->
      BlockCase cfg s now
        { s with
          blockNumber := s.blockNumber + 1
          now := now
          lastBlockTimestamp := now.toNat / 1000 }
  | adjusted (target : Nat) : Adjusts cfg s now target ->
      now.toNat / 1000 - s.lastBlockTimestamp ≤ cfg.breakThresholdSecs ->
      BlockCase cfg s now
        { s with
          blockNumber := s.blockNumber + 1
          now := now
          currentDifficulty := u256Max / target
          lastBlockTimestamp := now.toNat / 1000 }
  | recovered (target : Nat) : Adjusts cfg s now target ->
      cfg.breakThresholdSecs < now.toNat / 1000 - s.lastBlockTimestamp ->
      BlockCase cfg s now
        { blockNumber := s.blockNumber + 1
          now := now
          currentDifficulty := u256Max / target
          anchorTarget := target
          anchorTimestamp := now.toNat / 1000
          anchorHeight := heightToU64 (s.blockNumber + 1)
          lastBlockTimestamp := now.toNat / 1000 }

theorem executeBlock_cases {cfg : Config} {s t : State} {now : UInt64}
    (h : executeBlock cfg s now = Except.ok t) : BlockCase cfg s now t := by
  unfold executeBlock onFinalize at h
  dsimp only at h
  split at h
  · rename_i hfirst
    cases h
    exact BlockCase.anchored hfirst.left hfirst.right
  · rename_i hfirst
    split at h
    · rename_i hheight
      cases h
      exact BlockCase.skipped (Or.inl hheight)
    · rename_i hheight
      split at h
      · rename_i hzero
        cases h
        exact BlockCase.skipped (Or.inr hzero)
      · rename_i hzero
        rcases except_bind_eq_ok h with ⟨target, htarget, hrest⟩
        have hpos := (computeNextTarget_range htarget).left
        have hadjusts : Adjusts cfg s now target :=
          ⟨hfirst, Nat.not_le.mp hheight, hzero, htarget⟩
        rw [divide_of_pos u256Max hpos] at hrest
        cases hrest
        by_cases hgap : cfg.breakThresholdSecs <
            now.toNat / 1000 - s.lastBlockTimestamp
        · rw [if_pos hgap]
          exact BlockCase.recovered target hadjusts hgap
        · rw [if_neg hgap]
          exact BlockCase.adjusted target hadjusts (Nat.not_lt.mp hgap)

end Difficulty
end Numen
