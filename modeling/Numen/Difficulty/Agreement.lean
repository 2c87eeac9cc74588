import Numen.Difficulty.Pallet
import Numen.Foundation.Scale

/-!
# Import and runtime agree on difficulty

Block import asks the runtime, in the state of the parent, which difficulty the
seal has to meet; executing the block stores a difficulty of its own.  The two
computations are written separately and have to give the same number, or chain
weight and stored difficulty would drift apart.
-/

namespace Numen
namespace Difficulty

open Foundation

/-- What keeps both computations away from a division by zero and from the
early returns only one of them has. -/
structure Sound (s : State) : Prop where
  anchorTarget : 1 ≤ s.anchorTarget
  currentDifficulty : 1 ≤ s.currentDifficulty
  anchorHeight : s.anchorHeight ≤ s.blockNumber

theorem heightToU64_le (blockNumber : Nat) :
    heightToU64 blockNumber ≤ blockNumber := by
  unfold heightToU64
  split <;> lia

theorem heightToU64_of_le {blockNumber : Nat} (h : blockNumber ≤ u64Max) :
    heightToU64 blockNumber = blockNumber :=
  if_pos h

theorem one_le_div {target : Nat} (hpos : 1 ≤ target)
    (hle : target ≤ u256Max) : 1 ≤ u256Max / target :=
  (Nat.one_le_div_iff hpos).mpr hle

theorem build_sound {initialDifficulty : Fin (2 ^ 256)} {g : State}
    (h : build initialDifficulty = Except.ok g) : Sound g := by
  unfold build at h
  split at h
  · cases h
  · rename_i hne
    have hpos : 1 ≤ initialDifficulty.val := Nat.one_le_iff_ne_zero.mpr hne
    cases h
    exact ⟨one_le_div hpos (Nat.le_pred_of_lt initialDifficulty.isLt), hpos,
      Nat.le_refl 0⟩

theorem executeBlock_sound {cfg : Config} {s t : State} {now : UInt64}
    (hs : Sound s) (h : executeBlock cfg s now = Except.ok t) : Sound t := by
  have hheight := heightToU64_le (s.blockNumber + 1)
  have hanchor := Nat.le_succ_of_le hs.anchorHeight
  cases executeBlock_cases h with
  | anchored hfirst hnow =>
      exact ⟨hs.anchorTarget, hs.currentDifficulty, hheight⟩
  | skipped hskip =>
      exact ⟨hs.anchorTarget, hs.currentDifficulty, hanchor⟩
  | adjusted target hadjusts hgap =>
      have hrange := computeNextTarget_range hadjusts.computed
      exact ⟨hs.anchorTarget, one_le_div hrange.left hrange.right, hanchor⟩
  | recovered target hadjusts hgap =>
      have hrange := computeNextTarget_range hadjusts.computed
      exact ⟨hrange.left, one_le_div hrange.left hrange.right, hheight⟩

theorem nextBlock_sound {cfg : Config} {s : State} {now : UInt64}
    (hextends : Extends cfg s now) (hs : Sound s) :
    Sound (nextBlock cfg s now) := by
  rcases hextends with ⟨_, t, hexecuted⟩
  unfold nextBlock
  rw [hexecuted]
  exact executeBlock_sound hs hexecuted

theorem ReachedBy.sound {cfg : Config} {initialDifficulty : Fin (2 ^ 256)}
    {timestamps : List UInt64} {s : State}
    (h : ReachedBy cfg initialDifficulty timestamps s) : Sound s := by
  rcases h with ⟨g, hbuild, hrun⟩
  exact hrun.preserves Sound (fun _ _ => nextBlock_sound) (build_sound hbuild)

theorem nextHeight_eq {blockNumber : Nat} (h : blockNumber < u64Max) :
    satAdd u64Max (heightToU64 blockNumber) 1 =
      heightToU64 (blockNumber + 1) := by
  rw [heightToU64_of_le (Nat.le_of_lt h), heightToU64_of_le h,
    satAdd_eq_add h]

/-- Once the chain is anchored, executing the next block and asking for its
difficulty beforehand run the same computation, failures included. -/
theorem executeBlock_currentDifficulty (cfg : Config) {s : State}
    (hs : Sound s) (hanchored : s.anchorTimestamp ≠ 0)
    (hfits : s.blockNumber < cfg.maxBlock) (now : UInt64) :
    (executeBlock cfg s now).map State.currentDifficulty =
      realtimeDifficulty cfg s (now.toNat / 1000) := by
  have hlt : s.blockNumber < u64Max := Nat.lt_of_lt_of_le hfits cfg.maxBlock_le
  have hfirst : ¬ (s.anchorTimestamp = 0 ∧ 0 < now.toNat / 1000) := by
    rintro ⟨hzero, _⟩
    exact hanchored hzero
  have hheight : ¬ heightToU64 (s.blockNumber + 1) ≤ s.anchorHeight := by
    have := hs.anchorHeight
    rw [heightToU64_of_le hlt]
    lia
  have htarget : s.anchorTarget ≠ 0 := Nat.one_le_iff_ne_zero.mp hs.anchorTarget
  unfold executeBlock onFinalize realtimeDifficulty
  dsimp only
  rw [if_neg hfirst, if_neg hheight, if_neg htarget, nextHeight_eq hlt]
  cases computeNextTarget s.anchorTarget
      ((now.toNat / 1000 : Nat) - s.anchorTimestamp)
      (heightToU64 (s.blockNumber + 1) - s.anchorHeight)
      cfg.targetBlockTime cfg.halflife with
  | error panic => rfl
  | ok target =>
      rw [except_ok_bind, except_ok_bind]
      cases divide u256Max target with
      | error panic => rfl
      | ok difficulty =>
          rw [except_ok_bind]
          -- re-anchoring rewrites the anchor but not the difficulty
          split <;> rfl

theorem realtimeDifficulty_ok (cfg : Config) (hhalflife : cfg.halflife ≠ 0)
    (s : State) (blockTimestampSecs : Nat) :
    exists difficulty,
      realtimeDifficulty cfg s blockTimestampSecs = Except.ok difficulty := by
  unfold realtimeDifficulty
  dsimp only
  rcases computeNextTarget_ok s.anchorTarget
      (blockTimestampSecs - s.anchorTimestamp)
      (satAdd u64Max (heightToU64 s.blockNumber) 1 - s.anchorHeight)
      cfg.targetBlockTime hhalflife with ⟨target, htarget⟩
  rw [htarget, except_ok_bind,
    divide_of_pos u256Max (computeNextTarget_range htarget).left]
  exact ⟨_, rfl⟩

theorem executeBlock_ok {cfg : Config} (hhalflife : cfg.halflife ≠ 0)
    {s : State} (hs : Sound s) (hanchored : s.anchorTimestamp ≠ 0)
    (hfits : s.blockNumber < cfg.maxBlock) (now : UInt64) :
    exists t, executeBlock cfg s now = Except.ok t := by
  have hagree := executeBlock_currentDifficulty cfg hs hanchored hfits now
  rcases realtimeDifficulty_ok cfg hhalflife s (now.toNat / 1000) with
    ⟨difficulty, hdifficulty⟩
  rw [hdifficulty] at hagree
  cases hexecuted : executeBlock cfg s now with
  | error panic =>
      rw [hexecuted] at hagree
      cases hagree
  | ok t => exact ⟨t, rfl⟩

/-- In every state a chain reaches, the anchor target and the difficulty are
positive and the anchor is not ahead of the chain.  Once the chain is anchored,
the difficulty import demands of the next block is the one the block stores,
and neither computation fails as long as the halflife is not zero. -/
theorem import_and_runtime_agree_on_difficulty
    (decode : List UInt8 -> Option RuntimeCall) {cfg : Config}
    {initialDifficulty : Fin (2 ^ 256)} {timestamps : List UInt64} {s : State}
    (hs : ReachedBy cfg initialDifficulty timestamps s) :
    (1 ≤ s.anchorTarget ∧ 1 ≤ s.currentDifficulty ∧
      s.anchorHeight ≤ s.blockNumber) ∧
    (s.anchorTimestamp ≠ 0 -> s.blockNumber < cfg.maxBlock ->
      forall inherent nowMs,
        timestampFromInherent decode inherent = some nowMs ->
        difficultyForBlock decode cfg s inherent =
            (executeBlock cfg s nowMs).map
              (fun t => some t.currentDifficulty) ∧
          (cfg.halflife ≠ 0 ->
            exists t, executeBlock cfg s nowMs = Except.ok t)) := by
  have hsound := hs.sound
  refine ⟨⟨hsound.anchorTarget, hsound.currentDifficulty,
    hsound.anchorHeight⟩, ?_⟩
  intro hanchored hfits inherent nowMs hinherent
  have hagree :=
    executeBlock_currentDifficulty cfg hsound hanchored hfits nowMs
  constructor
  · unfold difficultyForBlock
    rw [hinherent]
    dsimp only
    rw [← hagree]
    cases executeBlock cfg s nowMs with
    | error panic => rfl
    | ok t => rfl
  · intro hhalflife
    exact executeBlock_ok hhalflife hsound hanchored hfits nowMs

/-- The constants of the production runtime. -/
def mainnet : Config :=
  { targetBlockTime := 10
    halflife := 1800
    breakThresholdSecs := 1800
    maxBlock := 2 ^ 32 - 1
    maxBlock_le := by decide }

/-- How a bare extrinsic that sets a time of six bytes begins: with its length,
the version of the format, pallet 1, call 0 and the width of the time. -/
def bareHead : List UInt8 :=
  [0x28, 0x05, 0x01, 0x00, 0x0b]

def bareTimestamp (nowMs : UInt64) : List UInt8 :=
  bareHead ++ Codec.leBytes 6 nowMs.toNat

def decodeBareTimestamp (encoded : List UInt8) : Option RuntimeCall :=
  if encoded.take bareHead.length = bareHead then
    match Codec.readLe 6 (encoded.drop bareHead.length) with
    | some (now, []) => some (RuntimeCall.timestampSet (UInt64.ofNat now))
    | _ => none
  else none

theorem timestampFromInherent_bareTimestamp {nowMs : UInt64}
    (h : nowMs.toNat < 256 ^ 6) :
    timestampFromInherent decodeBareTimestamp (bareTimestamp nowMs) =
      some nowMs := by
  have hread : Codec.readLe 6 (Codec.leBytes 6 nowMs.toNat) =
      some (nowMs.toNat, []) := by
    refine (Codec.readLe_iff 6 _ _ _).mpr ⟨h, ?_⟩
    rw [List.append_nil]
  unfold timestampFromInherent decodeBareTimestamp bareTimestamp
  rw [List.take_left, if_pos rfl, List.drop_left, hread]
  dsimp only
  rw [UInt64.ofNat_toNat]

/-- Genesis difficulty 1000, anchored by block 1 at second 1700000000. -/
def anchoredAtBlockOne : State :=
  { blockNumber := 1
    now := 1700000000000
    currentDifficulty := 1000
    anchorTarget := u256Max / 1000
    anchorTimestamp := 1700000000
    anchorHeight := 1
    lastBlockTimestamp := 1700000000 }

theorem reachedBy_anchoredAtBlockOne :
    ReachedBy mainnet 1000 [1700000000000] anchoredAtBlockOne := by
  have hexecuted : executeBlock mainnet
      { anchoredAtBlockOne with
        blockNumber := 0, now := 0, anchorTimestamp := 0, anchorHeight := 0,
        lastBlockTimestamp := 0 } 1700000000000 =
      Except.ok anchoredAtBlockOne := by rfl
  exact ⟨_, rfl, Run.single ⟨by decide, _, hexecuted⟩⟩

/-- A second block one hour late is demanded and stored at a quarter of the
difficulty, and re-anchors the chain. -/
theorem late_second_block_agrees :
    difficultyForBlock decodeBareTimestamp mainnet anchoredAtBlockOne
        (bareTimestamp 1700003610000) = Except.ok (some 250) ∧
      exists t, executeBlock mainnet anchoredAtBlockOne 1700003610000 =
        Except.ok t := by
  have hagree := (import_and_runtime_agree_on_difficulty decodeBareTimestamp
    reachedBy_anchoredAtBlockOne).right
    (by decide) (by decide) _ 1700003610000
    (timestampFromInherent_bareTimestamp (by decide))
  exact ⟨hagree.left.trans (by rfl), hagree.right (by decide)⟩

end Difficulty
end Numen
