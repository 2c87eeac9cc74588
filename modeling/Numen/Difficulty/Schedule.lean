import Numen.Difficulty.Agreement

/-!
# Difficulty is scheduled absolutely

Between interruptions the difficulty of a block is a function of the anchor, of
the block's height and of its timestamp.  Which blocks came in between, and how
they were spaced, makes no difference.
-/

namespace Numen
namespace Difficulty

open Foundation

variable {cfg : Config}

/-!
## Blocks of an anchored chain
-/

structure Anchored (s : State) : Prop where
  sound : Sound s
  timestamp : s.anchorTimestamp ≠ 0
  last : s.lastBlockTimestamp = s.now.toNat / 1000

def SameAnchor (s t : State) : Prop :=
  t.anchorTarget = s.anchorTarget ∧ t.anchorTimestamp = s.anchorTimestamp ∧
    t.anchorHeight = s.anchorHeight

def scheduledTarget (cfg : Config) (s : State) (height : Nat) (secs : Nat) :
    Except Panic Nat :=
  computeNextTarget s.anchorTarget (secs - s.anchorTimestamp)
    (height - s.anchorHeight) cfg.targetBlockTime cfg.halflife

/-- What the block `t` with timestamp `now` on top of `s` has done. -/
structure Scheduled (cfg : Config) (s : State) (now : UInt64) (t : State) :
    Prop where
  blockNumber : t.blockNumber = s.blockNumber + 1
  time : t.now = now
  last : t.lastBlockTimestamp = now.toNat / 1000
  target : exists target,
    scheduledTarget cfg s t.blockNumber (now.toNat / 1000) =
        Except.ok target ∧
      t.currentDifficulty = u256Max / target ∧
      ((now.toNat / 1000 - s.lastBlockTimestamp ≤ cfg.breakThresholdSecs ∧
          SameAnchor s t) ∨
        (cfg.breakThresholdSecs < now.toNat / 1000 - s.lastBlockTimestamp ∧
          t.anchorTarget = target ∧ t.anchorTimestamp = now.toNat / 1000 ∧
          t.anchorHeight = t.blockNumber))

theorem executeBlock_scheduled {s t : State} {now : UInt64} (hs : Anchored s)
    (hfits : s.blockNumber < cfg.maxBlock)
    (h : executeBlock cfg s now = Except.ok t) : Scheduled cfg s now t := by
  have hheight : heightToU64 (s.blockNumber + 1) = s.blockNumber + 1 :=
    heightToU64_of_le (Nat.lt_of_lt_of_le hfits cfg.maxBlock_le)
  cases executeBlock_cases h with
  | anchored hfirst hnow =>
      exact absurd hfirst hs.timestamp
  | skipped hskip =>
      have hanchor := hs.sound.anchorHeight
      have htarget := hs.sound.anchorTarget
      rw [hheight] at hskip
      lia
  | adjusted target hadjusts hgap =>
      have hcomputed := hadjusts.computed
      rw [hheight] at hcomputed
      exact ⟨rfl, rfl, rfl, target, hcomputed, rfl,
        Or.inl ⟨hgap, rfl, rfl, rfl⟩⟩
  | recovered target hadjusts hgap =>
      have hcomputed := hadjusts.computed
      rw [hheight] at hcomputed
      exact ⟨rfl, rfl, rfl, target, hcomputed, rfl,
        Or.inr ⟨hgap, rfl, rfl, hheight⟩⟩

theorem nextBlock_scheduled {s : State} {now : UInt64} (hs : Anchored s)
    (hextends : Extends cfg s now) :
    Scheduled cfg s now (nextBlock cfg s now) := by
  rcases hextends with ⟨hfits, t, hexecuted⟩
  unfold nextBlock
  rw [hexecuted]
  exact executeBlock_scheduled hs hfits hexecuted

theorem nextBlock_anchored {s : State} {now : UInt64}
    (hextends : Extends cfg s now) (hs : Anchored s) :
    Anchored (nextBlock cfg s now) := by
  have hblock := nextBlock_scheduled hs hextends
  refine ⟨nextBlock_sound hextends hs.sound, ?_, ?_⟩
  · rcases hblock.target with
      ⟨_, _, _, ⟨_, _, hsame, _⟩ | ⟨hgap, _, htimestamp, _⟩⟩
    · rw [hsame]
      exact hs.timestamp
    · rw [htimestamp]
      lia
  · rw [hblock.last, hblock.time]

theorem Anchored.extends (hhalflife : cfg.halflife ≠ 0) {s : State}
    (hs : Anchored s) (hfits : s.blockNumber < cfg.maxBlock) (now : UInt64) :
    Extends cfg s now :=
  ⟨hfits, executeBlock_ok hhalflife hs.sound hs.timestamp hfits now⟩

theorem nextBlock_last {s : State} {now : UInt64}
    (hextends : Extends cfg s now) :
    (nextBlock cfg s now).lastBlockTimestamp =
      (nextBlock cfg s now).now.toNat / 1000 := by
  rcases hextends with ⟨_, t, hexecuted⟩
  unfold nextBlock
  rw [hexecuted]
  cases executeBlock_cases hexecuted with
  | anchored hfirst hnow => rfl
  | skipped hskip => rfl
  | adjusted target hadjusts hgap => rfl
  | recovered target hadjusts hgap => rfl

theorem build_last {initialDifficulty : Fin (2 ^ 256)} {g : State}
    (h : build initialDifficulty = Except.ok g) :
    g.lastBlockTimestamp = g.now.toNat / 1000 := by
  unfold build at h
  split at h
  · cases h
  · cases h
    exact (Nat.zero_div 1000).symm

/-- Every path through `on_finalize` records the time of the block, so the gap
to the next one is measured from there. -/
theorem ReachedBy.last {initialDifficulty : Fin (2 ^ 256)}
    {timestamps : List UInt64} {s : State}
    (h : ReachedBy cfg initialDifficulty timestamps s) :
    s.lastBlockTimestamp = s.now.toNat / 1000 := by
  rcases h with ⟨g, hbuild, hrun⟩
  exact hrun.preserves (fun s => s.lastBlockTimestamp = s.now.toNat / 1000)
    (fun _ _ hextends _ => nextBlock_last hextends) (build_last hbuild)

theorem ReachedBy.anchored {initialDifficulty : Fin (2 ^ 256)}
    {timestamps : List UInt64} {s : State}
    (h : ReachedBy cfg initialDifficulty timestamps s)
    (htimestamp : s.anchorTimestamp ≠ 0) : Anchored s :=
  ⟨h.sound, htimestamp, h.last⟩

/-!
## Runs without an interruption
-/

/-- No two consecutive blocks, the first of them at second `last`, are further
apart than the threshold. -/
def Unbroken (cfg : Config) : Nat -> List UInt64 -> Prop
  | _, [] => True
  | last, now :: rest =>
      now.toNat / 1000 - last ≤ cfg.breakThresholdSecs ∧
        Unbroken cfg (now.toNat / 1000) rest

/-- `t` is where the schedule of `s` puts it: the anchor is the same, and past
the first block the difficulty follows from height and time alone. -/
structure OnSchedule (cfg : Config) (s t : State) : Prop where
  anchor : SameAnchor s t
  position : t = s ∨
    s.blockNumber < t.blockNumber ∧
      t.lastBlockTimestamp = t.now.toNat / 1000 ∧
      exists target,
        scheduledTarget cfg s t.blockNumber (t.now.toNat / 1000) =
            Except.ok target ∧
          t.currentDifficulty = u256Max / target

theorem scheduledTarget_congr {s t : State} (h : SameAnchor s t)
    (height secs : Nat) :
    scheduledTarget cfg t height secs = scheduledTarget cfg s height secs := by
  unfold scheduledTarget
  rw [h.left, h.right.left, h.right.right]

theorem OnSchedule.nextBlock {s t : State} {now : UInt64}
    (hst : OnSchedule cfg s t) (ht : Anchored t)
    (hextends : Extends cfg t now)
    (hgap : now.toNat / 1000 - t.lastBlockTimestamp ≤ cfg.breakThresholdSecs) :
    OnSchedule cfg s (nextBlock cfg t now) := by
  have hblock := nextBlock_scheduled ht hextends
  have hnumber := hblock.blockNumber
  rcases hblock.target with ⟨target, htarget, hdifficulty, hanchor⟩
  have hsame : SameAnchor t (Difficulty.nextBlock cfg t now) := by
    rcases hanchor with ⟨_, hsame⟩ | ⟨hbroken, _⟩
    · exact hsame
    · exact absurd hbroken (Nat.not_lt.mpr hgap)
  constructor
  · exact ⟨hsame.left.trans hst.anchor.left,
      hsame.right.left.trans hst.anchor.right.left,
      hsame.right.right.trans hst.anchor.right.right⟩
  · refine Or.inr ⟨?_, ?_, target, ?_, hdifficulty⟩
    · rcases hst.position with rfl | ⟨hbelow, _⟩
      · lia
      · lia
    · rw [hblock.last, hblock.time]
    · rw [← scheduledTarget_congr hst.anchor, hblock.time]
      exact htarget

theorem run_onSchedule {s t u : State} {timestamps : List UInt64}
    (hrun : Run (Extends cfg) (nextBlock cfg) t timestamps u)
    (ht : Anchored t) (hst : OnSchedule cfg s t)
    (hunbroken : Unbroken cfg t.lastBlockTimestamp timestamps) :
    OnSchedule cfg s u := by
  induction hrun with
  | nil t =>
      exact hst
  | @cons t _ now _ hextends _ ih =>
      have hlast := (nextBlock_scheduled ht hextends).last
      apply ih (nextBlock_anchored hextends ht)
      · exact hst.nextBlock ht hextends hunbroken.left
      · rw [hlast]
        exact hunbroken.right

/-- Two uninterrupted runs from one anchored state that end at the same height
and second end with the same difficulty data, and with the anchor they started
from.  In any run from an anchored state a block either keeps the anchor or
comes later than the threshold allows and becomes the anchor itself. -/
theorem difficulty_depends_on_position_only
    {initialDifficulty : Fin (2 ^ 256)} {timestamps : List UInt64} {s : State}
    (hs : ReachedBy cfg initialDifficulty timestamps s)
    (hanchored : s.anchorTimestamp ≠ 0) :
    (forall first second t u,
      Run (Extends cfg) (nextBlock cfg) s first t ->
      Run (Extends cfg) (nextBlock cfg) s second u ->
      Unbroken cfg s.lastBlockTimestamp first ->
      Unbroken cfg s.lastBlockTimestamp second ->
      t.blockNumber = u.blockNumber ->
      t.now.toNat / 1000 = u.now.toNat / 1000 ->
      SameAnchor s t ∧ SameAnchor s u ∧
        t.currentDifficulty = u.currentDifficulty ∧
        t.lastBlockTimestamp = u.lastBlockTimestamp) ∧
    (forall blocks t now,
      Run (Extends cfg) (nextBlock cfg) s blocks t -> Extends cfg t now ->
      SameAnchor t (nextBlock cfg t now) ∨
      (cfg.breakThresholdSecs < now.toNat / 1000 - t.now.toNat / 1000 ∧
        scheduledTarget cfg t (nextBlock cfg t now).blockNumber
          (now.toNat / 1000) =
            Except.ok (nextBlock cfg t now).anchorTarget ∧
        (nextBlock cfg t now).anchorTimestamp = now.toNat / 1000 ∧
        (nextBlock cfg t now).anchorHeight =
          (nextBlock cfg t now).blockNumber)) := by
  have hstart := hs.anchored hanchored
  have hself : OnSchedule cfg s s := ⟨⟨rfl, rfl, rfl⟩, Or.inl rfl⟩
  constructor
  · intro first second t u hfirst hsecond hunbroken hunbroken' hheight htime
    have ht := run_onSchedule hfirst hstart hself hunbroken
    have hu := run_onSchedule hsecond hstart hself hunbroken'
    refine ⟨ht.anchor, hu.anchor, ?_⟩
    rcases ht.position with rfl | ⟨habove, hlast, target, htarget, hdifficulty⟩
    · rcases hu.position with rfl | ⟨habove', _⟩
      · exact ⟨rfl, rfl⟩
      · exact absurd hheight (Nat.ne_of_lt habove')
    · rcases hu.position with
        rfl | ⟨_, hlast', target', htarget', hdifficulty'⟩
      · exact absurd hheight.symm (Nat.ne_of_lt habove)
      · rw [hheight, htime, htarget'] at htarget
        cases htarget
        exact ⟨hdifficulty.trans hdifficulty'.symm,
          hlast.trans (htime.trans hlast'.symm)⟩
  · intro blocks t now hrun hextends
    have ht : Anchored t :=
      hrun.preserves Anchored (fun _ _ => nextBlock_anchored) hstart
    rcases (nextBlock_scheduled ht hextends).target with
      ⟨target, htarget, _, ⟨_, hsame⟩ | ⟨hgap, hnew, htimestamp, hheight⟩⟩
    · exact Or.inl hsame
    · rw [ht.last] at hgap
      rw [← hnew] at htarget
      exact Or.inr ⟨hgap, htarget, htimestamp, hheight⟩

/-- Two blocks on top of the anchor, spaced in two ways: block 3 at second
1700000020 has the same difficulty either way. -/
theorem spacing_of_blocks_makes_no_difference :
    let even := nextBlock mainnet
      (nextBlock mainnet anchoredAtBlockOne 1700000010000) 1700000020000
    let uneven := nextBlock mainnet
      (nextBlock mainnet anchoredAtBlockOne 1700000019000) 1700000020999
    even.currentDifficulty = uneven.currentDifficulty ∧
      even.anchorHeight = 1 ∧ uneven.anchorHeight = 1 := by
  intro even uneven
  have hstart := reachedBy_anchoredAtBlockOne.anchored (by decide)
  have hrun : forall first second : UInt64,
      Run (Extends mainnet) (nextBlock mainnet) anchoredAtBlockOne
        [first, second]
        (nextBlock mainnet (nextBlock mainnet anchoredAtBlockOne first)
          second) := by
    intro first second
    have hfirst : Extends mainnet anchoredAtBlockOne first :=
      hstart.extends (by decide) (by decide) first
    have hnumber := (nextBlock_scheduled hstart hfirst).blockNumber
    refine Run.cons hfirst (Run.single ?_)
    refine (nextBlock_anchored hfirst hstart).extends (by decide) ?_ second
    rw [hnumber]
    decide
  have hposition := (difficulty_depends_on_position_only
    reachedBy_anchoredAtBlockOne (by decide)).left _ _ _ _ (hrun 1700000010000 1700000020000)
    (hrun 1700000019000 1700000020999)
    (by simp only [Unbroken]; decide) (by simp only [Unbroken]; decide)
    (by rfl) (by rfl)
  exact ⟨hposition.right.right.left, hposition.left.right.right,
    hposition.right.left.right.right⟩

end Difficulty
end Numen
