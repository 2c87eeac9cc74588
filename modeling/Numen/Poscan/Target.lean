import Mathlib.Algebra.Order.Field.Rat
import Mathlib.Tactic.Linarith
import Numen.Difficulty.Asert
import Numen.Foundation.Runs
import Numen.Poscan.Seal

/-!
# One target for miner, verifier and difficulty

The verifier multiplies work and difficulty, the node's miner divides the
largest number by the work, and the difficulty pallet divides it by the target.
All three draw the same line.
-/

namespace Numen
namespace Poscan

open Foundation

/-!
## The internal miner
-/

/-- `checked_div` from the largest number. -/
def checkedDiv (a b : Nat) : Option Nat :=
  if b = 0 then none else some (a / b)

def maxDifficulty (work : H256) : Nat :=
  (checkedDiv u256Max (numHash work)).getD u256Max

structure BestSolution where
  preHash : H256
  nonce : U256
  work : H256
  maxDifficulty : Nat

/-- The task the mining handle offers. -/
structure MiningTask where
  preHash : H256
  difficulty : U256

/-- A scan thread.  `claimed` is shared with its siblings: the head somebody
submitted a seal for. -/
structure Miner where
  nonce : U256
  best : Option BestSolution
  claimed : Option H256

def dropRetired (preHash : H256) (best : Option BestSolution) :
    Option BestSolution :=
  best.filter fun solution => solution.preHash = preHash

/-- Work that reaches further than what is held replaces it. -/
def keepStronger (scan : Scan) (compute : Compute)
    (best : Option BestSolution) : Option BestSolution :=
  match compute.work scan with
  | none => best
  | some work =>
      if best.all fun solution =>
          decide (solution.maxDifficulty < maxDifficulty work) then
        some ⟨compute.preHash, compute.nonce, work, maxDifficulty work⟩
      else best

/-- One round of the loop, with the seal it submits.  Without a task the thread
sleeps. -/
def mineRound (scan : Scan) (stride : U256) (task : Option MiningTask)
    (miner : Miner) : Miner × Option (H256 × List UInt8) :=
  match task with
  | none => (miner, none)
  | some task =>
      let compute : Compute := ⟨task.preHash, miner.nonce⟩
      let best := keepStronger scan compute
        (dropRetired task.preHash miner.best)
      let scanned := { miner with nonce := miner.nonce + stride, best := best }
      match best with
      | none => (scanned, none)
      | some solution =>
          if task.difficulty.val ≤ solution.maxDifficulty then
            if miner.claimed = some task.preHash then
              ({ scanned with best := none }, none)
            else
              ({ scanned with best := none, claimed := some task.preHash },
                some (task.preHash,
                  (⟨solution.nonce, solution.work⟩ : Seal).encode))
          else (scanned, none)

/-- What happens to a scan thread: a round of its own, or a sibling's claim. -/
inductive MinerEvent where
  | round (task : Option MiningTask)
  | siblingClaims (preHash : H256)

def mineStep (scan : Scan) (stride : U256) (miner : Miner) :
    MinerEvent -> Miner
  | MinerEvent.round task => (mineRound scan stride task miner).1
  | MinerEvent.siblingClaims preHash => { miner with claimed := some preHash }

/-- The events lead a thread from its start, which holds no work, to `miner`. -/
def Miner.ReachedBy (scan : Scan) (stride start : U256) (claimed : Option H256)
    (events : List MinerEvent) (miner : Miner) : Prop :=
  Run (fun _ _ => True) (mineStep scan stride) ⟨start, none, claimed⟩ events
    miner

/-!
## The line
-/

theorem mul_lt_iff_le_div {h d : Nat} (hh : h ≠ 0) :
    h * d < 2 ^ 256 <-> d ≤ u256Max / h := by
  rw [Nat.le_div_iff_mul_le (Nat.pos_of_ne_zero hh), Nat.mul_comm]
  unfold u256Max
  lia

theorem hashMeetsDifficulty_iff_maxDifficulty (work : H256)
    (difficulty : U256) :
    hashMeetsDifficulty work difficulty = true <->
      difficulty.val ≤ maxDifficulty work := by
  rw [hashMeetsDifficulty_iff]
  unfold maxDifficulty checkedDiv
  by_cases hzero : numHash work = 0
  · have hfits := difficulty.isLt
    rw [if_pos hzero, hzero, Nat.zero_mul, Option.getD_none]
    unfold u256Max
    lia
  · rw [if_neg hzero, Option.getD_some]
    exact mul_lt_iff_le_div hzero

theorem hashMeetsDifficulty_iff_le (work : H256) (difficulty : U256) :
    hashMeetsDifficulty work difficulty = true <->
      difficulty.val = 0 ∨ numHash work ≤ u256Max / difficulty.val := by
  rw [hashMeetsDifficulty_iff]
  by_cases hzero : difficulty.val = 0
  · rw [hzero, Nat.mul_zero]
    exact iff_of_true (by decide) (Or.inl rfl)
  · rw [Nat.mul_comm, mul_lt_iff_le_div hzero]
    exact ⟨Or.inr, fun h => h.resolve_left hzero⟩

theorem hashMeetsDifficulty_mono {work work' : H256}
    {difficulty difficulty' : U256} (hwork : numHash work' ≤ numHash work)
    (hdifficulty : difficulty' ≤ difficulty)
    (h : hashMeetsDifficulty work difficulty = true) :
    hashMeetsDifficulty work' difficulty' = true := by
  rw [hashMeetsDifficulty_iff] at h ⊢
  exact Nat.lt_of_le_of_lt (Nat.mul_le_mul hwork hdifficulty) h

/-!
## What the miner submits
-/

/-- The solution is a scan of its own nonce, with the difficulty it reaches. -/
structure BestSolution.Scanned (scan : Scan) (solution : BestSolution) :
    Prop where
  work_eq : scan solution.preHash solution.nonce = some solution.work
  reach_eq : solution.maxDifficulty = Poscan.maxDifficulty solution.work

def Miner.Sound (scan : Scan) (miner : Miner) : Prop :=
  ∀ solution ∈ miner.best, solution.Scanned scan

theorem mem_dropRetired {preHash : H256} {best : Option BestSolution}
    {solution : BestSolution} (h : solution ∈ dropRetired preHash best) :
    solution ∈ best ∧ solution.preHash = preHash := by
  rcases Option.filter_eq_some_iff.mp h with ⟨hbest, hhead⟩
  exact ⟨hbest, of_decide_eq_true hhead⟩

theorem mem_keepStronger {scan : Scan} {compute : Compute}
    {best : Option BestSolution} {solution : BestSolution}
    (h : solution ∈ keepStronger scan compute best) :
    solution ∈ best ∨
      solution.preHash = compute.preHash ∧ solution.Scanned scan := by
  unfold keepStronger at h
  split at h
  · exact Or.inl h
  · rename_i work hwork
    split at h
    · cases h
      exact Or.inr ⟨rfl, hwork, rfl⟩
    · exact Or.inl h

theorem keepStronger_of_work {scan : Scan} {compute : Compute} {work : H256}
    (hwork : compute.work scan = some work) (best : Option BestSolution) :
    ∃ solution ∈ keepStronger scan compute best,
      maxDifficulty work ≤ solution.maxDifficulty := by
  unfold keepStronger
  rw [hwork]
  dsimp only
  split
  · exact ⟨_, rfl, Nat.le_refl _⟩
  · rename_i hstronger
    cases best with
    | none => exact absurd rfl hstronger
    | some solution =>
        refine ⟨solution, rfl, Nat.not_lt.mp fun hlt => hstronger ?_⟩
        exact decide_eq_true hlt

theorem Miner.Sound.held {scan : Scan} {miner : Miner} (h : miner.Sound scan)
    {preHash : H256} {nonce : U256} {solution : BestSolution}
    (hsolution : solution ∈ keepStronger scan ⟨preHash, nonce⟩
      (dropRetired preHash miner.best)) :
    solution.preHash = preHash ∧ solution.Scanned scan := by
  rcases mem_keepStronger hsolution with hkept | hnew
  · rcases mem_dropRetired hkept with ⟨hbest, hhead⟩
    exact ⟨hhead, h solution hbest⟩
  · exact hnew

theorem Miner.Sound.mineRound {scan : Scan} {miner : Miner}
    (h : miner.Sound scan) (stride : U256) (task : Option MiningTask) :
    (mineRound scan stride task miner).1.Sound scan := by
  cases task with
  | none => exact h
  | some task =>
      intro solution hsolution
      unfold Poscan.mineRound at hsolution
      dsimp only at hsolution
      split at hsolution
      · exact (h.held hsolution).right
      · split at hsolution
        · split at hsolution
          · cases hsolution
          · cases hsolution
        · exact (h.held hsolution).right

theorem mined_sound {scan : Scan} {stride start : U256}
    {claimed : Option H256} {events : List MinerEvent} {miner : Miner}
    (h : miner.ReachedBy scan stride start claimed events) :
    miner.Sound scan := by
  refine Run.preserves (Miner.Sound scan) ?_ h ?_
  · intro s event _ hs
    cases event with
    | round task => exact hs.mineRound stride task
    | siblingClaims preHash => exact hs
  · intro solution hsolution
    cases hsolution

/-- Whatever a thread went through, the seal it submits passes the verifier at
the difficulty of the task. -/
theorem submitted_seals_are_accepted {scan : Scan} {stride start : U256}
    {claimed : Option H256} {events : List MinerEvent} {miner : Miner}
    (h : miner.ReachedBy scan stride start claimed events) {task : MiningTask}
    {preHash : H256} {raw : List UInt8}
    (hsubmit : (mineRound scan stride (some task) miner).2 =
      some (preHash, raw)) :
    preHash = task.preHash ∧
      verifySeal scan preHash raw task.difficulty = Except.ok true := by
  unfold mineRound at hsubmit
  dsimp only at hsubmit
  split at hsubmit
  · cases hsubmit
  · rename_i solution hsolution
    split at hsubmit
    · rename_i hreach
      split at hsubmit
      · cases hsubmit
      · cases hsubmit
        rcases (mined_sound h).held hsolution with ⟨hhead, hwork, hmax⟩
        rw [hmax] at hreach
        rw [hhead] at hwork
        refine ⟨rfl, ?_⟩
        rw [verifySeal_encode]
        dsimp only
        rw [(hashMeetsDifficulty_iff_maxDifficulty _ _).mpr hreach,
          decide_eq_true hwork]
        rfl
    · cases hsubmit

theorem sufficient_work_is_submitted {scan : Scan} {miner : Miner}
    {task : MiningTask} {work : H256}
    (hwork : scan task.preHash miner.nonce = some work)
    (hmeets : hashMeetsDifficulty work task.difficulty = true)
    (hfree : miner.claimed ≠ some task.preHash) (stride : U256) :
    exists raw, (mineRound scan stride (some task) miner).2 =
      some (task.preHash, raw) := by
  have hcompute : Compute.work scan ⟨task.preHash, miner.nonce⟩ = some work :=
    hwork
  rcases keepStronger_of_work hcompute (dropRetired task.preHash miner.best)
    with ⟨solution, hsolution, hreach⟩
  have hdifficulty := Nat.le_trans
    ((hashMeetsDifficulty_iff_maxDifficulty _ _).mp hmeets) hreach
  unfold mineRound
  dsimp only
  rw [Option.mem_def.mp hsolution]
  dsimp only
  rw [if_pos hdifficulty, if_neg hfree]
  exact ⟨_, rfl⟩

/-!
## The published difficulty
-/

theorem div_div_sub_mul_lt {top t : Nat} (hpos : 1 ≤ t) (htop : t ≤ top) :
    t ≤ top / (top / t) ∧
      (top / (top / t) - t) * (top - t) < t * t := by
  have hquotient : 0 < top / t := Nat.div_pos htop hpos
  have hsplit : t * (top / t) + top % t = top := Nat.div_add_mod top t
  have hrest : top % t < t := Nat.mod_lt top hpos
  have hback : top / t * (top / (top / t)) ≤ top :=
    Nat.mul_div_le top (top / t)
  have hle : t ≤ top / (top / t) :=
    (Nat.le_div_iff_mul_le hquotient).mpr (Nat.mul_div_le top t)
  refine ⟨hle, ?_⟩
  generalize top / t = quotient at *
  rcases Nat.exists_eq_add_of_le hle with ⟨excess, hexcess⟩
  rw [hexcess, Nat.add_sub_cancel_left]
  rw [hexcess, Nat.mul_add, Nat.mul_comm quotient t] at hback
  have hsmall : quotient * excess ≤ top % t := by lia
  have hbelow : top - t ≤ quotient * t := by
    rw [Nat.mul_comm quotient t]
    lia
  calc
    excess * (top - t) ≤ excess * (quotient * t) :=
      Nat.mul_le_mul_left excess hbelow
    _ = quotient * excess * t := by
      rw [Nat.mul_comm quotient excess, Nat.mul_assoc]
    _ ≤ top % t * t := Nat.mul_le_mul_right t hsmall
    _ < t * t := Nat.mul_lt_mul_of_pos_right hrest hpos

/-- Verifier, miner and division by the difficulty agree on every work and
every difficulty, and less work or a lower difficulty is never refused for it.
At the difficulty published for a target all works up to the target pass, and
those that pass exceed it by less than the rounding of that division. -/
theorem one_target_for_miner_verifier_and_pallet :
    (forall (work : H256) (difficulty : U256),
      (hashMeetsDifficulty work difficulty = true <->
        difficulty.val ≤ maxDifficulty work) ∧
      (hashMeetsDifficulty work difficulty = true <->
        difficulty.val = 0 ∨ numHash work ≤ u256Max / difficulty.val)) ∧
    (forall (work work' : H256) (difficulty difficulty' : U256),
      numHash work' ≤ numHash work -> difficulty' ≤ difficulty ->
      hashMeetsDifficulty work difficulty = true ->
        hashMeetsDifficulty work' difficulty' = true) ∧
    forall anchorTarget timeDelta heightDelta targetBlockTime halflife target,
      Difficulty.computeNextTarget anchorTarget timeDelta heightDelta
        targetBlockTime halflife = Except.ok target ->
      exists published : U256,
        divide u256Max target = Except.ok published.val ∧
        published.val = u256Max / target ∧
        (forall work, numHash work ≤ target ->
          hashMeetsDifficulty work published = true) ∧
        (forall work, hashMeetsDifficulty work published = true ->
          numHash work ≤ u256Max / (u256Max / target)) ∧
        (target < 2 ^ 255 ->
          ((u256Max / (u256Max / target) : Nat) : ℚ) - target <
            (target : ℚ) * target / ((u256Max : ℚ) - target)) := by
  refine ⟨?_, ?_, ?_⟩
  · intro work difficulty
    exact ⟨hashMeetsDifficulty_iff_maxDifficulty work difficulty,
      hashMeetsDifficulty_iff_le work difficulty⟩
  · intro work work' difficulty difficulty'
    exact hashMeetsDifficulty_mono
  · intro anchorTarget timeDelta heightDelta targetBlockTime halflife target h
    rcases Difficulty.computeNextTarget_range h with ⟨hpos, htop⟩
    have hsize : u256Max / target < 2 ^ 256 :=
      Nat.lt_of_le_of_lt (Nat.div_le_self u256Max target) (by decide)
    have hpublished : u256Max / target ≠ 0 :=
      Nat.ne_of_gt (Nat.div_pos htop hpos)
    refine ⟨⟨u256Max / target, hsize⟩, divide_of_pos u256Max hpos, rfl, ?_, ?_,
      ?_⟩
    · intro work hwork
      refine (hashMeetsDifficulty_iff_le _ _).mpr (Or.inr ?_)
      exact Nat.le_trans hwork (div_div_sub_mul_lt hpos htop).left
    · intro work hmeets
      exact ((hashMeetsDifficulty_iff_le _ _).mp hmeets).resolve_left hpublished
    · intro hbelow
      rcases div_div_sub_mul_lt hpos htop with ⟨hle, hexcess⟩
      have hroom : target < u256Max :=
        Nat.lt_of_lt_of_le hbelow (by decide)
      have hgap : (0 : ℚ) < (u256Max : ℚ) - target := by
        rw [sub_pos]
        exact_mod_cast hroom
      rw [lt_div_iff₀ hgap, ← Nat.cast_sub hle, ← Nat.cast_sub htop]
      exact_mod_cast hexcess

/-- A target kept on schedule, and work below it. -/
theorem work_below_a_million_is_accepted :
    Difficulty.computeNextTarget 1000000 200 10 20 1800 = Except.ok 1000000 ∧
      forall work, numHash work ≤ 1000000 ->
        exists published : U256, published.val = u256Max / 1000000 ∧
          hashMeetsDifficulty work published = true := by
  have htarget : Difficulty.computeNextTarget 1000000 200 10 20 1800 =
      Except.ok 1000000 := by
    decide +kernel
  refine ⟨htarget, ?_⟩
  intro work hwork
  rcases one_target_for_miner_verifier_and_pallet.right.right 1000000 200 10 20
    1800 1000000 htarget with ⟨published, _, hvalue, hbelow, _⟩
  exact ⟨published, hvalue, hbelow work hwork⟩

end Poscan
end Numen
