import Numen.Erc20.Proxy

/-!
# Where the proxy sends a call

A run of the proxy followed from the first instruction to the last: one call of
the precompile, with the call data of a known selector or with the selector of
the deposit function, and the answer of the precompile handed back.
-/

namespace Numen
namespace Erc20

open Foundation
open Accounts
open Evm (Instr Op Word Memory Machine Message Reply Result Halt Program Ends
  assemble assemble_append word runBlock)

/-!
## The program
-/

theorem prologue_wf (target : Nat) :
    forall instr, instr ∈ prologue target -> instr.Wf := by
  simp [prologue, pushTarget, Instr.Wf]

theorem selectorTest_wf (target : Nat) (selector : Bytes 4) :
    forall instr, instr ∈ selectorTest target selector -> instr.Wf := by
  simp [selectorTest, pushTarget, Instr.Wf, selector.length_eq]

theorem depositPart_wf (deposit : Bytes 4) (target : Nat) :
    forall instr, instr ∈ depositPart deposit target -> instr.Wf := by
  simp [depositPart, pushTarget, Instr.Wf, deposit.length_eq]

theorem forwardPart_wf : forall instr, instr ∈ forwardPart -> instr.Wf := by
  simp [forwardPart, Instr.Wf]

theorem callPart_wf (target : Nat) :
    forall instr, instr ∈ callPart target -> instr.Wf := by
  simp [callPart, pushTarget, Instr.Wf, precompile.length_eq]

theorem returnPart_wf : forall instr, instr ∈ returnPart -> instr.Wf := by
  simp [returnPart, Instr.Wf]

def routingProgram (deposit : Bytes 4) (selectors : List (Bytes 4)) :
    Program where
  instrs := routing deposit selectors
  wf := by
    intro instr hmem
    unfold routing at hmem
    simp only [List.mem_append, List.mem_flatMap] at hmem
    rcases hmem with h | ⟨selector, _, h⟩ | h | h | h | h
    · exact prologue_wf _ instr h
    · exact selectorTest_wf _ selector instr h
    · exact depositPart_wf deposit _ instr h
    · exact forwardPart_wf instr h
    · exact callPart_wf _ instr h
    · exact returnPart_wf instr h

/-!
## Words on the stack
-/

theorem toNat_zero : (word [0]).toNat = 0 :=
  rfl

theorem toNat_target {target : Nat} (h : target < 65536) :
    (word (BigEndian.digits 2 target)).toNat = target := by
  rw [Evm.toNat_word (by simp), BigEndian.value_digits (by lia)]

theorem toNat_length {data : List UInt8} (h : data.length < 2 ^ 256) :
    (BitVec.ofNat 256 data.length).toNat = data.length := by
  rw [BitVec.toNat_ofNat, Nat.mod_eq_of_lt h]

theorem toAddress_precompile :
    Evm.toAddress (word (precompile.toList.drop 16)) = precompile := by
  decide +kernel

theorem shiftRight_selector {data : List UInt8} (h : 4 ≤ data.length) :
    word (Evm.slice data (word [0]).toNat 32) >>> (word [0xe0]).toNat =
      word (data.take 4) := by
  have hslice : Evm.slice data 0 32 =
      data.take 4 ++ Evm.slice data 4 28 := by
    rw [← Evm.slice_take h]
    exact Memory.read_add _ 0 4 28
  have hlow : (Evm.slice data 4 28).length = 28 := Memory.length_read _ _ _
  have hshift : (word [0xe0]).toNat = 8 * (Evm.slice data 4 28).length := by
    rw [hlow]
    rfl
  rw [toNat_zero, hslice, hshift]
  apply Evm.word_shiftRight
  rw [hlow, List.length_take, Nat.min_eq_left h]

theorem read_copied (memory : Memory) {data : List UInt8}
    (h : data.length < 2 ^ 256) :
    (memory.write (word [0]).toNat (Evm.slice data (word [0]).toNat
      (BitVec.ofNat 256 data.length).toNat)).read 0 data.length = data := by
  rw [toNat_zero, toNat_length h, Evm.slice_whole,
    Memory.read_write _ _ (Nat.le_refl _), List.take_length]

theorem read_deposit (deposit : Bytes 4) (memory : Memory) :
    (memory.write (word [0]).toNat (BigEndian.digits 32
      (word deposit.toList <<< (word [0xe0]).toNat).toNat)).read 0 4 =
        deposit.toList := by
  have hdigits : BigEndian.digits 32
      (word deposit.toList <<< (word [0xe0]).toNat).toNat =
        deposit.toList ++ List.replicate 28 0 :=
    Evm.digits_word_shiftLeft deposit.toList 28 (by rw [deposit.length_eq])
  rw [hdigits, toNat_zero, Memory.read_write _ _ (by simp)]
  rw [List.take_append_of_le_length (Nat.le_of_eq deposit.length_eq.symm),
    List.take_of_length_le (Nat.le_of_eq deposit.length_eq)]

/-!
## The parts
-/

/-- How the proxy ends when the precompile answers `reply` to `message`. -/
def answer (reply : Reply) (message : Message) : Halt where
  result :=
    if reply.success then Result.returned reply.data
    else Result.reverted reply.data
  calls := [message]

section Parts

variable {env : Evm.Env} {deposit : Bytes 4} {selectors : List (Bytes 4)}

theorem routing_labels (deposit : Bytes 4) (selectors : List (Bytes 4)) :
    (routingProgram deposit selectors).LabelAt
        (depositPart deposit (40 + 11 * selectors.length) ++ (forwardPart ++
          (callPart (69 + 11 * selectors.length) ++ returnPart)))
        (14 + 11 * selectors.length) ∧
      (routingProgram deposit selectors).LabelAt
        (forwardPart ++ (callPart (69 + 11 * selectors.length) ++
          returnPart))
        (32 + 11 * selectors.length) ∧
      (routingProgram deposit selectors).LabelAt
        (callPart (69 + 11 * selectors.length) ++ returnPart)
        (40 + 11 * selectors.length) ∧
      (routingProgram deposit selectors).LabelAt returnPart
        (69 + 11 * selectors.length) := by
  have htests : (assemble (selectors.flatMap (selectorTest
      (32 + 11 * selectors.length)))).length = 11 * selectors.length := by
    rw [assemble_tests]
    exact length_tests (BigEndian.length_digits 2 _) selectors
  have hdeposit : (assemble (depositPart deposit
      (40 + 11 * selectors.length))).length = 18 := by
    rw [assemble_depositPart]
    exact length_depositBytes deposit (BigEndian.length_digits 2 _)
  have hprologue : (assemble (prologue
      (14 + 11 * selectors.length))).length = 14 := rfl
  have hforward : (assemble forwardPart).length = 8 := rfl
  have hcall : (assemble (callPart (69 + 11 * selectors.length))).length =
      29 := rfl
  refine ⟨⟨prologue (14 + 11 * selectors.length) ++ selectors.flatMap
      (selectorTest (32 + 11 * selectors.length)), ?_, ?_⟩,
    ⟨prologue (14 + 11 * selectors.length) ++ (selectors.flatMap
      (selectorTest (32 + 11 * selectors.length)) ++ depositPart deposit
        (40 + 11 * selectors.length)), ?_, ?_⟩,
    ⟨prologue (14 + 11 * selectors.length) ++ (selectors.flatMap
      (selectorTest (32 + 11 * selectors.length)) ++ (depositPart deposit
        (40 + 11 * selectors.length) ++ forwardPart)), ?_, ?_⟩,
    ⟨prologue (14 + 11 * selectors.length) ++ (selectors.flatMap
      (selectorTest (32 + 11 * selectors.length)) ++ (depositPart deposit
        (40 + 11 * selectors.length) ++ (forwardPart ++ callPart
          (69 + 11 * selectors.length)))), ?_, ?_⟩⟩
  all_goals
    simp only [routingProgram, routing, List.append_assoc, assemble_append,
      List.length_append, hprologue, htests, hdeposit, hforward, hcall]
  all_goals lia

theorem labelAt_pushed {program : Program} {rest : List Instr}
    {target : Nat} (h : program.LabelAt rest target)
    (hlt : target < 65536) :
    program.LabelAt rest (word (BigEndian.digits 2 target)).toNat := by
  rw [toNat_target hlt]
  exact h

theorem ends_answer (hcode : 74 + 11 * selectors.length < 65536)
    {stack : List Word} (hstack : stack.length ≤ 2) {memory : Memory}
    {reply : Reply} {message : Message}
    (hmemory : memory.read 0 reply.data.length = reply.data) :
    Ends env (routingProgram deposit selectors)
      (pushTarget (69 + 11 * selectors.length) :: Instr.op Op.jumpi ::
        ([Instr.op Op.returndatasize, Instr.push [0]] ++
          (Instr.op Op.revert :: returnPart)))
      ⟨Evm.ofBool reply.success :: stack, memory, reply.data, [message]⟩
      (answer reply message) := by
  have hread : memory.read (word [0]).toNat
      (BitVec.ofNat 256 reply.data.length).toNat = reply.data := by
    rw [toNat_zero, toNat_length reply.length_lt, hmemory]
  have hroom : stack.length + 2 < Evm.stackLimit := by
    unfold Evm.stackLimit
    lia
  refine Ends.next rfl (Nat.lt_of_succ_lt hroom) ?_
  cases hsuccess : reply.success with
  | true =>
      have hanswer : answer reply message =
          ⟨Result.returned (memory.read (word [0]).toNat
            (BitVec.ofNat 256 reply.data.length).toNat), [message]⟩ := by
        unfold answer
        rw [hsuccess, hread]
        rfl
      have hlabel := labelAt_pushed
        (routing_labels deposit selectors).right.right.right (by lia)
      refine Ends.jumpi_taken (by decide) hlabel ?_
      have hblock : runBlock env [Instr.op Op.jumpdest,
          Instr.op Op.returndatasize, Instr.push [0]]
          ⟨stack, memory, reply.data, [message]⟩ =
            some ⟨word [0] :: BitVec.ofNat 256 reply.data.length :: stack,
              memory, reply.data, [message]⟩ := rfl
      rw [hanswer]
      exact Ends.block hblock (Nat.succ_le_of_lt hroom) (Ends.stop rfl)
  | false =>
      have hanswer : answer reply message =
          ⟨Result.reverted (memory.read (word [0]).toNat
            (BitVec.ofNat 256 reply.data.length).toNat), [message]⟩ := by
        unfold answer
        rw [hsuccess, hread]
        rfl
      refine Ends.jumpi_fall rfl hroom ?_
      have hblock : runBlock env [Instr.op Op.returndatasize, Instr.push [0]]
          ⟨stack, memory, reply.data, [message]⟩ =
            some ⟨word [0] :: BitVec.ofNat 256 reply.data.length :: stack,
              memory, reply.data, [message]⟩ := rfl
      rw [hanswer]
      exact Ends.block hblock (Nat.le_of_lt hroom) (Ends.stop rfl)

theorem ends_copy (deposit : Bytes 4)
    (hcode : 74 + 11 * selectors.length < 65536)
    {below : List Word} (hbelow : below.length ≤ 2) {memory : Memory}
    {reply : Reply} {message : Message} :
    Ends env (routingProgram deposit selectors)
      ([Instr.op Op.returndatasize, Instr.push [0], Instr.push [0]] ++
        (Instr.op Op.returndatacopy ::
          pushTarget (69 + 11 * selectors.length) :: Instr.op Op.jumpi ::
            ([Instr.op Op.returndatasize, Instr.push [0]] ++
              (Instr.op Op.revert :: returnPart))))
      ⟨Evm.ofBool reply.success :: below, memory, reply.data, [message]⟩
      (answer reply message) := by
  have hroom : below.length + 4 < Evm.stackLimit := by
    unfold Evm.stackLimit
    lia
  have hsize := toNat_length reply.length_lt
  have hblock : runBlock env [Instr.op Op.returndatasize, Instr.push [0],
      Instr.push [0]]
      ⟨Evm.ofBool reply.success :: below, memory, reply.data, [message]⟩ =
        some ⟨word [0] :: word [0] :: BitVec.ofNat 256 reply.data.length ::
          Evm.ofBool reply.success :: below, memory, reply.data,
            [message]⟩ := rfl
  have hcopy : Evm.effect env (Instr.op Op.returndatacopy)
      ⟨word [0] :: word [0] :: BitVec.ofNat 256 reply.data.length ::
        Evm.ofBool reply.success :: below, memory, reply.data, [message]⟩ =
      Evm.Effect.next ⟨Evm.ofBool reply.success :: below,
        memory.write (word [0]).toNat (Evm.slice reply.data (word [0]).toNat
          (BitVec.ofNat 256 reply.data.length).toNat),
        reply.data, [message]⟩ := by
    apply if_pos
    rw [toNat_zero, hsize, Nat.zero_add]
  refine Ends.block hblock (Nat.le_of_lt hroom) ?_
  refine Ends.next hcopy hroom ?_
  exact ends_answer hcode hbelow (read_copied memory reply.length_lt)

/-- The call of the precompile, with the input at the start of memory.  The
cases reach it with different stacks below the size of the input. -/
theorem ends_call (hcode : 74 + 11 * selectors.length < 65536)
    (size : Word) {below : List Word} (hbelow : below.length ≤ 1)
    {memory : Memory} {input : List UInt8}
    (hinput : memory.read 0 size.toNat = input) :
    exists gas, Ends env (routingProgram deposit selectors)
      (callPart (69 + 11 * selectors.length) ++ returnPart)
      ⟨size :: below, memory, [], []⟩
      (answer (env.callee gas ⟨precompile, input⟩) ⟨precompile, input⟩) := by
  have hroom : below.length + 8 ≤ Evm.stackLimit := by
    unfold Evm.stackLimit
    lia
  have hblock : runBlock env [Instr.op Op.jumpdest, Instr.push [0],
      Instr.push [0], Instr.op (Op.dup 2), Instr.push [0],
      Instr.push (precompile.toList.drop 16)]
      ⟨size :: below, memory, [], []⟩ =
        some ⟨word (precompile.toList.drop 16) :: word [0] :: size ::
          word [0] :: word [0] :: size :: below, memory, [], []⟩ := rfl
  generalize hgas : env.gas ⟨word (precompile.toList.drop 16) :: word [0] ::
    size :: word [0] :: word [0] :: size :: below, memory, [], []⟩ = gas
  have hmeter : Evm.effect env (Instr.op Op.gas)
      ⟨word (precompile.toList.drop 16) :: word [0] :: size :: word [0] ::
        word [0] :: size :: below, memory, [], []⟩ =
      Evm.Effect.next ⟨gas :: word (precompile.toList.drop 16) :: word [0] ::
        size :: word [0] :: word [0] :: size :: below, memory, [], []⟩ := by
    rw [← hgas]
    rfl
  have hcall : Evm.effect env (Instr.op Op.delegatecall)
      ⟨gas :: word (precompile.toList.drop 16) :: word [0] :: size ::
        word [0] :: word [0] :: size :: below, memory, [], []⟩ =
      Evm.Effect.next
        ⟨Evm.ofBool (env.callee gas ⟨precompile, input⟩).success ::
          size :: below,
        memory.write (word [0]).toNat
          ((env.callee gas ⟨precompile, input⟩).data.take (word [0]).toNat),
        (env.callee gas ⟨precompile, input⟩).data,
        [⟨precompile, input⟩]⟩ := by
    rw [← hinput, ← toAddress_precompile]
    rfl
  have hdeep : (size :: below).length ≤ 2 := Nat.succ_le_succ hbelow
  have hends := Ends.block hblock (Nat.le_of_succ_le hroom)
    (Ends.next hmeter (Nat.le_of_succ_le hroom)
      (Ends.next hcall hroom
        (ends_copy deposit hcode hdeep)))
  exact ⟨gas, hends⟩

theorem ends_deposit (deposit : Bytes 4)
    (hcode : 74 + 11 * selectors.length < 65536)
    {below : List Word} (hbelow : below.length ≤ 1) {memory : Memory} :
    exists gas, Ends env (routingProgram deposit selectors)
      (depositPart deposit (40 + 11 * selectors.length) ++ (forwardPart ++
        (callPart (69 + 11 * selectors.length) ++ returnPart)))
      ⟨below, memory, [], []⟩
      (answer (env.callee gas ⟨precompile, deposit.toList⟩)
        ⟨precompile, deposit.toList⟩) := by
  have hroom : below.length + 6 ≤ Evm.stackLimit := by
    unfold Evm.stackLimit
    lia
  have hstored := read_deposit deposit memory
  generalize hmemory : memory.write (word [0]).toNat (BigEndian.digits 32
    (word deposit.toList <<< (word [0xe0]).toNat).toNat) = stored at hstored
  have hstore : runBlock env [Instr.op Op.jumpdest,
      Instr.push deposit.toList, Instr.push [0xe0], Instr.op Op.shl,
      Instr.push [0], Instr.op Op.mstore] ⟨below, memory, [], []⟩ =
        some ⟨below, stored, [], []⟩ := by
    rw [← hmemory]
    rfl
  have hsize : runBlock env [Instr.push [4],
      pushTarget (40 + 11 * selectors.length)] ⟨below, stored, [], []⟩ =
        some ⟨word (BigEndian.digits 2 (40 + 11 * selectors.length)) ::
          word [4] :: below, stored, [], []⟩ := rfl
  have hlabel := labelAt_pushed
    (routing_labels deposit selectors).right.right.left (by lia)
  have hfour : (word [4]).toNat = 4 := rfl
  rcases ends_call hcode (word [4]) hbelow
    (by rw [hfour, hstored] : stored.read 0 (word [4]).toNat =
      deposit.toList) with ⟨gas, hcall⟩
  have hsplit : depositPart deposit (40 + 11 * selectors.length) =
      [Instr.op Op.jumpdest, Instr.push deposit.toList, Instr.push [0xe0],
        Instr.op Op.shl, Instr.push [0], Instr.op Op.mstore] ++
          ([Instr.push [4], pushTarget (40 + 11 * selectors.length)] ++
            [Instr.op Op.jump]) := rfl
  refine ⟨gas, ?_⟩
  rw [hsplit, List.append_assoc, List.append_assoc]
  exact Ends.block hstore hroom
    (Ends.block hsize (Nat.le_trans (Nat.le_add_right _ 4) hroom)
      (Ends.jump_op hlabel hcall))

theorem ends_forward (deposit : Bytes 4)
    (hcode : 74 + 11 * selectors.length < 65536)
    {below : List Word} (hbelow : below.length ≤ 1) {memory : Memory} :
    exists gas, Ends env (routingProgram deposit selectors)
      (forwardPart ++ (callPart (69 + 11 * selectors.length) ++ returnPart))
      ⟨below, memory, [], []⟩
      (answer (env.callee gas ⟨precompile, env.calldata⟩)
        ⟨precompile, env.calldata⟩) := by
  have hroom : below.length + 6 ≤ Evm.stackLimit := by
    unfold Evm.stackLimit
    lia
  have hsize := toNat_length env.length_lt
  have hblock : runBlock env forwardPart ⟨below, memory, [], []⟩ =
      some ⟨BitVec.ofNat 256 env.calldata.length :: below,
        memory.write (word [0]).toNat (Evm.slice env.calldata
          (word [0]).toNat (BitVec.ofNat 256 env.calldata.length).toNat),
        [], []⟩ := rfl
  have hinput : (memory.write (word [0]).toNat (Evm.slice env.calldata
      (word [0]).toNat (BitVec.ofNat 256 env.calldata.length).toNat)).read 0
        (BitVec.ofNat 256 env.calldata.length).toNat = env.calldata := by
    rw [hsize]
    have hcopied := read_copied memory env.length_lt
    rwa [hsize] at hcopied
  rcases ends_call hcode _ hbelow hinput with ⟨gas, hcall⟩
  exact ⟨gas, Ends.block hblock hroom hcall⟩

theorem ends_tests {program : Program} {halt : Halt} {selector : Word}
    {memory : Memory} {toForward : Nat} {forward rest : List Instr}
    (hlabel : program.LabelAt (Instr.op Op.jumpdest :: forward)
      (word (BigEndian.digits 2 toForward)).toNat) (tests : List (Bytes 4))
    (hknown : (exists s, s ∈ tests ∧ word s.toList = selector) ->
      Ends env program (Instr.op Op.jumpdest :: forward)
        ⟨[selector], memory, [], []⟩ halt)
    (hunknown : (forall s, s ∈ tests -> word s.toList ≠ selector) ->
      Ends env program rest ⟨[selector], memory, [], []⟩ halt) :
    Ends env program (tests.flatMap (selectorTest toForward) ++ rest)
      ⟨[selector], memory, [], []⟩ halt := by
  induction tests with
  | nil =>
      apply hunknown
      intro s hmem
      cases hmem
  | cons test tests ih =>
      have hblock : runBlock env [Instr.op (Op.dup 0),
          Instr.push test.toList, Instr.op Op.eq, pushTarget toForward]
          ⟨[selector], memory, [], []⟩ =
            some ⟨[word (BigEndian.digits 2 toForward),
              Evm.ofBool (decide (word test.toList = selector)), selector],
              memory, [], []⟩ := rfl
      have hsplit : (test :: tests).flatMap (selectorTest toForward) ++
          rest =
          [Instr.op (Op.dup 0), Instr.push test.toList, Instr.op Op.eq,
            pushTarget toForward] ++ (Instr.op Op.jumpi ::
              (tests.flatMap (selectorTest toForward) ++ rest)) := rfl
      rw [hsplit]
      refine Ends.block hblock (by decide : 1 + 4 ≤ Evm.stackLimit) ?_
      by_cases htest : word test.toList = selector
      · rw [decide_eq_true htest]
        exact Ends.jumpi_taken (by decide) hlabel
          (hknown ⟨test, List.mem_cons_self, htest⟩)
      · rw [decide_eq_false htest]
        refine Ends.jumpi_fall rfl (by decide : 1 + 2 < Evm.stackLimit)
          (ih ?_ ?_)
        · intro ⟨s, hmem, hs⟩
          exact hknown ⟨s, List.mem_cons_of_mem test hmem, hs⟩
        · intro hmiss
          apply hunknown
          intro s hmem
          rcases List.mem_cons.mp hmem with rfl | hmem
          · exact htest
          · exact hmiss s hmem

theorem lt_four (data : List UInt8) (h : data.length < 2 ^ 256) :
    BitVec.ofNat 256 data.length < word [4] <-> data.length < 4 := by
  rw [BitVec.lt_def, toNat_length h]
  rfl

theorem runBlock_compare (env : Evm.Env) (target : Nat) :
    runBlock env [Instr.push [4], Instr.op Op.calldatasize, Instr.op Op.lt,
      pushTarget target] Machine.start =
        some ⟨[word (BigEndian.digits 2 target),
          Evm.ofBool (decide (BitVec.ofNat 256 env.calldata.length <
            word [4]))], Machine.start.memory, [], []⟩ :=
  rfl

theorem routing_prologue (deposit : Bytes 4) (selectors : List (Bytes 4)) :
    routing deposit selectors =
      [Instr.push [4], Instr.op Op.calldatasize, Instr.op Op.lt,
        pushTarget (14 + 11 * selectors.length)] ++ (Instr.op Op.jumpi ::
          ([Instr.push [0], Instr.op Op.calldataload, Instr.push [0xe0],
            Instr.op Op.shr] ++
            (selectors.flatMap (selectorTest (32 + 11 * selectors.length)) ++
              (depositPart deposit (40 + 11 * selectors.length) ++
                (forwardPart ++ (callPart (69 + 11 * selectors.length) ++
                  returnPart)))))) :=
  rfl

theorem ends_short (hcode : 74 + 11 * selectors.length < 65536)
    (hshort : env.calldata.length < 4) {halt : Halt}
    (h : Ends env (routingProgram deposit selectors)
      (depositPart deposit (40 + 11 * selectors.length) ++ (forwardPart ++
        (callPart (69 + 11 * selectors.length) ++ returnPart)))
      Machine.start halt) :
    Ends env (routingProgram deposit selectors) (routing deposit selectors)
      Machine.start halt := by
  have hblock := runBlock_compare env (14 + 11 * selectors.length)
  have hlabel := labelAt_pushed (routing_labels deposit selectors).left
    (by lia)
  rw [decide_eq_true ((lt_four _ env.length_lt).mpr hshort)] at hblock
  rw [routing_prologue]
  exact Ends.block hblock (by decide : 0 + 4 ≤ Evm.stackLimit)
    (Ends.jumpi_taken (by decide) hlabel h)

theorem ends_selector (hlong : 4 ≤ env.calldata.length) {halt : Halt}
    (h : Ends env (routingProgram deposit selectors)
      (selectors.flatMap (selectorTest (32 + 11 * selectors.length)) ++
        (depositPart deposit (40 + 11 * selectors.length) ++ (forwardPart ++
          (callPart (69 + 11 * selectors.length) ++ returnPart))))
      ⟨[word (env.calldata.take 4)], Machine.start.memory, [], []⟩ halt) :
    Ends env (routingProgram deposit selectors) (routing deposit selectors)
      Machine.start halt := by
  have hblock := runBlock_compare env (14 + 11 * selectors.length)
  have hload : runBlock env [Instr.push [0], Instr.op Op.calldataload,
      Instr.push [0xe0], Instr.op Op.shr]
      ⟨[], Machine.start.memory, [], []⟩ =
        some ⟨[word (Evm.slice env.calldata (word [0]).toNat 32) >>>
          (word [0xe0]).toNat], Machine.start.memory, [], []⟩ := rfl
  rw [decide_eq_false (mt (lt_four _ env.length_lt).mp
    (Nat.not_lt.mpr hlong))] at hblock
  rw [shiftRight_selector hlong] at hload
  rw [routing_prologue]
  exact Ends.block hblock (by decide : 0 + 4 ≤ Evm.stackLimit)
    (Ends.jumpi_fall rfl (by decide : 0 + 2 < Evm.stackLimit)
      (Ends.block hload (by decide : 0 + 4 ≤ Evm.stackLimit) h))

end Parts

/-!
## The whole run
-/

def Known (selectors : List (Bytes 4)) (data : List UInt8) : Prop :=
  4 ≤ data.length ∧
    exists selector, selector ∈ selectors ∧ data.take 4 = selector.toList

instance (selectors : List (Bytes 4)) (data : List UInt8) :
    Decidable (Known selectors data) :=
  inferInstanceAs (Decidable (4 ≤ data.length ∧
    exists selector, selector ∈ selectors ∧ data.take 4 = selector.toList))

def routed (deposit : Bytes 4) (selectors : List (Bytes 4))
    (data : List UInt8) : List UInt8 :=
  if Known selectors data then data else deposit.toList

theorem length_proxyCode (deposit : Bytes 4) (selectors : List (Bytes 4)) :
    (proxyCode deposit selectors).length = 74 + 11 * selectors.length := by
  have htests : (selectors.flatMap (testBytes (BigEndian.digits 2
      (32 + 11 * selectors.length)))).length = 11 * selectors.length :=
    length_tests (BigEndian.length_digits 2 _) selectors
  have hdeposit : (depositBytes deposit (BigEndian.digits 2
      (40 + 11 * selectors.length))).length = 18 :=
    length_depositBytes deposit (BigEndian.length_digits 2 _)
  have hcall : (callBytes (BigEndian.digits 2
      (69 + 11 * selectors.length))).length = 29 := rfl
  have hprologue : (prologueBytes (BigEndian.digits 2
      (14 + 11 * selectors.length))).length = 14 := rfl
  have hforward : forwardBytes.length = 8 := rfl
  have hreturn : returnBytes.length = 5 := rfl
  rw [proxyCode_eq_bytes]
  simp only [List.length_append, hprologue, htests, hdeposit, hforward, hcall,
    hreturn]
  lia

section Run

variable {env : Evm.Env} {deposit : Bytes 4} {selectors : List (Bytes 4)}

theorem word_selector {data : List UInt8} (hlong : 4 ≤ data.length)
    (selector : Bytes 4) :
    word selector.toList = word (data.take 4) <->
      data.take 4 = selector.toList := by
  constructor
  · intro h
    refine (Evm.word_injective ?_ ?_ h).symm
    · rw [selector.length_eq]
      decide
    · rw [selector.length_eq, List.length_take, Nat.min_eq_left hlong]
  · intro h
    rw [h]

theorem ends_known (hcode : 74 + 11 * selectors.length < 65536)
    (hknown : Known selectors env.calldata) :
    exists gas, Ends env (routingProgram deposit selectors)
      (routing deposit selectors) Machine.start
      (answer (env.callee gas ⟨precompile, env.calldata⟩)
        ⟨precompile, env.calldata⟩) := by
  rcases hknown with ⟨hlong, selector, hmem, htake⟩
  have hlabel := labelAt_pushed (routing_labels deposit selectors).right.left
    (by lia)
  have hbelow : [word (env.calldata.take 4)].length ≤ 1 := Nat.le_refl 1
  rcases ends_forward deposit hcode hbelow with ⟨gas, hforward⟩
  refine ⟨gas, ends_selector hlong (ends_tests hlabel selectors ?_ ?_)⟩
  · intro _
    exact hforward
  · intro hnone
    exact absurd ((word_selector hlong selector).mpr htake)
      (hnone selector hmem)

theorem ends_unknown (hcode : 74 + 11 * selectors.length < 65536)
    (hknown : ¬ Known selectors env.calldata) :
    exists gas, Ends env (routingProgram deposit selectors)
      (routing deposit selectors) Machine.start
      (answer (env.callee gas ⟨precompile, deposit.toList⟩)
        ⟨precompile, deposit.toList⟩) := by
  by_cases hlong : 4 ≤ env.calldata.length
  · have hlabel := labelAt_pushed
      (routing_labels deposit selectors).right.left (by lia)
    have hbelow : [word (env.calldata.take 4)].length ≤ 1 := Nat.le_refl 1
    rcases ends_deposit deposit hcode hbelow with ⟨gas, hdeposit⟩
    refine ⟨gas, ends_selector hlong (ends_tests hlabel selectors ?_ ?_)⟩
    · intro ⟨selector, hmem, hword⟩
      exact absurd ⟨hlong, selector, hmem,
        (word_selector hlong selector).mp hword⟩ hknown
    · intro _
      exact hdeposit
  · have hbelow : ([] : List Word).length ≤ 1 := Nat.zero_le 1
    rcases ends_deposit deposit hcode hbelow with ⟨gas, hdeposit⟩
    exact ⟨gas, ends_short hcode (Nat.not_le.mp hlong) hdeposit⟩

end Run

/-- The proxy makes one call, of the precompile.  Call data with a known
selector is passed on, anything else becomes the selector of the deposit
function, and the answer is handed back as it is. -/
theorem proxy_routes_calls (deposit : Bytes 4) (selectors : List (Bytes 4))
    (hlength : (proxyCode deposit selectors).length < 65536)
    (env : Evm.Env) :
    exists gas enough, forall fuel, enough ≤ fuel ->
      Evm.run env (proxyCode deposit selectors) fuel 0 Machine.start =
        some (answer
          (env.callee gas
            ⟨precompile, routed deposit selectors env.calldata⟩)
          ⟨precompile, routed deposit selectors env.calldata⟩) := by
  rw [length_proxyCode] at hlength
  have hends : exists gas, Ends env (routingProgram deposit selectors)
      (routing deposit selectors) Machine.start
      (answer
        (env.callee gas ⟨precompile, routed deposit selectors env.calldata⟩)
        ⟨precompile, routed deposit selectors env.calldata⟩) := by
    unfold routed
    by_cases hknown : Known selectors env.calldata
    · rw [if_pos hknown]
      exact ends_known hlength hknown
    · rw [if_neg hknown]
      exact ends_unknown hlength hknown
  rcases hends with ⟨gas, hends⟩
  rcases hends [] rfl with ⟨enough, hrun⟩
  rw [proxyCode_eq_assemble]
  exact ⟨gas, enough, hrun⟩

/-- A call with the selector of `transfer`, answered with its own input. -/
def transferEnv : Evm.Env where
  calldata := [0xa9, 0x05, 0x9c, 0xbb, 1, 2, 3]
  length_lt := by decide
  gas := fun _ => 0
  callee := fun _ message =>
    ⟨true, message.input.take 32,
      Nat.lt_of_le_of_lt (List.length_take_le 32 _) (by decide)⟩

theorem transfer_call_is_passed_on :
    exists enough, forall fuel, enough ≤ fuel ->
      Evm.run transferEnv
        (proxyCode ⟨[0xd0, 0xe3, 0x0d, 0xb0], rfl⟩
          [⟨[0xd0, 0xe3, 0x0d, 0xb0], rfl⟩,
            ⟨[0xa9, 0x05, 0x9c, 0xbb], rfl⟩]) fuel 0 Machine.start =
        some ⟨Result.returned [0xa9, 0x05, 0x9c, 0xbb, 1, 2, 3],
          [⟨precompile, [0xa9, 0x05, 0x9c, 0xbb, 1, 2, 3]⟩]⟩ := by
  have hroutes := proxy_routes_calls ⟨[0xd0, 0xe3, 0x0d, 0xb0], rfl⟩
    [⟨[0xd0, 0xe3, 0x0d, 0xb0], rfl⟩, ⟨[0xa9, 0x05, 0x9c, 0xbb], rfl⟩]
    (by rw [length_proxyCode]; decide) transferEnv
  rcases hroutes with ⟨_, enough, hrun⟩
  exact ⟨enough, hrun⟩

end Erc20
end Numen
