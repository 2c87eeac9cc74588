import Numen.Evm.Assembly
import Numen.Erc20.Token

/-!
# The code of the proxy

`proxy_code`: calls with a known selector pass through to the precompile
untouched, anything else becomes a deposit.  The generator appends jumps before
their targets are known and fills the targets in when it gets there.  What it
produces is the encoding of `routing`, a list of instructions with the targets
in place.
-/

namespace Numen
namespace Erc20

open Foundation
open Accounts

namespace Opcode

def lt : UInt8 := 0x10
def eq : UInt8 := 0x14
def shl : UInt8 := 0x1b
def shr : UInt8 := 0x1c
def calldataload : UInt8 := 0x35
def calldatasize : UInt8 := 0x36
def calldatacopy : UInt8 := 0x37
def returndatasize : UInt8 := 0x3d
def returndatacopy : UInt8 := 0x3e
def mstore : UInt8 := 0x52
def jump : UInt8 := 0x56
def jumpi : UInt8 := 0x57
def gas : UInt8 := 0x5a
def jumpdest : UInt8 := 0x5b
def push1 : UInt8 := 0x60
def push2 : UInt8 := 0x61
def push4 : UInt8 := 0x63
def dup1 : UInt8 := 0x80
def dup3 : UInt8 := 0x82
def ret : UInt8 := 0xf3
def delegatecall : UInt8 := 0xf4
def revert : UInt8 := 0xfd

end Opcode

/-- Append a jump to a target that `land` fills in later, and say where. -/
def jump (code : List UInt8) (kind : UInt8) : List UInt8 × Nat :=
  let code := code ++ [Opcode.push2, 0, 0, kind]
  (code, code.length - 3)

/-- Place a jump target here and point `jumps` at it.  The position is written
as a 16-bit number. -/
def land (code : List UInt8) (jumps : List Nat) : List UInt8 :=
  let target := BigEndian.digits 2 code.length
  jumps.foldl (fun code hole => overwrite hole target code) code ++
    [Opcode.jumpdest]

/-- Append the test for one selector, and note the jump it ends with. -/
def testSelector (state : List UInt8 × List Nat) (selector : Bytes 4) :
    List UInt8 × List Nat :=
  let code := state.1 ++ [Opcode.dup1, Opcode.push4] ++ selector.toList ++
    [Opcode.eq]
  let (code, hole) := jump code Opcode.jumpi
  (code, state.2 ++ [hole])

/-- The case of a deposit: the call data of the call is the selector alone. -/
def placeDeposit (deposit : Bytes 4) (code : List UInt8) (toDeposit : Nat) :
    List UInt8 × Nat :=
  let code := land code [toDeposit]
  let code := code ++ [Opcode.push4] ++ deposit.toList ++
    [Opcode.push1, 0xe0, Opcode.shl, Opcode.push1, 0, Opcode.mstore,
      Opcode.push1, 4]
  jump code Opcode.jump

/-- The case of a known selector: the call data is passed on. -/
def placeForward (code : List UInt8) (toForward : List Nat) : List UInt8 :=
  land code toForward ++
    [Opcode.calldatasize, Opcode.push1, 0, Opcode.push1, 0,
      Opcode.calldatacopy, Opcode.calldatasize]

/-- The call of the precompile, and what becomes of a call that fails. -/
def placeCall (code : List UInt8) (toCall : Nat) : List UInt8 × Nat :=
  let code := land code [toCall]
  let code := code ++ [Opcode.push1, 0, Opcode.push1, 0, Opcode.dup3,
    Opcode.push1, 0, Opcode.push4] ++ precompile.toList.drop 16 ++
    [Opcode.gas, Opcode.delegatecall, Opcode.returndatasize, Opcode.push1, 0,
      Opcode.push1, 0, Opcode.returndatacopy]
  let (code, toReturn) := jump code Opcode.jumpi
  (code ++ [Opcode.returndatasize, Opcode.push1, 0, Opcode.revert], toReturn)

def placeReturn (code : List UInt8) (toReturn : Nat) : List UInt8 :=
  land code [toReturn] ++ [Opcode.returndatasize, Opcode.push1, 0, Opcode.ret]

/-- The code of the proxy, for the selectors of an interface and that of its
deposit function. -/
def proxyCode (deposit : Bytes 4) (selectors : List (Bytes 4)) :
    List UInt8 :=
  let code := [Opcode.push1, 4, Opcode.calldatasize, Opcode.lt]
  let (code, toDeposit) := jump code Opcode.jumpi
  let code := code ++ [Opcode.push1, 0, Opcode.calldataload, Opcode.push1,
    0xe0, Opcode.shr]
  let (code, toForward) := selectors.foldl testSelector (code, [])
  let (code, toCall) := placeDeposit deposit code toDeposit
  let code := placeForward code toForward
  let (code, toReturn) := placeCall code toCall
  placeReturn code toReturn

/-!
## The instructions

A target is written with two bytes, whatever its size.
-/

open Evm (Instr Op assemble assemble_cons assemble_append)

def pushTarget (target : Nat) : Instr :=
  Instr.push (BigEndian.digits 2 target)

def prologue (toDeposit : Nat) : List Instr :=
  [Instr.push [4], Instr.op Op.calldatasize, Instr.op Op.lt,
    pushTarget toDeposit, Instr.op Op.jumpi,
    Instr.push [0], Instr.op Op.calldataload, Instr.push [0xe0],
    Instr.op Op.shr]

def selectorTest (toForward : Nat) (selector : Bytes 4) : List Instr :=
  [Instr.op (Op.dup 0), Instr.push selector.toList, Instr.op Op.eq,
    pushTarget toForward, Instr.op Op.jumpi]

def depositPart (deposit : Bytes 4) (toCall : Nat) : List Instr :=
  [Instr.op Op.jumpdest, Instr.push deposit.toList, Instr.push [0xe0],
    Instr.op Op.shl, Instr.push [0], Instr.op Op.mstore, Instr.push [4],
    pushTarget toCall, Instr.op Op.jump]

def forwardPart : List Instr :=
  [Instr.op Op.jumpdest, Instr.op Op.calldatasize, Instr.push [0],
    Instr.push [0], Instr.op Op.calldatacopy, Instr.op Op.calldatasize]

def callPart (toReturn : Nat) : List Instr :=
  [Instr.op Op.jumpdest, Instr.push [0], Instr.push [0],
    Instr.op (Op.dup 2), Instr.push [0],
    Instr.push (precompile.toList.drop 16), Instr.op Op.gas,
    Instr.op Op.delegatecall, Instr.op Op.returndatasize, Instr.push [0],
    Instr.push [0], Instr.op Op.returndatacopy, pushTarget toReturn,
    Instr.op Op.jumpi, Instr.op Op.returndatasize, Instr.push [0],
    Instr.op Op.revert]

def returnPart : List Instr :=
  [Instr.op Op.jumpdest, Instr.op Op.returndatasize, Instr.push [0],
    Instr.op Op.ret]

/-- The proxy as a list of instructions.  Eleven bytes per selector follow the
fourteen of the prologue. -/
def routing (deposit : Bytes 4) (selectors : List (Bytes 4)) : List Instr :=
  let tests := 11 * selectors.length
  prologue (14 + tests) ++
    (selectors.flatMap (selectorTest (32 + tests)) ++
      (depositPart deposit (40 + tests) ++
        (forwardPart ++ (callPart (69 + tests) ++ returnPart))))

/-!
## The generator
-/

section Generator

theorem jump_eq (code : List UInt8) (kind : UInt8) :
    jump code kind =
      (code ++ [Opcode.push2, 0, 0, kind], code.length + 1) := by
  unfold jump
  dsimp only
  rw [List.length_append]
  rfl

theorem overwrite_jump (before : List UInt8) (kind : UInt8)
    (after target : List UInt8) (htarget : target.length = 2) :
    overwrite (before.length + 1) target
        ((before ++ [Opcode.push2, 0, 0, kind]) ++ after) =
      (before ++ (Opcode.push2 :: (target ++ [kind]))) ++ after := by
  have hsplit : (before ++ [Opcode.push2, 0, 0, kind]) ++ after =
      (before ++ [Opcode.push2]) ++ ([0, 0] ++ (kind :: after)) := by
    simp
  have hhole : (before ++ [Opcode.push2]).length = before.length + 1 := by
    simp
  rw [hsplit, overwrite_append _ _ (Nat.le_of_eq hhole), hhole, Nat.sub_self,
    overwrite_first _ (by rw [htarget]; rfl)]
  simp

def testBytes (target : List UInt8) (selector : Bytes 4) : List UInt8 :=
  ([Opcode.dup1, Opcode.push4] ++ selector.toList ++ [Opcode.eq]) ++
    (Opcode.push2 :: (target ++ [Opcode.jumpi]))

theorem length_testBytes {target : List UInt8} (htarget : target.length = 2)
    (selector : Bytes 4) : (testBytes target selector).length = 11 := by
  simp [testBytes, htarget, selector.length_eq]

theorem length_tests {target : List UInt8} (htarget : target.length = 2)
    (selectors : List (Bytes 4)) :
    (selectors.flatMap (testBytes target)).length =
      11 * selectors.length := by
  induction selectors with
  | nil =>
      rfl
  | cons selector selectors ih =>
      rw [List.flatMap_cons, List.length_append, length_testBytes htarget, ih,
        List.length_cons]
      lia

/-- Where the tests leave their jumps, from `start` on. -/
def holes (start : Nat) : List (Bytes 4) -> List Nat
  | [] => []
  | _ :: rest => (start + 8) :: holes (start + 11) rest

theorem testSelector_eq (state : List UInt8 × List Nat)
    (selector : Bytes 4) :
    testSelector state selector =
      (state.1 ++ testBytes [0, 0] selector,
        state.2 ++ [state.1.length + 8]) := by
  unfold testSelector
  dsimp only
  rw [jump_eq]
  dsimp only
  congr 1
  · simp [testBytes]
  · simp [selector.length_eq]

theorem foldl_testSelector (selectors : List (Bytes 4))
    (code : List UInt8) (jumps : List Nat) :
    selectors.foldl testSelector (code, jumps) =
      (code ++ selectors.flatMap (testBytes [0, 0]),
        jumps ++ holes code.length selectors) := by
  induction selectors generalizing code jumps with
  | nil =>
      simp [holes]
  | cons selector selectors ih =>
      rw [List.foldl_cons, testSelector_eq, ih]
      simp only [List.length_append, length_testBytes, List.length_cons,
        List.length_nil, List.flatMap_cons, holes, List.append_assoc,
        List.cons_append, List.nil_append]

theorem foldl_overwrite_holes {target : List UInt8}
    (htarget : target.length = 2) (selectors : List (Bytes 4))
    (before after : List UInt8) :
    (holes before.length selectors).foldl
        (fun code hole => overwrite hole target code)
        (before ++ (selectors.flatMap (testBytes [0, 0]) ++ after)) =
      before ++ (selectors.flatMap (testBytes target) ++ after) := by
  induction selectors generalizing before with
  | nil =>
      rfl
  | cons selector selectors ih =>
      have hhole : before.length + 8 = (before ++ ([Opcode.dup1,
          Opcode.push4] ++ selector.toList ++ [Opcode.eq])).length + 1 := by
        simp [selector.length_eq]
      have hcode : before ++ ((selector :: selectors).flatMap
          (testBytes [0, 0]) ++ after) =
          ((before ++ ([Opcode.dup1, Opcode.push4] ++ selector.toList ++
            [Opcode.eq])) ++ [Opcode.push2, 0, 0, Opcode.jumpi]) ++
            (selectors.flatMap (testBytes [0, 0]) ++ after) := by
        simp [testBytes]
      have hfilled : (before ++ ([Opcode.dup1, Opcode.push4] ++
          selector.toList ++ [Opcode.eq])) ++
            (Opcode.push2 :: (target ++ [Opcode.jumpi])) =
          before ++ testBytes target selector := by
        simp [testBytes]
      have hnext : before.length + 11 =
          (before ++ testBytes target selector).length := by
        rw [List.length_append, length_testBytes htarget]
      rw [holes, List.foldl_cons, hcode, hhole,
        overwrite_jump _ _ _ _ htarget, hfilled, hnext, ih]
      simp

theorem land_jump (before : List UInt8) (kind : UInt8) (after : List UInt8)
    {hole target : Nat} (hhole : hole = before.length + 1)
    (htarget : target = before.length + 4 + after.length) :
    land (before ++ (Opcode.push2 :: ([0, 0] ++ (kind :: after)))) [hole] =
      before ++ (Opcode.push2 :: (BigEndian.digits 2 target ++
        (kind :: (after ++ [Opcode.jumpdest])))) := by
  have hcode : before ++ (Opcode.push2 :: ([0, 0] ++ (kind :: after))) =
      (before ++ [Opcode.push2, 0, 0, kind]) ++ after := by
    simp
  have hlength : (before ++ (Opcode.push2 :: ([0, 0] ++
      (kind :: after)))).length = target := by
    simp only [List.length_append, List.length_cons, List.length_nil]
    lia
  unfold land
  dsimp only
  rw [hlength, List.foldl_cons, List.foldl_nil, hhole, hcode,
    overwrite_jump _ _ _ _ (BigEndian.length_digits 2 _)]
  simp

theorem land_holes {before after : List UInt8} {start target : Nat}
    (selectors : List (Bytes 4)) (hstart : start = before.length)
    (htarget : target = start + 11 * selectors.length + after.length) :
    land (before ++ (selectors.flatMap (testBytes [0, 0]) ++ after))
        (holes start selectors) =
      before ++ (selectors.flatMap (testBytes (BigEndian.digits 2 target)) ++
        (after ++ [Opcode.jumpdest])) := by
  have hlength : (before ++ (selectors.flatMap (testBytes [0, 0]) ++
      after)).length = target := by
    rw [List.length_append, List.length_append, length_tests rfl]
    lia
  unfold land
  dsimp only
  rw [hlength, hstart, foldl_overwrite_holes (BigEndian.length_digits 2 _)]
  simp

/-!
The parts of the code in bytes, with their targets left open.
-/

def prologueBytes (target : List UInt8) : List UInt8 :=
  [Opcode.push1, 4, Opcode.calldatasize, Opcode.lt] ++
    (Opcode.push2 :: (target ++ (Opcode.jumpi ::
      [Opcode.push1, 0, Opcode.calldataload, Opcode.push1, 0xe0,
        Opcode.shr])))

def depositHead (deposit : Bytes 4) : List UInt8 :=
  Opcode.jumpdest :: Opcode.push4 :: (deposit.toList ++
    [Opcode.push1, 0xe0, Opcode.shl, Opcode.push1, 0, Opcode.mstore,
      Opcode.push1, 4])

def depositBytes (deposit : Bytes 4) (target : List UInt8) : List UInt8 :=
  depositHead deposit ++ (Opcode.push2 :: (target ++ [Opcode.jump]))

theorem length_depositHead (deposit : Bytes 4) :
    (depositHead deposit).length = 14 := by
  simp [depositHead, deposit.length_eq]

theorem length_depositBytes (deposit : Bytes 4) {target : List UInt8}
    (htarget : target.length = 2) :
    (depositBytes deposit target).length = 18 := by
  simp [depositBytes, length_depositHead, htarget]

def forwardBytes : List UInt8 :=
  [Opcode.jumpdest, Opcode.calldatasize, Opcode.push1, 0, Opcode.push1, 0,
    Opcode.calldatacopy, Opcode.calldatasize]

def callHead : List UInt8 :=
  [Opcode.jumpdest, Opcode.push1, 0, Opcode.push1, 0, Opcode.dup3,
    Opcode.push1, 0, Opcode.push4, 0x08, 0x02, 0x00, 0x00, Opcode.gas,
    Opcode.delegatecall, Opcode.returndatasize, Opcode.push1, 0,
    Opcode.push1, 0, Opcode.returndatacopy]

def callBytes (target : List UInt8) : List UInt8 :=
  callHead ++ (Opcode.push2 :: (target ++ (Opcode.jumpi ::
    [Opcode.returndatasize, Opcode.push1, 0, Opcode.revert])))

def returnBytes : List UInt8 :=
  [Opcode.jumpdest, Opcode.returndatasize, Opcode.push1, 0, Opcode.ret]

variable (deposit : Bytes 4) (selectors : List (Bytes 4))

theorem placeDeposit_eq :
    placeDeposit deposit
        (prologueBytes [0, 0] ++ selectors.flatMap (testBytes [0, 0])) 5 =
      (prologueBytes (BigEndian.digits 2 (14 + 11 * selectors.length)) ++
        (selectors.flatMap (testBytes [0, 0]) ++
          depositBytes deposit [0, 0]),
        29 + 11 * selectors.length) := by
  have hlength : (selectors.flatMap (testBytes [0, 0])).length =
      11 * selectors.length :=
    length_tests rfl selectors
  have hland : land (prologueBytes [0, 0] ++
      selectors.flatMap (testBytes [0, 0])) [5] =
        prologueBytes (BigEndian.digits 2 (14 + 11 * selectors.length)) ++
          (selectors.flatMap (testBytes [0, 0]) ++ [Opcode.jumpdest]) := by
    refine land_jump [Opcode.push1, 4, Opcode.calldatasize, Opcode.lt]
      Opcode.jumpi ([Opcode.push1, 0, Opcode.calldataload, Opcode.push1,
        0xe0, Opcode.shr] ++ selectors.flatMap (testBytes [0, 0])) rfl ?_
    simp only [List.length_append, List.length_cons, List.length_nil, hlength]
    lia
  unfold placeDeposit
  dsimp only
  rw [hland, jump_eq]
  apply Prod.ext
  · simp [depositBytes, depositHead]
  · simp only [List.length_append, List.length_cons, List.length_nil, hlength,
      prologueBytes, BigEndian.length_digits, deposit.length_eq]
    lia

theorem placeForward_eq {before : List UInt8} (hbefore : before.length = 14) :
    placeForward (before ++ (selectors.flatMap (testBytes [0, 0]) ++
        depositBytes deposit [0, 0])) (holes 14 selectors) =
      before ++ (selectors.flatMap (testBytes
        (BigEndian.digits 2 (32 + 11 * selectors.length))) ++
          (depositBytes deposit [0, 0] ++ forwardBytes)) := by
  have htarget : 32 + 11 * selectors.length =
      14 + 11 * selectors.length + (depositBytes deposit [0, 0]).length := by
    rw [length_depositBytes deposit rfl]
    lia
  unfold placeForward
  rw [land_holes selectors hbefore.symm htarget]
  simp [forwardBytes]

theorem placeCall_eq {before : List UInt8} {n : Nat}
    (hbefore : before.length = 14 + 11 * n) :
    placeCall (before ++ (depositBytes deposit [0, 0] ++ forwardBytes))
        (29 + 11 * n) =
      (before ++ (depositBytes deposit (BigEndian.digits 2 (40 + 11 * n)) ++
        (forwardBytes ++ callBytes [0, 0])), 62 + 11 * n) := by
  have hhead : (before ++ depositHead deposit).length = 28 + 11 * n := by
    rw [List.length_append, hbefore, length_depositHead]
    lia
  have hhole : 29 + 11 * n = (before ++ depositHead deposit).length + 1 := by
    lia
  have htarget : 40 + 11 * n = (before ++ depositHead deposit).length + 4 +
      forwardBytes.length := by
    rw [hhead]
    show _ = 28 + 11 * n + 4 + 8
    lia
  have hcode : before ++ (depositBytes deposit [0, 0] ++ forwardBytes) =
      (before ++ depositHead deposit) ++ (Opcode.push2 :: ([0, 0] ++
        (Opcode.jump :: forwardBytes))) := by
    simp [depositBytes]
  have hdrop : precompile.toList.drop 16 = [0x08, 0x02, 0x00, 0x00] := rfl
  unfold placeCall
  dsimp only
  rw [hcode, land_jump _ _ _ hhole htarget, jump_eq]
  apply Prod.ext
  · simp [depositBytes, callBytes, callHead, hdrop]
  · simp only [hdrop, List.length_append, List.length_cons, List.length_nil,
      hbefore, length_depositHead, forwardBytes, BigEndian.length_digits]
    lia

theorem placeReturn_eq {before : List UInt8} {n : Nat}
    (hbefore : before.length = 40 + 11 * n) :
    placeReturn (before ++ callBytes [0, 0]) (62 + 11 * n) =
      before ++ (callBytes (BigEndian.digits 2 (69 + 11 * n)) ++
        returnBytes) := by
  have hhead : (before ++ callHead).length = 61 + 11 * n := by
    rw [List.length_append, hbefore]
    show 40 + 11 * n + 21 = _
    lia
  have hhole : 62 + 11 * n = (before ++ callHead).length + 1 := by
    lia
  have htarget : 69 + 11 * n = (before ++ callHead).length + 4 +
      [Opcode.returndatasize, Opcode.push1, 0, Opcode.revert].length := by
    rw [hhead]
    show _ = 61 + 11 * n + 4 + 4
    lia
  unfold placeReturn callBytes
  rw [← List.append_assoc, land_jump _ _ _ hhole htarget]
  simp [returnBytes]

theorem proxyCode_eq_bytes :
    proxyCode deposit selectors =
      prologueBytes (BigEndian.digits 2 (14 + 11 * selectors.length)) ++
        (selectors.flatMap (testBytes
            (BigEndian.digits 2 (32 + 11 * selectors.length))) ++
          (depositBytes deposit
              (BigEndian.digits 2 (40 + 11 * selectors.length)) ++
            (forwardBytes ++
              (callBytes (BigEndian.digits 2 (69 + 11 * selectors.length)) ++
                returnBytes)))) := by
  have hprologue : (prologueBytes (BigEndian.digits 2
      (14 + 11 * selectors.length))).length = 14 := by
    simp [prologueBytes]
  have htests : (selectors.flatMap (testBytes (BigEndian.digits 2
      (32 + 11 * selectors.length)))).length = 11 * selectors.length :=
    length_tests (BigEndian.length_digits 2 _) selectors
  have htested : selectors.foldl testSelector (prologueBytes [0, 0], []) =
      (prologueBytes [0, 0] ++ selectors.flatMap (testBytes [0, 0]),
        holes 14 selectors) :=
    foldl_testSelector selectors (prologueBytes [0, 0]) []
  show (match selectors.foldl testSelector (prologueBytes [0, 0], []) with
    | (code, toForward) =>
        match placeDeposit deposit code 5 with
        | (code, toCall) =>
            match placeCall (placeForward code toForward) toCall with
            | (code, toReturn) => placeReturn code toReturn) = _
  rw [htested]
  dsimp only
  rw [placeDeposit_eq]
  dsimp only
  rw [placeForward_eq deposit selectors hprologue, ← List.append_assoc,
    placeCall_eq deposit (by rw [List.length_append, hprologue, htests])]
  dsimp only
  rw [← List.append_assoc (depositBytes _ _), ← List.append_assoc,
    placeReturn_eq]
  · simp only [List.append_assoc]
  · rw [List.length_append, List.length_append, List.length_append,
      hprologue, htests,
      length_depositBytes deposit (BigEndian.length_digits 2 _)]
    show 14 + 11 * selectors.length + (18 + 8) = _
    lia

theorem assemble_selectorTest (target : Nat) (selector : Bytes 4) :
    assemble (selectorTest target selector) =
      testBytes (BigEndian.digits 2 target) selector := by
  have hpush : UInt8.ofNat (0x5f + selector.toList.length) =
      Opcode.push4 := by
    rw [selector.length_eq]
    rfl
  have hbytes : testBytes (BigEndian.digits 2 target) selector =
      Opcode.dup1 :: Opcode.push4 :: (selector.toList ++ (Opcode.eq ::
        Opcode.push2 :: (BigEndian.digits 2 target ++ [Opcode.jumpi]))) := by
    simp [testBytes]
  rw [hbytes, ← hpush]
  rfl

theorem assemble_depositPart (target : Nat) :
    assemble (depositPart deposit target) =
      depositBytes deposit (BigEndian.digits 2 target) := by
  have hpush : UInt8.ofNat (0x5f + deposit.toList.length) =
      Opcode.push4 := by
    rw [deposit.length_eq]
    rfl
  have hbytes : depositBytes deposit (BigEndian.digits 2 target) =
      Opcode.jumpdest :: Opcode.push4 :: (deposit.toList ++
        (Opcode.push1 :: 0xe0 :: Opcode.shl :: Opcode.push1 :: 0 ::
          Opcode.mstore :: Opcode.push1 :: 4 :: Opcode.push2 ::
            (BigEndian.digits 2 target ++ [Opcode.jump]))) := by
    simp [depositBytes, depositHead]
  rw [hbytes, ← hpush]
  rfl

theorem assemble_tests (target : Nat) :
    assemble (selectors.flatMap (selectorTest target)) =
      selectors.flatMap (testBytes (BigEndian.digits 2 target)) := by
  unfold assemble
  rw [List.flatMap_assoc]
  congr 1
  funext selector
  exact assemble_selectorTest target selector

theorem proxyCode_eq_assemble :
    proxyCode deposit selectors = assemble (routing deposit selectors) := by
  unfold routing
  dsimp only
  simp only [assemble_append, assemble_tests, assemble_depositPart]
  rw [proxyCode_eq_bytes]
  rfl

end Generator

end Erc20
end Numen
