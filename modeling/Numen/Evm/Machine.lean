import Mathlib.Data.List.GetD
import Numen.Foundation.BigEndian

/-!
# The Ethereum virtual machine

Stack, memory, control flow, call data and delegate calls of the machine, over
byte code.  Gas is left out: a program is run with as much of it as it takes,
and what `GAS` reads is up to the environment.  An operation outside this
fragment counts as undefined.
-/

namespace Numen
namespace Evm

open Foundation

abbrev Word : Type :=
  BitVec 256

def word (bytes : List UInt8) : Word :=
  BitVec.ofNat 256 (BigEndian.value bytes)

theorem toNat_word {bytes : List UInt8} (h : bytes.length ≤ 32) :
    (word bytes).toNat = BigEndian.value bytes := by
  have hlt : BigEndian.value bytes < 2 ^ 256 :=
    calc BigEndian.value bytes < 256 ^ bytes.length :=
          BigEndian.value_lt bytes
      _ ≤ 256 ^ 32 := Nat.pow_le_pow_right (by decide) h
      _ = 2 ^ 256 := by decide
  unfold word
  rw [BitVec.toNat_ofNat, Nat.mod_eq_of_lt hlt]

theorem word_injective {a b : List UInt8} (ha : a.length ≤ 32)
    (hlength : a.length = b.length) (h : word a = word b) : a = b := by
  have hvalue := congrArg BitVec.toNat h
  rw [toNat_word ha, toNat_word (hlength ▸ ha)] at hvalue
  exact BigEndian.value_injective hlength hvalue

theorem word_shiftRight (high low : List UInt8)
    (h : high.length + low.length = 32) :
    word (high ++ low) >>> (8 * low.length) = word high := by
  have hbase : (256 : Nat) ^ low.length = 2 ^ (8 * low.length) := by
    rw [Nat.pow_mul]
  apply BitVec.eq_of_toNat_eq
  rw [BitVec.toNat_ushiftRight, toNat_word (by simp [h]),
    toNat_word (by lia), BigEndian.value_append, Nat.shiftRight_eq_div_pow,
    hbase, Nat.mul_comm, Nat.mul_add_div (Nat.two_pow_pos _),
    Nat.div_eq_of_lt (hbase ▸ BigEndian.value_lt low), Nat.add_zero]

theorem value_zeros (n : Nat) :
    BigEndian.value (List.replicate n 0) = 0 := by
  induction n with
  | zero =>
      rfl
  | succ n ih =>
      rw [List.replicate_succ', BigEndian.value_concat, ih]
      rfl

theorem digits_word_shiftLeft (bytes : List UInt8) (n : Nat)
    (h : bytes.length + n = 32) :
    BigEndian.digits 32 (word bytes <<< (8 * n)).toNat =
      bytes ++ List.replicate n 0 := by
  have hvalue : (word bytes <<< (8 * n)).toNat =
      BigEndian.value (bytes ++ List.replicate n 0) := by
    have hpadded : (bytes ++ List.replicate n 0).length ≤ 32 := by
      simp [h]
    have hshift : BigEndian.value (bytes ++ List.replicate n 0) =
        BigEndian.value bytes <<< (8 * n) := by
      rw [BigEndian.value_append, value_zeros, List.length_replicate,
        Nat.shiftLeft_eq, Nat.pow_mul]
      rfl
    have hlt := (word (bytes ++ List.replicate n 0)).isLt
    rw [toNat_word hpadded, hshift] at hlt
    rw [BitVec.toNat_shiftLeft, toNat_word (by lia), hshift,
      Nat.mod_eq_of_lt hlt]
  have hlength : (bytes ++ List.replicate n 0).length = 32 := by
    simp [h]
  rw [hvalue, ← hlength]
  exact BigEndian.digits_value _

/-!
## Memory
-/

abbrev Memory : Type :=
  Nat -> UInt8

namespace Memory

def read (memory : Memory) (offset size : Nat) : List UInt8 :=
  (List.range size).map (fun i => memory (offset + i))

def write (memory : Memory) (offset : Nat) (data : List UInt8) : Memory :=
  fun i =>
    if offset ≤ i ∧ i < offset + data.length then data.getD (i - offset) 0
    else memory i

@[simp] theorem length_read (memory : Memory) (offset size : Nat) :
    (memory.read offset size).length = size := by
  simp [read]

theorem read_add (memory : Memory) (offset first second : Nat) :
    memory.read offset (first + second) =
      memory.read offset first ++ memory.read (offset + first) second := by
  unfold read
  rw [List.range_add, List.map_append, List.map_map]
  simp only [Function.comp_def, Nat.add_assoc]

theorem read_congr {memory memory' : Memory} {offset offset' size : Nat}
    (h : forall i, i < size -> memory (offset + i) = memory' (offset' + i)) :
    memory.read offset size = memory'.read offset' size := by
  apply List.map_congr_left
  intro i hi
  exact h i (List.mem_range.mp hi)

end Memory

def slice (data : List UInt8) (offset size : Nat) : List UInt8 :=
  Memory.read (fun i => data.getD i 0) offset size

theorem slice_take {data : List UInt8} {size : Nat}
    (h : size ≤ data.length) : slice data 0 size = data.take size := by
  apply List.ext_getElem
  · rw [slice, Memory.length_read, List.length_take, Nat.min_eq_left h]
  · intro i hi _
    rw [slice, Memory.length_read] at hi
    have hlt : i < data.length := Nat.lt_of_lt_of_le hi h
    simp [slice, Memory.read, hlt]

theorem slice_whole (data : List UInt8) :
    slice data 0 data.length = data := by
  rw [slice_take (Nat.le_refl _), List.take_length]

theorem slice_append (first rest : List UInt8) (offset size : Nat) :
    slice (first ++ rest) (first.length + offset) size =
      slice rest offset size := by
  apply Memory.read_congr
  intro i _
  rw [Nat.add_assoc, List.getD_append_right _ _ _ _ (Nat.le_add_right _ _),
    Nat.add_sub_cancel_left]

theorem Memory.read_write (memory : Memory) (offset : Nat)
    {data : List UInt8} {size : Nat} (h : size ≤ data.length) :
    (memory.write offset data).read offset size = data.take size := by
  rw [← slice_take h]
  apply Memory.read_congr
  intro i hi
  unfold write
  rw [if_pos ⟨Nat.le_add_right _ _, by lia⟩, Nat.add_sub_cancel_left,
    Nat.zero_add]

/-!
## Instructions
-/

/-- Operations without immediate data.  The depth of `dup` counts from zero. -/
inductive Op where
  | stop
  | lt
  | eq
  | shl
  | shr
  | calldataload
  | calldatasize
  | calldatacopy
  | returndatasize
  | returndatacopy
  | mstore
  | jump
  | jumpi
  | gas
  | jumpdest
  | dup (depth : Fin 16)
  | ret
  | delegatecall
  | revert
deriving DecidableEq

def Op.byte : Op -> UInt8
  | stop => 0x00
  | lt => 0x10
  | eq => 0x14
  | shl => 0x1b
  | shr => 0x1c
  | calldataload => 0x35
  | calldatasize => 0x36
  | calldatacopy => 0x37
  | returndatasize => 0x3d
  | returndatacopy => 0x3e
  | mstore => 0x52
  | jump => 0x56
  | jumpi => 0x57
  | gas => 0x5a
  | jumpdest => 0x5b
  | dup depth => UInt8.ofNat (0x80 + depth.val)
  | ret => 0xf3
  | delegatecall => 0xf4
  | revert => 0xfd

def Op.all : List Op :=
  [stop, lt, eq, shl, shr, calldataload, calldatasize, calldatacopy,
    returndatasize, returndatacopy, mstore, jump, jumpi, gas, jumpdest, ret,
    delegatecall, revert] ++ (List.finRange 16).map dup

def Op.ofByte (byte : UInt8) : Option Op :=
  Op.all.find? (fun op => op.byte = byte)

/-- How many bytes of immediate data follow an operation. -/
def pushWidth (byte : UInt8) : Nat :=
  if 0x60 ≤ byte.toNat ∧ byte.toNat < 0x80 then byte.toNat - 0x5f else 0

inductive Instr where
  | op (operation : Op)
  | push (bytes : List UInt8)
deriving DecidableEq

def Instr.encode : Instr -> List UInt8
  | op operation => [operation.byte]
  | push bytes => UInt8.ofNat (0x5f + bytes.length) :: bytes

/-- The instruction at `pc`.  Behind the code the machine stops. -/
def decode (code : List UInt8) (pc : Nat) : Option Instr :=
  match code[pc]? with
  | none => some (Instr.op Op.stop)
  | some byte =>
      if 0 < pushWidth byte then
        some (Instr.push (slice code (pc + 1) (pushWidth byte)))
      else
        (Op.ofByte byte).map Instr.op

/-- The positions of `JUMPDEST` outside immediate data.  The code starts at
`pc`, and its first `skip` bytes are immediate data. -/
def jumpdestsFrom : List UInt8 -> Nat -> Nat -> List Nat
  | [], _, _ => []
  | _ :: rest, pc, skip + 1 => jumpdestsFrom rest (pc + 1) skip
  | byte :: rest, pc, 0 =>
      if byte = Op.jumpdest.byte then pc :: jumpdestsFrom rest (pc + 1) 0
      else jumpdestsFrom rest (pc + 1) (pushWidth byte)

def jumpdests (code : List UInt8) : List Nat :=
  jumpdestsFrom code 0 0

/-!
## Execution
-/

structure Message where
  target : Bytes 20
  input : List UInt8
deriving DecidableEq

/-- What a callee answers.  As for call data, the size fits in a word. -/
structure Reply where
  success : Bool
  data : List UInt8
  length_lt : data.length < 2 ^ 256

structure Machine where
  stack : List Word
  memory : Memory
  returndata : List UInt8
  calls : List Message

structure Env where
  calldata : List UInt8
  length_lt : calldata.length < 2 ^ 256
  gas : Machine -> Word
  /-- The answer to a delegate call with the given gas. -/
  callee : Word -> Message -> Reply

inductive Fault where
  | undefinedOpcode
  | stackUnderflow
  | stackOverflow
  | invalidJump
  | returndataOutOfBounds
deriving DecidableEq

inductive Result where
  | returned (data : List UInt8)
  | reverted (data : List UInt8)
  | failed (fault : Fault)
deriving DecidableEq

structure Halt where
  result : Result
  calls : List Message
deriving DecidableEq

def toAddress (w : Word) : Bytes 20 where
  toList := BigEndian.digits 20 w.toNat
  length_eq := BigEndian.length_digits 20 _

def ofBool (b : Bool) : Word :=
  if b then 1 else 0

/-- What an instruction does, apart from moving the program counter. -/
inductive Effect where
  | next (m : Machine)
  | jump (target : Nat) (m : Machine)
  | halt (result : Result)

def perform (env : Env) (m : Machine) : Op -> List Word -> Effect
  | Op.stop, _ => Effect.halt (Result.returned [])
  | Op.lt, a :: b :: rest =>
      Effect.next { m with stack := ofBool (decide (a < b)) :: rest }
  | Op.eq, a :: b :: rest =>
      Effect.next { m with stack := ofBool (decide (a = b)) :: rest }
  | Op.shl, shift :: value :: rest =>
      Effect.next { m with stack := value <<< shift.toNat :: rest }
  | Op.shr, shift :: value :: rest =>
      Effect.next { m with stack := value >>> shift.toNat :: rest }
  | Op.calldataload, offset :: rest =>
      Effect.next { m with
        stack := word (slice env.calldata offset.toNat 32) :: rest }
  | Op.calldatasize, rest =>
      Effect.next { m with
        stack := BitVec.ofNat 256 env.calldata.length :: rest }
  | Op.calldatacopy, target :: offset :: size :: rest =>
      Effect.next { m with
        stack := rest
        memory := m.memory.write target.toNat
          (slice env.calldata offset.toNat size.toNat) }
  | Op.returndatasize, rest =>
      Effect.next { m with
        stack := BitVec.ofNat 256 m.returndata.length :: rest }
  | Op.returndatacopy, target :: offset :: size :: rest =>
      if offset.toNat + size.toNat ≤ m.returndata.length then
        Effect.next { m with
          stack := rest
          memory := m.memory.write target.toNat
            (slice m.returndata offset.toNat size.toNat) }
      else
        Effect.halt (Result.failed Fault.returndataOutOfBounds)
  | Op.mstore, offset :: value :: rest =>
      Effect.next { m with
        stack := rest
        memory := m.memory.write offset.toNat
          (BigEndian.digits 32 value.toNat) }
  | Op.jump, target :: rest =>
      Effect.jump target.toNat { m with stack := rest }
  | Op.jumpi, target :: condition :: rest =>
      if condition = 0 then Effect.next { m with stack := rest }
      else Effect.jump target.toNat { m with stack := rest }
  | Op.gas, rest => Effect.next { m with stack := env.gas m :: rest }
  | Op.jumpdest, _ => Effect.next m
  | Op.dup depth, stack =>
      match stack[depth.val]? with
      | some value => Effect.next { m with stack := value :: stack }
      | none => Effect.halt (Result.failed Fault.stackUnderflow)
  | Op.ret, offset :: size :: _ =>
      Effect.halt (Result.returned (m.memory.read offset.toNat size.toNat))
  | Op.revert, offset :: size :: _ =>
      Effect.halt (Result.reverted (m.memory.read offset.toNat size.toNat))
  | Op.delegatecall,
      gas :: target :: offset :: size :: retOffset :: retSize :: rest =>
      let message : Message :=
        { target := toAddress target
          input := m.memory.read offset.toNat size.toNat }
      let reply := env.callee gas message
      Effect.next
        { stack := ofBool reply.success :: rest
          memory := m.memory.write retOffset.toNat
            (reply.data.take retSize.toNat)
          returndata := reply.data
          calls := m.calls ++ [message] }
  | _, _ => Effect.halt (Result.failed Fault.stackUnderflow)

def effect (env : Env) (instr : Instr) (m : Machine) : Effect :=
  match instr with
  | Instr.push bytes => Effect.next { m with stack := word bytes :: m.stack }
  | Instr.op op => perform env m op m.stack

def stackLimit : Nat :=
  1024

/-- One instruction, leading on or ending the run. -/
def step (env : Env) (code : List UInt8) (pc : Nat) (m : Machine) :
    Except Halt (Nat × Machine) :=
  match decode code pc with
  | none => Except.error ⟨Result.failed Fault.undefinedOpcode, m.calls⟩
  | some instr =>
      match effect env instr m with
      | Effect.next m' =>
          if m'.stack.length ≤ stackLimit then
            Except.ok (pc + instr.encode.length, m')
          else
            Except.error ⟨Result.failed Fault.stackOverflow, m.calls⟩
      | Effect.jump target m' =>
          if target ∈ jumpdests code then
            Except.ok (target, m')
          else
            Except.error ⟨Result.failed Fault.invalidJump, m.calls⟩
      | Effect.halt result => Except.error ⟨result, m.calls⟩

def run (env : Env) (code : List UInt8) :
    Nat -> Nat -> Machine -> Option Halt
  | 0, _, _ => none
  | fuel + 1, pc, m =>
      match step env code pc m with
      | Except.error halt => some halt
      | Except.ok (pc', m') => run env code fuel pc' m'

def Machine.start : Machine where
  stack := []
  memory := fun _ => 0
  returndata := []
  calls := []

end Evm
end Numen
