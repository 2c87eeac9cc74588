import Numen.Evm.Machine

/-!
# Programs as lists of instructions

Code that encodes a list of instructions is decoded to the same instructions,
and its jump destinations are the `JUMPDEST` instructions of the list.  A run
can therefore be followed along the instructions that are left, by one rule for
each of the three effects an instruction can have.
-/

namespace Numen
namespace Evm

open Foundation

def assemble (instrs : List Instr) : List UInt8 :=
  instrs.flatMap Instr.encode

@[simp] theorem assemble_nil : assemble [] = [] :=
  rfl

@[simp] theorem assemble_cons (instr : Instr) (rest : List Instr) :
    assemble (instr :: rest) = instr.encode ++ assemble rest :=
  rfl

@[simp] theorem assemble_append (first second : List Instr) :
    assemble (first ++ second) = assemble first ++ assemble second :=
  List.flatMap_append

def Instr.Wf : Instr -> Prop
  | op _ => True
  | push bytes => 0 < bytes.length ∧ bytes.length ≤ 32

structure Program where
  instrs : List Instr
  wf : forall instr, instr ∈ instrs -> instr.Wf

/-- The instructions `rest` of the program start at the position `pc` of its
code. -/
def Program.LabelAt (program : Program) (rest : List Instr) (pc : Nat) :
    Prop :=
  exists before, program.instrs = before ++ rest ∧
    pc = (assemble before).length

/-!
## Decoding
-/

theorem Op.ofByte_byte (op : Op) : Op.ofByte op.byte = some op := by
  cases op with
  | dup depth =>
      revert depth
      decide
  | _ => decide

theorem pushWidth_byte (op : Op) : pushWidth op.byte = 0 := by
  cases op with
  | dup depth =>
      revert depth
      decide
  | _ => decide

theorem pushWidth_push {width : Nat} (hpos : 0 < width) (hle : width ≤ 32) :
    pushWidth (UInt8.ofNat (0x5f + width)) = width := by
  have hbyte : (UInt8.ofNat (0x5f + width)).toNat = 0x5f + width := by
    rw [UInt8.toNat_ofNat']
    lia
  unfold pushWidth
  rw [hbyte, if_pos (by lia)]
  lia

theorem decode_append (before : List UInt8) {instr : Instr}
    (hwf : instr.Wf) (after : List UInt8) :
    decode (before ++ (instr.encode ++ after)) before.length =
      some instr := by
  unfold decode
  cases instr with
  | op operation =>
      have hbyte : (before ++ ((Instr.op operation).encode ++
          after))[before.length]? = some operation.byte := by
        simp [Instr.encode]
      rw [hbyte]
      dsimp only
      rw [pushWidth_byte, if_neg (Nat.lt_irrefl 0), Op.ofByte_byte]
      rfl
  | push bytes =>
      have hbyte : (before ++ ((Instr.push bytes).encode ++
          after))[before.length]? =
            some (UInt8.ofNat (0x5f + bytes.length)) := by
        simp [Instr.encode]
      have hdata : slice (before ++ ((Instr.push bytes).encode ++ after))
          (before.length + 1) bytes.length = bytes := by
        have hsplit : before ++ ((Instr.push bytes).encode ++ after) =
            (before ++ [UInt8.ofNat (0x5f + bytes.length)]) ++
              (bytes ++ after) := by
          simp [Instr.encode]
        have hlength : before.length + 1 =
            (before ++ [UInt8.ofNat (0x5f + bytes.length)]).length + 0 := by
          simp
        rw [hsplit, hlength, slice_append,
          slice_take (by simp), List.take_left]
      rw [hbyte]
      dsimp only
      rw [pushWidth_push hwf.left hwf.right, if_pos hwf.left, hdata]

/-!
## Jump destinations
-/

theorem jumpdestsFrom_skip (data rest : List UInt8) (pc : Nat) :
    jumpdestsFrom (data ++ rest) pc data.length =
      jumpdestsFrom rest (pc + data.length) 0 := by
  induction data generalizing pc with
  | nil =>
      rfl
  | cons byte data ih =>
      rw [List.cons_append, List.length_cons, jumpdestsFrom, ih,
        Nat.add_assoc, Nat.add_comm 1]

theorem jumpdestsFrom_encode {instr : Instr} (hwf : instr.Wf)
    (rest : List UInt8) (pc : Nat) :
    jumpdestsFrom (instr.encode ++ rest) pc 0 =
      (if instr = Instr.op Op.jumpdest then [pc] else []) ++
        jumpdestsFrom rest (pc + instr.encode.length) 0 := by
  cases instr with
  | op operation =>
      show jumpdestsFrom (operation.byte :: rest) pc 0 = _
      rw [jumpdestsFrom]
      by_cases hdest : operation = Op.jumpdest
      · rw [hdest, if_pos rfl, if_pos rfl]
        rfl
      · have hbyte : operation.byte ≠ Op.jumpdest.byte := by
          intro heq
          have hop := congrArg Op.ofByte heq
          rw [Op.ofByte_byte, Op.ofByte_byte] at hop
          exact hdest (Option.some.inj hop)
        rw [if_neg hbyte, pushWidth_byte,
          if_neg (fun heq => hdest (Instr.op.inj heq))]
        rfl
  | push bytes =>
      have hwidth := pushWidth_push hwf.left hwf.right
      have hbyte : UInt8.ofNat (0x5f + bytes.length) ≠ Op.jumpdest.byte := by
        intro heq
        rw [heq, pushWidth_byte] at hwidth
        exact Nat.lt_irrefl 0 (hwidth ▸ hwf.left)
      show jumpdestsFrom (UInt8.ofNat (0x5f + bytes.length) ::
        (bytes ++ rest)) pc 0 = _
      rw [jumpdestsFrom, if_neg hbyte, hwidth, jumpdestsFrom_skip,
        if_neg Instr.noConfusion]
      show _ = jumpdestsFrom rest (pc + (bytes.length + 1)) 0
      rw [Nat.add_assoc, Nat.add_comm 1]

theorem mem_jumpdestsFrom {before : List Instr} (after : List Instr)
    (hwf : forall instr, instr ∈ before -> instr.Wf) (pc : Nat) :
    pc + (assemble before).length ∈ jumpdestsFrom
      (assemble (before ++ Instr.op Op.jumpdest :: after)) pc 0 := by
  induction before generalizing pc with
  | nil =>
      rw [List.nil_append, assemble_cons,
        jumpdestsFrom_encode (show (Instr.op Op.jumpdest).Wf from trivial)]
      exact List.mem_cons_self
  | cons instr before ih =>
      have hrest := ih (fun other hmem =>
        hwf other (List.mem_cons_of_mem _ hmem)) (pc + instr.encode.length)
      rw [List.cons_append, assemble_cons,
        jumpdestsFrom_encode (hwf instr List.mem_cons_self), assemble_cons,
        List.length_append, ← Nat.add_assoc]
      exact List.mem_append_right _ hrest

/-!
## Following a run
-/

theorem run_succ {env : Env} {code : List UInt8} {fuel pc pc' : Nat}
    {m m' : Machine} (h : step env code pc m = Except.ok (pc', m')) :
    run env code (fuel + 1) pc m = run env code fuel pc' m' := by
  rw [run, h]

theorem run_halt {env : Env} {code : List UInt8} {fuel pc : Nat}
    {m : Machine} {halt : Halt} (h : step env code pc m = Except.error halt) :
    run env code (fuel + 1) pc m = some halt := by
  rw [run, h]

/-- With the instructions `rest` of the program left and enough fuel, the
machine ends as `halt` says. -/
def Ends (env : Env) (program : Program) (rest : List Instr) (m : Machine)
    (halt : Halt) : Prop :=
  forall before, program.instrs = before ++ rest ->
    exists enough, forall fuel, enough ≤ fuel ->
      run env (assemble program.instrs) fuel (assemble before).length m =
        some halt

section Rules

variable {env : Env} {program : Program} {instr : Instr}
variable {rest : List Instr} {m m' : Machine} {halt : Halt}

theorem perform_stack_length {op : Op} {stack : List Word}
    (hstack : m.stack = stack)
    (h : perform env m op stack = Effect.next m') :
    m'.stack.length ≤ stack.length + 1 := by
  unfold perform at h
  split at h <;> try split at h
  all_goals cases h
  all_goals simp only [List.length_cons, hstack]
  all_goals lia

theorem effect_stack_length (h : effect env instr m = Effect.next m') :
    m'.stack.length ≤ m.stack.length + 1 := by
  unfold effect at h
  split at h
  · cases h
    exact Nat.le_refl _
  · exact perform_stack_length rfl h

theorem step_at {before : List Instr}
    (hsplit : program.instrs = before ++ instr :: rest) :
    decode (assemble program.instrs) (assemble before).length =
      some instr := by
  have hmem : instr ∈ program.instrs := by
    rw [hsplit]
    exact List.mem_append_right _ List.mem_cons_self
  rw [hsplit, assemble_append, assemble_cons]
  exact decode_append _ (program.wf instr hmem) _

theorem ends_of_step {before : List Instr} {pc' enough : Nat}
    (hstep : step env (assemble program.instrs) (assemble before).length m =
      Except.ok (pc', m'))
    (h : forall fuel, enough ≤ fuel ->
      run env (assemble program.instrs) fuel pc' m' = some halt) :
    exists enough, forall fuel, enough ≤ fuel ->
      run env (assemble program.instrs) fuel (assemble before).length m =
        some halt := by
  refine ⟨enough + 1, ?_⟩
  intro fuel hfuel
  cases fuel with
  | zero => lia
  | succ fuel =>
      rw [run_succ hstep]
      exact h fuel (Nat.le_of_succ_le_succ hfuel)

theorem Ends.next (heffect : effect env instr m = Effect.next m')
    (hroom : m.stack.length < stackLimit)
    (h : Ends env program rest m' halt) :
    Ends env program (instr :: rest) m halt := by
  intro before hsplit
  have hstack := Nat.le_trans (effect_stack_length heffect) hroom
  have hsplit' : program.instrs = (before ++ [instr]) ++ rest := by
    rw [hsplit, List.append_assoc]
    rfl
  rcases h (before ++ [instr]) hsplit' with ⟨enough, henough⟩
  refine ends_of_step ?_ henough
  unfold step
  rw [step_at hsplit]
  dsimp only
  rw [heffect]
  dsimp only
  rw [if_pos hstack, assemble_append, List.length_append, assemble_cons,
    assemble_nil, List.append_nil]

theorem Ends.jump {target : List Instr} {pc : Nat}
    (heffect : effect env instr m = Effect.jump pc m')
    (hlabel : program.LabelAt (Instr.op Op.jumpdest :: target) pc)
    (h : Ends env program (Instr.op Op.jumpdest :: target) m' halt) :
    Ends env program (instr :: rest) m halt := by
  intro here hsplit
  rcases hlabel with ⟨before, hlabel, hpc⟩
  rcases h before hlabel with ⟨enough, henough⟩
  have hbefore : forall instr, instr ∈ before -> instr.Wf := by
    intro other hmem
    apply program.wf other
    rw [hlabel]
    exact List.mem_append_left _ hmem
  have hvalid : pc ∈ jumpdests (assemble program.instrs) := by
    have hmem := mem_jumpdestsFrom target hbefore 0
    rw [Nat.zero_add, ← hlabel, ← hpc] at hmem
    exact hmem
  refine ends_of_step ?_ henough
  unfold step
  rw [step_at hsplit]
  dsimp only
  rw [heffect]
  dsimp only
  rw [if_pos hvalid, hpc]

theorem Ends.stop {result : Result}
    (heffect : effect env instr m = Effect.halt result) :
    Ends env program (instr :: rest) m
      { result := result, calls := m.calls } := by
  intro before hsplit
  refine ⟨1, ?_⟩
  intro fuel hfuel
  have hstep : step env (assemble program.instrs) (assemble before).length
      m = Except.error { result := result, calls := m.calls } := by
    unfold step
    rw [step_at hsplit]
    dsimp only
    rw [heffect]
  cases fuel with
  | zero => lia
  | succ fuel => exact run_halt hstep

/-- A stretch of instructions that neither jump nor halt. -/
def runBlock (env : Env) : List Instr -> Machine -> Option Machine
  | [], m => some m
  | instr :: rest, m =>
      match effect env instr m with
      | Effect.next m' => runBlock env rest m'
      | _ => none

theorem Ends.block {block : List Instr}
    (hblock : runBlock env block m = some m')
    (hroom : m.stack.length + block.length ≤ stackLimit)
    (h : Ends env program rest m' halt) :
    Ends env program (block ++ rest) m halt := by
  induction block generalizing m with
  | nil =>
      cases hblock
      exact h
  | cons instr block ih =>
      rw [List.length_cons] at hroom
      rw [runBlock] at hblock
      split at hblock
      · rename_i next heffect
        have hlength := effect_stack_length heffect
        exact Ends.next heffect (by lia) (ih hblock (by lia))
      · cases hblock

section Jumps

variable {stack : List Word} {memory : Memory} {returndata : List UInt8}
variable {calls : List Message} {target : List Instr} {pc condition : Word}

theorem Ends.jump_op
    (hlabel : program.LabelAt (Instr.op Op.jumpdest :: target) pc.toNat)
    (h : Ends env program (Instr.op Op.jumpdest :: target)
      ⟨stack, memory, returndata, calls⟩ halt) :
    Ends env program (Instr.op Op.jump :: rest)
      ⟨pc :: stack, memory, returndata, calls⟩ halt :=
  Ends.jump rfl hlabel h

theorem Ends.jumpi_taken (hcondition : condition ≠ 0)
    (hlabel : program.LabelAt (Instr.op Op.jumpdest :: target) pc.toNat)
    (h : Ends env program (Instr.op Op.jumpdest :: target)
      ⟨stack, memory, returndata, calls⟩ halt) :
    Ends env program (Instr.op Op.jumpi :: rest)
      ⟨pc :: condition :: stack, memory, returndata, calls⟩ halt :=
  Ends.jump (if_neg hcondition) hlabel h

theorem Ends.jumpi_fall (hcondition : condition = 0)
    (hroom : stack.length + 2 < stackLimit)
    (h : Ends env program rest ⟨stack, memory, returndata, calls⟩ halt) :
    Ends env program (Instr.op Op.jumpi :: rest)
      ⟨pc :: condition :: stack, memory, returndata, calls⟩ halt :=
  Ends.next (if_pos hcondition) hroom h

end Jumps

end Rules

end Evm
end Numen
