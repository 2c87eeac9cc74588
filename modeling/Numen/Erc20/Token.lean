import Numen.Erc20.Host

/-!
# The ERC20 of the native token

`balances_erc20.rs`: the precompile behind the proxy contract at `0x…0802`.
Every charge of the meter may fail, and a call that fails in any way is rolled
back by its caller.
-/

namespace Numen
namespace Erc20

open Foundation
open Accounts

def slot : Bytes 2 :=
  { toList := [0x08, 0x02]
    length_eq := rfl }

/-- `slot_address`. -/
def slotAddress (start : Nat) (hfits : start + 2 ≤ 20) : H160 :=
  (Bytes.replicate 20 0).copyFromSlice start slot hfits

def address : H160 :=
  slotAddress 18 (by decide)

def precompile : H160 :=
  slotAddress 16 (by decide)

def ascii (text : String) : List UInt8 :=
  text.toList.map (fun c => UInt8.ofNat c.toNat)

structure Permit where
  owner : H160
  spender : H160
  value : U256
  deadline : U256
  v : UInt8
  r : Bytes 32
  s : Bytes 32
deriving DecidableEq

/-- The functions of the interface, with their arguments. -/
inductive Call where
  | name
  | symbol
  | decimals
  | totalSupply
  | balanceOf (owner : H160)
  | allowance (owner spender : H160)
  | approve (spender : H160) (value : U256)
  | transfer (target : H160) (value : U256)
  | transferFrom (source target : H160) (value : U256)
  | withdraw (dest : Bytes 32) (value : U256)
  | deposit
  | nonces (owner : H160)
  | domainSeparator
  | permit (permit : Permit)
deriving DecidableEq

def Call.writes : Call -> Bool
  | approve _ _ | transfer _ _ | transferFrom _ _ _ | withdraw _ _ | deposit
  | permit _ => true
  | _ => false

inductive Output where
  | nothing
  | text (value : String)
  | bool (value : Bool)
  | uint8 (value : UInt8)
  | uint256 (value : U256)
  | bytes32 (value : Bytes 32)
deriving DecidableEq

inductive Error where
  | revert (reason : String)
  | dispatch (error : DispatchError)
  | outOfGas
deriving DecidableEq

/-- The frame the precompile runs in: the one of the proxy. -/
structure Frame where
  accountId : AccountId
  /-- `none` for the root origin. -/
  caller : Option AccountId
  value : U256
  readOnly : Bool
  now : U256

structure Env extends World where
  meter : Nat

/-!
## Helpers
-/

def dbReads (count : Nat) : Weight where
  reads := count

def dbWrites (count : Nat) : Weight where
  writes := count

/-- A transfer, with the issuance writes of a new account's deposit. -/
def transferWeight : Weight :=
  Weight.add { transfers := 1 } (dbWrites 2)

def charge (host : Host) (cost : Cost) (env : Env) : Except Error Env :=
  match host.charge cost env.meter with
  | some meter => Except.ok { env with meter := meter }
  | none => Except.error Error.outOfGas

def emit (host : Host) (event : Event) (env : Env) : Except Error Env := do
  let env <- charge host (Cost.depositEvent event.topics event.dataLen) env
  return { env with logs := env.logs ++ [event] }

/-- The calling account and its address. -/
def caller (host : Host) (frame : Frame) (env : Env) :
    Except Error ((AccountId × H160) × Env) := do
  let env <- charge host Cost.caller env
  match frame.caller with
  | none => Except.error (Error.revert "ERC20: no account to act for")
  | some account => Except.ok ((account, host.toAddress account), env)

def accountOf (host : Host) (address : H160) (env : Env) :
    Except Error (AccountId × Env) := do
  let env <- charge host Cost.toAccountId env
  return (host.toAccountId address, env)

def keccak (host : Host) (data : List UInt8) (env : Env) :
    Except Error (Bytes 32 × Env) := do
  let env <- charge host (Cost.hashKeccak256 data.length) env
  return (host.keccak256 data, env)

/-- `Balance::try_from`: balances have 128 bits. -/
def toBalance (value : U256) : Except Error Nat :=
  if value.toNat < 2 ^ 128 then Except.ok value.toNat
  else Except.error (Error.revert "ERC20: amount overflow")

/-- A call of another pallet whose error becomes a revert of its own. -/
def orRevert (reason : String) (result : Except DispatchError State) :
    Except Error State :=
  match result with
  | Except.ok s => Except.ok s
  | Except.error _ => Except.error (Error.revert reason)

def orFail (result : Except DispatchError State) : Except Error State :=
  match result with
  | Except.ok s => Except.ok s
  | Except.error error => Except.error (Error.dispatch error)

/-- Give an account that does not exist yet an inactive existential deposit. -/
def openAccount (host : Host) (target : AccountId) (s : State) :
    Except Error State :=
  if host.accountExists target s = true then
    Except.ok s
  else do
    let s <- orFail
      (host.pallets.mintInto target host.pallets.minimumBalance s)
    return host.pallets.deactivate host.pallets.minimumBalance s

/-- Move `value` and keep the existential deposit behind. -/
def moveFunds (host : Host) (source target : AccountId) (value : U256)
    (s : State) : Except Error State := do
  let amount <- toBalance value
  if amount = 0 then
    return s
  let s <- openAccount host target s
  orRevert "ERC20: transfer failed"
    (host.pallets.transfer source target amount Preservation.preserve s)

/-- `to_big_endian`. -/
def toBigEndian (value : U256) : Bytes 32 where
  toList := BigEndian.digits 32 value.toNat
  length_eq := BigEndian.length_digits 32 _

def domainBuffer (typeHash name version : Bytes 32) (chainId : UInt64) :
    Bytes 160 :=
  (Bytes.replicate 160 0)
    |>.copyFromSlice 0 typeHash (by decide)
    |>.copyFromSlice 32 name (by decide)
    |>.copyFromSlice 64 version (by decide)
    |>.copyFromSlice 96 (toBigEndian (BitVec.ofNat 256 chainId.toNat))
      (by decide)
    |>.copyFromSlice 140 address (by decide)

/-- The domain the permits are signed over. -/
def domainSeparator (host : Host) (env : Env) :
    Except Error (Bytes 32 × Env) := do
  let (typeHash, env) <- keccak host (ascii ("EIP712Domain(string name," ++
    "string version,uint256 chainId,address verifyingContract)")) env
  let (name, env) <- keccak host (ascii "Numen") env
  let (version, env) <- keccak host (ascii "1") env
  keccak host (domainBuffer typeHash name version host.chainId).toList env

/-- The recovery identifier of a signature, in either of its encodings. -/
def recoveryId (v : UInt8) : Option UInt8 :=
  if v = 27 ∨ v = 28 then some (v - 27)
  else if v = 0 ∨ v = 1 then some v
  else none

def signatureBuffer (r s : Bytes 32) (recoveryId : UInt8) : Bytes 65 :=
  (Bytes.replicate 65 0)
    |>.copyFromSlice 0 r (by decide)
    |>.copyFromSlice 32 s (by decide)
    |>.copyFromSlice 64 (Bytes.replicate 1 recoveryId) (by decide)

/-- The address whose key signed `digest`, if there is one. -/
def signer (host : Host) (digest : Bytes 32) (v : UInt8) (r s : Bytes 32)
    (env : Env) : Except Error (Option H160 × Env) :=
  match recoveryId v with
  | none => Except.ok (none, env)
  | some recoveryId => do
      let env <- charge host Cost.ecdsaRecovery env
      match host.ecdsaRecover (signatureBuffer r s recoveryId) digest with
      | none => return (none, env)
      | some publicKey => do
          let env <- charge host Cost.ecdsaToEthAddress env
          return (host.ecdsaToEthAddress publicKey, env)

def permitBuffer (typeHash : Bytes 32) (permit : Permit) (nonce : U256) :
    Bytes 192 :=
  (Bytes.replicate 192 0)
    |>.copyFromSlice 0 typeHash (by decide)
    |>.copyFromSlice 44 permit.owner (by decide)
    |>.copyFromSlice 76 permit.spender (by decide)
    |>.copyFromSlice 96 (toBigEndian permit.value) (by decide)
    |>.copyFromSlice 128 (toBigEndian nonce) (by decide)
    |>.copyFromSlice 160 (toBigEndian permit.deadline) (by decide)

def digestTag : Bytes 2 :=
  { toList := [0x19, 0x01]
    length_eq := rfl }

def digestBuffer (separator structHash : Bytes 32) : Bytes 66 :=
  (Bytes.replicate 66 0)
    |>.copyFromSlice 0 digestTag (by decide)
    |>.copyFromSlice 2 separator (by decide)
    |>.copyFromSlice 34 structHash (by decide)

/-- `saturating_add`. -/
def saturatingAdd (a b : U256) : U256 :=
  BitVec.ofNat 256 (satAdd u256Max a.toNat b.toNat)

/-- `checked_sub`. -/
def checkedSub (a b : U256) : Option U256 :=
  if b.toNat ≤ a.toNat then some (BitVec.ofNat 256 (a.toNat - b.toNat))
  else none

/-!
## The functions of the interface
-/

section Functions

variable (host : Host) (frame : Frame)

def totalSupply (env : Env) : Except Error (Output × Env) := do
  let env <- charge host (Cost.weight (dbReads 1)) env
  return (Output.uint256 (BitVec.ofNat 256 env.ledger.totalIssuance), env)

/-- `Ext::balance_of` shows what an account can spend without dying. -/
def shownBalance (who : AccountId) (s : State) : Nat :=
  host.pallets.reducibleBalance who Preservation.preserve Fortitude.polite s

def balanceOf (owner : H160) (env : Env) : Except Error (Output × Env) := do
  let env <- charge host Cost.balanceOf env
  let balance := shownBalance host (host.toAccountId owner) env.ledger
  return (Output.uint256 (BitVec.ofNat 256 balance), env)

def allowance (owner spender : H160) (env : Env) :
    Except Error (Output × Env) := do
  let env <- charge host (Cost.weight (dbReads 1)) env
  return (Output.uint256 (env.allowance owner spender), env)

def approve (spender : H160) (value : U256) (env : Env) :
    Except Error (Output × Env) := do
  let env <- charge host (Cost.weight (dbWrites 1)) env
  let ((_, owner), env) <- caller host frame env
  let env := { env with
    toWorld := env.toWorld.setAllowance owner spender value }
  let env <- emit host (Event.approval owner spender value) env
  return (Output.bool true, env)

def transfer (target : H160) (value : U256) (env : Env) :
    Except Error (Output × Env) := do
  let env <- charge host (Cost.weight transferWeight) env
  let ((sourceAccount, source), env) <- caller host frame env
  let (targetAccount, env) <- accountOf host target env
  let ledger <- moveFunds host sourceAccount targetAccount value env.ledger
  let env <- emit host (Event.transfer source target value)
    { env with ledger := ledger }
  return (Output.bool true, env)

/-- Take `value` off what `spender` may spend for somebody else. -/
def spendAllowance (source spender : H160) (value : U256) (env : Env) :
    Except Error Env :=
  if source ≠ spender then
    match checkedSub (env.allowance source spender) value with
    | none => Except.error (Error.revert "ERC20: insufficient allowance")
    | some left => Except.ok { env with
        toWorld := env.toWorld.setAllowance source spender left }
  else
    Except.ok env

def transferFrom (source target : H160) (value : U256) (env : Env) :
    Except Error (Output × Env) := do
  let env <- charge host (Cost.weight
    ((transferWeight.add (dbReads 1)).add (dbWrites 1))) env
  let ((_, spender), env) <- caller host frame env
  let env <- spendAllowance source spender value env
  let (sourceAccount, env) <- accountOf host source env
  let (targetAccount, env) <- accountOf host target env
  let ledger <- moveFunds host sourceAccount targetAccount value env.ledger
  let env <- emit host (Event.transfer source target value)
    { env with ledger := ledger }
  return (Output.bool true, env)

def withdraw (dest : Bytes 32) (value : U256) (env : Env) :
    Except Error (Output × Env) := do
  let env <- charge host (Cost.weight transferWeight) env
  let ((sourceAccount, source), env) <- caller host frame env
  let ledger <- moveFunds host sourceAccount dest value env.ledger
  let env <- emit host (Event.withdrawal source dest value)
    { env with ledger := ledger }
  return (Output.bool true, env)

/-- The native token and the ERC20 are one balance, so a deposit hands the value
straight back and only leaves the event. -/
def deposit (env : Env) : Except Error (Output × Env) := do
  let env <- charge host (Cost.weight transferWeight) env
  if frame.value = 0 then
    Except.error (Error.revert "ERC20: cannot deposit zero")
  let ((targetAccount, target), env) <- caller host frame env
  let amount <- toBalance frame.value
  let ledger <- orRevert "ERC20: deposit refund failed"
    (host.pallets.transfer frame.accountId targetAccount amount
      Preservation.preserve env.ledger)
  let env <- emit host (Event.deposit target frame.value)
    { env with ledger := ledger }
  return (Output.nothing, env)

def nonces (owner : H160) (env : Env) : Except Error (Output × Env) := do
  let env <- charge host (Cost.weight (dbReads 1)) env
  return (Output.uint256 (env.nonce owner), env)

def domain (env : Env) : Except Error (Output × Env) := do
  let env <- charge host (Cost.weight (dbReads 1)) env
  let (separator, env) <- domainSeparator host env
  return (Output.bytes32 separator, env)

def permitDigest (permit : Permit) (nonce : U256) (env : Env) :
    Except Error (Bytes 32 × Env) := do
  let (typeHash, env) <- keccak host (ascii ("Permit(address owner," ++
    "address spender,uint256 value,uint256 nonce,uint256 deadline)")) env
  let (separator, env) <- domainSeparator host env
  let (structHash, env) <-
    keccak host (permitBuffer typeHash permit nonce).toList env
  keccak host (digestBuffer separator structHash).toList env

def permit (permit : Permit) (env : Env) : Except Error (Output × Env) := do
  let env <- charge host
    (Cost.weight ((dbReads 2).add (dbWrites 2))) env
  if permit.deadline.toNat < frame.now.toNat then
    Except.error (Error.revert "Permit expired")
  let nonce := env.nonce permit.owner
  let (digest, env) <- permitDigest host permit nonce env
  let (signer, env) <- signer host digest permit.v permit.r permit.s env
  if signer ≠ some permit.owner then
    Except.error (Error.revert "Invalid permit")
  let env := { env with
    toWorld := (env.toWorld.setNonce permit.owner
      (saturatingAdd nonce 1)).setAllowance permit.owner permit.spender
        permit.value }
  let env <- emit host
    (Event.approval permit.owner permit.spender permit.value) env
  return (Output.nothing, env)

/-- `BalancesErc20::call`. -/
def call (input : Call) (env : Env) : Except Error (Output × Env) :=
  if host.toAddress frame.accountId ≠ address then
    Except.error (Error.revert
      "ERC20: call the token at 0x0000000000000000000000000000000000000802")
  else if input.writes = true ∧ frame.readOnly = true then
    Except.error (Error.revert
      "Can't call non-static function in static context")
  else if input ≠ Call.deposit ∧ frame.value ≠ 0 then
    Except.error (Error.revert "Function is not payable")
  else
    match input with
    | Call.name => Except.ok (Output.text "Numen", env)
    | Call.symbol => Except.ok (Output.text "NUMN", env)
    | Call.decimals => Except.ok (Output.uint8 18, env)
    | Call.totalSupply => totalSupply host env
    | Call.balanceOf owner => balanceOf host owner env
    | Call.allowance owner spender => allowance host owner spender env
    | Call.approve spender value => approve host frame spender value env
    | Call.transfer target value => transfer host frame target value env
    | Call.transferFrom source target value =>
        transferFrom host frame source target value env
    | Call.withdraw dest value => withdraw host frame dest value env
    | Call.deposit => deposit host frame env
    | Call.nonces owner => nonces host owner env
    | Call.domainSeparator => domain host env
    | Call.permit arguments => permit host frame arguments env

end Functions

/-!
## Calls through the proxy
-/

def proxyAccount (host : Host) : AccountId :=
  host.toAccountId address

structure Transaction where
  sender : Option AccountId
  value : U256
  readOnly : Bool
  now : U256
  gas : Nat
  input : Call

/-- The proxy delegates, so the precompile runs in its frame. -/
def Transaction.frame (host : Host) (tx : Transaction) : Frame where
  accountId := proxyAccount host
  caller := tx.sender
  value := tx.value
  readOnly := tx.readOnly
  now := tx.now

def transact (host : Host) (tx : Transaction) (w : World) :
    Except Error (Output × World) := do
  let ledger <- orFail
    (host.transferValue tx.sender (proxyAccount host) tx.value w.ledger)
  let (output, env) <- call host (tx.frame host) tx.input
    { w with ledger := ledger, meter := tx.gas }
  return (output, env.toWorld)

/-- A frame that fails is rolled back, the value it was sent included. -/
def step (host : Host) (w : World) (tx : Transaction) : World :=
  match transact host tx w with
  | Except.ok (_, after) => after
  | Except.error _ => w

theorem step_of_ok {host : Host} {w after : World} {tx : Transaction}
    {output : Output} (h : transact host tx w = Except.ok (output, after)) :
    step host w tx = after := by
  unfold step
  rw [h]

theorem step_of_error {host : Host} {w : World} {tx : Transaction}
    {error : Error} (h : transact host tx w = Except.error error) :
    step host w tx = w := by
  unfold step
  rw [h]

theorem transact_of_isOk {host : Host} {w : World} {tx : Transaction}
    (h : (transact host tx w).isOk = true) :
    exists output,
      transact host tx w = Except.ok (output, step host w tx) := by
  rcases except_of_isOk h with ⟨⟨output, after⟩, hresult⟩
  rw [step_of_ok hresult]
  exact ⟨output, hresult⟩

end Erc20
end Numen
