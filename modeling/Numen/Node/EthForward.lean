import Numen.Foundation.Hexadecimal

/-!
# The Ethereum forwarder

The node hands Ethereum JSON-RPC calls to eth-rpc, which answers for the blocks
pallet-revive built, or to a frozen Frontier node for the blocks before them.
The servers are parameters; what is sent to them is recorded next to the answer.
The block of the switch is an argument here, `none` as long as Frontier still
builds the blocks.
-/

namespace Numen
namespace Node

open Foundation

/-!
## JSON
-/

/-- A JSON value.  Numbers are kept as written, the forwarder reads none. -/
inductive Value where
  | null
  | bool (value : Bool)
  | number (literal : String)
  | string (text : String)
  | array (items : List Value)
  | object (fields : List (String × Value))

abbrev Fields : Type :=
  List (String × Value)

namespace Fields

def get (fields : Fields) (key : String) : Option Value :=
  match fields with
  | [] => none
  | field :: rest => if field.1 = key then some field.2 else get rest key

def containsKey (fields : Fields) (key : String) : Bool :=
  (get fields key).isSome

def insert (fields : Fields) (key : String) (value : Value) : Fields :=
  (key, value) :: fields.filter fun field => field.1 ≠ key

theorem get_cons (field : String × Value) (rest : Fields) (key : String) :
    get (field :: rest) key =
      if field.1 = key then some field.2 else get rest key :=
  rfl

theorem get_insert (fields : Fields) (key key' : String) (value : Value) :
    get (insert fields key value) key' =
      if key' = key then some value else get fields key' := by
  unfold insert
  rw [get_cons]
  by_cases heq : key' = key
  · rw [if_pos heq, if_pos heq.symm]
  · rw [if_neg heq, if_neg (Ne.symm heq)]
    induction fields with
    | nil => rfl
    | cons field rest ih =>
        by_cases hfield : field.1 = key
        · have hskip : field.1 ≠ key' := fun h => heq (h.symm.trans hfield)
          rw [List.filter_cons_of_neg (by simpa using hfield), ih, get_cons,
            if_neg hskip]
        · rw [List.filter_cons_of_pos (by simpa using hfield), get_cons,
            get_cons, ih]

end Fields

/-!
## Block numbers
-/

/-- Which side of the switch holds a block. -/
inductive Side where
  | revive
  | frontier
  /-- Known by hash only, so eth-rpc is asked first. -/
  | hash
deriving DecidableEq

def parseQuantity (value : String) : Option Nat :=
  match value.toList with
  | '0' :: 'x' :: digits => fromStrRadix16 digits
  | _ => none

/-- `format!("{number:#x}")`. -/
def quantityText (number : Nat) : String :=
  String.ofList ('0' :: 'x' :: Nat.toDigits 16 number)

def quantity (number : Nat) : Value :=
  Value.string (quantityText number)

def sideOfText (switch : Nat) (text : String) : Side :=
  if text = "earliest" then Side.frontier
  else if text.utf8ByteSize = 66 then Side.hash
  else
    match parseQuantity text with
    | some number => if number < switch then Side.frontier else Side.revive
    | none => Side.revive

mutual

def sideOf (switch : Nat) : Value -> Side
  | Value.string text => sideOfText switch text
  | Value.object fields =>
      if Fields.containsKey fields "blockHash" then Side.hash
      else sideOfField switch fields
  | _ => Side.revive

def sideOfField (switch : Nat) : List (String × Value) -> Side
  | [] => Side.revive
  | (key, value) :: rest =>
      if key = "blockNumber" then sideOf switch value
      else sideOfField switch rest

end

/-- The side of the switch `block` lies on, a missing block meaning the head. -/
def side (block : Option Value) (switch : Nat) : Side :=
  match block with
  | some value => sideOf switch value
  | none => Side.revive

/-- The block number a filter bound stands for, the head being the highest. -/
def number (bound : Option Value) : Nat :=
  match bound with
  | some (Value.string tag) =>
      if tag = "earliest" then 0 else (parseQuantity tag).getD u64Max
  | _ => u64Max

/-!
## Calls
-/

structure ErrorObject where
  code : Int
  message : String
  data : Option String

/-- Why a call to a server failed: it answered with an error, or it did not
answer. -/
inductive ClientError where
  | call (error : ErrorObject)
  | other (display : String)

def internalErrorCode : Int :=
  -32603

def upstreamError : ClientError -> ErrorObject
  | ClientError.call error => error
  | ClientError.other display =>
      { code := internalErrorCode
        message := "Ethereum RPC upstream failed: " ++ display
        data := none }

/-- What a server answers to a method and its parameters. -/
abbrev Upstream : Type :=
  String -> List Value -> Except ClientError Value

inductive Server where
  | revive
  | frontier
deriving DecidableEq

structure Request where
  server : Server
  method : String
  params : List Value

structure Sent (α : Type) where
  requests : List Request
  result : α

def Sent.map {α β : Type} (f : α -> β) (sent : Sent α) : Sent β :=
  ⟨sent.requests, f sent.result⟩

/-- The requests of two calls, with the answers of both. -/
def Sent.join {α β : Type} (first : Sent α) (second : Sent β) : Sent (α × β) :=
  ⟨first.requests ++ second.requests, (first.result, second.result)⟩

/-- Ask a second server after the first, and take its answer. -/
def Sent.next {α : Type} (first second : Sent α) : Sent α :=
  (first.join second).map Prod.snd

structure EthForward where
  revive : Upstream
  frontier : Option Upstream

/-- Where the block a method asks about sits in its parameters. -/
inductive Route where
  /-- No block, the method reads the head or sends something. -/
  | head
  /-- A block number, tag or hash at this position. -/
  | block (position : Nat)
  /-- A block or transaction hash first. -/
  | hash
  /-- A log filter, which may span both sides. -/
  | logs

/-- The methods eth-rpc serves, each with the block it is about. -/
def methods : List (String × Route) :=
  [("eth_accounts", Route.head),
   ("eth_blockNumber", Route.head),
   ("eth_call", Route.block 1),
   ("eth_chainId", Route.head),
   ("eth_estimateGas", Route.block 1),
   ("eth_feeHistory", Route.head),
   ("eth_gasPrice", Route.head),
   ("eth_getBalance", Route.block 1),
   ("eth_getBlockByHash", Route.hash),
   ("eth_getBlockByNumber", Route.block 0),
   ("eth_getBlockReceipts", Route.block 0),
   ("eth_getBlockTransactionCountByHash", Route.hash),
   ("eth_getBlockTransactionCountByNumber", Route.block 0),
   ("eth_getCode", Route.block 1),
   ("eth_getLogs", Route.logs),
   ("eth_getStorageAt", Route.block 2),
   ("eth_getTransactionByBlockHashAndIndex", Route.hash),
   ("eth_getTransactionByBlockNumberAndIndex", Route.block 0),
   ("eth_getTransactionByHash", Route.hash),
   ("eth_getTransactionCount", Route.block 1),
   ("eth_getTransactionReceipt", Route.hash),
   ("eth_maxPriorityFeePerGas", Route.head),
   ("eth_sendRawTransaction", Route.head),
   ("eth_sendTransaction", Route.head),
   ("eth_syncing", Route.head),
   ("net_listening", Route.head),
   ("net_peerCount", Route.head),
   ("net_version", Route.head),
   ("web3_clientVersion", Route.head)]

namespace EthForward

variable (self : EthForward)

def callRevive (method : String) (params : List Value) :
    Sent (Except ClientError Value) :=
  ⟨[⟨Server.revive, method, params⟩], self.revive method params⟩

def callFrontier (frontier : Upstream) (method : String)
    (params : List Value) : Sent (Except ClientError Value) :=
  ⟨[⟨Server.frontier, method, params⟩], frontier method params⟩

/-- Where calls go before the switch, when Frontier still builds the blocks. -/
def callBeforeSwitch (method : String) (params : List Value) :
    Sent (Except ClientError Value) :=
  match self.frontier with
  | some frontier => callFrontier frontier method params
  | none => self.callRevive method params

/-- Put the two halves of an answer together, the earlier one first. -/
def mergeLogs :
    Except ClientError Value × Except ClientError Value ->
      Except ClientError Value
  | (early, late) => do
      let early <- early
      let late <- late
      match early, late with
      | Value.array early, Value.array late =>
          return Value.array (early ++ late)
      | _, late => return late

/-- A filter with a block hash is about one block, and eth-rpc is asked
first. -/
def logsByHash (frontier : Upstream) (params : List Value) :
    Sent (Except ClientError Value) :=
  let answer := self.callRevive "eth_getLogs" params
  match answer.result with
  | Except.ok (Value.array []) =>
      answer.next (callFrontier frontier "eth_getLogs" params)
  | Except.error (ClientError.call _) =>
      answer.next (callFrontier frontier "eth_getLogs" params)
  | _ => answer

/-- A filter that spans the switch is split there. -/
def logs (params : List Value) (switch : Nat) :
    Sent (Except ClientError Value) :=
  match self.frontier, params.head? with
  | some frontier, some (Value.object filter) =>
      if Fields.containsKey filter "blockHash" then
        self.logsByHash frontier params
      else
        let low := number (Fields.get filter "fromBlock")
        let high := number (Fields.get filter "toBlock")
        if high < switch then
          callFrontier frontier "eth_getLogs" params
        else if switch ≤ low then
          self.callRevive "eth_getLogs" params
        else
          let early := Fields.insert filter "toBlock" (quantity (switch - 1))
          let late := Fields.insert filter "fromBlock" (quantity switch)
          ((callFrontier frontier "eth_getLogs" [Value.object early]).join
            (self.callRevive "eth_getLogs" [Value.object late])).map mergeLogs
  | _, _ => self.callRevive "eth_getLogs" params

/-- A call about a block or transaction hash goes to the Frontier node if
eth-rpc does not know it. -/
def callByHash (frontier : Upstream) (method : String) (params : List Value) :
    Sent (Except ClientError Value) :=
  let answer := self.callRevive method params
  match answer.result with
  | Except.ok Value.null => answer.next (callFrontier frontier method params)
  | Except.error (ClientError.call _) =>
      answer.next (callFrontier frontier method params)
  | _ => answer

def callSide (side : Side) (method : String) (params : List Value) :
    Sent (Except ClientError Value) :=
  match side, self.frontier with
  | Side.frontier, some frontier => callFrontier frontier method params
  | Side.hash, some frontier => self.callByHash frontier method params
  | _, _ => self.callRevive method params

def forward (switch : Option Nat) (method : String) (route : Route)
    (params : List Value) : Sent (Except ErrorObject Value) :=
  let sent :=
    match switch with
    | none => self.callBeforeSwitch method params
    | some switch =>
        match route with
        | Route.head => self.callSide Side.revive method params
        | Route.hash => self.callSide Side.hash method params
        | Route.block position =>
            self.callSide (side (params[position]?) switch) method params
        | Route.logs => self.logs params switch
  sent.map (Except.mapError upstreamError)

/-- The registered methods.  Other names never reach the forwarder. -/
def serve (switch : Option Nat) (method : String) (params : List Value) :
    Option (Sent (Except ErrorObject Value)) :=
  (methods.lookup method).map fun route =>
    self.forward switch method route params

end EthForward

end Node
end Numen
