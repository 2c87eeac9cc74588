import Mathlib.Data.List.Pairwise
import Numen.Node.EthForward

/-!
# Log filters across the switch

What a filter asks for is the blocks between its bounds.  Split at the switch,
the Frontier node is asked for the blocks below it and eth-rpc for the others,
each of them once, and the answers put together are in block order.
-/

namespace Numen
namespace Node

open Foundation

/-!
## What a bound stands for
-/

def IsQuantity (text : String) (n : Nat) : Prop :=
  exists digits, text = String.ofList ('0' :: 'x' :: digits) ∧
    digits ≠ [] ∧ numeralFrom 0 digits = some n ∧ n ≤ u64Max

/-- A bound without a number: it is absent, or some tag other than
`earliest`. -/
def IsTag (bound : Option Value) : Prop :=
  forall text, bound = some (Value.string text) ->
    text ≠ "earliest" ∧
      forall digits, text ≠ String.ofList ('0' :: 'x' :: digits)

/-- The block a bound stands for, `head` being the one meant by a tag. -/
inductive Stands (head : Nat) : Option Value -> Nat -> Prop where
  | earliest : Stands head (some (Value.string "earliest")) 0
  | quantity {text : String} {n : Nat} :
      IsQuantity text n -> Stands head (some (Value.string text)) n
  | tag {bound : Option Value} : IsTag bound -> Stands head bound head

theorem earliest_ne_quantity (digits : List Char) :
    "earliest" ≠ String.ofList ('0' :: 'x' :: digits) := by
  intro heq
  have hlist : "earliest".toList = '0' :: 'x' :: digits := by
    rw [heq, String.toList_ofList]
  exact absurd (List.cons.inj hlist).left (by decide)

theorem parseQuantity_ofList (digits : List Char) :
    parseQuantity (String.ofList ('0' :: 'x' :: digits)) =
      fromStrRadix16 digits := by
  unfold parseQuantity
  rw [String.toList_ofList]
  rfl

theorem IsQuantity.parse {text : String} {n : Nat} (h : IsQuantity text n) :
    parseQuantity text = some n := by
  rcases h with ⟨digits, rfl, hne, hvalue, hfits⟩
  rw [parseQuantity_ofList]
  exact fromStrRadix16_of_numeral hne hvalue hfits

theorem IsQuantity.ne_earliest {text : String} {n : Nat}
    (h : IsQuantity text n) : text ≠ "earliest" := by
  rcases h with ⟨digits, rfl, _⟩
  exact (earliest_ne_quantity digits).symm

theorem isQuantity_quantityText {n : Nat} (h : n ≤ u64Max) :
    IsQuantity (quantityText n) n :=
  ⟨Nat.toDigits 16 n, rfl, Nat.toDigits_ne_nil, numeralFrom_toDigits n, h⟩

theorem Stands.of_quantity {n : Nat} (head : Nat) (h : n ≤ u64Max) :
    Stands head (some (Node.quantity n)) n :=
  Stands.quantity (isQuantity_quantityText h)

theorem IsQuantity.number_eq {text : String} {n : Nat}
    (h : IsQuantity text n) : number (some (Value.string text)) = n := by
  show (if text = "earliest" then 0
    else (parseQuantity text).getD u64Max) = n
  rw [if_neg h.ne_earliest, h.parse, Option.getD_some]

theorem IsTag.parse {text : String} (h : IsTag (some (Value.string text))) :
    parseQuantity text = none := by
  rcases h text rfl with ⟨_, hquantity⟩
  unfold parseQuantity
  split
  · rename_i digits hlist
    have htext := congrArg String.ofList hlist
    rw [String.ofList_toList] at htext
    exact absurd htext (hquantity digits)
  · rfl

theorem IsTag.number_eq {bound : Option Value} (h : IsTag bound) :
    number bound = u64Max := by
  unfold number
  split
  · rename_i text
    rw [if_neg (h text rfl).left, h.parse]
    rfl
  · rfl

/-- Tags are sent to no definite block below the switch, and to none the
comparisons would put there. -/
theorem Stands.number_lt_iff {head switch n : Nat} {bound : Option Value}
    (h : Stands head bound n) (hhead : switch ≤ head)
    (hswitch : switch ≤ u64Max) : number bound < switch <-> n < switch := by
  cases h with
  | earliest => rfl
  | quantity hquantity => rw [hquantity.number_eq]
  | tag htag =>
      rw [htag.number_eq]
      lia

theorem Stands.unique {head n m : Nat} {bound : Option Value}
    (hn : Stands head bound n) (hm : Stands head bound m) : n = m := by
  cases hn with
  | earliest =>
      cases hm with
      | earliest => rfl
      | quantity hquantity => exact absurd rfl hquantity.ne_earliest
      | tag htag => exact absurd rfl (htag _ rfl).left
  | @quantity text _ hquantity =>
      cases hm with
      | earliest => exact absurd rfl hquantity.ne_earliest
      | quantity hquantity' =>
          exact Option.some.inj (hquantity.parse.symm.trans hquantity'.parse)
      | tag htag =>
          rcases hquantity with ⟨digits, rfl, _⟩
          exact absurd rfl ((htag _ rfl).right digits)
  | tag htag =>
      cases hm with
      | earliest => exact absurd rfl (htag _ rfl).left
      | quantity hquantity =>
          rcases hquantity with ⟨digits, rfl, _⟩
          exact absurd rfl ((htag _ rfl).right digits)
      | tag _ => rfl

/-!
## What is asked
-/

/-- The blocks meant by the tags of a filter, one for each bound. -/
structure Heads where
  low : Nat
  high : Nat

def Covers (heads : Heads) (filter : Fields) (block : Nat) : Prop :=
  exists low high,
    Stands heads.low (Fields.get filter "fromBlock") low ∧
    Stands heads.high (Fields.get filter "toBlock") high ∧
    low ≤ block ∧ block ≤ high

theorem covers_iff {heads : Heads} {filter : Fields} {low high : Nat}
    (hlow : Stands heads.low (Fields.get filter "fromBlock") low)
    (hhigh : Stands heads.high (Fields.get filter "toBlock") high)
    (block : Nat) : Covers heads filter block <-> low ≤ block ∧ block ≤ high := by
  constructor
  · rintro ⟨low', high', hlow', hhigh', hfrom, hto⟩
    rw [hlow.unique hlow', hhigh.unique hhigh']
    exact ⟨hfrom, hto⟩
  · rintro ⟨hfrom, hto⟩
    exact ⟨low, high, hlow, hhigh, hfrom, hto⟩

/-- Two filters agree on everything but the range of blocks. -/
def SameButRange (filter filter' : Fields) : Prop :=
  forall key, key ≠ "fromBlock" -> key ≠ "toBlock" ->
    Fields.get filter' key = Fields.get filter key

def Request.AsksLogs (request : Request) (filter : Fields) : Prop :=
  request.method = "eth_getLogs" ∧
    request.params.head? = some (Value.object filter)

def AskedOf (heads : Heads) (requests : List Request) (server : Server)
    (block : Nat) : Prop :=
  ∃ request ∈ requests, request.server = server ∧
    exists filter, request.AsksLogs filter ∧ Covers heads filter block

section Asked

variable {heads : Heads} {filter : Fields} {server server' : Server}
variable {params : List Value}

theorem askedOf_singleton (hparams : params.head? = some (Value.object filter))
    (block : Nat) :
    AskedOf heads [⟨server', "eth_getLogs", params⟩] server block <->
      server' = server ∧ Covers heads filter block := by
  constructor
  · rintro ⟨request, hrequest, hserver, filter', hasks, hcovers⟩
    rw [List.mem_singleton] at hrequest
    subst hrequest
    have hfilter : Value.object filter = Value.object filter' :=
      Option.some.inj (hparams.symm.trans hasks.right)
    cases hfilter
    exact ⟨hserver, hcovers⟩
  · rintro ⟨hserver, hcovers⟩
    exact ⟨_, List.mem_singleton.mpr rfl, hserver, filter, ⟨rfl, hparams⟩,
      hcovers⟩

theorem askedOf_append (first second : List Request) (block : Nat) :
    AskedOf heads (first ++ second) server block <->
      AskedOf heads first server block ∨
        AskedOf heads second server block := by
  unfold AskedOf
  constructor
  · rintro ⟨request, hrequest, hasked⟩
    rcases List.mem_append.mp hrequest with hfirst | hsecond
    · exact Or.inl ⟨request, hfirst, hasked⟩
    · exact Or.inr ⟨request, hsecond, hasked⟩
  · rintro (⟨request, hrequest, hasked⟩ | ⟨request, hrequest, hasked⟩)
    · exact ⟨request, List.mem_append_left second hrequest, hasked⟩
    · exact ⟨request, List.mem_append_right first hrequest, hasked⟩

theorem sameButRange_refl (filter : Fields) : SameButRange filter filter :=
  fun _ _ _ => rfl

theorem sameButRange_insert (filter : Fields) {key : String} (value : Value)
    (hkey : key = "fromBlock" ∨ key = "toBlock") :
    SameButRange filter (Fields.insert filter key value) := by
  intro key' hfrom hto
  have hne : key' ≠ key := by
    rintro rfl
    exact hkey.elim hfrom hto
  rw [Fields.get_insert, if_neg hne]

end Asked

/-!
## The split
-/

/-- The requests partition the blocks from `low` to `high` at the switch, ask
no server twice and leave the rest of the filter alone. -/
structure SplitsAt (heads : Heads) (switch low high : Nat) (filter : Fields)
    (requests : List Request) : Prop where
  frontier : forall block,
    AskedOf heads requests Server.frontier block <->
      (low ≤ block ∧ block ≤ high) ∧ block < switch
  revive : forall block,
    AskedOf heads requests Server.revive block <->
      (low ≤ block ∧ block ≤ high) ∧ switch ≤ block
  once : requests.Pairwise fun first second => first.server ≠ second.server
  fields : ∀ request ∈ requests, exists filter',
    request.AsksLogs filter' ∧ SameButRange filter filter'

def Request.answer (revive frontier : Upstream) (request : Request) :
    Except ClientError Value :=
  match request.server with
  | Server.revive => revive request.method request.params
  | Server.frontier => frontier request.method request.params

def InOrder (blockOf : Value -> Nat) (logs : List Value) : Prop :=
  logs.Pairwise fun first second => blockOf first ≤ blockOf second

/-- The server answers a request with the logs of blocks it was asked for, in
order. -/
structure AnswersInOrder (revive frontier : Upstream) (heads : Heads)
    (blockOf : Value -> Nat) (request : Request) (logs : List Value) :
    Prop where
  answer : request.answer revive frontier = Except.ok (Value.array logs)
  asked : ∀ log ∈ logs,
    AskedOf heads [request] request.server (blockOf log)
  inOrder : InOrder blockOf logs

section Split

variable {self : EthForward} {frontier : Upstream} {switch : Nat}
variable {heads : Heads} {filter : Fields} {params : List Value}
variable {low high : Nat}

/-- The three ways a filter without a block hash is sent on. -/
inductive LogsSent (self : EthForward) (frontier : Upstream) (switch : Nat)
    (low high : Nat) (filter : Fields) (params : List Value) :
    Sent (Except ClientError Value) -> Prop where
  | early : high < switch ->
      LogsSent self frontier switch low high filter params
        (EthForward.callFrontier frontier "eth_getLogs" params)
  | late : switch ≤ low ->
      LogsSent self frontier switch low high filter params
        (self.callRevive "eth_getLogs" params)
  | both : low < switch -> switch ≤ high ->
      LogsSent self frontier switch low high filter params
        (((EthForward.callFrontier frontier "eth_getLogs"
            [Value.object (Fields.insert filter "toBlock"
              (quantity (switch - 1)))]).join
          (self.callRevive "eth_getLogs"
            [Value.object (Fields.insert filter "fromBlock"
              (quantity switch))])).map EthForward.mergeLogs)

theorem logs_cases (hfrozen : self.frontier = some frontier)
    (hswitch : switch ≤ u64Max)
    (hheads : switch ≤ heads.low ∧ switch ≤ heads.high)
    (hparams : params.head? = some (Value.object filter))
    (hhash : Fields.containsKey filter "blockHash" = false)
    (hlow : Stands heads.low (Fields.get filter "fromBlock") low)
    (hhigh : Stands heads.high (Fields.get filter "toBlock") high) :
    LogsSent self frontier switch low high filter params
      (self.logs params switch) := by
  have hlowIff := hlow.number_lt_iff hheads.left hswitch
  have hhighIff := hhigh.number_lt_iff hheads.right hswitch
  unfold EthForward.logs
  rw [hfrozen, hparams]
  dsimp only
  rw [if_neg (by rw [hhash]; exact Bool.false_ne_true)]
  by_cases hearly : number (Fields.get filter "toBlock") < switch
  · rw [if_pos hearly]
    exact LogsSent.early (hhighIff.mp hearly)
  · rw [if_neg hearly]
    by_cases hlate : switch ≤ number (Fields.get filter "fromBlock")
    · rw [if_pos hlate]
      refine LogsSent.late (Nat.le_of_not_lt ?_)
      rw [← hlowIff]
      exact Nat.not_lt.mpr hlate
    · rw [if_neg hlate]
      refine LogsSent.both (hlowIff.mp (Nat.lt_of_not_le hlate)) ?_
      rw [hhighIff] at hearly
      exact Nat.le_of_not_lt hearly

theorem covers_early (hpos : 1 ≤ switch) (hswitch : switch ≤ u64Max)
    (hlow : Stands heads.low (Fields.get filter "fromBlock") low)
    (block : Nat) :
    Covers heads
        (Fields.insert filter "toBlock" (quantity (switch - 1))) block <->
      low ≤ block ∧ block < switch := by
  have hfrom : Stands heads.low (Fields.get (Fields.insert filter "toBlock"
      (quantity (switch - 1))) "fromBlock") low := by
    rw [Fields.get_insert, if_neg (by decide)]
    exact hlow
  have hto : Stands heads.high (Fields.get (Fields.insert filter "toBlock"
      (quantity (switch - 1))) "toBlock") (switch - 1) := by
    rw [Fields.get_insert, if_pos rfl]
    exact Stands.of_quantity _ (by lia)
  rw [covers_iff hfrom hto]
  lia

theorem covers_late (hswitch : switch ≤ u64Max)
    (hhigh : Stands heads.high (Fields.get filter "toBlock") high)
    (block : Nat) :
    Covers heads
        (Fields.insert filter "fromBlock" (quantity switch)) block <->
      switch ≤ block ∧ block ≤ high := by
  have hfrom : Stands heads.low (Fields.get (Fields.insert filter "fromBlock"
      (quantity switch)) "fromBlock") switch := by
    rw [Fields.get_insert, if_pos rfl]
    exact Stands.of_quantity _ hswitch
  have hto : Stands heads.high (Fields.get (Fields.insert filter "fromBlock"
      (quantity switch)) "toBlock") high := by
    rw [Fields.get_insert, if_neg (by decide)]
    exact hhigh
  exact covers_iff hfrom hto block

theorem splitsAt_single {server : Server}
    (hfrontier : server = Server.frontier -> high < switch)
    (hrevive : server = Server.revive -> switch ≤ low)
    (hparams : params.head? = some (Value.object filter))
    (hlow : Stands heads.low (Fields.get filter "fromBlock") low)
    (hhigh : Stands heads.high (Fields.get filter "toBlock") high) :
    SplitsAt heads switch low high filter
      [⟨server, "eth_getLogs", params⟩] := by
  have hside : forall block, low ≤ block ∧ block ≤ high ->
      (server = Server.frontier <-> block < switch) ∧
        (server = Server.revive <-> switch ≤ block) := by
    intro block hblock
    cases server with
    | frontier =>
        have hbelow := hfrontier rfl
        exact ⟨iff_of_true rfl (by lia), iff_of_false (by decide) (by lia)⟩
    | revive =>
        have habove := hrevive rfl
        exact ⟨iff_of_false (by decide) (by lia), iff_of_true rfl (by lia)⟩
  refine ⟨?_, ?_, List.pairwise_singleton _ _, ?_⟩
  · intro block
    rw [askedOf_singleton hparams, covers_iff hlow hhigh, and_comm]
    exact and_congr_right fun hblock => (hside block hblock).left
  · intro block
    rw [askedOf_singleton hparams, covers_iff hlow hhigh, and_comm]
    exact and_congr_right fun hblock => (hside block hblock).right
  · intro request hrequest
    rw [List.mem_singleton] at hrequest
    subst hrequest
    exact ⟨filter, ⟨rfl, hparams⟩, sameButRange_refl filter⟩

theorem splitsAt_both (hpos : 1 ≤ switch) (hswitch : switch ≤ u64Max)
    (hbelow : low < switch) (habove : switch ≤ high)
    (hlow : Stands heads.low (Fields.get filter "fromBlock") low)
    (hhigh : Stands heads.high (Fields.get filter "toBlock") high) :
    SplitsAt heads switch low high filter
      ([⟨Server.frontier, "eth_getLogs",
          [Value.object (Fields.insert filter "toBlock"
            (quantity (switch - 1)))]⟩] ++
        [⟨Server.revive, "eth_getLogs",
          [Value.object (Fields.insert filter "fromBlock"
            (quantity switch))]⟩]) := by
  refine ⟨?_, ?_, ?_, ?_⟩
  · intro block
    rw [askedOf_append, askedOf_singleton rfl, askedOf_singleton rfl,
      covers_early hpos hswitch hlow]
    lia
  · intro block
    rw [askedOf_append, askedOf_singleton rfl, askedOf_singleton rfl,
      covers_late hswitch hhigh]
    lia
  · rw [List.singleton_append, List.pairwise_pair]
    intro hserver
    cases hserver
  · intro request hrequest
    rcases List.mem_append.mp hrequest with hearly | hlate
    · rw [List.mem_singleton.mp hearly]
      exact ⟨_, ⟨rfl, rfl⟩, sameButRange_insert filter _ (Or.inr rfl)⟩
    · rw [List.mem_singleton.mp hlate]
      exact ⟨_, ⟨rfl, rfl⟩, sameButRange_insert filter _ (Or.inl rfl)⟩

theorem LogsSent.splitsAt {sent : Sent (Except ClientError Value)}
    (h : LogsSent self frontier switch low high filter params sent)
    (hpos : 1 ≤ switch) (hswitch : switch ≤ u64Max)
    (hparams : params.head? = some (Value.object filter))
    (hlow : Stands heads.low (Fields.get filter "fromBlock") low)
    (hhigh : Stands heads.high (Fields.get filter "toBlock") high) :
    SplitsAt heads switch low high filter sent.requests := by
  cases h with
  | early hearly =>
      exact splitsAt_single (fun _ => hearly) (fun hserver => nomatch hserver)
        hparams hlow hhigh
  | late hlate =>
      exact splitsAt_single (fun hserver => nomatch hserver) (fun _ => hlate)
        hparams hlow hhigh
  | both hbelow habove =>
      exact splitsAt_both hpos hswitch hbelow habove hlow hhigh

theorem SplitsAt.asked {requests : List Request} {request : Request}
    {block : Nat} (h : SplitsAt heads switch low high filter requests)
    (hrequest : request ∈ requests)
    (hasked : AskedOf heads requests request.server block) :
    AskedOf heads [request] request.server block := by
  rcases hasked with ⟨other, hother, hserver, hcovers⟩
  have hsame : request = other := by
    have : Std.Symm fun first second : Request =>
        first.server ≠ second.server := ⟨fun _ _ => Ne.symm⟩
    by_contra hne
    exact h.once.forall hrequest hother hne hserver.symm
  exact ⟨request, List.mem_singleton_self request, rfl, hsame ▸ hcovers⟩

theorem inOrder_single {request : Request} {blockOf : Value -> Nat}
    {logsOf : Request -> List Value}
    (h : AnswersInOrder self.revive frontier heads blockOf request
      (logsOf request)) :
    request.answer self.revive frontier =
        Except.ok (Value.array ([request].flatMap logsOf)) ∧
      InOrder blockOf ([request].flatMap logsOf) := by
  rw [List.flatMap_singleton]
  exact ⟨h.answer, h.inOrder⟩

theorem inOrder_both (bound : Nat) {first second : Request}
    {blockOf : Value -> Nat} {logsOf : Request -> List Value}
    (hfirst : AnswersInOrder self.revive frontier heads blockOf first
      (logsOf first))
    (hsecond : AnswersInOrder self.revive frontier heads blockOf second
      (logsOf second))
    (hbefore : ∀ log ∈ logsOf first, blockOf log < bound)
    (hafter : ∀ log ∈ logsOf second, bound ≤ blockOf log) :
    EthForward.mergeLogs (first.answer self.revive frontier,
        second.answer self.revive frontier) =
      Except.ok (Value.array (([first] ++ [second]).flatMap logsOf)) ∧
    InOrder blockOf (([first] ++ [second]).flatMap logsOf) := by
  rw [List.flatMap_append, List.flatMap_singleton, List.flatMap_singleton,
    hfirst.answer, hsecond.answer]
  refine ⟨rfl, List.pairwise_append.mpr ⟨hfirst.inOrder, hsecond.inOrder, ?_⟩⟩
  intro log hlog log' hlog'
  exact Nat.le_trans (Nat.le_of_lt (hbefore log hlog)) (hafter log' hlog')

theorem LogsSent.inOrder {sent : Sent (Except ClientError Value)}
    (h : LogsSent self frontier switch low high filter params sent)
    (hpos : 1 ≤ switch) (hswitch : switch ≤ u64Max)
    (hlow : Stands heads.low (Fields.get filter "fromBlock") low)
    (hhigh : Stands heads.high (Fields.get filter "toBlock") high)
    {blockOf : Value -> Nat} {logsOf : Request -> List Value}
    (hanswers : ∀ request ∈ sent.requests,
      AnswersInOrder self.revive frontier heads blockOf request
        (logsOf request)) :
    sent.result = Except.ok (Value.array (sent.requests.flatMap logsOf)) ∧
      InOrder blockOf (sent.requests.flatMap logsOf) := by
  cases h with
  | early _ => exact inOrder_single (hanswers _ List.mem_cons_self)
  | late _ => exact inOrder_single (hanswers _ List.mem_cons_self)
  | both _ _ =>
      have hearly := hanswers _ List.mem_cons_self
      have hlate := hanswers _ (List.mem_cons_of_mem _ List.mem_cons_self)
      refine inOrder_both switch hearly hlate ?_ ?_
      · intro log hlog
        have hasked := (askedOf_singleton rfl _).mp (hearly.asked log hlog)
        exact ((covers_early hpos hswitch hlow _).mp hasked.right).right
      · intro log hlog
        have hasked := (askedOf_singleton rfl _).mp (hlate.asked log hlog)
        exact ((covers_late hswitch hhigh _).mp hasked.right).left

end Split

/-!
## Single blocks
-/

theorem quantityText_size {n : Nat} (h : n ≤ u64Max) :
    (quantityText n).utf8ByteSize ≤ 18 := by
  have hlength : (Nat.toDigits 16 n).length ≤ 16 := by
    rw [Nat.length_toDigits_le_iff (by decide) (by decide)]
    exact Nat.lt_of_le_of_lt h (by decide)
  unfold quantityText
  rw [utf8ByteSize_ofList_cons, utf8ByteSize_ofList_cons,
    utf8ByteSize_of_numeral (numeralFrom_toDigits n)]
  have hzero : '0'.utf8Size = 1 := rfl
  have hx : 'x'.utf8Size = 1 := rfl
  lia

theorem side_quantity {n : Nat} (h : n ≤ u64Max) (switch : Nat) :
    side (some (quantity n)) switch =
      if n < switch then Side.frontier else Side.revive := by
  have hquantity := isQuantity_quantityText h
  have hsize : (quantityText n).utf8ByteSize ≠ 66 := by
    have := quantityText_size h
    lia
  show sideOfText switch (quantityText n) = _
  unfold sideOfText
  rw [if_neg hquantity.ne_earliest, if_neg hsize, hquantity.parse]

theorem logs_of_block {self : EthForward} {frontier : Upstream}
    (hfrozen : self.frontier = some frontier) {switch n : Nat}
    (hswitch : switch ≤ u64Max) (hn : n ≤ u64Max)
    {filter : Fields} {params : List Value}
    (hparams : params.head? = some (Value.object filter))
    (hhash : Fields.containsKey filter "blockHash" = false)
    (hfrom : Fields.get filter "fromBlock" = some (quantity n))
    (hto : Fields.get filter "toBlock" = some (quantity n)) :
    (∃ request ∈ (self.logs params switch).requests,
      request.server = Server.frontier) <-> n < switch := by
  have hlow : Stands switch (Fields.get filter "fromBlock") n := by
    rw [hfrom]
    exact Stands.of_quantity switch hn
  have hhigh : Stands switch (Fields.get filter "toBlock") n := by
    rw [hto]
    exact Stands.of_quantity switch hn
  let heads : Heads := ⟨switch, switch⟩
  have hheads : switch ≤ heads.low ∧ switch ≤ heads.high :=
    ⟨Nat.le_refl switch, Nat.le_refl switch⟩
  have hcases := logs_cases hfrozen hswitch hheads hparams hhash hlow hhigh
  generalize self.logs params switch = sent at hcases ⊢
  cases hcases with
  | early hearly =>
      exact iff_of_true ⟨_, List.mem_cons_self, rfl⟩ hearly
  | late hlate =>
      refine iff_of_false ?_ (Nat.not_lt.mpr hlate)
      rintro ⟨request, hrequest, hserver⟩
      rw [List.mem_singleton.mp hrequest] at hserver
      cases hserver
  | both hbelow habove => lia

/-- Across the switch no block is lost or asked for twice, and single blocks and
log filters are told apart in the same way. -/
theorem routing_partitions_the_blocks {self : EthForward}
    {frontier : Upstream} (hfrozen : self.frontier = some frontier)
    {switch : Nat} (hpos : 1 ≤ switch) (hswitch : switch ≤ u64Max) :
    (forall heads filter params low high,
      switch ≤ heads.low ∧ switch ≤ heads.high ->
      params.head? = some (Value.object filter) ->
      Fields.containsKey filter "blockHash" = false ->
      Stands heads.low (Fields.get filter "fromBlock") low ->
      Stands heads.high (Fields.get filter "toBlock") high ->
      exists sent, self.serve (some switch) "eth_getLogs" params = some sent ∧
        SplitsAt heads switch low high filter sent.requests ∧
        forall blockOf logsOf,
          (∀ request ∈ sent.requests,
            AnswersInOrder self.revive frontier heads blockOf request
              (logsOf request)) ->
          sent.result =
              Except.ok (Value.array (sent.requests.flatMap logsOf)) ∧
            InOrder blockOf (sent.requests.flatMap logsOf)) ∧
    (forall n, n ≤ u64Max ->
      parseQuantity (quantityText n) = some n ∧
      forall filter params,
        params.head? = some (Value.object filter) ->
        Fields.containsKey filter "blockHash" = false ->
        Fields.get filter "fromBlock" = some (quantity n) ->
        Fields.get filter "toBlock" = some (quantity n) ->
        (side (some (quantity n)) switch = Side.frontier <->
          exists sent,
            self.serve (some switch) "eth_getLogs" params = some sent ∧
              ∃ request ∈ sent.requests,
                request.server = Server.frontier)) := by
  have hserve : forall params,
      self.serve (some switch) "eth_getLogs" params =
        some ((self.logs params switch).map
          (Except.mapError upstreamError)) := by
    intro params
    rfl
  constructor
  · intro heads filter params low high hheads hparams hhash hlow hhigh
    have hcases := logs_cases hfrozen hswitch hheads hparams hhash hlow hhigh
    refine ⟨_, hserve params,
      hcases.splitsAt hpos hswitch hparams hlow hhigh, ?_⟩
    intro blockOf logsOf hanswers
    rcases hcases.inOrder hpos hswitch hlow hhigh hanswers with
      ⟨hresult, hinOrder⟩
    refine ⟨?_, hinOrder⟩
    show Except.mapError upstreamError (self.logs params switch).result = _
    rw [hresult]
    rfl
  · intro n hn
    refine ⟨(isQuantity_quantityText hn).parse, ?_⟩
    intro filter params hparams hhash hfrom hto
    have hside : side (some (quantity n)) switch = Side.frontier <->
        n < switch := by
      rw [side_quantity hn]
      split
      · rename_i hlt
        exact iff_of_true rfl hlt
      · rename_i hge
        exact iff_of_false (fun heq => nomatch heq) hge
    rw [hside, ← logs_of_block hfrozen hswitch hn hparams hhash hfrom hto]
    constructor
    · intro hasked
      exact ⟨_, hserve params, hasked⟩
    · rintro ⟨sent, hsent, hasked⟩
      rw [hserve params] at hsent
      cases hsent
      exact hasked

/-- Two servers with one log each, that of the block next to the switch. -/
def loggedForward : EthForward :=
  { revive := fun _ _ => Except.ok (Value.array [quantity 10])
    frontier := some fun _ _ => Except.ok (Value.array [quantity 9]) }

/-- With the switch at block ten, a filter from eight to eleven is split
between nine and ten. -/
theorem filter_from_eight_to_eleven_is_split :
    let filter : Fields :=
      [("fromBlock", quantity 8), ("toBlock", quantity 11)]
    exists sent,
      loggedForward.serve (some 10) "eth_getLogs" [Value.object filter] =
          some sent ∧
        AskedOf ⟨10, 10⟩ sent.requests Server.frontier 9 ∧
        AskedOf ⟨10, 10⟩ sent.requests Server.revive 10 ∧
        ¬ AskedOf ⟨10, 10⟩ sent.requests Server.frontier 10 ∧
        sent.result =
          Except.ok (Value.array [quantity 9, quantity 10]) := by
  intro filter
  have hlow : Stands 10 (Fields.get filter "fromBlock") 8 :=
    Stands.of_quantity 10 (by decide)
  have hhigh : Stands 10 (Fields.get filter "toBlock") 11 :=
    Stands.of_quantity 10 (by decide)
  rcases (routing_partitions_the_blocks
      (rfl : loggedForward.frontier = some _) (by decide : 1 ≤ 10) (by decide)).left ⟨10, 10⟩ filter
      [Value.object filter] 8 11 (by decide) rfl rfl hlow hhigh with
    ⟨sent, hserve, hsplit, hmerged⟩
  have hnine := (hsplit.frontier 9).mpr (by decide)
  have hten := (hsplit.revive 10).mpr (by decide)
  refine ⟨sent, hserve, hnine, hten, ?_, ?_⟩
  · rw [hsplit.frontier]
    decide
  · let logsOf : Request -> List Value := fun request =>
      match request.server with
      | Server.revive => [quantity 10]
      | Server.frontier => [quantity 9]
    have hanswers : ∀ request ∈ sent.requests,
        AnswersInOrder loggedForward.revive
          (fun _ _ => Except.ok (Value.array [quantity 9])) ⟨10, 10⟩
          (fun log => number (some log)) request (logsOf request) := by
      rintro ⟨server, method, params⟩ hrequest
      cases server with
      | revive =>
          refine ⟨rfl, ?_, List.pairwise_singleton _ _⟩
          intro log hlog
          rw [List.mem_singleton.mp hlog]
          exact hsplit.asked hrequest hten
      | frontier =>
          refine ⟨rfl, ?_, List.pairwise_singleton _ _⟩
          intro log hlog
          rw [List.mem_singleton.mp hlog]
          exact hsplit.asked hrequest hnine
    rw [(hmerged _ logsOf hanswers).left]
    cases hserve
    rfl

end Node
end Numen
