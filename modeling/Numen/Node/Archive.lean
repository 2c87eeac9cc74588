import Numen.Node.Answers
import Numen.Node.Switch

/-!
# One node out of two

eth-rpc has the blocks pallet-revive built, the frozen node the ones before
them.  If each answers for its blocks, the forwarder in front of the two answers
for all of them.
-/

namespace Numen
namespace Node

open Foundation

/-!
## The forwarder as a server
-/

section Responses

variable {self : EthForward} {frontier : Upstream} {history : History}
variable {switch head : Nat} {tags : Tags}

namespace Halves

variable {filter : Fields} {params : List Value} {low high : Nat}

end Halves

end Responses

/-!
## A small history
-/

end Node
end Numen
