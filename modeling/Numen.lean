import Numen.Foundation.Arithmetic
import Numen.Foundation.Folds
import Numen.Foundation.Runs
import Numen.Foundation.Storage
import Numen.Foundation.Ancestry
import Numen.Foundation.Queues
import Numen.Foundation.Halving
import Numen.Foundation.Bytes
import Numen.Foundation.BigEndian
import Numen.Foundation.Hexadecimal
import Numen.Foundation.Enclosure
import Numen.Foundation.Attempts
import Numen.Foundation.Bisection
import Numen.Foundation.Codec
import Numen.Foundation.FixedPoint
import Numen.Foundation.Surface
import Numen.Foundation.Scale
import Numen.Foundation.Separators
import Numen.Validator.Storage
import Numen.Validator.Pallet
import Numen.Validator.Sweep
import Numen.Validator.Boundary
import Numen.Validator.Transitions
import Numen.Validator.Stake
import Numen.Validator.Seats
import Numen.Validator.Renewal
import Numen.Validator.Coherence
import Numen.Validator.Kicks
import Numen.Validator.Announced
import Numen.Validator.Offline
import Numen.Validator.Streaks
import Numen.Validator.Keys
import Numen.Validator.Reporters
import Numen.Difficulty.Asert
import Numen.Difficulty.Pallet
import Numen.Difficulty.Agreement
import Numen.Difficulty.Schedule
import Numen.Difficulty.Target
import Numen.Difficulty.Exact
import Numen.Difficulty.Monotone
import Numen.Difficulty.Checked
import Numen.Difficulty.FirstBlock
import Numen.Difficulty.Accuracy
import Numen.Difficulty.Stall
import Numen.Difficulty.Pace
import Numen.Pow.Import
import Numen.Pow.Finality
import Numen.Pow.Conflicts
import Numen.Pow.ForkChoice
import Numen.Pow.Heaviest
import Numen.Pow.Worker
import Numen.Pow.Queue
import Numen.Pow.Landing
import Numen.Pow.Authoring
import Numen.Pow.Timer
import Numen.Poscan.Seal
import Numen.Poscan.Target
import Numen.Poscan.Algorithm
import Numen.Poscan.Fleet
import Numen.Poscan.Clock
import Numen.Poscan.Work
import Numen.Asteroid.Icosphere
import Numen.Asteroid.Perlin
import Numen.Asteroid.Shape
import Numen.Reward.Pallet
import Numen.Reward.Emission
import Numen.Reward.Payout
import Numen.Reward.Supply
import Numen.Fees.Fullness
import Numen.Fees.Congestion
import Numen.Fees.Price
import Numen.Accounts.State
import Numen.Accounts.Claims
import Numen.Accounts.Semantics
import Numen.Accounts.Reference
import Numen.Accounts.Conservation
import Numen.Accounts.CheckNonce
import Numen.Accounts.Replay
import Numen.Accounts.Locality
import Numen.Accounts.Curves
import Numen.Accounts.Execution
import Numen.Accounts.Spent
import Numen.Evm.Machine
import Numen.Evm.Assembly
import Numen.Erc20.Host
import Numen.Erc20.Token
import Numen.Erc20.Effects
import Numen.Erc20.Reference
import Numen.Erc20.Transfers
import Numen.Erc20.Allowances
import Numen.Erc20.Permits
import Numen.Erc20.Proxy
import Numen.Erc20.Routing
import Numen.Erc20.Ledger
import Numen.Node.EthForward
import Numen.Node.LogRanges
import Numen.Node.Switch
import Numen.Node.MiningTasks
import Numen.Node.ObjectExport
import Numen.Node.Answers
import Numen.Node.Archive
import Numen.Node.Subscriptions
import Numen.Migration.Chain
import Numen.Migration.Frontier
import Numen.Migration.Kept
import Numen.Migration.Reference
import Numen.Migration.Whole
import Numen.Migration.Snapshot
import Numen.Migration.Issuance
import Numen.Migration.Prediction
import Numen.Migration.BlockHashes
import Numen.Governance.Identity
import Numen.Governance.Origins
import Numen.Governance.Authority
import Numen.Governance.Proxies
