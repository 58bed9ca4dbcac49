import Giffy.Foundation.Base64
import Giffy.Foundation.Bytes
import Giffy.Foundation.ConstraintSystem
import Giffy.Foundation.Decimal
import Giffy.Foundation.EventLog
import Giffy.Foundation.FieldVariables
import Giffy.Foundation.MerkleTree
import Giffy.Foundation.Pairing
import Giffy.Foundation.Patterns
import Giffy.Foundation.Poseidon2
import Giffy.Foundation.PoseidonPermutation
import Giffy.Foundation.Runs
import Giffy.Foundation.SortedMap
import Giffy.Foundation.TextSearch
import Giffy.Foundation.TokenLedger
import Giffy.Foundation.TtlCache
import Giffy.Foundation.Updates
import Giffy.Host
import Giffy.Escrow.Contract
import Giffy.Escrow.Effects
import Giffy.Escrow.Solvency
import Giffy.Escrow.Payouts
import Giffy.Escrow.Refunds
import Giffy.Escrow.Finality
import Giffy.Escrow.Claiming
import Giffy.Escrow.Isolation
import Giffy.Escrow.Replay
import Giffy.Escrow.Accounting
import Giffy.Pool.Verifier
import Giffy.Pool.Groth16
import Giffy.Pool.Contract
import Giffy.Pool.Effects
import Giffy.Pool.Tree
import Giffy.Pool.Nullifiers
import Giffy.Pool.Custody
import Giffy.Pool.Repointing
import Giffy.Pool.Poseidon
import Giffy.Circuit.ScalarField
import Giffy.Circuit.Poseidon2
import Giffy.Circuit.Withdraw
import Giffy.Circuit.Constraints
import Giffy.Circuit.Permutation
import Giffy.Chain.GiftEscrow
import Giffy.Chain.SorobanClient
import Giffy.Chain.ShieldedPool
import Giffy.Chain.Assets
import Giffy.Chain.Accounts
import Giffy.Chain.ClaimConditions
import Giffy.Chain.Errors
import Giffy.Chain.Anchor
import Giffy.Backend.Schemas
import Giffy.Backend.GiftService
import Giffy.Backend.Amounts
import Giffy.Backend.Lifecycle
import Giffy.Backend.LifecycleEffects
import Giffy.Backend.OnChain
import Giffy.Backend.OneGift
import Giffy.Backend.StatusOrder
import Giffy.Backend.CachedStatus
import Giffy.Backend.ClaimService
import Giffy.Backend.Simulation
import Giffy.Backend.ClaimLinks
import Giffy.Backend.IssuedLinks
import Giffy.Backend.Gates
import Giffy.Backend.Conditions
import Giffy.Backend.Locked
import Giffy.Backend.AmountChecks
import Giffy.Backend.Contributions
import Giffy.Backend.SubmitCreate
import Giffy.Backend.PoolIndexer
import Giffy.Backend.PoolIndexerEffects
import Giffy.Backend.PoolLeaves
import Giffy.Backend.PoolCoverage
import Giffy.Backend.ErrorHandler
import Giffy.Backend.RequestLog
import Giffy.Backend.Onramp
import Giffy.Backend.OnrampSessions
import Giffy.Backend.OnrampSecrecy
import Giffy.Client.AddressTypos
import Giffy.Client.Wasm
import Giffy.Client.MerklePath
import Giffy.Client.SealedClaim
import Giffy.Client.SealedDeposit
import Giffy.Client.Redemption
import Giffy.Client.SealedLink
import Giffy.Backend.PoolRoutes
import Giffy.Client.SealedGift
import Giffy.Client.Trustline
import Giffy.Client.Dashboard
import Giffy.Client.ClaimPage
import Giffy.Client.CreatePage
import Giffy.Client.SentGift
import Giffy.Client.ApiClient
