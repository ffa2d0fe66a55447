import StellarConduit.RelayRegistry.Solvency
import StellarConduit.RelayRegistry.LockPeriod
import StellarConduit.RelayRegistry.NodeCount
import StellarConduit.RelayRegistry.Slashed
import StellarConduit.RelayRegistry.Backing
import StellarConduit.RelayRegistry.Commutation
import StellarConduit.RelayRegistry.Exit
import StellarConduit.RelayRegistry.Metadata
import StellarConduit.Treasury.Holdings
import StellarConduit.Treasury.Programs
import StellarConduit.Treasury.ErrorOrder
import StellarConduit.FeeDistributor.SelfCredit
import StellarConduit.FeeDistributor.Overflow
import StellarConduit.FeeDistributor.Monotone
import StellarConduit.EntryPoints
import StellarConduit.DisputeResolver.Deadline
import StellarConduit.DisputeResolver.Signatures
import StellarConduit.DisputeResolver.RulingTable
import StellarConduit.CouncilGate
import StellarConduit.Unprivileged
import StellarConduit.Settlement.Authorisation
import StellarConduit.Settlement.Overpayment
import StellarConduit.RelayRegistry.EventLog
import StellarConduit.FeeDistributor.EventLog
import StellarConduit.Treasury.EventLog
import StellarConduit.DisputeResolver.EventLog
import StellarConduit.Lifetimes
import StellarConduit.Configuration
import StellarConduit.Protocol.Exit
import StellarConduit.Protocol.Frozen
import StellarConduit.Protocol.Funding
import StellarConduit.Protocol.Chronicle
import StellarConduit.Protocol.Silence
import StellarConduit.Protocol.Traps
