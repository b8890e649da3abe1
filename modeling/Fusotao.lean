import Fusotao.Base.Transition
import Fusotao.Base.Escrow
import Fusotao.Base.Rounding
import Fusotao.ChainBridge.Outcome
import Fusotao.Token.Registry
import Fusotao.Verifier.Conservation
import Fusotao.Verifier.LimitPrice
import Fusotao.Verifier.History
import Fusotao.Verifier.Solvency
import Fusotao.Verifier.Stash
import Fusotao.Verifier.Season
import Fusotao.ChainBridgeHandler.TransferIn
import Fusotao.ChainBridgeHandler.Books
import Fusotao.ChainBridgeHandler.Received
import Fusotao.ChainBridgeHandler.ExternalChain
import Fusotao.Foundation.Approval
import Fusotao.Verifier.Evicted
import Fusotao.Verifier.Status
import Fusotao.Verifier.Unstaking
import Fusotao.Verifier.Leaving
import Fusotao.AbyssTournament.Liabilities
import Fusotao.Bots.Leaving
import Fusotao.Bots.Members
import Fusotao.AbyssTournament.Bonus
import Fusotao.Token.Repatriate
import Fusotao.Indicator.Agreement
import Fusotao.Verifier.Entitled
import Fusotao.Verifier.Depth
import Fusotao.Verifier.Bystander
import Fusotao.AbyssTournament.Defined
import Fusotao.AbyssTournament.Invite
import Fusotao.Rewarding.Makers
import Fusotao.Indicator.Traded
import Fusotao.AbyssTournament.Treasuries
import Fusotao.AbyssTournament.Invitations
import Fusotao.Agent.Payload
import Fusotao.Markets.Listing
import Fusotao.Markets.Brokers
import Fusotao.Verifier.Shares
import Fusotao.Broker.Relay
import Fusotao.Agent.Replay
import Fusotao.Verifier.Mirror
import Fusotao.Verifier.Calls
import Fusotao.Verifier.Nesting
import Fusotao.Verifier.Authority
