import RecurringBuy.Shared.Checked
import RecurringBuy.Shared.SkipSchedule
import RecurringBuy.Shared.Amortization
import RecurringBuy.Shared.Binary64
import RecurringBuy.Shared.LittleEndian
import RecurringBuy.Shared.PackedRecord
import RecurringBuy.Shared.OrderedMap
import RecurringBuy.Shared.Simulation
import RecurringBuy.Shared.Runoff
import RecurringBuy.Shared.Codec
import RecurringBuy.Token.Ledger
import RecurringBuy.Token.Slot
import RecurringBuy.Token.Transfer
import RecurringBuy.Token.Flow
import RecurringBuy.Token.Authority
import RecurringBuy.Token.Obligations
import RecurringBuy.Token.Movement
import RecurringBuy.Token.Posting
import RecurringBuy.Program.Schedule
import RecurringBuy.Program.Floors
import RecurringBuy.Program.Swap
import RecurringBuy.Program.ExecuteBuy
import RecurringBuy.Program.ExecuteSell
import RecurringBuy.Program.TryAccounts
import RecurringBuy.Program.Admin
import RecurringBuy.Program.Step
import RecurringBuy.Program.Deployment
import RecurringBuy.Program.History
import RecurringBuy.Program.MockSwap
import RecurringBuy.Program.AccountData
import RecurringBuy.Program.Wire
import RecurringBuy.Keeper.AmortizedDraw
import RecurringBuy.Keeper.Draw
import RecurringBuy.Keeper.Daemon
import RecurringBuy.Keeper.Accounts
import RecurringBuy.Keeper.Encoding
import RecurringBuy.Keeper.Builders
import RecurringBuy.Keeper.Settlement
import RecurringBuy.Keeper.Funding
import RecurringBuy.Keeper.Service
import RecurringBuy.Keeper.Tick
import RecurringBuy.Keeper.System
import RecurringBuy.Keeper.Books
import RecurringBuy.Keeper.Healthy
import RecurringBuy.Keeper.Round
import RecurringBuy.Keeper.Wallets
import RecurringBuy.Keeper.Footprint
import RecurringBuy.Properties.RogueRoute
import RecurringBuy.Properties.RogueCall
import RecurringBuy.Properties.NewMoney
import RecurringBuy.Properties.Underpayment
import RecurringBuy.Properties.Gate
import RecurringBuy.Properties.Runway
import RecurringBuy.Properties.Confinement
import RecurringBuy.Properties.Ownership
import RecurringBuy.Properties.FloorArithmetic
import RecurringBuy.Properties.Failures
import RecurringBuy.Properties.Configuration
import RecurringBuy.Properties.MandatoryFloor
import RecurringBuy.Properties.FeeExactness
import RecurringBuy.Properties.LastingAuthority
import RecurringBuy.Properties.CrankBuy
import RecurringBuy.Properties.CrankSell
import RecurringBuy.Properties.AccountDecoders
import RecurringBuy.Properties.Interleaving
import RecurringBuy.Properties.ClosedLoop
import RecurringBuy.Properties.Payout
import RecurringBuy.Properties.Accrual
import RecurringBuy.Properties.Proceeds
import RecurringBuy.Properties.StoredBytes
import RecurringBuy.Properties.Agenda
import RecurringBuy.Properties.Halt
import RecurringBuy.Properties.BuiltCalls
