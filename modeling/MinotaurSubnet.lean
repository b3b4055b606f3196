import MinotaurSubnet.Api.DeployPayment
import MinotaurSubnet.Epoch.MutualDethrone
import MinotaurSubnet.Consensus.ChampionTuple
import MinotaurSubnet.Consensus.OrderQuorum
import MinotaurSubnet.Api.CertifyQuorum
import MinotaurSubnet.Validator.Independence
import MinotaurSubnet.Harness.OpenRounds
import MinotaurSubnet.Harness.ForkPins
import MinotaurSubnet.Harness.RoundFreshness
import MinotaurSubnet.Contracts.ReplayGuards
import MinotaurSubnet.Contracts.EscrowRecovery
import MinotaurSubnet.Harness.RecordRetention
import MinotaurSubnet.Harness.RpcProxy.BlockPins
import MinotaurSubnet.Harness.RpcProxy.CacheTransparency
import MinotaurSubnet.Harness.RpcProxy.ForkTransparency
import MinotaurSubnet.Harness.TokenFates
import MinotaurSubnet.Harness.ScenarioLabels
import MinotaurSubnet.Harness.ForkRouting
import MinotaurSubnet.Harness.ScenarioPoolFaults
import MinotaurSubnet.Harness.ChampionMemo
import MinotaurSubnet.Harness.SubmissionCaps
import MinotaurSubnet.Harness.RecordRoundTrip
import MinotaurSubnet.Harness.SlateWidth
import MinotaurSubnet.Relayer.FinalizeAuthority
import MinotaurSubnet.Api.VetoGate
import MinotaurSubnet.Relayer.NonceGaps
import MinotaurSubnet.Relayer.DedupSlots
import MinotaurSubnet.Bridge.SolverMetadata
import MinotaurSubnet.Relayer.WrapperBinding
import MinotaurSubnet.Relayer.BridgeWait
import MinotaurSubnet.Blockloop.WaysAround
import MinotaurSubnet.Harness.ScoredPins
import MinotaurSubnet.Relayer.LegChains
import MinotaurSubnet.Relayer.WrapperReplay
import MinotaurSubnet.Relayer.DailySpend
import MinotaurSubnet.Api.TerminalRounds
import MinotaurSubnet.Api.ChampionReconcile
import MinotaurSubnet.Api.ChampionProvenance
import MinotaurSubnet.Harness.RotationSlate
import MinotaurSubnet.Harness.RoundEviction
import MinotaurSubnet.Harness.ActorComponents
import MinotaurSubnet.Blockloop.LegRollback
import MinotaurSubnet.Relayer.GasDay
import MinotaurSubnet.Harness.RpcProxy.MeterRuns
import MinotaurSubnet.Harness.AdoptCall
import MinotaurSubnet.Harness.CodeFingerprint
import MinotaurSubnet.Harness.BuildBudgetIdle
import MinotaurSubnet.Relayer.CiDisarm
import MinotaurSubnet.Harness.PackAgreement
import MinotaurSubnet.Harness.FollowerSlices
import MinotaurSubnet.Blockloop.OrderPersistence
import MinotaurSubnet.Api.VetoSlices
import MinotaurSubnet.Validator.WeightsEmitter
import MinotaurSubnet.Blockloop.QuoteSync
import MinotaurSubnet.Validator.ReplayGuard
import MinotaurSubnet.Relayer.WirePlans
import MinotaurSubnet.Blockloop.PerpetualFills
import MinotaurSubnet.Epoch.WholeActivation
import MinotaurSubnet.Validator.TempoGate
