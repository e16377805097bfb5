import CounterSampling.Main
import CounterSampling.PowerState
import CounterSampling.Session.Steps
import CounterSampling.Proofs.Caching.CatalogAnswers
import CounterSampling.Proofs.Caching.ProfileLookups
import CounterSampling.Proofs.Config.Layers
import CounterSampling.Proofs.Config.Windows
import CounterSampling.Proofs.Device.Chunks
import CounterSampling.Proofs.Device.Histories
import CounterSampling.Proofs.Device.Refusals
import CounterSampling.Proofs.Device.Strides
import CounterSampling.Proofs.Json.RoundTrip
import CounterSampling.Proofs.Ownership.Sessions
import CounterSampling.Proofs.Packing.FirstFit
import CounterSampling.Proofs.Packing.Termination
import CounterSampling.Proofs.Packing.Totals
import CounterSampling.Proofs.PowerStates.Untouched
import CounterSampling.Proofs.RecordCounts
import CounterSampling.Proofs.Retrying
import CounterSampling.Proofs.Runs.Counting
import CounterSampling.Proofs.Runs.Mi300
import CounterSampling.Proofs.Runs.Openings
import CounterSampling.Proofs.Sampling.Positions
import CounterSampling.Proofs.Sampling.SameNames
import CounterSampling.Proofs.Sampling.SingleProfile
