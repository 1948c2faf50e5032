import Playout.Cli.Color
import Playout.Log
import Playout.Metrics.Exposition
import Playout.Proofs.Control.Addresses
import Playout.Proofs.Pacer.Drift
import Playout.Proofs.Pcm.Conditioner
import Playout.Proofs.Pcm.Phase
import Playout.Proofs.Rtp.Inbound
import Playout.Proofs.Rtp.Places
import Playout.Proofs.Rtp.RoundTrip
import Playout.Proofs.Session.Traffic
import Playout.Proofs.Source.Reads
import Playout.Proofs.System.Counting
import Playout.Proofs.System.Latency
import Playout.Proofs.System.Pushes
import Playout.Proofs.System.Queues
import Playout.Proofs.System.Refusals
import Playout.Proofs.Wav.Segmentation
import Playout.Rehearsal.Surface
