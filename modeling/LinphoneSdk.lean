import LinphoneSdk.Av1.Losses
import LinphoneSdk.Baudot.Transcoding
import LinphoneSdk.Bctoolbox.Folding
import LinphoneSdk.BelleSip.ClientRuns
import LinphoneSdk.BelleSip.MultipartAgreement
import LinphoneSdk.BelleSip.MultipartParsing
import LinphoneSdk.BelleSip.ServerRuns
import LinphoneSdk.BelleSip.StreamFraming
import LinphoneSdk.BelleSip.UriComparison
import LinphoneSdk.Belr.Progress
import LinphoneSdk.Bzrtp.CacheContinuity
import LinphoneSdk.Bzrtp.Contention
import LinphoneSdk.Bzrtp.KeyExport
import LinphoneSdk.Bzrtp.SequenceNumbers
import LinphoneSdk.Bzrtp.Tiling
import LinphoneSdk.Conference.Runs
import LinphoneSdk.Containers.LruCache
import LinphoneSdk.H26x.ByteStream
import LinphoneSdk.Ice.Authentication
import LinphoneSdk.Ice.Formation
import LinphoneSdk.Lime.AtMostOnce
import LinphoneSdk.Lime.Atomicity
import LinphoneSdk.Lime.Codec
import LinphoneSdk.Lime.LengthSoundness
import LinphoneSdk.Lime.PeerBundles
import LinphoneSdk.LpConfig.Entries
import LinphoneSdk.LpConfig.FileRoundTrip
import LinphoneSdk.LpConfig.LineReading
import LinphoneSdk.LpConfig.Persistence
import LinphoneSdk.Ortp.FecPeeling
import LinphoneSdk.Ortp.FecRequests
import LinphoneSdk.Ortp.RtcpFeedback
import LinphoneSdk.Ortp.RtpBundleRuns
import LinphoneSdk.Ortp.Sdes
import LinphoneSdk.Ortp.TelephoneDelivery
import LinphoneSdk.RealTimeText.Bounds
import LinphoneSdk.RealTimeText.Delivery
import LinphoneSdk.Sal.Bundles
import LinphoneSdk.Sal.NegotiationAttempts
import LinphoneSdk.Sal.PayloadMatching
import LinphoneSdk.Sal.PotentialCfgGraph
import LinphoneSdk.Smff.Seek
import LinphoneSdk.Stun.RoundTrip
import LinphoneSdk.Turn.Framing
import LinphoneSdk.Vfs.CrashRecovery
import LinphoneSdk.Vfs.EncryptedRuns
import LinphoneSdk.Vp8.Packer
