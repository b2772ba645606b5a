import KernelControls.Bench
import KernelControls.Engine.Command
import KernelControls.Main
import KernelControls.Proofs.Sessions.Cancelling
import KernelControls.Proofs.Sessions.Overlap
import KernelControls.Proofs.Boot.Restart
import KernelControls.Proofs.Sessions.LastOut
import KernelControls.Proofs.Boot.Reporting
import KernelControls.Proofs.Values.Encoding
import KernelControls.Proofs.Engine.Gates
import KernelControls.Proofs.Families.Catalogs
import KernelControls.Proofs.Sessions.Turns
import KernelControls.Proofs.Sessions.Agreement
import KernelControls.Proofs.FileTrees.Directories
import KernelControls.Proofs.Stores.DurableStore
import KernelControls.Proofs.Backends.Interchange
import KernelControls.Proofs.Sessions.Isolation
import KernelControls.Proofs.Sessions.LatestCommit
import KernelControls.Proofs.Sessions.Accepting
import KernelControls.Proofs.Families.Insertions
import KernelControls.Proofs.Values.Calibration
import KernelControls.Proofs.Boot.Booting
import KernelControls.Proofs.Values.Lines
import KernelControls.Proofs.Engine.DirectSettings
import KernelControls.Proofs.Engine.BestEffort
import KernelControls.Proofs.FileTrees.BelowRoot
import KernelControls.Proofs.Families.Listings
import KernelControls.Proofs.Families.FirstFault
import KernelControls.Proofs.Values.Decoding
import KernelControls.Proofs.Documents.PreferenceFormat
import KernelControls.Proofs.FileTrees.NodeIdentity
import KernelControls.Proofs.Engine.Offers
import KernelControls.Proofs.Families.Form
import KernelControls.Proofs.Settings.Layers
import KernelControls.Proofs.Backends.LastWrites
