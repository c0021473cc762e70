import FrameChain.AddressSpace
import FrameChain.Capture
import FrameChain.Configuration.Json
import FrameChain.Configuration.Overrides
import FrameChain.Image.Lookup
import FrameChain.LiveStack
import FrameChain.Proofs.Crossing
import FrameChain.Proofs.Dropped
import FrameChain.Proofs.Elsewhere
import FrameChain.Proofs.EntryPoints
import FrameChain.Proofs.Hint
import FrameChain.Proofs.Permissive
import FrameChain.Proofs.Repetition
import FrameChain.Proofs.Room
import FrameChain.Proofs.Torn
import FrameChain.Proofs.Unchecked
import FrameChain.Proofs.Acceptance
import FrameChain.Proofs.Footprint
import FrameChain.Proofs.Ascent
import FrameChain.Proofs.Depth
import FrameChain.Proofs.Recovery
import FrameChain.Proofs.Records
import FrameChain.Proofs.FirstSymbol
import FrameChain.Proofs.Inside
import FrameChain.Proofs.Tables
import FrameChain.Proofs.Located
import FrameChain.Proofs.Reordering
import FrameChain.Proofs.Prologue
import FrameChain.Proofs.Resolution
import FrameChain.Proofs.Environment
import FrameChain.Proofs.Members
import FrameChain.Proofs.Decoding
import FrameChain.Proofs.Questions
import FrameChain.Proofs.Rounds
import FrameChain.Proofs.Effort
