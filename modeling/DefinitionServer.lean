import DefinitionServer.Main
import DefinitionServer.Proofs.Block
import DefinitionServer.Proofs.BlockPieces
import DefinitionServer.Proofs.Utf8
import DefinitionServer.Proofs.Conversation
import DefinitionServer.Proofs.Serving
import DefinitionServer.Proofs.DefineLine
import DefinitionServer.Proofs.Delivery
import DefinitionServer.Proofs.Frames
import DefinitionServer.Proofs.Definition
import DefinitionServer.Proofs.Table
import DefinitionServer.Proofs.Redefinition
import DefinitionServer.Proofs.Rejection
import DefinitionServer.Proofs.Reachable
import DefinitionServer.Proofs.Framing
import DefinitionServer.Proofs.Retrieval
import DefinitionServer.Proofs.Pipelining
import DefinitionServer.Proofs.Round
import DefinitionServer.Proofs.Heard
import DefinitionServer.Proofs.Breakdown
import DefinitionServer.Proofs.Replies
import DefinitionServer.Proofs.System
import DefinitionServer.Proofs.Interleaving
import DefinitionServer.Proofs.Refusal
import DefinitionServer.Proofs.Acceptance
import DefinitionServer.Proofs.LineArray
import DefinitionServer.Proofs.SourceLines
import DefinitionServer.Proofs.LineEnds
import DefinitionServer.Proofs.ReadBack
import DefinitionServer.Proofs.Volume
import DefinitionServer.Proofs.StructuralCheck
import DefinitionServer.Proofs.TokenLine
import DefinitionServer.Proofs.PaddedMatrix
import DefinitionServer.Proofs.Filling
import DefinitionServer.Proofs.ArgumentSplit
import DefinitionServer.Proofs.Progress
import DefinitionServer.Proofs.Digits
import DefinitionServer.Proofs.Ipv6
import DefinitionServer.Proofs.UrlPath
import DefinitionServer.Proofs.Authority
import DefinitionServer.Proofs.EndpointUrl
import DefinitionServer.Proofs.MatrixRows
import DefinitionServer.Proofs.IntegerText
