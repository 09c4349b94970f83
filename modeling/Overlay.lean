import Overlay.Grammar.Source
import Overlay.Merge.Session
import Overlay.Proofs.GeneratedCode
import Overlay.Proofs.Acceptance
import Overlay.Proofs.DerivedMerge
import Overlay.Proofs.VisibleTokens
import Overlay.Proofs.DeclaredNames
import Overlay.Proofs.TokenPositions
import Overlay.Proofs.AttributeItems
import Overlay.Proofs.UnknownKeys
import Overlay.Proofs.LiteralEntries
import Overlay.Proofs.Mentionable
import Overlay.Proofs.Sessions
import Overlay.Proofs.FieldSessions
import Overlay.Proofs.PlainSessions
import Overlay.Proofs.Essentials
import Overlay.Proofs.TypeShapes
import Overlay.Proofs.LastLayer
import Overlay.Proofs.RecordLiterals
import Overlay.Proofs.FirstMistake
import Overlay.Proofs.LayerLaws
import Overlay.Proofs.MergeBand
import Overlay.Proofs.LayerConflicts
import Overlay.Proofs.Conservation
import Overlay.Proofs.Bindings
import Overlay.Proofs.ImplementationHeaders
import Overlay.Proofs.StringLiterals
import Overlay.Proofs.WrittenAtoms
import Overlay.Proofs.WrittenTokens
import Overlay.Proofs.Diagnostics
import Overlay.Proofs.RuntimePaths
