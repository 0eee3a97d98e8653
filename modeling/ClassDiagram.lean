import ClassDiagram.Drawing.Svg
import ClassDiagram.Files.Edit
import ClassDiagram.Graph.Json
import ClassDiagram.Proofs.BodyBytes
import ClassDiagram.Proofs.BoxWidth
import ClassDiagram.Proofs.DeclarationOutcomes
import ClassDiagram.Proofs.DocumentIds
import ClassDiagram.Proofs.DrawingMarkup
import ClassDiagram.Proofs.EchoedStyles
import ClassDiagram.Proofs.GraphDocument
import ClassDiagram.Proofs.GraphIntegrity
import ClassDiagram.Proofs.LocalEdit
import ClassDiagram.Proofs.LocatedUnits
import ClassDiagram.Proofs.PublishingSession
import ClassDiagram.Proofs.ReadableUnits
import ClassDiagram.Proofs.RepeatedPasses
import ClassDiagram.Proofs.ReportChange
import ClassDiagram.Proofs.RespacedScan
import ClassDiagram.Proofs.ScanGrowth
import ClassDiagram.Proofs.ScanReference
import ClassDiagram.Proofs.ScanSteps
import ClassDiagram.Proofs.SpareEvidence
import ClassDiagram.Proofs.UnitOrder
import ClassDiagram.Proofs.WrittenText
import ClassDiagram.Publisher
import ClassDiagram.Source.Workspace
