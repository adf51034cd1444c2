import ClassDiagram.Journal.Drawing
import ClassDiagram.Journal.Printing
import ClassDiagram.Journal.Reading
import ClassDiagram.Journal.Rendering
import ClassDiagram.Proofs.CandidateOrder
import ClassDiagram.Proofs.CommaSplitting
import ClassDiagram.Proofs.CommentPlaces
import ClassDiagram.Proofs.ComplaintPlaces
import ClassDiagram.Proofs.DocumentRoundTrip
import ClassDiagram.Proofs.EditedMembers
import ClassDiagram.Proofs.HiddenMembers
import ClassDiagram.Proofs.InterfaceMarks
import ClassDiagram.Proofs.InterfaceModes
import ClassDiagram.Proofs.LongestGaps
import ClassDiagram.Proofs.Rearrangement
import ClassDiagram.Proofs.RenderExchange
import ClassDiagram.Proofs.TextPlaces
import ClassDiagram.Proofs.TypeRefText
import ClassDiagram.Proofs.WrittenEntries
