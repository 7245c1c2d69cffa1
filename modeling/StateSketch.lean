import StateSketch.Main
import StateSketch.Session.Members
import StateSketch.Session.Operators
import StateSketch.Proofs.Outline
import StateSketch.Proofs.Scripts
import StateSketch.Proofs.TitleComment
import StateSketch.Proofs.EntryPoints
import StateSketch.Proofs.CallSites
import StateSketch.Proofs.Spelling
import StateSketch.Proofs.Refusals
import StateSketch.Proofs.Conflicts
import StateSketch.Proofs.Repairs
import StateSketch.Proofs.Outputs
import StateSketch.Proofs.Keywords
import StateSketch.Proofs.SymbolStability
import StateSketch.Proofs.Demands
import StateSketch.Proofs.Delivery
import StateSketch.Proofs.ReportLines
import StateSketch.Proofs.FreeNames
