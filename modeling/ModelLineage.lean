import ModelLineage.Main
import ModelLineage.Storage.FileStore
import ModelLineage.Proofs.Flatten.Cycles
import ModelLineage.Proofs.Flatten.Idempotence
import ModelLineage.Proofs.Flatten.Meaning
import ModelLineage.Proofs.GraphDocument.RoundTrip
import ModelLineage.Proofs.Flatten.Preservation
import ModelLineage.Proofs.Flatten.Renaming
import ModelLineage.Proofs.Flatten.Survey
import ModelLineage.Proofs.Storage.Stores
import ModelLineage.Proofs.Command.Flattening
import ModelLineage.Proofs.Command.FixedPoint
import ModelLineage.Proofs.Flatten.TypeRetention
import ModelLineage.Proofs.Flatten.Refinement
import ModelLineage.Proofs.GraphDocument.Tearing
import ModelLineage.Proofs.GraphDocument.AbbreviatedGraphs
import ModelLineage.Proofs.Generator.Runs
import ModelLineage.Proofs.Flatten.StrictCheck
import ModelLineage.Proofs.Flatten.Rekeying
import ModelLineage.Proofs.GraphDocument.Acceptance
import ModelLineage.Proofs.Swift.Spelling
import ModelLineage.Proofs.Flatten.Extension
import ModelLineage.Proofs.Flatten.Course
import ModelLineage.Proofs.Command.Obstacles
import ModelLineage.Proofs.Flatten.LeavingOrder
import ModelLineage.Proofs.Flatten.Offering
import ModelLineage.Proofs.Schema.RequiredMarks
