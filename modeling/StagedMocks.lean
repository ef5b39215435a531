import StagedMocks.Main
import StagedMocks.Program
import StagedMocks.Proofs.Arguments.Grammar
import StagedMocks.Proofs.Edit.Order
import StagedMocks.Proofs.Expansion
import StagedMocks.Proofs.Migration.Chronicle
import StagedMocks.Proofs.Migration.Division
import StagedMocks.Proofs.Migration.Exchange
import StagedMocks.Proofs.Migration.Extraction
import StagedMocks.Proofs.Migration.Idempotence
import StagedMocks.Proofs.Migration.Passthrough
import StagedMocks.Proofs.Migration.Retention
import StagedMocks.Proofs.Migration.SecondRun
import StagedMocks.Proofs.Migration.Signature
import StagedMocks.Proofs.Migration.UnifiedCall
import StagedMocks.Proofs.Program.Check
import StagedMocks.Proofs.Program.Gate
import StagedMocks.Proofs.Program.Override
import StagedMocks.Proofs.Program.Update
import StagedMocks.Proofs.Settings.Ascent
import StagedMocks.Proofs.Settings.RoundTrip
