import ClassVerification.Verification
import ClassVerification.Logging.Registry
import ClassVerification.Compressed.Bits
import ClassVerification.Compressed.Checksum
import ClassVerification.Compressed.Deflate
import ClassVerification.Compressed.Envelope
import ClassVerification.Proofs.Polling.Ceiling
import ClassVerification.Proofs.Polling.Verdict
import ClassVerification.Proofs.Toolchain.Manifest
import ClassVerification.Proofs.Verification.Gating
import ClassVerification.Proofs.Submission.Verbatim
import ClassVerification.Proofs.Verification.NegativeCeiling
import ClassVerification.Proofs.Verification.Declared
import ClassVerification.Proofs.Dispatch.Decoded
import ClassVerification.Proofs.Toolchain.Build
import ClassVerification.Proofs.Verification.Announced
import ClassVerification.Proofs.Discovery.Candidates
import ClassVerification.Proofs.Polling.Patience
import ClassVerification.Proofs.Verification.Scope
import ClassVerification.Proofs.Discovery.Stops
import ClassVerification.Proofs.JobMachine.Arrows
import ClassVerification.Proofs.JobMachine.Course
import ClassVerification.Proofs.Dispatch.Decision
import ClassVerification.Proofs.Polling.Unguarded
import ClassVerification.Proofs.Dispatch.Reading
import ClassVerification.Proofs.Polling.Display
import ClassVerification.Proofs.Toolchain.FileBuild
import ClassVerification.Proofs.Discovery.Workspace
import ClassVerification.Proofs.Toolchain.Report
import ClassVerification.Proofs.Api.Path
import ClassVerification.Proofs.Logging.Written
