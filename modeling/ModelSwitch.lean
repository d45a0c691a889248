import ModelSwitch.Proofs.Arrivals
import ModelSwitch.Proofs.Blobs.Outputs
import ModelSwitch.Proofs.Blobs.Uploads
import ModelSwitch.Proofs.Book.Leases
import ModelSwitch.Proofs.Calibrate
import ModelSwitch.Proofs.Execution.Keys
import ModelSwitch.Proofs.Gateway
import ModelSwitch.Proofs.Images
import ModelSwitch.Proofs.Observer
import ModelSwitch.Proofs.Release
import ModelSwitch.Proofs.Scheduler.Cancelled
import ModelSwitch.Proofs.Scheduler.Capacity
import ModelSwitch.Proofs.Scheduler.ColdLoads
import ModelSwitch.Proofs.Scheduler.Course
import ModelSwitch.Proofs.Scheduler.Deadlines
import ModelSwitch.Proofs.Scheduler.Exclusive
import ModelSwitch.Proofs.Scheduler.HeadOfLine
import ModelSwitch.Proofs.Scheduler.Preparation
import ModelSwitch.Proofs.Scheduler.Recovery
import ModelSwitch.Proofs.Scheduler.Samples
import ModelSwitch.Proofs.SessionRuns
import ModelSwitch.Proofs.StartTime
import ModelSwitch.Proofs.Startup
import ModelSwitch.Proofs.Streaming
import ModelSwitch.Proofs.Validation.Evidence
import ModelSwitch.Proofs.Validation.Migration
import ModelSwitch.Proofs.Validation.Preflight
import ModelSwitch.Proofs.Validation.Workload
import ModelSwitch.Proofs.Wiring
