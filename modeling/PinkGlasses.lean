import PinkGlasses.Delivery.Confined
import PinkGlasses.Delivery.Barred
import PinkGlasses.Delivery.Redelivery
import PinkGlasses.Scanner.Replay
import PinkGlasses.Scanner.Order
import PinkGlasses.Delivery.Isolation
import PinkGlasses.Run.Progress
import PinkGlasses.Lease.Shape
import PinkGlasses.Lease.Attempts
import PinkGlasses.Launch.Excluded
import PinkGlasses.Planner.Routes
import PinkGlasses.Run.Once
import PinkGlasses.Run.Verdict
import PinkGlasses.Login
import PinkGlasses.Control.Reasons
import PinkGlasses.Enroll
import PinkGlasses.Accounts.Admins
import PinkGlasses.Accounts.First
import PinkGlasses.Targets.Authorized
import PinkGlasses.Targets.Lost
import PinkGlasses.Targets.Atomic
import PinkGlasses.Connections
import PinkGlasses.Lease.Brute
import PinkGlasses.Lease.Company
import PinkGlasses.Digests.Periods
import PinkGlasses.Diff.Returned
import PinkGlasses.Diff.History
import PinkGlasses.Sightings.Merge
import PinkGlasses.Sightings.Hosts
import PinkGlasses.SshExit.HostKey
import PinkGlasses.SshExit.Install
import PinkGlasses.Technologies
import PinkGlasses.Scanner.Web
import PinkGlasses.Schedules.Patch
import PinkGlasses.Launch.FleetSize
import PinkGlasses.ScopeGuard.Hosts
import PinkGlasses.ScopeGuard.Refused
import PinkGlasses.Scanner.Budget
import PinkGlasses.Scanner.Discovery
import PinkGlasses.Tunnel
import PinkGlasses.Provisioner
