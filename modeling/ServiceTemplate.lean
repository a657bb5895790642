import ServiceTemplate.Foundations.Run
import ServiceTemplate.Foundations.Program
import ServiceTemplate.Foundations.LeaseStore
import ServiceTemplate.Foundations.Uuid
import ServiceTemplate.Foundations.JsObject
import ServiceTemplate.Foundations.JsonSchema
import ServiceTemplate.Foundations.LayeredCache
import ServiceTemplate.Foundations.SharedCache
import ServiceTemplate.Foundations.ParseArgs
import ServiceTemplate.Jobs.PeriodicJobs
import ServiceTemplate.Jobs.Cluster
import ServiceTemplate.Jobs.MutualExclusion
import ServiceTemplate.Jobs.NestedLock
import ServiceTemplate.Jobs.HandOver
import ServiceTemplate.Jobs.FileExclusivity
import ServiceTemplate.Jobs.AcquireOrRenew
import ServiceTemplate.Jobs.CoolDown
import ServiceTemplate.Jobs.CleanUp
import ServiceTemplate.Jobs.Disposal
import ServiceTemplate.Users.CacheRefinement
import ServiceTemplate.Users.CacheRace
import ServiceTemplate.Users.StoredUsers
import ServiceTemplate.Users.Admission
import ServiceTemplate.Users.Routes
import ServiceTemplate.Permissions.AddPermissions
import ServiceTemplate.Permissions.Queue
import ServiceTemplate.Cli.GetArgs
import ServiceTemplate.Cli.GracefulShutdown
import ServiceTemplate.Cli.NodeProcess
import ServiceTemplate.Cli.GetUserImportJobs
import ServiceTemplate.Config.JwtKey
import ServiceTemplate.Foundations.Machine
import ServiceTemplate.Users.ReadYourWrites
import ServiceTemplate.Users.DirectoryRefinement
import ServiceTemplate.Users.Staleness
import ServiceTemplate.Jobs.FailOver
import ServiceTemplate.Jobs.Settlement
import ServiceTemplate.Permissions.PermissionConsumer
