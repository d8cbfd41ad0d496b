import ApexiDevices.Queue.Recovery
import ApexiDevices.Queue.FailedRuns
import ApexiDevices.Reset.Network
import ApexiDevices.Rotation.Redelivery
import ApexiDevices.Ota.Handles
import ApexiDevices.Ota.BootHealth
import ApexiDevices.Fleet.Deliveries
import ApexiDevices.Dash.UploadEvidence
import ApexiDevices.Https.HttpsWorker
import ApexiDevices.Dash.EventLink
import ApexiDevices.Csv.Rows
import ApexiDevices.Logs.DashEvents
import ApexiDevices.Logs.WholeLines
import ApexiDevices.Web.Downloads
import ApexiDevices.Authorization.Polling
import ApexiDevices.Authorization.Visiting
import ApexiDevices.Dash.Catalogs
import ApexiDevices.Management.AllOrNothing
import ApexiDevices.Management.IssuedIds
import ApexiDevices.Provisioning.Intact
import ApexiDevices.Queue.ArchiveRuns
import ApexiDevices.Queue.BlankPartition
import ApexiDevices.Management.Structure
import ApexiDevices.Management.QueueOldest
import ApexiDevices.Dash.AcceptedFrames
import ApexiDevices.Dash.DashGauge
import ApexiDevices.Fleet.DeviceAgreement
import ApexiDevices.Release.SignedRelease
import ApexiDevices.Logs.RemoteDownload
import ApexiDevices.Queue.StartupScan
import ApexiDevices.Upload.VolatileFallback
