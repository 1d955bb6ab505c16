import HostedFiles.Break
import HostedFiles.Category
import HostedFiles.Config.Basic
import HostedFiles.Config.Signer
import HostedFiles.Config.Source
import HostedFiles.ContentType
import HostedFiles.Credential.Basic
import HostedFiles.Credential.Claims
import HostedFiles.Credential.Header
import HostedFiles.Credential.Key
import HostedFiles.Disk.Basic
import HostedFiles.Disk.Calls
import HostedFiles.Disk.Path
import HostedFiles.Disk.Tree
import HostedFiles.Encoding.Base64Url
import HostedFiles.Encoding.Form
import HostedFiles.Encoding.Percent
import HostedFiles.Environment.Basic
import HostedFiles.Environment.File
import HostedFiles.Environment.Lines
import HostedFiles.Environment.Value
import HostedFiles.Failure
import HostedFiles.FileName
import HostedFiles.Hash.Hmac
import HostedFiles.Hash.Sha256
import HostedFiles.Host.Live
import HostedFiles.Host.Settings
import HostedFiles.Host.Start
import HostedFiles.Http.Message
import HostedFiles.Http.Page
import HostedFiles.Http.Status
import HostedFiles.Http.Target
import HostedFiles.Json.Basic
import HostedFiles.Json.Numeral
import HostedFiles.Json.Reader
import HostedFiles.Json.Text
import HostedFiles.Link
import HostedFiles.Log
import HostedFiles.Log.Directive
import HostedFiles.Log.Filter
import HostedFiles.Log.Line
import HostedFiles.Log.Pattern
import HostedFiles.Log.Pattern.Class
import HostedFiles.Log.Pattern.Group
import HostedFiles.Log.Pattern.Sign
import HostedFiles.Main
import HostedFiles.Metadata
import HostedFiles.Relay.Command
import HostedFiles.Relay.Handling
import HostedFiles.Relay.Hub
import HostedFiles.Relay.Message
import HostedFiles.Relay.Roster
import HostedFiles.Rows
import HostedFiles.Service.Answer
import HostedFiles.Service.Disposition
import HostedFiles.Service.Retrieve
import HostedFiles.Service.Routes
import HostedFiles.Service.Upload
import HostedFiles.Store.Basic
import HostedFiles.Store.Retrieval
import HostedFiles.Store.Upload
import HostedFiles.Tag
import HostedFiles.Text.Alphanumeric
import HostedFiles.Text.AlphanumericTable
import HostedFiles.Text.Blank
import HostedFiles.Text.CaseTable
import HostedFiles.Text.Lowercase
import HostedFiles.Text.Number
import HostedFiles.Text.NumeralTable
import HostedFiles.Text.PrintableTable
import HostedFiles.Text.Quoted
import HostedFiles.Text.Ranges
import HostedFiles.Text.Search
import HostedFiles.Text.Split
import HostedFiles.Text.Utf8
import HostedFiles.Time
import HostedFiles.Proofs.Disk.Directories
import HostedFiles.Proofs.Disk.Files
import HostedFiles.Proofs.Store.Names
import HostedFiles.Proofs.Disk.Building
import HostedFiles.Proofs.Samples
import HostedFiles.Proofs.Store.Writing
import HostedFiles.Proofs.Store.Effects
import HostedFiles.Proofs.Service.Names
import HostedFiles.Proofs.Service.Responses
import HostedFiles.Proofs.Service.Uploads
import HostedFiles.Proofs.Service.FailedRequests
import HostedFiles.Proofs.Service.Confinement
import HostedFiles.Proofs.Service.UploadStages
import HostedFiles.Proofs.Service.UploadOrder
import HostedFiles.Proofs.Store.Ready
import HostedFiles.Proofs.Service.FileMap
import HostedFiles.Proofs.Service.Refinement
import HostedFiles.Proofs.Text.Digits
import HostedFiles.Proofs.Json.Written
import HostedFiles.Proofs.Credential.Validity
import HostedFiles.Proofs.Relay.Amounts
import HostedFiles.Proofs.Relay.UploadUrl
import HostedFiles.Proofs.Disk.Below
import HostedFiles.Proofs.Store.Moves
import HostedFiles.Proofs.Store.Interleaving
import HostedFiles.Proofs.Store.Concurrency
import HostedFiles.Proofs.Store.Races
import HostedFiles.Proofs.Link.Candidates
import HostedFiles.Proofs.Link.OwnLinks
import HostedFiles.Proofs.Link.Lookup
import HostedFiles.Proofs.Relay.Announcing
import HostedFiles.Proofs.Relay.Encryption
import HostedFiles.Proofs.Relay.Truthfulness
import HostedFiles.Proofs.Relay.Companions
import HostedFiles.Proofs.Disk.Spelling
import HostedFiles.Proofs.Disk.Severing
import HostedFiles.Proofs.Service.Keeping
import HostedFiles.Proofs.Host.Reloading
import HostedFiles.Proofs.Host.Running
import HostedFiles.Proofs.Host.InForce
import HostedFiles.Proofs.Host.Restart
import HostedFiles.Proofs.Http.Targets
import HostedFiles.Proofs.Service.Routing
import HostedFiles.Proofs.Host.PortWarning
import HostedFiles.Proofs.Environment.Outlines
import HostedFiles.Proofs.Environment.Taking
import HostedFiles.Proofs.Host.Renewal
import HostedFiles.Proofs.Store.Storing
import HostedFiles.Proofs.Credential.Acceptance
import HostedFiles.Proofs.Service.Parameters
import HostedFiles.Proofs.Service.FileNames
import HostedFiles.Proofs.Service.StoredNames
import HostedFiles.Proofs.Service.ServedTypes
import HostedFiles.Proofs.Service.MissingFiles
import HostedFiles.Proofs.Service.HeadRequests
import HostedFiles.Proofs.Link.Scanning
import HostedFiles.Proofs.Relay.AnnouncedNames
import HostedFiles.Proofs.Tag.Records
import HostedFiles.Proofs.Tag.Keys
import HostedFiles.Proofs.Tag.Lines
import HostedFiles.Proofs.Service.MountPaths
import HostedFiles.Proofs.Store.Children
import HostedFiles.Proofs.Http.ErrorPages
import HostedFiles.Proofs.Service.InnerFailures
import HostedFiles.Proofs.Host.Vouching
import HostedFiles.Proofs.Failure.Causes
