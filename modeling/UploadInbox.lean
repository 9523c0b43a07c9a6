import UploadInbox.Text.Utf8
import UploadInbox.Text.Hex
import UploadInbox.Text.Decimal
import UploadInbox.Text.Blank
import UploadInbox.Text.Lowercase
import UploadInbox.Text.Quoted
import UploadInbox.Percent
import UploadInbox.Json.Reader
import UploadInbox.Error
import UploadInbox.Http.Request
import UploadInbox.Route
import UploadInbox.Forwarding
import UploadInbox.Crypto.Pem
import UploadInbox.Crypto.Curve
import UploadInbox.Authenticator
import UploadInbox.Yaml.Scalar
import UploadInbox.Yaml.Node
import UploadInbox.Config.Basic
import UploadInbox.Config.Document
import UploadInbox.Log
import UploadInbox.Completion
import UploadInbox.Broker.Delivery
import UploadInbox.Lookup
import UploadInbox.Inbox.Passage
import UploadInbox.Command.Report
import UploadInbox.Log.Line
import UploadInbox.Main
import UploadInbox.Proofs.Inbox.Admission
import UploadInbox.Proofs.Route.BucketRoot
import UploadInbox.Proofs.Inbox.Confinement
import UploadInbox.Proofs.Signing.Meaning
import UploadInbox.Proofs.Inbox.Decisions
import UploadInbox.Proofs.Signing.Sorted
import UploadInbox.Proofs.Signing.Verifier
import UploadInbox.Proofs.Http.Headers
import UploadInbox.Proofs.Http.SortedFields
import UploadInbox.Proofs.Signing.Names
import UploadInbox.Proofs.Text.Characters
import UploadInbox.Proofs.Text.Decimal
import UploadInbox.Proofs.Signing.Unambiguous
import UploadInbox.Proofs.Signing.Authorization
import UploadInbox.Proofs.Http.Uri
import UploadInbox.Proofs.Http.Url
import UploadInbox.Proofs.Endpoint
import UploadInbox.Proofs.Time.Civil
import UploadInbox.Proofs.Route.Addressing
import UploadInbox.Proofs.Forwarding.Resigned
import UploadInbox.Proofs.Forwarding.Coverage
import UploadInbox.Proofs.Forwarding.Signature
import UploadInbox.Proofs.Forwarding.Purged
import UploadInbox.Proofs.Forwarding.Influence
import UploadInbox.Proofs.Inbox.Announcement
import UploadInbox.Proofs.Broker.History
import UploadInbox.Proofs.Broker.Tickets
import UploadInbox.Proofs.Broker.Answers
import UploadInbox.Proofs.Broker.Consistent
import UploadInbox.Proofs.Broker.Dependable
import UploadInbox.Proofs.Inbox.Preparation
import UploadInbox.Proofs.Token.Validity
import UploadInbox.Proofs.Lookup.Host
import UploadInbox.Proofs.Lookup.Contents
import UploadInbox.Proofs.Lookup.Found
import UploadInbox.Proofs.Startable
import UploadInbox.Proofs.Forwarding.Length
import UploadInbox.Proofs.Token.Precedence
import UploadInbox.Proofs.Config.References
import UploadInbox.Proofs.Yaml.Rows
import UploadInbox.Proofs.Config.Comments
import UploadInbox.Proofs.Broker.Address
import UploadInbox.Proofs.Event
import UploadInbox.Proofs.Error
import UploadInbox.Proofs.Listing
