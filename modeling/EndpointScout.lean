import EndpointScout.Main
import EndpointScout.Proofs.Store.Basic
import EndpointScout.Proofs.Store.History
import EndpointScout.Proofs.Crawl.Distance
import EndpointScout.Proofs.Crawl.Levels
import EndpointScout.Proofs.Json.Quote
import EndpointScout.Proofs.Json.Token
import EndpointScout.Proofs.Json.Strings
import EndpointScout.Proofs.Script.Literals
import EndpointScout.Proofs.Url.Punycode
import EndpointScout.Proofs.Text.Split
import EndpointScout.Proofs.Url.Idna
import EndpointScout.Proofs.Url.Address
import EndpointScout.Proofs.Url.Percent
import EndpointScout.Proofs.Url.Host
import EndpointScout.Proofs.Url.Authority
import EndpointScout.Proofs.Url.Path
import EndpointScout.Proofs.Url.Written
import EndpointScout.Proofs.Url.Shape
import EndpointScout.Proofs.Candidate.Canonical
import EndpointScout.Proofs.Candidate.Admission
import EndpointScout.Proofs.Candidate.Scope
import EndpointScout.Proofs.Crawl.Depth
import EndpointScout.Proofs.Probe.Outcomes
import EndpointScout.Proofs.Run.Records
import EndpointScout.Proofs.Candidate.Stored
import EndpointScout.Proofs.Url.Hostless
import EndpointScout.Proofs.Url.Resolved
import EndpointScout.Proofs.Crawl.Requests
import EndpointScout.Proofs.Crawl.Pages
import EndpointScout.Proofs.Text.Binary64
import EndpointScout.Proofs.Json.Reading
import EndpointScout.Proofs.Json.Layout
import EndpointScout.Proofs.Record.Json
import EndpointScout.Proofs.Text.Csv
import EndpointScout.Proofs.Record.Csv
import EndpointScout.Proofs.Run.Sources
import EndpointScout.Proofs.Script.Lowering
import EndpointScout.Proofs.Store.Hosts
import EndpointScout.Proofs.Url.Printable
import EndpointScout.Proofs.Candidate.Printable
import EndpointScout.Proofs.Record.Lines
import EndpointScout.Proofs.Run.Provenance
import EndpointScout.Proofs.Run.Lines
import EndpointScout.Proofs.Script.Calls
import EndpointScout.Proofs.Script.References
import EndpointScout.Proofs.Store.Scans
import EndpointScout.Proofs.Url.Directory
import EndpointScout.Proofs.Crawl.Redirects
import EndpointScout.Proofs.StatusFilter.Grammar
import EndpointScout.Proofs.Candidate.NormalPath
import EndpointScout.Proofs.Candidate.Identity
import EndpointScout.Proofs.Url.Origin
import EndpointScout.Proofs.Run.Confinement
import EndpointScout.Proofs.Web.Redirections
import EndpointScout.Proofs.Probe.Answers
import EndpointScout.Proofs.Probe.Pass
import EndpointScout.Proofs.Collect.Additions
import EndpointScout.Proofs.Script.Traversal
import EndpointScout.Proofs.Script.Building
import EndpointScout.Proofs.Script.Parts
import EndpointScout.Proofs.Script.Strings
import EndpointScout.Proofs.Text.Utf16
import EndpointScout.Proofs.Script.Escapes
import EndpointScout.Proofs.Script.Readings
import EndpointScout.Proofs.Script.StringValues
import EndpointScout.Proofs.Xml.Writing
import EndpointScout.Proofs.Collect.Locations
import EndpointScout.Proofs.Collect.Directives
import EndpointScout.Proofs.Html.Anchors
import EndpointScout.Proofs.Script.LevelOrder
import EndpointScout.Proofs.Script.Nesting
import EndpointScout.Proofs.Script.Templates
import EndpointScout.Proofs.Crawl.Accounting
