import ShareLinks.Client
import ShareLinks.CommandLine.Arguments
import ShareLinks.CommandLine.Run
import ShareLinks.Config
import ShareLinks.Duration
import ShareLinks.Enrolment
import ShareLinks.Fault
import ShareLinks.Header
import ShareLinks.Host.Basic
import ShareLinks.Host.Ipv4
import ShareLinks.Host.Ipv6
import ShareLinks.Host.Label
import ShareLinks.Host.Label.Table
import ShareLinks.Host.Punycode
import ShareLinks.Inbound
import ShareLinks.Json.Basic
import ShareLinks.Json.Display
import ShareLinks.Json.Field
import ShareLinks.Json.Parser
import ShareLinks.Json.Printer
import ShareLinks.Json.Search
import ShareLinks.Json.Writing
import ShareLinks.Link.Basic
import ShareLinks.Link.Params
import ShareLinks.Link.Uri
import ShareLinks.Link.Vmess
import ShareLinks.Main
import ShareLinks.Notice
import ShareLinks.Number.Binary64
import ShareLinks.Number.Decimal
import ShareLinks.Number.Rounding
import ShareLinks.Remark
import ShareLinks.Settings
import ShareLinks.Source
import ShareLinks.Stored
import ShareLinks.Stream.Basic
import ShareLinks.Stream.Security
import ShareLinks.Stream.Transport
import ShareLinks.Text.Base64
import ShareLinks.Text.Blank
import ShareLinks.Text.Case
import ShareLinks.Text.Case.Context
import ShareLinks.Text.Case.Lower
import ShareLinks.Text.Case.Upper
import ShareLinks.Text.Composition
import ShareLinks.Text.Composition.Classes
import ShareLinks.Text.Composition.Table
import ShareLinks.Text.Hex
import ShareLinks.Text.Numeral
import ShareLinks.Text.Percent
import ShareLinks.Text.Printable
import ShareLinks.Text.Quoted
import ShareLinks.Text.Split
import ShareLinks.Text.Table
import ShareLinks.Text.Utf8
import ShareLinks.Traffic
import ShareLinks.Url
import ShareLinks.Proofs.Codec
import ShareLinks.Proofs.CommandLine.LinkCommand
import ShareLinks.Proofs.CommandLine.Words
import ShareLinks.Proofs.DataAmount
import ShareLinks.Proofs.Duration
import ShareLinks.Proofs.EnrolledLink
import ShareLinks.Proofs.Enrolment
import ShareLinks.Proofs.Expiry
import ShareLinks.Proofs.FreshCredential
import ShareLinks.Proofs.Host.Addresses
import ShareLinks.Proofs.Host.Library
import ShareLinks.Proofs.HostHeader
import ShareLinks.Proofs.Identifier
import ShareLinks.Proofs.Json.Distinct
import ShareLinks.Proofs.Json.Integers
import ShareLinks.Proofs.Json.Numerals
import ShareLinks.Proofs.Json.Place
import ShareLinks.Proofs.Json.RoundTrip
import ShareLinks.Proofs.Json.Search
import ShareLinks.Proofs.Json.Strings
import ShareLinks.Proofs.Link.Agreement
import ShareLinks.Proofs.Link.Credential
import ShareLinks.Proofs.Link.Decoding
import ShareLinks.Proofs.Link.Dependence
import ShareLinks.Proofs.Link.Description
import ShareLinks.Proofs.Link.Failures
import ShareLinks.Proofs.Link.FanOut
import ShareLinks.Proofs.Link.Intended
import ShareLinks.Proofs.Link.Layout
import ShareLinks.Proofs.Link.Lines
import ShareLinks.Proofs.Link.Parameters
import ShareLinks.Proofs.Link.PlainEndpoint
import ShareLinks.Proofs.Link.Presence
import ShareLinks.Proofs.Link.Randomness
import ShareLinks.Proofs.Link.Reading
import ShareLinks.Proofs.Link.Redirect
import ShareLinks.Proofs.Link.Secret
import ShareLinks.Proofs.Lookup
import ShareLinks.Proofs.Number.HalfUnit
import ShareLinks.Proofs.Number.Nearest
import ShareLinks.Proofs.Number.Range
import ShareLinks.Proofs.Number.Rounded
import ShareLinks.Proofs.Number.Shortest
import ShareLinks.Proofs.Persistence
import ShareLinks.Proofs.Regular
import ShareLinks.Proofs.Remark
import ShareLinks.Proofs.SecurityFields
import ShareLinks.Proofs.Sequence
import ShareLinks.Proofs.Session
import ShareLinks.Proofs.SettingsText
import ShareLinks.Proofs.Source
import ShareLinks.Proofs.StoredForms
import ShareLinks.Proofs.Text.Base64
import ShareLinks.Proofs.Text.Percent
import ShareLinks.Proofs.Text.Printable
import ShareLinks.Proofs.Text.Split
import ShareLinks.Proofs.Text.Utf8
import ShareLinks.Proofs.Unmodelled
import ShareLinks.Proofs.Url
