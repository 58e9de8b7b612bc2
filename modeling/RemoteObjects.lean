import RemoteObjects.Association
import RemoteObjects.Bus.Basic
import RemoteObjects.Bus.Medium
import RemoteObjects.Catalog.Basic
import RemoteObjects.Catalog.Member
import RemoteObjects.Decimal.Shortest
import RemoteObjects.Digest.Blake3
import RemoteObjects.Directory
import RemoteObjects.Event
import RemoteObjects.Fault
import RemoteObjects.Host.Basic
import RemoteObjects.Host.Table
import RemoteObjects.Proofs.Association
import RemoteObjects.Proofs.Bus.Closing
import RemoteObjects.Proofs.Bus.Journal
import RemoteObjects.Proofs.Bus.Recorded
import RemoteObjects.Proofs.Bus.Requests
import RemoteObjects.Proofs.Bus.Responses
import RemoteObjects.Proofs.Bus.Routing
import RemoteObjects.Proofs.Bus.Subscriptions
import RemoteObjects.Proofs.Bus.Switchboard
import RemoteObjects.Proofs.Catalog
import RemoteObjects.Proofs.Catalog.Members
import RemoteObjects.Proofs.Catalog.Resolution
import RemoteObjects.Proofs.DirectLine
import RemoteObjects.Proofs.Except
import RemoteObjects.Proofs.Host
import RemoteObjects.Proofs.Host.Arguments
import RemoteObjects.Proofs.Host.Lifetime
import RemoteObjects.Proofs.Host.Mismatches
import RemoteObjects.Proofs.Host.Outcome
import RemoteObjects.Proofs.Host.Provenance
import RemoteObjects.Proofs.Host.Refusals
import RemoteObjects.Proofs.Host.Separation
import RemoteObjects.Proofs.Host.StaticFields
import RemoteObjects.Proofs.Host.Warnings
import RemoteObjects.Proofs.List
import RemoteObjects.Proofs.Proxy.Agreement
import RemoteObjects.Proofs.Proxy.Callers
import RemoteObjects.Proofs.Proxy.Conduct
import RemoteObjects.Proofs.Proxy.Errands
import RemoteObjects.Proofs.Proxy.Interchange
import RemoteObjects.Proofs.Proxy.Lifecycle
import RemoteObjects.Proofs.Proxy.Registration
import RemoteObjects.Proofs.Proxy.Release
import RemoteObjects.Proofs.Registry
import RemoteObjects.Proofs.Registry.Handles
import RemoteObjects.Proofs.Request.Shape
import RemoteObjects.Proofs.Service.Answering
import RemoteObjects.Proofs.Service.Loop
import RemoteObjects.Proofs.Service.Shifts
import RemoteObjects.Proofs.Service.Stages
import RemoteObjects.Proofs.Settings
import RemoteObjects.Proofs.Signature
import RemoteObjects.Proofs.Tag
import RemoteObjects.Proofs.Tag.Digested
import RemoteObjects.Proofs.Text
import RemoteObjects.Proofs.Traffic.Basic
import RemoteObjects.Proofs.Traffic.Closing
import RemoteObjects.Proofs.Traffic.Correlation
import RemoteObjects.Proofs.Traffic.Crowd
import RemoteObjects.Proofs.Traffic.Custody
import RemoteObjects.Proofs.Traffic.Delivery
import RemoteObjects.Proofs.Traffic.Effects
import RemoteObjects.Proofs.Traffic.Ownership
import RemoteObjects.Proofs.Traffic.Progress
import RemoteObjects.Proofs.Traffic.Repetition
import RemoteObjects.Proofs.Traffic.Single
import RemoteObjects.Proofs.Traffic.Tracking
import RemoteObjects.Proofs.Transport.Sending
import RemoteObjects.Proofs.Wire.Primitive
import RemoteObjects.Proofs.Wire.RoundTrip
import RemoteObjects.Proofs.Wire.Succinct
import RemoteObjects.Proofs.Wire.Truncation
import RemoteObjects.Proxy.Basic
import RemoteObjects.Proxy.Failure
import RemoteObjects.Registry
import RemoteObjects.Reply
import RemoteObjects.Request.Basic
import RemoteObjects.Request.Shape
import RemoteObjects.Service
import RemoteObjects.Session.AnyMedium
import RemoteObjects.Session.Channels
import RemoteObjects.Session.Classes
import RemoteObjects.Session.Exchange
import RemoteObjects.Session.Hosting
import RemoteObjects.Session.Objects
import RemoteObjects.Session.Outcome
import RemoteObjects.Session.Plan
import RemoteObjects.Session.PolicyPlan
import RemoteObjects.Session.Proxies
import RemoteObjects.Session.Run
import RemoteObjects.Session.State
import RemoteObjects.Session.Stores
import RemoteObjects.Settings
import RemoteObjects.Signature
import RemoteObjects.Tag
import RemoteObjects.Text.Blank
import RemoteObjects.Text.GraphemeExtend
import RemoteObjects.Text.Intervals
import RemoteObjects.Text.Number
import RemoteObjects.Text.Quoted
import RemoteObjects.Text.Unprintable
import RemoteObjects.Transport.DirectLine
import RemoteObjects.Transport.Failure
import RemoteObjects.Transport.RoundTrip
import RemoteObjects.Value.Basic
import RemoteObjects.Value.Conversion
import RemoteObjects.Value.Text
import RemoteObjects.Wire.Failure
import RemoteObjects.Wire.Primitive
import RemoteObjects.Wire.Reader
import RemoteObjects.Wire.Request
import RemoteObjects.Wire.Value
import RemoteObjects.Wire.Varint
