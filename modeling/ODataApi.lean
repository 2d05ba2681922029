import ODataApi.Binary64
import ODataApi.Binary64.Shortest
import ODataApi.Capability.CustomParameter
import ODataApi.Capability.Decoding
import ODataApi.Capability.Modification
import ODataApi.Capability.Navigation
import ODataApi.Capability.Permission
import ODataApi.Capability.Query
import ODataApi.Capability.Reading
import ODataApi.Capability.Record
import ODataApi.Capability.Term
import ODataApi.Character.Alphabetic
import ODataApi.Character.Blank
import ODataApi.Character.Numeric
import ODataApi.CommandLine.Arguments
import ODataApi.CommandLine.Configuration
import ODataApi.CommandLine.ConfigurationText
import ODataApi.CommandLine.Cut
import ODataApi.CommandLine.Directory
import ODataApi.CommandLine.Environment
import ODataApi.CommandLine.LogFilter
import ODataApi.CommandLine.Pattern
import ODataApi.CommandLine.Pattern.Reader
import ODataApi.CommandLine.Run
import ODataApi.Conversion
import ODataApi.Dictionary
import ODataApi.Document
import ODataApi.Document.Reader
import ODataApi.Document.Resolve
import ODataApi.Endpoint
import ODataApi.Endpoint.Parameters
import ODataApi.Endpoint.Synthesis
import ODataApi.Expression
import ODataApi.Json
import ODataApi.Json.Overlay
import ODataApi.Json.Printer
import ODataApi.Json.Reader
import ODataApi.Json.Shape
import ODataApi.Listing
import ODataApi.Main
import ODataApi.Model
import ODataApi.Model.Element
import ODataApi.Model.Hierarchy
import ODataApi.Name
import ODataApi.Numeral
import ODataApi.OpenApi.Assembly
import ODataApi.OpenApi.Document
import ODataApi.OpenApi.Schema
import ODataApi.OpenApi.SchemaProvider
import ODataApi.Path
import ODataApi.Path.Tree
import ODataApi.Proofs.Document.Resolve
import ODataApi.Proofs.Document.Valid
import ODataApi.Proofs.Document.Checks
import ODataApi.Proofs.Levels
import ODataApi.Proofs.Model.Hierarchy
import ODataApi.Proofs.Model.WellFormed
import ODataApi.Proofs.Path.Position
import ODataApi.Restriction.Cache
import ODataApi.Restriction.Context
import ODataApi.Restriction.Lookup
import ODataApi.Settings
import ODataApi.Proofs.Path.Children
import ODataApi.Proofs.Path.Enumeration
import ODataApi.Proofs.Restriction.Cache
import ODataApi.Proofs.Restriction.Query
import ODataApi.Proofs.Path.Produced
import ODataApi.Proofs.Conversion.Reuse
import ODataApi.Proofs.Dictionary
import ODataApi.Proofs.Endpoint.Synthesis
import ODataApi.Proofs.OpenApi.Items
import ODataApi.Proofs.OpenApi.References
import ODataApi.Proofs.OpenApi.Components
import ODataApi.Proofs.Restriction.Requests
import ODataApi.Proofs.Conversion.Lookup
import ODataApi.Proofs.OpenApi.OperationIds
import ODataApi.Proofs.Conversion.Order
import ODataApi.Proofs.Model.Coherent
import ODataApi.Proofs.Document.Containers
import ODataApi.Proofs.Document.Coherent
import ODataApi.Proofs.Document.Acceptance
import ODataApi.Proofs.Restriction.Reachable
import ODataApi.Proofs.Restriction.Precedence
import ODataApi.Proofs.Path.Narrowing
import ODataApi.Proofs.Endpoint.Permissive
import ODataApi.Proofs.Restriction.Locality
import ODataApi.Proofs.Name
import ODataApi.Proofs.Document.Respelling
import ODataApi.Proofs.Document.Outcome
import ODataApi.Proofs.Capability.Location
import ODataApi.Proofs.Capability.Reading
import ODataApi.Proofs.Capability.Records
import ODataApi.Proofs.Capability.Issues
import ODataApi.Proofs.Endpoint.WellFormed
import ODataApi.Proofs.Document.ElementNames
import ODataApi.Proofs.Path.NavigationPath
import ODataApi.Proofs.Capability.Entries
import ODataApi.Proofs.Restriction.Context
import ODataApi.Proofs.Restriction.Forbidden
import ODataApi.Proofs.Restriction.Override
import ODataApi.Proofs.Endpoint.Exclusion
import ODataApi.Proofs.Endpoint.ReadByKey
import ODataApi.Proofs.Path.Segments
import ODataApi.Proofs.Path.Parameters
import ODataApi.Proofs.Path.Casts
import ODataApi.Proofs.Endpoint.Authorization
import ODataApi.Proofs.Document.BaseCycles
import ODataApi.Proofs.Document.Annotations
import ODataApi.Proofs.Path.Bindings
import ODataApi.Proofs.Path.ReturnTypes
import ODataApi.Proofs.Model.DerivedTypes
import ODataApi.Proofs.Expression
import ODataApi.Proofs.Path.LastNavigation
import ODataApi.Proofs.Capability.Decoding
import ODataApi.Proofs.Capability.Relocation
