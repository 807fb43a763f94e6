import RouteTemplate.Main
import RouteTemplate.Resolver
import RouteTemplate.Proofs.Bag.Shape
import RouteTemplate.Proofs.Cache.Transparency
import RouteTemplate.Proofs.Except
import RouteTemplate.Proofs.Percent
import RouteTemplate.Proofs.Route.Parts
import RouteTemplate.Proofs.Route.Outline
import RouteTemplate.Proofs.Decimal.Numeral
import RouteTemplate.Proofs.Route.Leftovers
import RouteTemplate.Proofs.Route.Server
import RouteTemplate.Proofs.Bag.Accessors
import RouteTemplate.Proofs.Route.Delivery
import RouteTemplate.Proofs.Configuration.Layering
import RouteTemplate.Proofs.Files.Tree
import RouteTemplate.Proofs.Files.AtomicWrite
import RouteTemplate.Proofs.Json.ReadBack
import RouteTemplate.Proofs.Text.Utf8
import RouteTemplate.Proofs.Configuration.UserFile
import RouteTemplate.Proofs.CommandLine.Invocation
import RouteTemplate.Proofs.CommandLine.UserFile
import RouteTemplate.Proofs.Cache.Mappings
import RouteTemplate.Proofs.CommandLine.Resolve
import RouteTemplate.Proofs.Route.Failure
import RouteTemplate.Proofs.Route.PathPlace
import RouteTemplate.Proofs.Url.Dots
import RouteTemplate.Proofs.Bag.Declared
import RouteTemplate.Proofs.Bag.Forms
import RouteTemplate.Proofs.Route.Readings
import RouteTemplate.Proofs.Route.Forms
import RouteTemplate.Proofs.Value.KeyForm
import RouteTemplate.Proofs.Cache.Growth
import RouteTemplate.Proofs.CommandLine.Reset
import RouteTemplate.Proofs.CommandLine.Reading
import RouteTemplate.Proofs.CommandLine.Streams
import RouteTemplate.Proofs.Bag.Reading
import RouteTemplate.Proofs.Template.Append
import RouteTemplate.Proofs.Route.Composition
import RouteTemplate.Proofs.Route.Missing
import RouteTemplate.Proofs.Route.Fragment
import RouteTemplate.Proofs.Route.Spelling
import RouteTemplate.Proofs.Bag.Held
import RouteTemplate.Proofs.Bag.Listing
import RouteTemplate.Proofs.Bag.Record
import RouteTemplate.Proofs.Route.SecondQuery
import RouteTemplate.Proofs.Route.Absent
import RouteTemplate.Proofs.Value.Component
import RouteTemplate.Proofs.Url.Relative
import RouteTemplate.Proofs.Route.Verbatim
import RouteTemplate.Proofs.Url.FolderPath
import RouteTemplate.Proofs.Url.Folder
import RouteTemplate.Proofs.Route.Folder
import RouteTemplate.Proofs.Route.Casing
import RouteTemplate.Proofs.Route.Order
import RouteTemplate.Proofs.Files.AllOrNothing
import RouteTemplate.Proofs.Json.Document
import RouteTemplate.Proofs.CommandLine.Document
import RouteTemplate.Proofs.ParameterPairs
import RouteTemplate.Proofs.Route.FixedPoint
import RouteTemplate.Proofs.Route.Bundle
import RouteTemplate.Proofs.Cache.Classes
import RouteTemplate.Proofs.Text.Quoted
