import ThermalPrint.Config.SessionByName
import ThermalPrint.FaultByName
import ThermalPrint.Image.Offline
import ThermalPrint.Json.Reader
import ThermalPrint.Json.Writer
import ThermalPrint.Log.Record
import ThermalPrint.Main
import ThermalPrint.Service.Api
import ThermalPrint.Session.Listeners
import ThermalPrint.Session.OrderByName
import ThermalPrint.Work.RequestByName
import ThermalPrint.Proofs.Connection.Bench
import ThermalPrint.Proofs.Connection.Ownership
import ThermalPrint.Proofs.Session.Scene
import ThermalPrint.Proofs.Session.Submit
import ThermalPrint.Proofs.Bytes
import ThermalPrint.Proofs.Encode.Reader
import ThermalPrint.Proofs.Text.Charset
import ThermalPrint.Proofs.Encode.Framing
import ThermalPrint.Proofs.Markup.Letters
import ThermalPrint.Proofs.Render.Stream
import ThermalPrint.Proofs.Markup.Scan
import ThermalPrint.Proofs.Text.Search
import ThermalPrint.Proofs.Markup.Division
import ThermalPrint.Proofs.Markup.Strands
import ThermalPrint.Proofs.Markup.Evidence
import ThermalPrint.Proofs.Markup.InPlace
import ThermalPrint.Proofs.Image.Dots
import ThermalPrint.Proofs.Text.Hex
import ThermalPrint.Proofs.Image.Blocks
import ThermalPrint.Proofs.Markup.Payload
import ThermalPrint.Proofs.Encode.Field
import ThermalPrint.Proofs.Markup.Concat
import ThermalPrint.Proofs.Encode.Printed
import ThermalPrint.Proofs.Encode.Reported
import ThermalPrint.Proofs.Decimal.Whole
import ThermalPrint.Proofs.Markup.Plain
import ThermalPrint.Proofs.Markup.Written
import ThermalPrint.Proofs.Receipt.Clean
import ThermalPrint.Proofs.Markup.Aligned
import ThermalPrint.Proofs.Markup.Enclosed
import ThermalPrint.Proofs.Receipt.Label
import ThermalPrint.Proofs.Connection.Failing
import ThermalPrint.Proofs.Connection.Opening
import ThermalPrint.Proofs.Connection.Interrupted
import ThermalPrint.Proofs.Connection.Listening
import ThermalPrint.Proofs.Session.Deeds
import ThermalPrint.Proofs.Session.Cancelled
import ThermalPrint.Proofs.Session.Slot
import ThermalPrint.Proofs.Session.Counter
import ThermalPrint.Proofs.Session.Leads
import ThermalPrint.Proofs.Session.OneJob
import ThermalPrint.Proofs.Image.Loading
import ThermalPrint.Proofs.Work.Bounded
import ThermalPrint.Proofs.Work.Crew
import ThermalPrint.Proofs.Work.House
import ThermalPrint.Proofs.Work.Images
import ThermalPrint.Proofs.Json.Least
import ThermalPrint.Proofs.Work.Kept
import ThermalPrint.Proofs.Work.Process
import ThermalPrint.Proofs.Work.Published
import ThermalPrint.Proofs.Work.Queues
import ThermalPrint.Proofs.Work.Record
import ThermalPrint.Proofs.Work.Registry
import ThermalPrint.Proofs.Work.Settled
import ThermalPrint.Proofs.Work.Steps
import ThermalPrint.Proofs.Work.Turns
import ThermalPrint.Proofs.Render.Failures
import ThermalPrint.Proofs.Render.Optional
import ThermalPrint.Proofs.Image.Bands
import ThermalPrint.Proofs.Render.Prepared
import ThermalPrint.Proofs.Service.Submitted
import ThermalPrint.Proofs.Markup.Stretches
import ThermalPrint.Proofs.Text.Capital
import ThermalPrint.Proofs.Text.Split
import ThermalPrint.Proofs.Encode.Barcode
import ThermalPrint.Proofs.Image.Refit
import ThermalPrint.Proofs.Image.Padded
import ThermalPrint.Proofs.Image.Grammar
import ThermalPrint.Proofs.Image.Darker
import ThermalPrint.Proofs.Transport.Written
import ThermalPrint.Proofs.Transport.Usable
import ThermalPrint.Proofs.Service.Form
import ThermalPrint.Proofs.Service.Configured
