import DeclarativeHttp.Text.Form
import DeclarativeHttp.Text.Basic
import DeclarativeHttp.Json.Printer
import DeclarativeHttp.Json.Typed
import DeclarativeHttp.Client.Basic
import DeclarativeHttp.Retry.Interrupt
import DeclarativeHttp.Proofs.Run
import DeclarativeHttp.Proofs.Backoff
import DeclarativeHttp.Proofs.Course
import DeclarativeHttp.Proofs.Placement
import DeclarativeHttp.Proofs.Logging
import DeclarativeHttp.Proofs.RunTimeText
import DeclarativeHttp.Proofs.Stability
import DeclarativeHttp.Proofs.Escaping
import DeclarativeHttp.Proofs.UriArgument
import DeclarativeHttp.Proofs.Failures
import DeclarativeHttp.Proofs.Confinement
import DeclarativeHttp.Proofs.Decoding
import DeclarativeHttp.Proofs.QueryLine
import DeclarativeHttp.Proofs.Substitution
import DeclarativeHttp.Proofs.Acceptance
import DeclarativeHttp.Proofs.Roles
import DeclarativeHttp.Proofs.ForeignAttributes
import DeclarativeHttp.Proofs.ParameterOrder
import DeclarativeHttp.Proofs.HeaderMerge
import DeclarativeHttp.Proofs.Dispatch
import DeclarativeHttp.Proofs.Intervals
import DeclarativeHttp.Proofs.Consultations
import DeclarativeHttp.Proofs.Resolution
import DeclarativeHttp.Proofs.Edits
import DeclarativeHttp.Proofs.QueryMap
import DeclarativeHttp.Proofs.HeaderMap
import DeclarativeHttp.Proofs.Patterns
import DeclarativeHttp.Proofs.QuerySplitting
import DeclarativeHttp.Proofs.FormBodies
import DeclarativeHttp.Proofs.JsonBodies
import DeclarativeHttp.Proofs.HeaderHistory
import DeclarativeHttp.Proofs.RetryAfter
import DeclarativeHttp.Proofs.ContentType
import DeclarativeHttp.Proofs.Inheritance
