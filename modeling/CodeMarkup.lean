import CodeMarkup.Config.Json
import CodeMarkup.Main
import CodeMarkup.Toml.Text.RoundTrip
import CodeMarkup.Proofs.Regex.Cuts
import CodeMarkup.Proofs.Markup.Entities
import CodeMarkup.Proofs.Markup.Rendered
import CodeMarkup.Proofs.Passes
import CodeMarkup.Proofs.Regex.Expressions
import CodeMarkup.Proofs.Regex.Search
import CodeMarkup.Proofs.Regex.Bounds
import CodeMarkup.Proofs.Language.Document
import CodeMarkup.Proofs.Language.Script
import CodeMarkup.Proofs.Language.Style
import CodeMarkup.Proofs.Languages
import CodeMarkup.Proofs.Registry
import CodeMarkup.Proofs.Highlighter
import CodeMarkup.Proofs.Transparency
import CodeMarkup.Proofs.Inference
import CodeMarkup.Proofs.Registry.Log
import CodeMarkup.Proofs.Config.RoundTrip
import CodeMarkup.Proofs.Config.Aliases
import CodeMarkup.Proofs.Emitters
import CodeMarkup.Proofs.Frames
import CodeMarkup.Proofs.Frames.Json
import CodeMarkup.Proofs.Language.Tokens
import CodeMarkup.Proofs.Language.Bare
import CodeMarkup.Proofs.Markup.NestedSpans
import CodeMarkup.Proofs.Markup.Unwrapping
import CodeMarkup.Proofs.Markup.Forests
import CodeMarkup.Proofs.Markup.Wrappers
import CodeMarkup.Proofs.Language.Quotes
import CodeMarkup.Proofs.NormalForm
import CodeMarkup.Proofs.Collapsing
import CodeMarkup.Proofs.Cache.Recency
import CodeMarkup.Proofs.Carets
import CodeMarkup.Proofs.KeptDocuments
import CodeMarkup.Proofs.Language.Neighbours
import CodeMarkup.Proofs.Leftovers
import CodeMarkup.Proofs.Legibility
