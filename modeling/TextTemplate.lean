import TextTemplate.Dialect.Display
import TextTemplate.Main
import TextTemplate.Proofs.Dialect.Anchoring
import TextTemplate.Proofs.Scan.Spelling
import TextTemplate.Proofs.Scan.Progress
import TextTemplate.Proofs.Scan.Layout
import TextTemplate.Proofs.Scan.Prefixes
import TextTemplate.Proofs.Dialect.StandardSpans
import TextTemplate.Proofs.Scan.Concatenation
import TextTemplate.Proofs.Scan.FixedSigns
import TextTemplate.Proofs.Quoting.Braces
import TextTemplate.Proofs.Scan.Enclosed
import TextTemplate.Proofs.Scan.Closing
import TextTemplate.Proofs.Scan.Locality
import TextTemplate.Proofs.Render.Interleaving
import TextTemplate.Proofs.Render.Dependence
import TextTemplate.Proofs.Dialect.Building
import TextTemplate.Proofs.Dialect.Settings
import TextTemplate.Proofs.CommandLine.Stages
import TextTemplate.Proofs.Json.Grammar
import TextTemplate.Proofs.Json.Reading
import TextTemplate.Proofs.Json.Writing
import TextTemplate.Proofs.CommandLine.Dump
import TextTemplate.Proofs.Yaml.Scalars
import TextTemplate.Proofs.Yaml.Tokens
import TextTemplate.Proofs.Yaml.Scanning
import TextTemplate.Proofs.Yaml.Portable
import TextTemplate.Proofs.Settings.Variables
import TextTemplate.Proofs.Number.Rounding
import TextTemplate.Proofs.Yaml.Decimals
import TextTemplate.Proofs.Quoting.OnePass
import TextTemplate.Proofs.Quoting.OpenCount
import TextTemplate.Proofs.Scan.PlainText
import TextTemplate.Proofs.Number.Text
import TextTemplate.Proofs.Render.ListText
import TextTemplate.Proofs.Render.Missing
import TextTemplate.Proofs.Render.Paths
import TextTemplate.Proofs.Render.Plural
import TextTemplate.Proofs.Quoting.Chains
import TextTemplate.Proofs.Json.Compact
