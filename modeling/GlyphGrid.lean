import GlyphGrid.Cache.Direct
import GlyphGrid.Cache.Handles
import GlyphGrid.Main
import GlyphGrid.Shaping.Scripted
import GlyphGrid.Proofs.Cache.Lookup
import GlyphGrid.Proofs.Units.Rounding
import GlyphGrid.Proofs.Cache.History
import GlyphGrid.Proofs.Cache.Transparency
import GlyphGrid.Proofs.Cache.Entries
import GlyphGrid.Proofs.Cache.Failures
import GlyphGrid.Proofs.Cache.Table
import GlyphGrid.Proofs.Cache.Storage
import GlyphGrid.Proofs.Cache.Balance
import GlyphGrid.Proofs.Cache.References
import GlyphGrid.Proofs.Grid.RowMajor
import GlyphGrid.Proofs.Grid.Geometry
import GlyphGrid.Proofs.Text.Clusters
import GlyphGrid.Proofs.Grid.Wrapping
import GlyphGrid.Proofs.Cell.Editing
import GlyphGrid.Proofs.Cell.Hashing
import GlyphGrid.Proofs.Font.Segments
import GlyphGrid.Proofs.Font.Partition
import GlyphGrid.Proofs.Font.Placement
import GlyphGrid.Proofs.Grid.Rendering
import GlyphGrid.Proofs.Files.Writing
import GlyphGrid.Proofs.Log.Precedence
import GlyphGrid.Proofs.Raster.Blending
import GlyphGrid.Proofs.Raster.Painting
import GlyphGrid.Proofs.Command.Worlds
import GlyphGrid.Proofs.Command.Effects
import GlyphGrid.Proofs.Text.Decoding
import GlyphGrid.Proofs.Yaml.Characters
import GlyphGrid.Proofs.Yaml.Digits
import GlyphGrid.Proofs.Yaml.Quoting
import GlyphGrid.Proofs.Yaml.Plain
import GlyphGrid.Proofs.Yaml.Block
import GlyphGrid.Proofs.Yaml.Scanning
import GlyphGrid.Proofs.Yaml.Parsing
import GlyphGrid.Proofs.Files.Paths
import GlyphGrid.Proofs.Config.RoundTrip
import GlyphGrid.Proofs.Cache.Calibration
import GlyphGrid.Proofs.Grid.Lines
import GlyphGrid.Proofs.Font.Description
import GlyphGrid.Proofs.Font.Maximality
import GlyphGrid.Proofs.Raster.Compositing
import GlyphGrid.Proofs.Raster.SourceOver
import GlyphGrid.Proofs.Text.Points
import GlyphGrid.Proofs.Text.Subparts
import GlyphGrid.Proofs.Cell.Text
import GlyphGrid.Proofs.Cache.Texts
import GlyphGrid.Proofs.Font.Selection
import GlyphGrid.Proofs.Font.Repeats
import GlyphGrid.Proofs.Raster.Pen
import GlyphGrid.Proofs.Raster.Baseline
import GlyphGrid.Proofs.Cell.Filling
import GlyphGrid.Proofs.Glyph.LastShape
import GlyphGrid.Proofs.Log.Numbers
import GlyphGrid.Proofs.Units.Conversion
import GlyphGrid.Proofs.Glyph.Measures
