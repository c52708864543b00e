import PhotoGallery.Main
import PhotoGallery.Manifest.Reading
import PhotoGallery.Proofs.Session.Blocks
import PhotoGallery.Proofs.Session.Detached
import PhotoGallery.Proofs.Gallery.DepthFirst
import PhotoGallery.Proofs.Text.ByteOrder
import PhotoGallery.Proofs.Session.Verdict
import PhotoGallery.Proofs.Loading
import PhotoGallery.Proofs.Line.Field
import PhotoGallery.Proofs.Line.Layout
import PhotoGallery.Proofs.Text.Trim
import PhotoGallery.Proofs.Line.RoundTrip
import PhotoGallery.Proofs.Gallery.Navigation
import PhotoGallery.Proofs.Manifest.Content
import PhotoGallery.Proofs.Manifest.Determination
import PhotoGallery.Proofs.Gallery.Headers
import PhotoGallery.Proofs.Json.Quoted
import PhotoGallery.Proofs.Json.ReadBack
import PhotoGallery.Proofs.Manifest.RoundTrip
import PhotoGallery.Proofs.Text.Lines
import PhotoGallery.Proofs.Session.Composition
import PhotoGallery.Proofs.Text.Encoding
import PhotoGallery.Proofs.Text.Spacing
import PhotoGallery.Proofs.Session.Spacing
import PhotoGallery.Proofs.Dir.Names
import PhotoGallery.Proofs.Session.Naming
import PhotoGallery.Proofs.Toml.Table
import PhotoGallery.Proofs.Config.Layers
import PhotoGallery.Proofs.Session.Timeline
import PhotoGallery.Proofs.Session.Handles
import PhotoGallery.Proofs.Session.Changes
import PhotoGallery.Proofs.Gallery.Tree
import PhotoGallery.Proofs.Dir.Respelling
import PhotoGallery.Proofs.Session.Refusal
import PhotoGallery.Proofs.Line.Pieces
import PhotoGallery.Proofs.Line.Faults
import PhotoGallery.Proofs.Dir.Normal
import PhotoGallery.Proofs.Toml.KeyPath
import PhotoGallery.Proofs.Toml.Grouping
import PhotoGallery.Proofs.Toml.Reading
import PhotoGallery.Proofs.Toml.Datetime
