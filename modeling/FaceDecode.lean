import FaceDecode.CommandLine.Options
import FaceDecode.CommandLine.Run
import FaceDecode.Decimal.Read
import FaceDecode.Decimal.Shortest
import FaceDecode.Decimal.Text
import FaceDecode.Detection.Anchors
import FaceDecode.Detection.Candidate
import FaceDecode.Detection.Pipeline
import FaceDecode.Detection.Score
import FaceDecode.Detection.Suppression
import FaceDecode.Detector.Basic
import FaceDecode.Detector.Settings
import FaceDecode.Exposure
import FaceDecode.Geometry.CenterBox
import FaceDecode.Geometry.PixelBox
import FaceDecode.Input.Folders
import FaceDecode.Input.Format
import FaceDecode.Locator.Address
import FaceDecode.Locator.Basic
import FaceDecode.Locator.Domain
import FaceDecode.Locator.Read
import FaceDecode.Log
import FaceDecode.Main
import FaceDecode.Number.Convert
import FaceDecode.Number.Exponential
import FaceDecode.Number.Fused
import FaceDecode.Number.Order
import FaceDecode.Overlay
import FaceDecode.Picture.Bmp
import FaceDecode.Picture.Bytes
import FaceDecode.Picture.Canvas
import FaceDecode.Picture.Checksum
import FaceDecode.Picture.Drawing
import FaceDecode.Picture.Farbfeld
import FaceDecode.Picture.Format
import FaceDecode.Picture.Gif
import FaceDecode.Picture.Inflate
import FaceDecode.Picture.Png.Chunk
import FaceDecode.Picture.Png.Header
import FaceDecode.Picture.Png.Read
import FaceDecode.Picture.Png.Rows
import FaceDecode.Picture.Png.Write
import FaceDecode.Picture.Pnm.Header
import FaceDecode.Picture.Pnm.Read
import FaceDecode.Picture.Qoi
import FaceDecode.Picture.Tga
import FaceDecode.Report.Basic
import FaceDecode.Report.Document
import FaceDecode.Sink.Basic
import FaceDecode.Sink.LogSink
import FaceDecode.Sink.PictureFile
import FaceDecode.Sink.RecordFolder
import FaceDecode.Sink.Session
import FaceDecode.Sink.UtcTime
import FaceDecode.Storage.Disk
import FaceDecode.Storage.Path
import FaceDecode.Task.Latency
import FaceDecode.Task.Run
import FaceDecode.Task.Stage
import FaceDecode.Tensor.Basic
import FaceDecode.Tensor.Frame
import FaceDecode.Tensor.Recognize
import FaceDecode.TensorFile.Literal
import FaceDecode.TensorFile.Npy
import FaceDecode.TensorFile.Words
import FaceDecode.Text.Digits
import FaceDecode.Text.Json
import FaceDecode.Text.Percent
import FaceDecode.Text.Punycode
import FaceDecode.Text.Utf8
import FaceDecode.Proofs.Number.Packing
import FaceDecode.Proofs.Number.Encoding
import FaceDecode.Proofs.Number.ZeroSign
import FaceDecode.Proofs.Geometry.Overlap
import FaceDecode.Proofs.Detection.Greedy
import FaceDecode.Proofs.Detection.Ranking
import FaceDecode.Proofs.Detection.Survivors
import FaceDecode.Proofs.Tensor.Places
import FaceDecode.Proofs.Tensor.Values
import FaceDecode.Proofs.Detection.Candidates
import FaceDecode.Proofs.Detection.Faces
import FaceDecode.Proofs.Detection.Threshold
import FaceDecode.Proofs.Overlay.Run
import FaceDecode.Proofs.Tensor.Filling
import FaceDecode.Proofs.Exposure.Windows
import FaceDecode.Proofs.Tensor.Recognition
import FaceDecode.Proofs.Detector.Report
import FaceDecode.Proofs.Task.Calls
import FaceDecode.Proofs.Task.Plan
import FaceDecode.Proofs.Task.Continuous
import FaceDecode.Proofs.Task.Finish
import FaceDecode.Proofs.Tensor.Building
import FaceDecode.Proofs.Detection.Bounds
import FaceDecode.Proofs.Detection.Independence
import FaceDecode.Proofs.Detector.Agreement
import FaceDecode.Proofs.Exposure.Areas
import FaceDecode.Proofs.Tensor.Writing
import FaceDecode.Proofs.Detection.Layout
import FaceDecode.Proofs.Input.Loading
import FaceDecode.Proofs.Storage.Paths
import FaceDecode.Proofs.Storage.Renaming
import FaceDecode.Proofs.Storage.Writing
import FaceDecode.Proofs.Text.Digits
import FaceDecode.Proofs.Sink.Records
import FaceDecode.Proofs.Input.Contents
import FaceDecode.Proofs.Input.Iteration
import FaceDecode.Proofs.Input.Renaming
import FaceDecode.Proofs.Task.Failures
import FaceDecode.Proofs.CommandLine.Reports
import FaceDecode.Proofs.CommandLine.Run
import FaceDecode.Proofs.Geometry.Transposition
import FaceDecode.Proofs.Exposure.Markers
import FaceDecode.Proofs.Number.Nearest
import FaceDecode.Proofs.Number.Value
import FaceDecode.Proofs.Detector.Settings
import FaceDecode.Proofs.Number.Rounding
import FaceDecode.Proofs.Number.Arithmetic
import FaceDecode.Proofs.Exposure.Weights
import FaceDecode.Proofs.Detection.Reruns
import FaceDecode.Proofs.Task.Repetition
import FaceDecode.Proofs.Number.Range
import FaceDecode.Proofs.Detection.Separation
import FaceDecode.Proofs.Detection.Anchors
import FaceDecode.Proofs.Tensor.Faults
import FaceDecode.Proofs.Tensor.Ambiguity
import FaceDecode.Proofs.Detection.Gathering
import FaceDecode.Proofs.Exposure.Reordering
import FaceDecode.Proofs.Detector.Parameters
import FaceDecode.Proofs.Picture.Painting
import FaceDecode.Proofs.Picture.Drawing
import FaceDecode.Proofs.TensorFile.Words
import FaceDecode.Proofs.Task.Average
import FaceDecode.Proofs.Storage.Growth
import FaceDecode.Proofs.Sink.LogLines
import FaceDecode.Proofs.Sink.Overwriting
import FaceDecode.Proofs.Picture.Overflow
import FaceDecode.Proofs.Detector.Drawing
