import GerberMask.Files.Folder
import GerberMask.Main
import GerberMask.Proofs.Board.Hull
import GerberMask.Proofs.Board.SharedFrame
import GerberMask.Proofs.Gerber.Actions
import GerberMask.Proofs.Gerber.ApertureFaults
import GerberMask.Proofs.Gerber.ArcCenters
import GerberMask.Proofs.Gerber.ArcSweeps
import GerberMask.Proofs.Gerber.BlockSpellings
import GerberMask.Proofs.Gerber.CommentBlocks
import GerberMask.Proofs.Gerber.ConvertedParameters
import GerberMask.Proofs.Gerber.CoordinateValues
import GerberMask.Proofs.Gerber.DrawWarnings
import GerberMask.Proofs.Gerber.DrawnOutlines
import GerberMask.Proofs.Gerber.EarlyBinding
import GerberMask.Proofs.Gerber.FiniteCoordinates
import GerberMask.Proofs.Gerber.FlashPolarity
import GerberMask.Proofs.Gerber.InertCommands
import GerberMask.Proofs.Gerber.LineFields
import GerberMask.Proofs.Gerber.MacroExpansion
import GerberMask.Proofs.Gerber.MacroLines
import GerberMask.Proofs.Gerber.Moments
import GerberMask.Proofs.Gerber.Notations
import GerberMask.Proofs.Gerber.OwnedParts
import GerberMask.Proofs.Gerber.PolarityBlindness
import GerberMask.Proofs.Gerber.RegionContours
import GerberMask.Proofs.Gerber.RepeatedOperations
import GerberMask.Proofs.Gerber.SelectableApertures
import GerberMask.Proofs.Gerber.StartingExtent
import GerberMask.Proofs.Gerber.WrittenCoordinates
import GerberMask.Proofs.Gerber.WrittenTokens
import GerberMask.Proofs.Number.ExactValues
import GerberMask.Proofs.Raster.CorrectedFrames
import GerberMask.Proofs.Raster.DecoderSizes
import GerberMask.Proofs.Raster.ExposureMask
import GerberMask.Proofs.Raster.FillLibrary
import GerberMask.Proofs.Raster.PaintableItems
import GerberMask.Proofs.Raster.PaintingOrder
import GerberMask.Proofs.Raster.RoundTrip
import GerberMask.Proofs.Raster.ShortestCode
import GerberMask.Proofs.Settings.SavedConfigs
import GerberMask.Proofs.Settings.ValidConfigs
