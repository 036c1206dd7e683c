import DeckPress.Attempt
import DeckPress.Compiler
import DeckPress.Conversation
import DeckPress.Deck
import DeckPress.Deck.Need
import DeckPress.Deck.Printer
import DeckPress.Deck.Reader
import DeckPress.Deck.Schema
import DeckPress.Drawing
import DeckPress.Drawing.Reader
import DeckPress.Failure
import DeckPress.Geometry
import DeckPress.Geometry.Reader
import DeckPress.Image
import DeckPress.Image.Search
import DeckPress.Json.Body
import DeckPress.Json.Machine
import DeckPress.Json.Obstacle
import DeckPress.Json.Printer
import DeckPress.Json.Quotation
import DeckPress.Json.Reply
import DeckPress.Layout
import DeckPress.Length
import DeckPress.Moment
import DeckPress.Number.Format
import DeckPress.Number.Numeral
import DeckPress.Page
import DeckPress.Page.Element
import DeckPress.Page.Session
import DeckPress.Picture
import DeckPress.Pipeline
import DeckPress.Presentation
import DeckPress.Presentation.Color
import DeckPress.Presentation.Lines
import DeckPress.Quantity
import DeckPress.Rehearsal
import DeckPress.Scalar
import DeckPress.Service
import DeckPress.Settings
import DeckPress.Settings.LogLevel
import DeckPress.Text.Capital
import DeckPress.Text.Digit
import DeckPress.Text.Display
import DeckPress.Text.Escape
import DeckPress.Text.Quoted
import DeckPress.Theme
import DeckPress.Topic
import DeckPress.Validation
import DeckPress.Validation.Atom
import DeckPress.Validation.Field
import DeckPress.Workbench
import DeckPress.Validation.Integer
import DeckPress.Text.Decoded
import DeckPress.Picture.Bytes
import DeckPress.Picture.Checksum
import DeckPress.Picture.Inflate
import DeckPress.Picture.Png
import DeckPress.Picture.Gif
import DeckPress.Picture.Bitmap
import DeckPress.Picture.Reader
import DeckPress.Picture.Anymap
import DeckPress.Picture.Tiff
import DeckPress.Number.Hexadecimal
import DeckPress.Picture.Words
import DeckPress.Picture.FixedHead
import DeckPress.Picture.Texture
import DeckPress.Picture.Icon
import DeckPress.Picture.TextHead
import DeckPress.Picture.Postscript
import DeckPress.Picture.Fits
import DeckPress.Picture.Film
import DeckPress.Picture.Layered
import DeckPress.Picture.Wavelet
import DeckPress.Picture.Wire
import DeckPress.Picture.Spider
import DeckPress.Picture.Metafile
import DeckPress.Picture.Webp
import DeckPress.Picture.Tags
import DeckPress.Picture.Jpeg
import DeckPress.Picture.PhotoIndex
import DeckPress.Picture.Avif
import DeckPress.Proofs.Attempt
import DeckPress.Proofs.EscapedText
import DeckPress.Proofs.LayoutRegions
import DeckPress.Proofs.Assembly
import DeckPress.Proofs.Compilation
import DeckPress.Proofs.SlideContents
import DeckPress.Proofs.PresentationRun
import DeckPress.Proofs.TextFidelity
import DeckPress.Proofs.PageActions
import DeckPress.Proofs.Download
import DeckPress.Proofs.VersionPath
import DeckPress.Proofs.SearchAnswers
import DeckPress.Proofs.Doubles
import DeckPress.Proofs.Obstacles
import DeckPress.Proofs.AcceptedDecks
import DeckPress.Proofs.RoomyCanvas
import DeckPress.Proofs.CanvasChoice
import DeckPress.Proofs.DrawnParts
import DeckPress.Proofs.MissingPictures
import DeckPress.Proofs.FittedBoxes
import DeckPress.Proofs.WritableDecks
import DeckPress.Proofs.Rounds
import DeckPress.Proofs.Wishes
import DeckPress.Proofs.CompilationOutcome
import DeckPress.Proofs.SideBySide
import DeckPress.Proofs.StrictMode
import DeckPress.Proofs.Transcripts
import DeckPress.Proofs.TakenAddresses
import DeckPress.Proofs.ExactGeometry
import DeckPress.Proofs.OnCanvas
import DeckPress.Proofs.PictureSources
import DeckPress.Proofs.AskedRequests
import DeckPress.Proofs.SessionLog
import DeckPress.Proofs.CanonicalLengths
import DeckPress.Proofs.NumberTexts
import DeckPress.Proofs.PrintedJson
import DeckPress.Proofs.Replies
import DeckPress.Proofs.EditedCopies
import DeckPress.Proofs.SlideLayers
import DeckPress.Proofs.DividedBounds
import DeckPress.Proofs.NearestPlaces
import DeckPress.Proofs.KeptApart
import DeckPress.Proofs.Neighbours
import DeckPress.Proofs.Rounding
import DeckPress.Proofs.FiniteDoubles
import DeckPress.Proofs.RoundedLayouts
import DeckPress.Proofs.CanvasLimits
import DeckPress.Proofs.RefusedSlides
import DeckPress.Proofs.ThemedSlides
import DeckPress.Proofs.PictureOutcomes
import DeckPress.Proofs.SlideModels
import DeckPress.Proofs.FirstMisfit
import DeckPress.Proofs.EscapedForms
import DeckPress.Proofs.DocumentLines
import DeckPress.Proofs.Proportions
import DeckPress.Proofs.RequestOutcomes
import DeckPress.Proofs.Words
import DeckPress.Proofs.SearchQueries
import DeckPress.Proofs.StableTopics
import DeckPress.Proofs.ContentPairs
import DeckPress.Proofs.PaddedValues
import DeckPress.Proofs.FileNames
import DeckPress.Proofs.ShareTexts
import DeckPress.Proofs.AcceptedLengths
