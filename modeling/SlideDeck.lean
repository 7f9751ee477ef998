import SlideDeck.Main
import SlideDeck.Proofs.Text.Trim
import SlideDeck.Proofs.Document.Rewriting
import SlideDeck.Proofs.Document.WellFormed
import SlideDeck.Proofs.Code.Respelling
import SlideDeck.Proofs.Slide.Sources
import SlideDeck.Proofs.Pipeline.Written
import SlideDeck.Proofs.Code.FigureText
import SlideDeck.Proofs.Pipeline.PhysicalLines
import SlideDeck.Proofs.Pattern.LetterCase
import SlideDeck.Proofs.Pattern.Literal
import SlideDeck.Proofs.Slide.LeadingBlock
import SlideDeck.Proofs.Slide.Content
import SlideDeck.Proofs.Pipeline.Content
import SlideDeck.Proofs.Slide.FootnoteLines
import SlideDeck.Proofs.Pipeline.Front
import SlideDeck.Proofs.Pipeline.Unforgeable
import SlideDeck.Proofs.Pipeline.Delimiters
import SlideDeck.Proofs.Slide.NestedBlocks
import SlideDeck.Proofs.Document.OpenBlock
import SlideDeck.Proofs.Pipeline.MissingEnd
import SlideDeck.Proofs.Pipeline.HeaderIndependence
import SlideDeck.Proofs.Files.Places
import SlideDeck.Proofs.Files.AllOrNothing
import SlideDeck.Proofs.Code.ChunkOptions
import SlideDeck.Proofs.Code.FigurePath
import SlideDeck.Proofs.Pipeline.ImageChunk
import SlideDeck.Proofs.Pipeline.ColumnPairs
import SlideDeck.Proofs.Pipeline.SetupRemoved
import SlideDeck.Proofs.Pipeline.TitleLine
import SlideDeck.Proofs.Pipeline.Reread
import SlideDeck.Proofs.Slide.Layouts
import SlideDeck.Proofs.Document.Counting
import SlideDeck.Proofs.Pipeline.LineAccounts
import SlideDeck.Proofs.CommandLine.Effects
import SlideDeck.Proofs.Document.Cursor
import SlideDeck.Proofs.Text.ByteOffset
import SlideDeck.Proofs.Text.Cuts
import SlideDeck.Proofs.Slide.ByIndex
import SlideDeck.Proofs.Code.ByIndex
import SlideDeck.Proofs.Pipeline.ByIndex
import SlideDeck.Proofs.Code.WrittenCalls
import SlideDeck.Proofs.Code.SeparateCalls
import SlideDeck.Proofs.Code.Parentheses
import SlideDeck.Proofs.Code.CallLeads
import SlideDeck.Proofs.Code.SecondRun
import SlideDeck.Proofs.Code.CallEdges
import SlideDeck.Proofs.Slide.NotesBySlide
import SlideDeck.Proofs.Code.ImageLinks
import SlideDeck.Proofs.Slide.FootnoteText
import SlideDeck.Proofs.Pipeline.FencedChunks
import SlideDeck.Proofs.Pipeline.WholeChunks
import SlideDeck.Proofs.Pipeline.PathSpellings
import SlideDeck.Proofs.Pattern.Anchoring
import SlideDeck.Proofs.Slide.LooseLists
import SlideDeck.Proofs.Pipeline.IncrementalLists
import SlideDeck.Proofs.Slide.KeptPauses
import SlideDeck.Proofs.Slide.MetadataForm
import SlideDeck.Proofs.Config.Build
import SlideDeck.Proofs.Document.Collecting
import SlideDeck.Proofs.Document.LineScan
import SlideDeck.Proofs.Config.SettingOrder
