import Termkit.Files.Disk
import Termkit.Files.Table
import Termkit.Listing.Sort
import Termkit.Markup.Render
import Termkit.Style.Document
import Termkit.Text.Degrade
import Termkit.Proofs.Files.CallOrder
import Termkit.Proofs.Files.DiskSearch
import Termkit.Proofs.Files.Failures
import Termkit.Proofs.Files.Skipping
import Termkit.Proofs.Files.Spelling
import Termkit.Proofs.Files.Targets
import Termkit.Proofs.Files.Trails
import Termkit.Proofs.Files.TreeSearch
import Termkit.Proofs.Listing.NameOrder
import Termkit.Proofs.Listing.RepeatedSorting
import Termkit.Proofs.Markup.Cleaning
import Termkit.Proofs.Markup.Degrading
import Termkit.Proofs.Markup.Escaping
import Termkit.Proofs.Markup.Generated
import Termkit.Proofs.Markup.Nesting
import Termkit.Proofs.Markup.Passes
import Termkit.Proofs.Markup.PlainLaws
import Termkit.Proofs.Markup.PlainText
import Termkit.Proofs.Markup.Shades
import Termkit.Proofs.Markup.VisibleTags
import Termkit.Proofs.Style.History
import Termkit.Proofs.Style.JsonLoading
import Termkit.Proofs.Style.NumberLoading
import Termkit.Proofs.Style.YamlLoading
import Termkit.Proofs.Files.Resolution
import Termkit.Proofs.Files.DiskSearch
