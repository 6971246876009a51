import Gleaner.Capture
import Gleaner.Crawl.Browser
import Gleaner.Crawl.Cache
import Gleaner.Crawl.Visit
import Gleaner.Main
import Gleaner.Note.Call
import Gleaner.Proofs.Article.Saving
import Gleaner.Proofs.Crawl.CacheMap
import Gleaner.Proofs.Crawl.TwoCounts
import Gleaner.Proofs.Crawl.Windows
import Gleaner.Proofs.Episode.Documents
import Gleaner.Proofs.Episode.Isolation
import Gleaner.Proofs.Episode.Numbering
import Gleaner.Proofs.Film.Completed
import Gleaner.Proofs.Film.Inquiries
import Gleaner.Proofs.Film.ReadOnce
import Gleaner.Proofs.Film.Reported
import Gleaner.Proofs.Film.Update
import Gleaner.Proofs.Screenplay.KeptLines
import Gleaner.Proofs.Screenplay.Locality
import Gleaner.Proofs.Screenplay.Reading
import Gleaner.Proofs.Screenplay.TagFree
import Gleaner.Proofs.Screenplay.NormalForm
import Gleaner.Proofs.Episode.Transcribed
import Gleaner.Proofs.Film.WholePages
import Gleaner.Proofs.Film.FirstBest
import Gleaner.Proofs.Episode.TitleLines
import Gleaner.Proofs.Screenplay.Escaped
import Gleaner.Proofs.Screenplay.ShownPage
import Gleaner.Proofs.Film.RelatedLinks
import Gleaner.Proofs.Film.ChartLinks
import Gleaner.Proofs.Article.NameLength
import Gleaner.Proofs.Episode.Slots
import Gleaner.Proofs.Episode.Pauses
import Gleaner.Proofs.Note.Replies
