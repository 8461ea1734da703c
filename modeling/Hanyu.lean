import Hanyu.Main
import Hanyu.Proofs.AbsentWords
import Hanyu.Proofs.Acceptance
import Hanyu.Proofs.Agreement
import Hanyu.Proofs.Annotation
import Hanyu.Proofs.Assembly
import Hanyu.Proofs.Attribution
import Hanyu.Proofs.Balance
import Hanyu.Proofs.Books
import Hanyu.Proofs.CandidateTables
import Hanyu.Proofs.Chunks
import Hanyu.Proofs.Closing
import Hanyu.Proofs.Cutting
import Hanyu.Proofs.DefaultStyle
import Hanyu.Proofs.Dependability
import Hanyu.Proofs.Desk
import Hanyu.Proofs.Determined
import Hanyu.Proofs.Display
import Hanyu.Proofs.Families
import Hanyu.Proofs.History
import Hanyu.Proofs.InForce
import Hanyu.Proofs.Initials
import Hanyu.Proofs.Interruption
import Hanyu.Proofs.KeyedSorting
import Hanyu.Proofs.Ledger
import Hanyu.Proofs.Lifecycle
import Hanyu.Proofs.Limits
import Hanyu.Proofs.LongestMatch
import Hanyu.Proofs.Lossless
import Hanyu.Proofs.LostEngines
import Hanyu.Proofs.NumericForm
import Hanyu.Proofs.Opening
import Hanyu.Proofs.Outcome
import Hanyu.Proofs.Overtaking
import Hanyu.Proofs.Promptness
import Hanyu.Proofs.Rearrangement
import Hanyu.Proofs.Recovery
import Hanyu.Proofs.Resolution
import Hanyu.Proofs.RoundTrip
import Hanyu.Proofs.StoredReadings
import Hanyu.Proofs.TableRows
import Hanyu.Proofs.ToneStyles
import Hanyu.Proofs.UnknownLanguages
import Hanyu.Proofs.Weaving
