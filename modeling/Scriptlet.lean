import Scriptlet.CommandLine
import Scriptlet.Main
import Scriptlet.Tree.Outline
import Scriptlet.Proofs.Grammar.Recognition
import Scriptlet.Proofs.Safety.Accepted
import Scriptlet.Proofs.Scope.Static
import Scriptlet.Proofs.Lexical.Cut
import Scriptlet.Proofs.Session.Outcome
import Scriptlet.Proofs.Lexical.Stretch
import Scriptlet.Proofs.Grammar.Inversion
import Scriptlet.Proofs.Grammar.Mapped
import Scriptlet.Proofs.Span.Children
import Scriptlet.Proofs.Span.Owned
import Scriptlet.Proofs.Number.ReadBack
import Scriptlet.Proofs.Number.Numeral
import Scriptlet.Proofs.Number.Sign
import Scriptlet.Proofs.Written
import Scriptlet.Proofs.Grammar.FirstError
import Scriptlet.Proofs.Session.Positions
import Scriptlet.Proofs.Layout.Counterparts
import Scriptlet.Proofs.Session.Sequence
import Scriptlet.Proofs.Session.Truncation
import Scriptlet.Proofs.CommandLine.Modes
import Scriptlet.Proofs.Session.Bound
import Scriptlet.Proofs.Scope.Shallow
import Scriptlet.Proofs.Groupings
import Scriptlet.Proofs.Connectives
import Scriptlet.Proofs.Scope.Frame
import Scriptlet.Proofs.Scope.Mentioned
import Scriptlet.Proofs.Scope.Transparent
import Scriptlet.Proofs.Scope.Renaming
import Scriptlet.Proofs.Scope.Shifting
import Scriptlet.Proofs.Rounds
import Scriptlet.Proofs.Lexical.Respaced
import Scriptlet.Proofs.Grammar.Continued
import Scriptlet.Proofs.Printed.Form
import Scriptlet.Proofs.Printed.Legible
import Scriptlet.Proofs.Printed.Reading
import Scriptlet.Proofs.Printed.Identity
import Scriptlet.Proofs.Lexical.Between
import Scriptlet.Proofs.Comparisons
import Scriptlet.Proofs.Session.Excerpts
import Scriptlet.Proofs.Displayed
import Scriptlet.Proofs.Cursor.Confined
