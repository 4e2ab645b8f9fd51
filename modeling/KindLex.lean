import KindLex.Folder
import KindLex.Main
import KindLex.Scanner.Log
import KindLex.Sink
import KindLex.Proofs.Lexeme.Cut
import KindLex.Proofs.Scanner.Passage
import KindLex.Proofs.Lexeme.Grammar
import KindLex.Proofs.Scanner.Reachable
import KindLex.Proofs.LongestMatch
import KindLex.Proofs.Tiling
import KindLex.Proofs.LineLaw
import KindLex.Proofs.Binary64.Nearest
import KindLex.Proofs.Classification
import KindLex.Proofs.Lexeme.Context
import KindLex.Proofs.Scanner.Scans
import KindLex.Proofs.Appending
import KindLex.Proofs.Restart
import KindLex.Proofs.Layout
import KindLex.Proofs.Text.Lines
import KindLex.Proofs.SourceLines
import KindLex.Proofs.WholeWords
import KindLex.Proofs.Prompt
import KindLex.Proofs.Log
import KindLex.Proofs.Requests
import KindLex.Proofs.BareFeeds
import KindLex.Proofs.Numbers
import KindLex.Proofs.Slices
import KindLex.Proofs.Progress
import KindLex.Proofs.Decimal
import KindLex.Proofs.Binary64.Shortest
import KindLex.Proofs.RealText
import KindLex.Proofs.Reader
import KindLex.Proofs.Table
import KindLex.Proofs.Text.LineEnds
import KindLex.Proofs.Sink
import KindLex.Proofs.Diagnostic
import KindLex.Proofs.CommandLine
