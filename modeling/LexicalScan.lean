import LexicalScan.Text.Basic
import LexicalScan.Text.Line
import LexicalScan.Text.CodeRange
import LexicalScan.Text.Space
import LexicalScan.Text.DefaultIgnorable
import LexicalScan.Text.ExtendingMark
import LexicalScan.Text.Unprintable
import LexicalScan.Text.Quoted
import LexicalScan.Position
import LexicalScan.Lexeme
import LexicalScan.Cursor.Basic
import LexicalScan.Session
import LexicalScan.Cursor.Command
import LexicalScan.Delimiters
import LexicalScan.Vocabulary
import LexicalScan.Grammar
import LexicalScan.Issue
import LexicalScan.Step
import LexicalScan.Scan
import LexicalScan.Token
import LexicalScan.Lexer.Basic
import LexicalScan.Lexer.Command
import LexicalScan.Trace
import LexicalScan.Options
import LexicalScan.ReadFailure
import LexicalScan.Program
import LexicalScan.Main
import LexicalScan.Proofs.Occurrence
import LexicalScan.Proofs.LongestMatch
import LexicalScan.Proofs.Segmentation
import LexicalScan.Proofs.Passage
import LexicalScan.Proofs.StepSegment
import LexicalScan.Proofs.Pieces
import LexicalScan.Proofs.Coverage
import LexicalScan.Proofs.Positions
import LexicalScan.Proofs.Restart
import LexicalScan.Proofs.Lines
import LexicalScan.Proofs.Comments
import LexicalScan.Proofs.NormalForm
import LexicalScan.Proofs.Reach
import LexicalScan.Proofs.Issues
import LexicalScan.Proofs.Literals
import LexicalScan.Proofs.Kinds
import LexicalScan.Proofs.Walking
import LexicalScan.Proofs.ByteMatching
import LexicalScan.Proofs.Candidates
import LexicalScan.Proofs.Progress
import LexicalScan.Proofs.Reading
import LexicalScan.Proofs.WordSets
import LexicalScan.Proofs.Settings
import LexicalScan.Proofs.Languages
import LexicalScan.Proofs.Tracing
import LexicalScan.Proofs.CommentBodies
import LexicalScan.Proofs.Printing
import LexicalScan.Proofs.Arguments
import LexicalScan.Proofs.Rendering
import LexicalScan.Proofs.Output
