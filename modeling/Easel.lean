import Easel.Main
import Easel.Program
import Easel.Proofs.Command.Numeral
import Easel.Proofs.Command.Reading
import Easel.Proofs.Command.Token
import Easel.Proofs.Keyword
import Easel.Proofs.Name
import Easel.Proofs.Command.Language
import Easel.Proofs.Recorder
import Easel.Proofs.Run
import Easel.Proofs.Canvas
import Easel.Proofs.Drawing
import Easel.Proofs.Disk
import Easel.Proofs.Request
import Easel.Proofs.Publication
import Easel.Proofs.Frame
import Easel.Proofs.Eviction
import Easel.Proofs.Clients
import Easel.Proofs.Digits
import Easel.Proofs.Interruption
import Easel.Proofs.Item
import Easel.Proofs.Command.Fault
import Easel.Proofs.Command.Order
import Easel.Proofs.Command.Report
import Easel.Proofs.Normal
import Easel.Proofs.Coloring
import Easel.Proofs.Entry
import Easel.Proofs.Writing
import Easel.Proofs.Mishap
import Easel.Proofs.Command.Layout
import Easel.Proofs.Staging
import Easel.Proofs.Logging
import Easel.Proofs.Legible
import Easel.Proofs.Account
import Easel.Proofs.CommandLine
import Easel.Proofs.Overriding
import Easel.Proofs.Command.Guarded
import Easel.Proofs.Command.Register
import Easel.Proofs.Command.Spacing
import Easel.Proofs.Command.Scanner
